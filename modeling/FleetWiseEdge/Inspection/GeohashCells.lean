import FleetWiseEdge.Lib.Bisection
import FleetWiseEdge.Inspection.Lemmas.Geohash

/-!
This module contains the cells of geohashes over the rational numbers: a geohash names the cell that its point
is in, and a longer one a part of it.
-/

namespace DataInspection

open Cpp DataManagement Bisection

structure Position where
  lat : Rat
  lon : Rat
  lat_ge : -90 ≤ lat
  lat_le : lat ≤ 90
  lon_ge : -180 ≤ lon
  lon_le : lon ≤ 180

namespace Geohash

def lonRange : Interval (180 : Rat) := ⟨-180, 180, by norm_num, le_refl _⟩

def latRange : Interval (90 : Rat) := ⟨-90, 90, by norm_num, le_refl _⟩

def charBits (c : Char) : Option (List Bool) :=
  (base32Map.idxOf? c).map fun n => [n.testBit 4, n.testBit 3, n.testBit 2, n.testBit 1, n.testBit 0]

def decodeCell (hash : String) : Option (Interval (180 : Rat) × Interval (90 : Rat)) := do
  let bits ← hash.toList.mapM charBits
  return box bits.flatten lonRange latRange

end Geohash

/--
A point is in a cell if it is in its half-open box, which is closed at the upper end of a range only.
-/
def Position.In (position : Position) (cell : Interval (180 : Rat) × Interval (90 : Rat)) : Prop :=
  cell.1.Contains position.lon ∧ cell.2.Contains position.lat

namespace Geohash

section Halve

variable {lat lon : Rat} {top top' : Rat} {I : Interval top} {J : Interval top'} {x y : Rat}

def Shows (lat lon : Rat) (cell : Cell Rat) (I : Interval top) (J : Interval top') (x y : Rat) : Prop :=
  if cell.isLonBit then
    (x = lon ∧ cell.lonLow = I.low ∧ cell.lonHigh = I.high)
      ∧ y = lat ∧ cell.latLow = J.low ∧ cell.latHigh = J.high
  else
    (x = lat ∧ cell.latLow = I.low ∧ cell.latHigh = I.high)
      ∧ y = lon ∧ cell.lonLow = J.low ∧ cell.lonHigh = J.high

theorem mid_eq {low high : Rat} (hlow : low = I.low) (hhigh : high = I.high) : mid low high = I.mid := by
  rw [hlow, hhigh]
  rfl

theorem le_mid_eq : InspectionValue.le I.mid x = I.side x := rfl

theorem shows_halve {cell : Cell Rat} (h : Shows lat lon cell I J x y)
    : Shows lat lon (cell.halve lat lon) J (I.half (I.side x)) y x
        ∧
      (cell.halve lat lon).hashBits = u64 (cell.hashBits * 2) + (I.side x).toNat := by
  unfold Shows at h
  cases haxis : cell.isLonBit with
  | true =>
    rw [if_pos haxis] at h
    obtain ⟨⟨rfl, hlow, hhigh⟩, hother⟩ := h
    unfold Cell.halve
    dsimp only
    rw [if_pos haxis, mid_eq hlow hhigh, le_mid_eq]
    unfold Shows Interval.half
    cases I.side x with
    | true => simp [haxis, hother, hhigh]
    | false => simp [haxis, hother, hlow]
  | false =>
    rw [if_neg (by rw [haxis]; exact Bool.false_ne_true)] at h
    obtain ⟨⟨rfl, hlow, hhigh⟩, hother⟩ := h
    unfold Cell.halve
    dsimp only
    rw [if_neg (by rw [haxis]; exact Bool.false_ne_true), mid_eq hlow hhigh, le_mid_eq]
    unfold Shows Interval.half
    cases I.side x with
    | true => simp [haxis, hother, hhigh]
    | false => simp [haxis, hother, hlow]

theorem hashBits_iterate {cell : Cell Rat} {n : Nat} (h : Shows lat lon cell I J x y)
    (hfit : cell.hashBits * 2 ^ n + 2 ^ n ≤ 2 ^ 64)
    : ((Cell.halve lat lon)^[n] cell).hashBits = cell.hashBits * 2 ^ n + value (address n I J x y) := by
  induction n generalizing top top' cell x y with
  | zero => simp [address, value]
  | succ n ih =>
    obtain ⟨hshows, hbits⟩ := shows_halve h
    have hside : (I.side x).toNat ≤ 1 := Bool.toNat_le _
    have hpow : 2 ^ (n + 1) = 2 * 2 ^ n := by rw [pow_succ, Nat.mul_comm]
    have hbits : (cell.halve lat lon).hashBits = cell.hashBits * 2 + (I.side x).toNat := by
      rw [hbits, u64_of_lt]
      have := Nat.one_le_two_pow (n := n)
      nlinarith
    rw [Function.iterate_succ_apply, ih hshows]
    . rw [hbits, address, value, length_address, hpow]
      ring
    . rw [hbits]
      rw [hpow] at hfit
      nlinarith [Nat.one_le_two_pow (n := n)]

end Halve

end Geohash

namespace Position

variable (position : Position)

def bits (precision : Nat) : List Bool :=
  address (precision * Geohash.BASE32_BITS) Geohash.lonRange Geohash.latRange position.lon position.lat

theorem length_bits (precision : Nat) : (position.bits precision).length = precision * Geohash.BASE32_BITS :=
  length_address

theorem take_bits {precision precision' : Nat} (hle : precision ≤ precision')
    : (position.bits precision').take (precision * Geohash.BASE32_BITS) = position.bits precision :=
  take_address (Nat.mul_le_mul_right _ hle)

theorem valid {precision : Nat} (hle : precision ≤ Geohash.MAX_PRECISION)
    : Geohash.invalidInput position.lat position.lon precision = false := by
  have hlatMin : (Geohash.LAT_MIN : Rat) = -90 := by
    change (0 : Rat) - 90 = -90
    norm_num
  have hlonMin : (Geohash.LON_MIN : Rat) = -180 := by
    change (0 : Rat) - 180 = -180
    norm_num
  have hlt : ∀ a b : Rat, b ≤ a → InspectionValue.lt a b = false :=
    fun a b hle => decide_eq_false (not_lt.mpr hle)
  unfold Geohash.invalidInput
  rw [hlatMin, hlonMin, hlt _ _ position.lat_ge, hlt _ _ position.lon_ge]
  rw [hlt (Geohash.LAT_MAX) _ position.lat_le, hlt (Geohash.LON_MAX) _ position.lon_le]
  simpa using hle

theorem shows_world
    : Geohash.Shows position.lat position.lon Geohash.Cell.world Geohash.lonRange Geohash.latRange
        position.lon position.lat := by
  have haxis : (Geohash.Cell.world (V := Rat)).isLonBit = true := rfl
  unfold Geohash.Shows
  rw [if_pos haxis]
  refine ⟨⟨rfl, ?_, rfl⟩, rfl, ?_, rfl⟩
  . change (0 : Rat) - 180 = -180
    norm_num
  . change (0 : Rat) - 90 = -90
    norm_num

theorem encodeBits_eq {precision : Nat} (hle : precision ≤ Geohash.MAX_PRECISION)
    : Geohash.encodeBits position.lat position.lon precision = some (value (position.bits precision)) := by
  have hfit : 2 ^ (precision * Geohash.BASE32_BITS) ≤ 2 ^ 64 := by
    apply Nat.pow_le_pow_right (by decide)
    unfold Geohash.MAX_PRECISION at hle
    unfold Geohash.BASE32_BITS
    omega
  unfold Geohash.encodeBits
  rw [position.valid hle, Geohash.hashBits_iterate position.shows_world]
  . rw [show (Geohash.Cell.world (V := Rat)).hashBits = 0 from rfl, Nat.zero_mul, Nat.zero_add]
    rfl
  . rw [show (Geohash.Cell.world (V := Rat)).hashBits = 0 from rfl, Nat.zero_mul, Nat.zero_add]
    exact hfit

end Position

namespace Geohash

def symbol (group : List Bool) : Char := base32Map.getD (value group) '0'

theorem charBits_symbol {group : List Bool} (h : group.length = BASE32_BITS)
    : charBits (symbol group) = some group := by
  have hall : ∀ b4 b3 b2 b1 b0 : Bool,
      charBits (symbol [b4, b3, b2, b1, b0]) = some [b4, b3, b2, b1, b0] := by
    decide
  match group, h with
  | [b4, b3, b2, b1, b0], _ => exact hall b4 b3 b2 b1 b0

def groups (precision : Nat) (bits : List Bool) : List (List Bool) :=
  (List.range precision).map fun i => (bits.drop (i * BASE32_BITS)).take BASE32_BITS

variable {precision : Nat} {bits : List Bool}

theorem length_of_mem_groups (hlength : bits.length = precision * BASE32_BITS) {group : List Bool}
    (h : group ∈ groups precision bits)
    : group.length = BASE32_BITS := by
  unfold groups at h
  obtain ⟨i, hi, rfl⟩ := List.mem_map.mp h
  rw [List.mem_range] at hi
  rw [List.length_take, List.length_drop, hlength]
  unfold BASE32_BITS
  omega

theorem flatten_groups (hlength : bits.length = precision * BASE32_BITS)
    : (groups precision bits).flatten = bits := by
  have hshort : ∀ n, (groups n bits).flatten = bits.take (n * BASE32_BITS) := by
    intro n
    induction n with
    | zero => simp [groups]
    | succ n ih =>
      unfold groups at ih ⊢
      rw [List.range_succ, List.map_append, List.flatten_append, ih]
      rw [Nat.succ_mul, List.take_add]
      simp
  rw [hshort, ← hlength, List.take_length]

theorem group_eq (hlength : bits.length = precision * BASE32_BITS) {i : Nat} (hi : i < precision)
    : (value bits >>> ((precision - 1 - i) * BASE32_BITS)) &&& 0x1F
        =
      value ((bits.drop (i * BASE32_BITS)).take BASE32_BITS) := by
  have hsplit : bits = bits.take (i * BASE32_BITS) ++ (bits.drop (i * BASE32_BITS)).take BASE32_BITS
      ++ bits.drop ((i + 1) * BASE32_BITS) := by
    rw [List.append_assoc, Nat.succ_mul, ← List.drop_drop, List.take_append_drop, List.take_append_drop]
  have hrest : (bits.drop ((i + 1) * BASE32_BITS)).length = (precision - 1 - i) * BASE32_BITS := by
    rw [List.length_drop, hlength]
    unfold BASE32_BITS
    omega
  have hgroup : ((bits.drop (i * BASE32_BITS)).take BASE32_BITS).length = 5 := by
    rw [List.length_take, List.length_drop, hlength]
    unfold BASE32_BITS
    omega
  have hvalue := value_group (bits.take (i * BASE32_BITS)) ((bits.drop (i * BASE32_BITS)).take BASE32_BITS)
    (bits.drop ((i + 1) * BASE32_BITS))
  rw [← hsplit, hrest, hgroup] at hvalue
  exact hvalue

def hashOf (precision : Nat) (bits : List Bool) : String :=
  String.ofList ((groups precision bits).map symbol)

theorem length_hashOf : (hashOf precision bits).length = precision := by
  simp [hashOf, groups]

theorem encode_eq (position : Position) (hle : precision ≤ MAX_PRECISION)
    : encode position.lat position.lon precision = some (hashOf precision (position.bits precision)) := by
  unfold encode
  rw [position.encodeBits_eq hle]
  simp only [Option.bind_eq_bind, Option.bind_some]
  unfold hashOf groups
  rw [List.map_map]
  apply congrArg (fun chars => some (String.ofList chars))
  apply List.map_congr_left
  intro i hi
  rw [List.mem_range] at hi
  rw [group_eq (position.length_bits precision) hi]
  rfl

theorem mapM_charBits_groups (hlength : bits.length = precision * BASE32_BITS)
    : (hashOf precision bits).toList.mapM charBits = some (groups precision bits) := by
  have hgroups (group : List Bool) (hmem : group ∈ groups precision bits) : group.length = BASE32_BITS :=
    length_of_mem_groups hlength hmem
  unfold hashOf
  rw [String.toList_ofList]
  generalize groups precision bits = gs at hgroups
  induction gs with
  | nil => rfl
  | cons group gs ih =>
    rw [List.map_cons, List.mapM_cons, charBits_symbol (hgroups group (by simp))]
    rw [ih fun g hg => hgroups g (by simp [hg])]
    rfl

theorem decodeCell_hashOf (hlength : bits.length = precision * BASE32_BITS)
    : decodeCell (hashOf precision bits) = some (box bits lonRange latRange) := by
  unfold decodeCell
  rw [mapM_charBits_groups hlength]
  simp only [Option.bind_eq_bind, Option.bind_some, flatten_groups hlength]
  rfl

theorem length_of_mapM_charBits {chars : List Char} {gs : List (List Bool)} (h : chars.mapM charBits = some gs)
    : gs.flatten.length = chars.length * BASE32_BITS := by
  induction chars generalizing gs with
  | nil =>
    rw [List.mapM_nil] at h
    rw [← Option.some_inj.mp h]
    simp
  | cons c chars ih =>
    rw [List.mapM_cons] at h
    simp only [Option.bind_eq_bind, Option.bind_eq_some_iff] at h
    obtain ⟨group, hgroup, rest, hrest, heq⟩ := h
    unfold charBits at hgroup
    obtain ⟨n, _, hn⟩ := Option.map_eq_some_iff.mp hgroup
    rw [← Option.some_inj.mp heq, List.flatten_cons, List.length_append, ih hrest, ← hn, List.length_cons]
    unfold BASE32_BITS
    simp
    omega

end Geohash

theorem Position.in_world (position : Position)
    : Geohash.lonRange.Contains position.lon ∧ Geohash.latRange.Contains position.lat := by
  constructor
  . refine ⟨position.lon_ge, ?_⟩
    cases lt_or_eq_of_le position.lon_le with
    | inl hlt => exact Or.inl hlt
    | inr heq => exact Or.inr ⟨heq, rfl⟩
  . refine ⟨position.lat_ge, ?_⟩
    cases lt_or_eq_of_le position.lat_le with
    | inl hlt => exact Or.inl hlt
    | inr heq => exact Or.inr ⟨heq, rfl⟩

theorem Position.in_box_iff (position : Position) {precision : Nat} {bits : List Bool}
    (hlength : bits.length = precision * Geohash.BASE32_BITS)
    : position.In (box bits Geohash.lonRange Geohash.latRange) ↔ bits = position.bits precision := by
  unfold Position.In
  rw [box_contains_iff, hlength]
  exact ⟨fun h => h.2.2, fun h => ⟨position.in_world.1, position.in_world.2, h⟩⟩

def IsCell (precision : Nat) (cell : Interval (180 : Rat) × Interval (90 : Rat)) : Prop :=
  ∃ hash, hash.length = precision ∧ Geohash.decodeCell hash = some cell

theorem IsCell.exists_bits {precision : Nat} {cell : Interval (180 : Rat) × Interval (90 : Rat)}
    (h : IsCell precision cell)
    : ∃ bits, bits.length = precision * Geohash.BASE32_BITS
        ∧ cell = box bits Geohash.lonRange Geohash.latRange := by
  obtain ⟨hash, hlength, hdecode⟩ := h
  unfold Geohash.decodeCell at hdecode
  simp only [Option.bind_eq_bind, Option.bind_eq_some_iff] at hdecode
  obtain ⟨gs, hgs, heq⟩ := hdecode
  refine ⟨gs.flatten, ?_, (Option.some_inj.mp heq).symm⟩
  rw [Geohash.length_of_mapM_charBits hgs, String.length_toList, hlength]

theorem same_bits_iff (a b : Position) (precision : Nat)
    : a.bits precision = b.bits precision ↔ ∃ cell, IsCell precision cell ∧ a.In cell ∧ b.In cell := by
  constructor
  . intro heq
    have hlength := a.length_bits precision
    refine ⟨box (a.bits precision) Geohash.lonRange Geohash.latRange, ?_, ?_, ?_⟩
    . exact ⟨_, Geohash.length_hashOf, Geohash.decodeCell_hashOf hlength⟩
    . rw [a.in_box_iff hlength]
    . rw [b.in_box_iff hlength]
      exact heq
  . intro ⟨cell, hcell, ha, hb⟩
    obtain ⟨bits, hlength, rfl⟩ := hcell.exists_bits
    rw [← (a.in_box_iff hlength).mp ha]
    exact (b.in_box_iff hlength).mp hb

theorem hashOf_inj (a b : Position) (precision : Nat)
    : Geohash.hashOf precision (a.bits precision) = Geohash.hashOf precision (b.bits precision)
        ↔
      a.bits precision = b.bits precision := by
  constructor
  . intro heq
    have ha := Geohash.mapM_charBits_groups (a.length_bits precision)
    have hb := Geohash.mapM_charBits_groups (b.length_bits precision)
    rw [heq, hb, Option.some_inj] at ha
    rw [← Geohash.flatten_groups (a.length_bits precision), ← ha]
    exact Geohash.flatten_groups (b.length_bits precision)
  . intro heq
    rw [heq]

theorem hashOf_take (position : Position) {precision precision' : Nat} (hle : precision ≤ precision')
    : (Geohash.hashOf precision (position.bits precision)).toList
        =
      (Geohash.hashOf precision' (position.bits precision')).toList.take precision := by
  unfold Geohash.hashOf Geohash.groups
  rw [String.toList_ofList, String.toList_ofList, ← List.map_take, ← List.map_take, List.take_range]
  rw [Nat.min_eq_left hle, ← position.take_bits hle]
  apply congrArg
  apply List.map_congr_left
  intro i hi
  rw [List.mem_range] at hi
  rw [List.drop_take, List.take_take]
  congr 1
  unfold Geohash.BASE32_BITS
  omega

-- `MAX_PRECISION` is 9.
theorem geohash_nested_partition {precision : Nat} (hle : precision ≤ Geohash.MAX_PRECISION)
    : (∀ position : Position, ∃ hash cell,
        Geohash.encode position.lat position.lon precision = some hash
          ∧ hash.length = precision
          ∧ Geohash.decodeCell hash = some cell
          ∧ position.In cell)
        ∧
      (∀ a b : Position,
        Geohash.encode a.lat a.lon precision = Geohash.encode b.lat b.lon precision
          ↔
        ∃ cell, IsCell precision cell ∧ a.In cell ∧ b.In cell)
        ∧
      ∀ precision', precision ≤ precision' → precision' ≤ Geohash.MAX_PRECISION
        → ∀ position : Position, ∃ hash hash',
          Geohash.encode position.lat position.lon precision = some hash
            ∧ Geohash.encode position.lat position.lon precision' = some hash'
            ∧ hash.toList = hash'.toList.take precision := by
  refine ⟨?_, ?_, ?_⟩
  . intro position
    have hlength := position.length_bits precision
    refine ⟨_, _, Geohash.encode_eq position hle, Geohash.length_hashOf, Geohash.decodeCell_hashOf hlength, ?_⟩
    rw [position.in_box_iff hlength]
  . intro a b
    rw [Geohash.encode_eq a hle, Geohash.encode_eq b hle, Option.some_inj, hashOf_inj, same_bits_iff]
  . intro precision' hshort hle' position
    exact ⟨_, _, Geohash.encode_eq position hle, Geohash.encode_eq position hle', hashOf_take position hshort⟩

def northEast : Position := ⟨90, 180, by norm_num, by norm_num, by norm_num, by norm_num⟩

theorem geohash_nested_partition_northEast
    : ∃ hash cell, Geohash.encode northEast.lat northEast.lon 2 = some hash ∧ hash.length = 2
        ∧ Geohash.decodeCell hash = some cell ∧ northEast.In cell :=
  (geohash_nested_partition (by decide)).1 northEast

theorem GeohashFunctionNode.isGeohashNew_iff {node : GeohashFunctionNode} {last : Position} {precision : Nat}
    (hstored : Geohash.encode last.lat last.lon Geohash.MAX_PRECISION = some node.mGeohashInfo.mGeohashString)
    (hle : precision ≤ Geohash.MAX_PRECISION) (position : Position)
    : (node.evaluateGeohash position.lat position.lon precision .DECIMAL_DEGREE).mIsGeohashNew = true
        ↔
      ¬∃ cell, IsCell precision cell ∧ last.In cell ∧ position.In cell := by
  rw [Geohash.encode_eq last (le_refl _), Option.some_inj] at hstored
  rw [← same_bits_iff, ← hashOf_inj]
  unfold GeohashFunctionNode.evaluateGeohash convertToDecimalDegree
  dsimp only
  rw [Geohash.encode_eq position (le_refl _), ← hstored, Nat.min_eq_left hle]
  dsimp only
  rw [Geohash.length_hashOf, Geohash.length_hashOf, ← hashOf_take last hle, ← hashOf_take position hle]
  rw [decide_eq_true_eq, if_pos (by simpa using hle), ne_eq, String.toList_inj]
  exact not_congr eq_comm

end DataInspection
