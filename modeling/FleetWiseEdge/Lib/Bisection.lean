import Mathlib.Algebra.Order.Field.Basic
import Mathlib.Tactic.Linarith
import Mathlib.Tactic.Ring

/-!
This module contains the theory of successive halving: the intervals and the boxes that a string of bits
names, and the bits of a point. The halves are half open, an interval is closed at the upper end of the
range only.
-/

namespace Bisection

variable {α : Type} [Field α] [LinearOrder α] [IsStrictOrderedRing α]

@[ext]
structure Interval (top : α) where
  low : α
  high : α
  low_lt_high : low < high
  high_le_top : high ≤ top

namespace Interval

variable {top : α} (I : Interval top)

def mid : α := I.low + (I.high - I.low) / 2

theorem low_lt_mid : I.low < I.mid := by
  have := I.low_lt_high
  unfold mid
  linarith

theorem mid_lt_high : I.mid < I.high := by
  have := I.low_lt_high
  unfold mid
  linarith

def half (bit : Bool) : Interval top :=
  if bit then
    ⟨I.mid, I.high, I.mid_lt_high, I.high_le_top⟩
  else
    ⟨I.low, I.mid, I.low_lt_mid, le_trans (le_of_lt I.mid_lt_high) I.high_le_top⟩

def Contains (x : α) : Prop := I.low ≤ x ∧ (x < I.high ∨ x = I.high ∧ I.high = top)

def side (x : α) : Bool := decide (I.mid ≤ x)

variable {I} {x : α}

theorem half_contains_iff {bit : Bool}
    : (I.half bit).Contains x ↔ I.Contains x ∧ bit = I.side x := by
  have hlow := I.low_lt_mid
  have hhigh := I.mid_lt_high
  have htop := I.high_le_top
  unfold half Contains side
  cases bit with
  | true =>
    constructor
    . intro ⟨hle, hlt⟩
      exact ⟨⟨le_of_lt (lt_of_lt_of_le hlow hle), hlt⟩, by simpa using hle⟩
    . intro ⟨⟨_, hlt⟩, hside⟩
      exact ⟨by simpa using hside, hlt⟩
  | false =>
    have hmid : I.mid ≠ top := ne_of_lt (lt_of_lt_of_le hhigh htop)
    constructor
    . intro ⟨hle, hlt⟩
      have hlt : x < I.mid := hlt.resolve_right fun h => hmid h.2
      refine ⟨⟨hle, Or.inl (lt_trans hlt hhigh)⟩, ?_⟩
      simpa using hlt
    . intro ⟨⟨hle, _⟩, hside⟩
      refine ⟨hle, Or.inl ?_⟩
      simpa using hside

end Interval

/--
The box that a string of bits names. The bits belong to the two axes in turn.
-/
def box {top top' : α} (bits : List Bool) (I : Interval top) (J : Interval top')
    : Interval top × Interval top' :=
  match bits with
  | [] => (I, J)
  | bit :: bits =>
    let (J, I) := box bits J (I.half bit)
    (I, J)

def address {top top' : α} (n : Nat) (I : Interval top) (J : Interval top') (x y : α) : List Bool :=
  match n with
  | 0 => []
  | n + 1 => I.side x :: address n J (I.half (I.side x)) y x

section Box

variable {top top' : α} {bits : List Bool} {I : Interval top} {J : Interval top'} {x y : α} {n : Nat}

@[simp]
theorem length_address : (address n I J x y).length = n := by
  induction n generalizing top top' x y with
  | zero => rfl
  | succ n ih => simp [address, ih]

theorem box_contains_iff
    : (box bits I J).1.Contains x ∧ (box bits I J).2.Contains y
        ↔
      I.Contains x ∧ J.Contains y ∧ bits = address bits.length I J x y := by
  induction bits generalizing top top' x y with
  | nil => simp [box, address]
  | cons bit bits ih =>
    have hrest := ih (I := J) (J := I.half bit) (x := y) (y := x)
    unfold box
    dsimp only
    rw [and_comm, hrest, Interval.half_contains_iff]
    rw [List.length_cons, address, List.cons.injEq]
    constructor
    . intro ⟨hy, ⟨hx, hbit⟩, hbits⟩
      exact ⟨hx, hy, hbit, by rw [← hbit]; exact hbits⟩
    . intro ⟨hx, hy, hbit, hbits⟩
      exact ⟨hy, ⟨hx, hbit⟩, by rw [hbit]; exact hbits⟩

theorem take_address {m : Nat} (hle : m ≤ n) : (address n I J x y).take m = address m I J x y := by
  induction m generalizing n top top' x y with
  | zero => rfl
  | succ m ih =>
    match n with
    | n + 1 =>
      unfold address
      rw [List.take_succ_cons, ih (by omega)]

end Box

def value (bits : List Bool) : Nat :=
  match bits with
  | [] => 0
  | bit :: bits => bit.toNat * 2 ^ bits.length + value bits

section Value

variable {bits bits' : List Bool}

theorem value_lt (bits : List Bool) : value bits < 2 ^ bits.length := by
  induction bits with
  | nil => simp [value]
  | cons bit bits ih =>
    unfold value
    rw [List.length_cons, pow_succ]
    cases bit with
    | true =>
      rw [Bool.toNat_true]
      omega
    | false =>
      rw [Bool.toNat_false]
      omega

theorem value_append : value (bits ++ bits') = value bits * 2 ^ bits'.length + value bits' := by
  induction bits with
  | nil => simp [value]
  | cons bit bits ih =>
    rw [List.cons_append, value, value, ih, List.length_append, pow_add]
    ring

theorem value_group (bits group bits' : List Bool)
    : (value (bits ++ group ++ bits') >>> bits'.length) &&& (2 ^ group.length - 1) = value group := by
  rw [value_append, Nat.shiftRight_eq_div_pow]
  rw [Nat.mul_comm, Nat.mul_add_div (Nat.two_pow_pos _), Nat.div_eq_of_lt (value_lt bits'), Nat.add_zero]
  rw [Nat.and_two_pow_sub_one_eq_mod, value_append]
  rw [Nat.mul_add_mod_self_right, Nat.mod_eq_of_lt (value_lt group)]

end Value

end Bisection
