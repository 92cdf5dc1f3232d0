import Mathlib.Algebra.Group.Nat.Defs

namespace BitField

def ofBits (bits : Nat → Bool) (size : Nat) : BitVec size :=
  match size with
  | 0 => 0#0
  | size + 1 => BitVec.cons (bits size) (ofBits bits size)

theorem getLsbD_ofBits (bits : Nat → Bool) (size i : Nat)
    : (ofBits bits size).getLsbD i = (decide (i < size) && bits i) := by
  induction size with
  | zero => simp [ofBits]
  | succ size ih =>
    unfold ofBits
    rw [BitVec.getLsbD_cons, ih]
    split
    . next heq => simp [heq]
    . next hne =>
      have hiff : i < size + 1 ↔ i < size := by omega
      simp [hiff]

def bit (bytes : Nat → UInt8) (i : Nat) : Bool := (bytes (i / 8)).toBitVec.getLsbD (i % 8)

/--
What a word gets from the bytes 0 to `count` when its lowest bit is bit `shift` of the first byte.
-/
def gather (w : Nat) (bytes : Nat → UInt8) (shift : Nat) (count : Nat) : BitVec w :=
  match count with
  | 0 => (bytes 0).toBitVec.setWidth w >>> shift
  | count + 1 =>
    gather w bytes shift count
      ||| (bytes (count + 1)).toBitVec.setWidth w <<< (8 * (count + 1) - shift)

section Gather

variable {w : Nat} {bytes : Nat → UInt8} {shift : Nat}

theorem getLsbD_gather_zero (hw : 8 ≤ w) (i : Nat)
    : (gather w bytes shift 0).getLsbD i = (decide (shift + i < 8) && bit bytes (shift + i)) := by
  unfold gather bit
  rw [BitVec.getLsbD_ushiftRight, BitVec.getLsbD_setWidth]
  by_cases hbyte : shift + i < 8
  . have hdiv : (shift + i) / 8 = 0 := by omega
    have hmod : (shift + i) % 8 = shift + i := by omega
    have hlt : shift + i < w := by omega
    simp [hbyte, hdiv, hmod, hlt]
  . have hge := BitVec.getLsbD_of_ge (bytes 0).toBitVec (shift + i) (by omega)
    simp [hbyte, hge]

-- The induction is on the number of bytes: a bit lies in the new byte or in one before it.
theorem getLsbD_gather (hw : 8 ≤ w) (hshift : shift < 8) (count : Nat) {i : Nat} (hi : i < w)
    : (gather w bytes shift count).getLsbD i
        =
      (decide (shift + i < 8 * (count + 1)) && bit bytes (shift + i)) := by
  induction count with
  | zero => exact getLsbD_gather_zero hw i
  | succ count ih =>
    unfold gather
    rw [BitVec.getLsbD_or, ih, BitVec.getLsbD_shiftLeft, BitVec.getLsbD_setWidth]
    by_cases hbefore : shift + i < 8 * (count + 1)
    . have hlow : i < 8 * (count + 1) - shift := by omega
      have hnext : shift + i < 8 * (count + 1 + 1) := by omega
      simp [hbefore, hlow, hnext]
    . have hlow : ¬ i < 8 * (count + 1) - shift := by omega
      have hrest : i - (8 * (count + 1) - shift) = shift + i - 8 * (count + 1) := by omega
      have hlt : shift + i - 8 * (count + 1) < w := by omega
      rw [hrest]
      by_cases hbyte : shift + i < 8 * (count + 1 + 1)
      . have hdiv : (shift + i) / 8 = count + 1 := by omega
        have hmod : (shift + i) % 8 = shift + i - 8 * (count + 1) := by omega
        unfold bit
        simp [hbefore, hlow, hbyte, hdiv, hmod, hi, hlt]
      . have hge := BitVec.getLsbD_of_ge (bytes (count + 1)).toBitVec (shift + i - 8 * (count + 1))
          (by omega)
        simp [hbefore, hbyte, hge]

theorem gather_and_mask {size count : Nat} (hw : 8 ≤ w) (hshift : shift < 8) (hsize : size ≤ w)
    (hreach : shift + size ≤ 8 * (count + 1))
    : gather w bytes shift count &&& BitVec.allOnes w >>> (w - size)
        =
      (ofBits (fun i => bit bytes (shift + i)) size).setWidth w := by
  apply BitVec.eq_of_getLsbD_eq
  intro i hi
  rw [BitVec.getLsbD_and, getLsbD_gather hw hshift count hi, BitVec.getLsbD_ushiftRight]
  rw [BitVec.getLsbD_allOnes, BitVec.getLsbD_setWidth, getLsbD_ofBits]
  by_cases hlt : i < size
  . have hcount : shift + i < 8 * (count + 1) := by omega
    have hmask : w - size + i < w := by omega
    simp [hi, hlt, hcount, hmask]
  . have hmask : ¬ w - size + i < w := by omega
    simp [hlt, hmask]

end Gather

section SignExtend

theorem xor_two_pow_of_lt {n s : Nat} (h : n < 2 ^ s) : n ^^^ 2 ^ s = n + 2 ^ s := by
  have hor := Nat.two_pow_add_eq_or_of_lt h 1
  rw [Nat.mul_one] at hor
  rw [Nat.add_comm, hor]
  apply Nat.eq_of_testBit_eq
  intro i
  rw [Nat.testBit_xor, Nat.testBit_or, Nat.testBit_two_pow]
  by_cases heq : s = i
  . have hbit : n.testBit s = false := Nat.testBit_lt_two_pow h
    rw [← heq, hbit, decide_eq_true rfl]
    rfl
  . rw [decide_eq_false heq, Bool.xor_false, Bool.false_or]

theorem xor_sub_signBit {w size : Nat} (x : BitVec size) (hpos : 0 < size) (hsize : size ≤ w)
    : (x.setWidth w ^^^ 1#w <<< (size - 1)) - 1#w <<< (size - 1) = x.signExtend w := by
  have hhalf : 2 ^ size = 2 * 2 ^ (size - 1) := by
    rw [← Nat.pow_succ']
    congr
    omega
  have hle : 2 ^ size ≤ 2 ^ w := Nat.pow_le_pow_right (by omega) hsize
  have hx := x.isLt
  have hbit : (1#w <<< (size - 1)).toNat = 2 ^ (size - 1) := by
    rw [BitVec.toNat_shiftLeft, BitVec.toNat_ofNat, Nat.mod_eq_of_lt (a := 1) (by omega)]
    rw [Nat.shiftLeft_eq, Nat.one_mul, Nat.mod_eq_of_lt (by omega)]
  apply BitVec.eq_of_toNat_eq
  rw [BitVec.toNat_signExtend, BitVec.toNat_sub, BitVec.toNat_xor, BitVec.toNat_setWidth, hbit]
  rw [Nat.mod_eq_of_lt (a := x.toNat) (by omega), BitVec.msb_eq_decide]
  by_cases hneg : 2 ^ (size - 1) ≤ x.toNat
  . have hlow : x.toNat - 2 ^ (size - 1) < 2 ^ (size - 1) := by omega
    have hxor := xor_two_pow_of_lt hlow
    rw [Nat.sub_add_cancel hneg] at hxor
    rw [← hxor, Nat.xor_assoc, Nat.xor_self, Nat.xor_zero]
    rw [hxor]
    rw [decide_eq_true hneg, if_pos rfl]
    have hlt : 2 ^ w - 2 ^ (size - 1) + (x.toNat - 2 ^ (size - 1)) < 2 ^ w := by omega
    rw [Nat.mod_eq_of_lt hlt]
    omega
  . rw [xor_two_pow_of_lt (by omega), decide_eq_false hneg]
    have heq : 2 ^ w - 2 ^ (size - 1) + (x.toNat + 2 ^ (size - 1)) = x.toNat + 2 ^ w := by omega
    rw [heq, Nat.add_mod_right, Nat.mod_eq_of_lt (by omega)]
    simp

end SignExtend

end BitField
