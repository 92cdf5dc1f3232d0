import Mathlib.Data.Nat.Digits.Defs

namespace LittleEndian

def encode (width : Nat) (value : Nat) : List UInt8 :=
  match width with
  | 0 => []
  | width + 1 => UInt8.ofNat value :: encode width (value / 256)

def decode (bytes : List UInt8) : Nat := Nat.ofDigits 256 (bytes.map UInt8.toNat)

@[simp]
theorem length_encode (width value : Nat) : (encode width value).length = width := by
  induction width generalizing value with
  | zero => rfl
  | succ width ih => simp [encode, ih]

theorem decode_encode {width value : Nat} (h : value < 256 ^ width)
    : decode (encode width value) = value := by
  induction width generalizing value with
  | zero =>
    have : value = 0 := by simpa using h
    simp [encode, decode, this]
  | succ width ih =>
    have hrest : value / 256 < 256 ^ width := by
      apply Nat.div_lt_of_lt_mul
      rw [← Nat.pow_succ']
      exact h
    have hdecode := ih hrest
    unfold decode at hdecode ⊢
    rw [encode, List.map_cons, Nat.ofDigits_cons, hdecode]
    simp only [UInt8.toNat_ofNat']
    omega

end LittleEndian
