import Mathlib.Algebra.Order.Ring.Nat
import Mathlib.Tactic.Ring

namespace BigEndian

def decode (bytes : List UInt8) : Nat := bytes.foldl (fun n byte => n * 256 + byte.toNat) 0

@[simp]
theorem decode_nil : decode [] = 0 := rfl

@[simp]
theorem decode_singleton (byte : UInt8) : decode [byte] = byte.toNat := by
  simp [decode]

theorem foldl_eq (n : Nat) (bytes : List UInt8)
    : bytes.foldl (fun n byte => n * 256 + byte.toNat) n = n * 256 ^ bytes.length + decode bytes := by
  unfold decode
  induction bytes generalizing n with
  | nil => simp
  | cons byte bytes ih =>
    rw [List.foldl_cons, List.foldl_cons, ih, ih (0 * 256 + byte.toNat)]
    rw [List.length_cons]
    ring

theorem decode_cons (byte : UInt8) (bytes : List UInt8)
    : decode (byte :: bytes) = byte.toNat * 256 ^ bytes.length + decode bytes := by
  have h := foldl_eq byte.toNat bytes
  unfold decode at h ⊢
  rw [List.foldl_cons]
  simpa using h

theorem decode_lt (bytes : List UInt8) : decode bytes < 256 ^ bytes.length := by
  induction bytes with
  | nil => simp
  | cons byte bytes ih =>
    rw [decode_cons, List.length_cons, pow_succ]
    have hbyte := byte.toNat_lt
    have hle : byte.toNat * 256 ^ bytes.length ≤ 255 * 256 ^ bytes.length := by
      apply Nat.mul_le_mul_right
      omega
    omega

theorem shiftLeft_or (n : Nat) (byte : UInt8) : n <<< 8 ||| byte.toNat = n * 256 + byte.toNat := by
  rw [← Nat.shiftLeft_add_eq_or_of_lt byte.toNat_lt]
  rw [Nat.shiftLeft_eq]

end BigEndian
