import Mathlib.Algebra.Order.Ring.Rat

/-!
This module contains the machine arithmetic, the bit sets and the sample values that the model of
the inspection engine and of the collection scheme manager share.
-/

namespace Cpp

def u16 (n : Nat) : Nat := n % 2 ^ 16

def u32 (n : Nat) : Nat := n % 2 ^ 32

def u64 (n : Nat) : Nat := n % 2 ^ 64

def subU64 (a b : Nat) : Nat := u64 (a + (2 ^ 64 - u64 b))

def i64 (i : Int) : Int := i.bmod (2 ^ 64)

def u64OfInt (i : Int) : Nat := (i % 2 ^ 64).toNat

theorem u64_of_lt {n : Nat} (h : n < 2 ^ 64) : u64 n = n :=
  Nat.mod_eq_of_lt h

theorem u32_of_lt {n : Nat} (h : n < 2 ^ 32) : u32 n = n :=
  Nat.mod_eq_of_lt h

theorem u32_le (n : Nat) : u32 n ≤ n :=
  Nat.mod_le n _

theorem u32_lt (n : Nat) : u32 n < 2 ^ 32 :=
  Nat.mod_lt n (by omega)

theorem subU64_of_le {a b : Nat} (ha : a < 2 ^ 64) (h : b ≤ a) : subU64 a b = a - b := by
  have hb : u64 b = b := u64_of_lt (by omega)
  unfold subU64
  rw [hb]
  unfold u64
  omega

theorem i64_of_lt {n : Nat} (h : n < 2 ^ 63) : i64 n = n := by
  unfold i64
  apply Int.bmod_eq_of_le <;> omega

theorem u64OfInt_i64_sub_add (a b : Nat) : u64OfInt (i64 (i64 a - i64 b) + b) = u64 a := by
  unfold u64OfInt i64 u64
  rw [Int.bmod_sub_bmod, Int.sub_bmod_bmod]
  rw [Int.add_emod]
  have hemod : ((a : Int) - b).bmod (2 ^ 64) % 2 ^ 64 = (a - b) % 2 ^ 64 := Int.bmod_emod
  rw [hemod]
  omega

theorem i64_sub_add_of_lt {a b : Nat} (ha : a < 2 ^ 63) (hb : b < 2 ^ 63)
    : i64 (i64 a - i64 b) + b = a := by
  rw [i64_of_lt ha, i64_of_lt hb]
  unfold i64
  rw [Int.bmod_eq_of_le] <;> omega

/--
`std::bitset`. The only indices in use are those below `MAX_NUMBER_OF_ACTIVE_CONDITION`.
-/
def Bitset : Type := Nat → Bool

namespace Bitset

def ofBool (value : Bool) : Bitset := fun _ => value

def test (b : Bitset) (idx : Nat) : Bool := b idx

def set (b : Bitset) (idx : Nat) (value : Bool) : Bitset :=
  fun other => if other = idx then value else b.test other

def or (a b : Bitset) : Bitset := fun idx => a.test idx || b.test idx

def and (a b : Bitset) : Bitset := fun idx => a.test idx && b.test idx

def none (b : Bitset) (size : Nat) : Bool := (List.range size).all fun idx => !b.test idx

def all (b : Bitset) (size : Nat) : Bool := (List.range size).all fun idx => b.test idx

@[ext]
theorem ext {a b : Bitset} (h : ∀ idx, a.test idx = b.test idx) : a = b :=
  funext h

@[simp]
theorem test_ofBool (value : Bool) (idx : Nat) : (ofBool value).test idx = value := rfl

@[simp]
theorem test_or (a b : Bitset) (idx : Nat) : (a.or b).test idx = (a.test idx || b.test idx) := rfl

@[simp]
theorem test_and (a b : Bitset) (idx : Nat) : (a.and b).test idx = (a.test idx && b.test idx) := rfl

theorem test_set (b : Bitset) (idx other : Nat) (value : Bool)
    : (b.set idx value).test other = if other = idx then value else b.test other := rfl

@[simp]
theorem test_set_self (b : Bitset) (idx : Nat) (value : Bool)
    : (b.set idx value).test idx = value := by
  rw [test_set, if_pos rfl]

theorem test_set_ne (b : Bitset) {idx other : Nat} (value : Bool) (h : other ≠ idx)
    : (b.set idx value).test other = b.test other := by
  rw [test_set, if_neg h]

theorem none_iff (b : Bitset) (size : Nat) : b.none size = true ↔ ∀ idx < size, b.test idx = false := by
  simp [none]

theorem all_iff (b : Bitset) (size : Nat) : b.all size = true ↔ ∀ idx < size, b.test idx = true := by
  simp [all]

end Bitset

end Cpp

namespace DataInspection

/--
`InspectionValue` is `double` in the source. The model is generic in the type of sample values, so
that its results hold for IEEE doubles as well as for exact rationals.
-/
class InspectionValue (V : Type) where
  ofNat : Nat → V
  add : V → V → V
  sub : V → V → V
  mul : V → V → V
  div : V → V → V
  abs : V → V
  lt : V → V → Bool
  le : V → V → Bool
  limitMin : V
  limitMax : V

namespace InspectionValue

variable {V : Type} [InspectionValue V]

def min (a b : V) : V := if lt b a then b else a

def max (a b : V) : V := if lt a b then b else a

end InspectionValue

instance : InspectionValue Rat where
  ofNat n := n
  add := (· + ·)
  sub := (· - ·)
  mul := (· * ·)
  div := (· / ·)
  abs a := if a < 0 then -a else a
  lt a b := decide (a < b)
  le a b := decide (a ≤ b)
  limitMin := 1 / 2 ^ 1022
  limitMax := 2 ^ 1024 - 2 ^ 971

end DataInspection
