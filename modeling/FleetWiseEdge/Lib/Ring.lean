import Mathlib.Data.List.Basic

/-!
This module contains the theory of ring buffers that are only read backwards from the position of
their last write: such a ring represents the newest part of the list of everything ever written.
-/

namespace Ring

variable {σ : Type}

def next (size pos : Nat) : Nat :=
  if pos + 1 ≥ size then 0 else pos + 1

def back (size pos k : Nat) : Nat :=
  if k ≤ pos then pos - k else pos + size - k

theorem next_lt {size : Nat} (hsize : 0 < size) (pos : Nat) : next size pos < size := by
  unfold next
  split <;> omega

theorem back_lt {size pos k : Nat} (hpos : pos < size) (hk : k < size) : back size pos k < size := by
  unfold back
  split <;> omega

@[simp]
theorem back_zero (size pos : Nat) : back size pos 0 = pos := by
  simp [back]

theorem back_next_succ {size pos k : Nat} (hpos : pos < size) (hk : k + 1 < size)
    : back size (next size pos) (k + 1) = back size pos k := by
  unfold back next
  split <;> split <;> split <;> omega

theorem back_succ {size pos k : Nat} (hk : k + 1 < size)
    : back size pos (k + 1) = if back size pos k = 0 then size - 1 else back size pos k - 1 := by
  unfold back
  split <;> split <;> split <;> omega

theorem back_inj {size pos j k : Nat} (hj : j < size) (hk : k < size)
    (h : back size pos j = back size pos k)
    : j = k := by
  unfold back at h
  split at h <;> split at h <;> omega

/--
Walking back through `slots` from `pos` visits the elements of `history`, newest first, as far as
the ring reaches.
-/
def Represents (slots : List σ) (pos : Nat) (history : List σ) : Prop :=
  ∀ k, k < slots.length → k < history.length → slots[back slots.length pos k]? = history[k]?

namespace Represents

variable {slots history : List σ} {pos : Nat}

theorem nil (slots : List σ) (pos : Nat) : Represents slots pos [] := by
  intro k _ hk
  simp at hk

theorem newest (h : Represents slots pos history) (hpos : pos < slots.length)
    (hne : 0 < history.length)
    : slots[pos]? = history[0]? := by
  have := h 0 (by omega) hne
  rwa [back_zero] at this

theorem push (h : Represents slots pos history) (hpos : pos < slots.length) (a : σ)
    : Represents (slots.set (next slots.length pos) a) (next slots.length pos) (a :: history) := by
  intro k hk hhist
  have hnext : next slots.length pos < slots.length := next_lt (by omega) pos
  simp only [List.length_set] at hk ⊢
  cases k with
  | zero =>
    rw [back_zero]
    simp [hnext]
  | succ k =>
    rw [back_next_succ hpos hk]
    have hne : next slots.length pos ≠ back slots.length pos k := by
      intro heq
      have hlast : next slots.length pos = back slots.length pos (slots.length - 1) := by
        unfold next back
        split <;> split <;> omega
      have := back_inj (by omega) (by omega) (hlast.symm.trans heq)
      omega
    rw [List.getElem?_set_ne hne]
    rw [List.getElem?_cons_succ]
    apply h
    . omega
    . simpa using hhist

theorem first {p : Nat} (hp : p < slots.length) (a : σ) : Represents (slots.set p a) p [a] := by
  intro k _ hhist
  have hk : k = 0 := by
    simp only [List.length_singleton] at hhist
    omega
  rw [hk, back_zero]
  simp [hp]

theorem modify (h : Represents slots pos history) {k : Nat} (hk : k < slots.length) (f : σ → σ)
    : Represents (slots.modify (back slots.length pos k) f) pos (history.modify k f) := by
  intro j hj hhist
  simp only [List.length_modify] at hj hhist ⊢
  rw [List.getElem?_modify, List.getElem?_modify]
  rw [h j hj hhist]
  by_cases heq : k = j
  . simp [heq]
  . have : back slots.length pos k ≠ back slots.length pos j := by
      intro hback
      exact heq (back_inj hk hj hback)
    simp [heq, this]

end Represents

end Ring
