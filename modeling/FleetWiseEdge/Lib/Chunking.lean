import Mathlib.Data.List.Flatten

structure Chunking (α : Type) where
  closed : List (List α)
  current : List α

namespace Chunking

variable {α : Type} {threshold : Nat} {c : Chunking α} {a : α} {as : List α}

def empty : Chunking α := ⟨[], []⟩

def add (threshold : Nat) (c : Chunking α) (a : α) : Chunking α :=
  if (c.current ++ [a]).length ≥ threshold then
    ⟨c.closed ++ [c.current ++ [a]], []⟩
  else
    ⟨c.closed, c.current ++ [a]⟩

def finish (c : Chunking α) : List (List α) :=
  if c.current.length ≥ 1 then c.closed ++ [c.current] else c.closed

def items (c : Chunking α) : List α := c.closed.flatten ++ c.current

structure Bounded (threshold : Nat) (c : Chunking α) : Prop where
  closed : ∀ chunk ∈ c.closed, 1 ≤ chunk.length ∧ chunk.length ≤ threshold
  current : c.current.length < threshold

theorem add_full (h : (c.current ++ [a]).length ≥ threshold)
    : c.add threshold a = ⟨c.closed ++ [c.current ++ [a]], []⟩ := by
  rw [add, if_pos h]

theorem add_open (h : ¬(c.current ++ [a]).length ≥ threshold)
    : c.add threshold a = ⟨c.closed, c.current ++ [a]⟩ := by
  rw [add, if_neg h]

@[simp]
theorem items_add : (c.add threshold a).items = c.items ++ [a] := by
  by_cases hfull : (c.current ++ [a]).length ≥ threshold
  . rw [add_full hfull]
    simp [items]
  . rw [add_open hfull]
    simp [items]

theorem items_foldl : (as.foldl (add threshold) c).items = c.items ++ as := by
  induction as generalizing c with
  | nil => simp
  | cons a as ih =>
    rw [List.foldl_cons, ih, items_add]
    simp

theorem bounded_empty (h : 0 < threshold) : (empty (α := α)).Bounded threshold := by
  constructor
  . simp [empty]
  . exact h

theorem Bounded.add (h : c.Bounded threshold) (a : α) : (c.add threshold a).Bounded threshold := by
  have hcurrent := h.current
  have hlength : (c.current ++ [a]).length = c.current.length + 1 := by simp
  by_cases hfull : (c.current ++ [a]).length ≥ threshold
  . rw [add_full hfull]
    constructor
    . intro chunk hmem
      simp only [List.mem_append, List.mem_singleton] at hmem
      cases hmem with
      | inl hclosed => apply h.closed chunk hclosed
      | inr heq =>
        rw [heq]
        omega
    . simp only [List.length_nil]
      omega
  . rw [add_open hfull]
    constructor
    . apply h.closed
    . simp only [ge_iff_le] at hfull ⊢
      omega

theorem Bounded.foldl (h : c.Bounded threshold)
    : (as.foldl (Chunking.add threshold) c).Bounded threshold := by
  induction as generalizing c with
  | nil => exact h
  | cons a as ih =>
    rw [List.foldl_cons]
    apply ih
    apply h.add

theorem flatten_finish : c.finish.flatten = c.items := by
  unfold finish items
  by_cases h : c.current.length ≥ 1
  . rw [if_pos h]
    simp
  . have hnil : c.current = [] := by
      apply List.eq_nil_of_length_eq_zero
      omega
    rw [if_neg h, hnil]
    simp

theorem Bounded.finish (h : c.Bounded threshold)
    : ∀ chunk ∈ c.finish, 1 ≤ chunk.length ∧ chunk.length ≤ threshold := by
  intro chunk hmem
  unfold Chunking.finish at hmem
  by_cases hcurrent : c.current.length ≥ 1
  . rw [if_pos hcurrent] at hmem
    simp only [List.mem_append, List.mem_singleton] at hmem
    cases hmem with
    | inl hclosed => apply h.closed chunk hclosed
    | inr heq =>
      have := h.current
      rw [heq]
      omega
  . rw [if_neg hcurrent] at hmem
    apply h.closed chunk hmem

end Chunking
