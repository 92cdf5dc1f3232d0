import Mathlib.Data.List.Perm.Subperm
import Mathlib.Data.List.Sort

/--
A priority queue is the list of its entries, in the order in which they come to the top.
-/
structure PriorityQueue (α : Type) (r : α → α → Prop) where
  entries : List α
  sorted : entries.Pairwise r

namespace PriorityQueue

variable {α : Type} {r : α → α → Prop}

def empty : PriorityQueue α r := ⟨[], List.Pairwise.nil⟩

def isEmpty (q : PriorityQueue α r) : Bool := q.entries.isEmpty

def top (q : PriorityQueue α r) : Option α := q.entries.head?

def pop (q : PriorityQueue α r) : PriorityQueue α r := ⟨q.entries.tail, q.sorted.tail⟩

section Push

variable [DecidableRel r] [Std.Total r] [IsTrans α r]

def push (q : PriorityQueue α r) (a : α) : PriorityQueue α r :=
  ⟨q.entries.orderedInsert r a, q.sorted.orderedInsert a q.entries⟩

theorem push_perm (q : PriorityQueue α r) (a : α) : (q.push a).entries.Perm (a :: q.entries) := by
  apply List.perm_orderedInsert

@[simp]
theorem mem_push {q : PriorityQueue α r} {a b : α} : b ∈ (q.push a).entries ↔ b = a ∨ b ∈ q.entries := by
  simp [push]

end Push

theorem top_push [DecidableRel r] [Std.Total r] [IsTrans α r] {q : PriorityQueue α r} {a : α}
    : (q.push a).top = some a ∨ (q.push a).top = q.top := by
  cases q with
  | mk entries sorted =>
    cases entries with
    | nil => simp [top, push]
    | cons b bs =>
      simp only [top, push, List.orderedInsert_cons]
      split <;> simp

theorem top_eq_none_iff {q : PriorityQueue α r} : q.top = none ↔ q.entries = [] := by
  simp [top]

theorem entries_of_top {q : PriorityQueue α r} {a : α} (h : q.top = some a)
    : q.entries = a :: q.pop.entries := by
  cases q with
  | mk entries sorted =>
    cases entries with
    | nil => simp [top] at h
    | cons b bs =>
      simp only [top, List.head?_cons, Option.some_inj] at h
      simp [pop, h]

theorem mem_of_top {q : PriorityQueue α r} {a : α} (h : q.top = some a) : a ∈ q.entries := by
  rw [entries_of_top h]
  simp

theorem top_le [Std.Refl r] {q : PriorityQueue α r} {a b : α} (h : q.top = some a)
    (hb : b ∈ q.entries)
    : r a b := by
  have hsorted := q.sorted
  rw [entries_of_top h] at hsorted hb
  rw [List.pairwise_cons] at hsorted
  rw [List.mem_cons] at hb
  cases hb with
  | inl heq =>
    rw [heq]
    apply Std.Refl.refl
  | inr hmem => exact hsorted.1 b hmem

/--
The queue holds these entries, each at least as often as the list does.
-/
def Holds (q : PriorityQueue α r) (as : List α) : Prop := as.Subperm q.entries

section Holds

variable {q : PriorityQueue α r} {as bs : List α} {a : α}

theorem Holds.mem (h : q.Holds as) (ha : a ∈ as) : a ∈ q.entries := by
  apply List.Subperm.subset h ha

theorem Holds.of_perm (h : q.Holds as) (hperm : bs.Perm as) : q.Holds bs := by
  apply List.Subperm.trans hperm.subperm h

section Push

variable [DecidableRel r] [Std.Total r] [IsTrans α r]

theorem Holds.push (h : q.Holds as) (b : α) : (q.push b).Holds as := by
  apply List.Subperm.trans (h.cons_right b)
  apply (q.push_perm b).symm.subperm

theorem Holds.push_cons (h : q.Holds as) (b : α) : (q.push b).Holds (b :: as) := by
  apply List.Subperm.trans ((List.subperm_cons b).mpr h)
  apply (q.push_perm b).symm.subperm

end Push

theorem holds_nil : q.Holds [] := List.nil_subperm

theorem Holds.pop [DecidableEq α] (h : q.Holds as) (htop : q.top = some a) (hnot : a ∉ as)
    : q.pop.Holds as := by
  have herase := List.Subperm.erase a h
  rw [List.erase_of_not_mem hnot, entries_of_top htop, List.erase_cons_head] at herase
  exact herase

theorem Holds.pop_cons (h : q.Holds (a :: as)) (htop : q.top = some a) : q.pop.Holds as := by
  unfold Holds at h
  rw [entries_of_top htop, List.subperm_cons] at h
  exact h

end Holds

end PriorityQueue
