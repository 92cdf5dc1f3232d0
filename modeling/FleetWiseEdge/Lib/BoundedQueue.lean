import Mathlib.Data.List.Basic

structure BoundedQueue (α : Type) where
  capacity : Nat
  elements : List α
  bounded : elements.length ≤ capacity

namespace BoundedQueue

variable {α : Type}

def empty (capacity : Nat) : BoundedQueue α := ⟨capacity, [], Nat.zero_le capacity⟩

theorem length_append_singleton_le {elements : List α} {capacity : Nat} (a : α)
    (h : elements.length < capacity)
    : (elements ++ [a]).length ≤ capacity := by
  rw [List.length_append]
  exact h

def push (queue : BoundedQueue α) (a : α) : BoundedQueue α × Bool :=
  if h : queue.elements.length < queue.capacity then
    (⟨queue.capacity, queue.elements ++ [a], length_append_singleton_le a h⟩, true)
  else
    (queue, false)

def pushAll (queue : BoundedQueue α) (as : List α) : BoundedQueue α :=
  as.foldl (fun queue a => (queue.push a).1) queue

def pop (queue : BoundedQueue α) : Option (α × BoundedQueue α) :=
  match h : queue.elements with
  | [] => none
  | a :: as => some (a, ⟨queue.capacity, as, by have := h ▸ queue.bounded; simp at this; omega⟩)

@[simp]
theorem pushAll_nil (queue : BoundedQueue α) : queue.pushAll [] = queue := rfl

theorem capacity_push (queue : BoundedQueue α) (a : α) : (queue.push a).1.capacity = queue.capacity := by
  unfold push
  split <;> rfl

theorem elements_push (queue : BoundedQueue α) (a : α) (h : queue.elements.length < queue.capacity)
    : (queue.push a).1.elements = queue.elements ++ [a] := by
  unfold push
  rw [dif_pos h]

theorem elements_pushAll {queue : BoundedQueue α} {as : List α}
    (h : queue.elements.length + as.length ≤ queue.capacity)
    : (queue.pushAll as).elements = queue.elements ++ as := by
  unfold pushAll
  induction as generalizing queue with
  | nil => simp
  | cons a as ih =>
    rw [List.length_cons] at h
    have hpush := elements_push queue a (by omega)
    rw [List.foldl_cons, ih, hpush]
    . simp
    . rw [hpush, capacity_push, List.length_append, List.length_singleton]
      omega

theorem elements_push_full {queue : BoundedQueue α} {a : α} (h : (queue.push a).2 = false)
    : (queue.push a).1 = queue ∧ queue.elements.length = queue.capacity := by
  unfold push at h ⊢
  split
  . rename_i hroom
    rw [dif_pos hroom] at h
    cases h
  . have := queue.bounded
    exact ⟨rfl, by omega⟩

theorem elements_push_accepted {queue : BoundedQueue α} {a : α} (h : (queue.push a).2 = true)
    : (queue.push a).1.elements = queue.elements ++ [a] := by
  unfold push at h ⊢
  split
  . rfl
  . rename_i hfull
    rw [dif_neg hfull] at h
    cases h

theorem pop_eq_none {queue : BoundedQueue α} : queue.pop = none ↔ queue.elements = [] := by
  unfold pop
  split
  . rename_i hnil
    simp [hnil]
  . rename_i hcons
    simp [hcons]

theorem elements_pop {queue queue' : BoundedQueue α} {a : α} (h : queue.pop = some (a, queue'))
    : queue.elements = a :: queue'.elements ∧ queue'.capacity = queue.capacity := by
  unfold pop at h
  split at h
  . cases h
  . rename_i hcons
    rw [Option.some_inj, Prod.mk.injEq] at h
    rw [← h.1, ← h.2]
    exact ⟨hcons, rfl⟩

end BoundedQueue
