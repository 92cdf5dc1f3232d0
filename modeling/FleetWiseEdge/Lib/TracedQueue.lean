import FleetWiseEdge.Lib.BoundedQueue
import Mathlib.Algebra.GroupWithZero.Nat

/-!
This module contains a bounded queue with several producers and a counter next to it. A producer counts an
element before it offers it and takes it back from the counter when the queue is full, the consumer takes it
back after it has popped it.
-/

structure TracedQueue (α : Type) where
  queue : BoundedQueue α
  counter : BitVec 64 := 0

inductive OfferPhase where
  | ready
  | counted
  | refused
  deriving DecidableEq, Repr

structure Producer (α : Type) where
  pending : List α := []
  phase : OfferPhase := .ready

namespace Producer

variable {α : Type}

def idle (producer : Producer α) : Bool := producer.pending.isEmpty

def inFlight (producer : Producer α) : Nat :=
  match producer.pending, producer.phase with
  | [], _ => 0
  | _, .ready => 0
  | _, _ => 1

theorem inFlight_ready (pending : List α) : inFlight { pending } = 0 := by
  cases pending with
  | nil => rfl
  | cons a as => rfl

theorem inFlight_of_idle {producer : Producer α} (h : producer.idle = true) : producer.inFlight = 0 := by
  unfold idle at h
  rw [List.isEmpty_iff] at h
  unfold inFlight
  rw [h]

end Producer

namespace TracedQueue

variable {α : Type}

def new (capacity : Nat) : TracedQueue α where
  queue := .empty capacity

def offer (q : TracedQueue α) (producer : Producer α) : TracedQueue α × Producer α :=
  match producer.pending with
  | [] => (q, producer)
  | a :: rest =>
    match producer.phase with
    | .ready => ({ q with counter := q.counter + 1 }, { producer with phase := .counted })
    | .counted =>
      if (q.queue.push a).2 then
        ({ q with queue := (q.queue.push a).1 }, { pending := rest, phase := .ready })
      else
        (q, { producer with phase := .refused })
    | .refused => ({ q with counter := q.counter - 1 }, { pending := rest, phase := .ready })

def pop (q : TracedQueue α) : Option (α × TracedQueue α) :=
  q.queue.pop.map fun (a, queue) => (a, { q with queue })

def uncount (q : TracedQueue α) : TracedQueue α := { q with counter := q.counter - 1 }

/--
The counter holds what is in the queue and what is counted and on its way into it or out of it.
-/
def Counts (q : TracedQueue α) (inFlight : Nat) : Prop :=
  q.counter = BitVec.ofNat 64 (q.queue.elements.length + inFlight)

theorem sum_map_eq_zero {σ : Type} {f : σ → Nat} {l : List σ} (h : ∀ a ∈ l, f a = 0) : (l.map f).sum = 0 := by
  induction l with
  | nil => rfl
  | cons a l ih =>
    rw [List.map_cons, List.sum_cons, h a (by simp), ih fun b hb => h b (List.mem_cons_of_mem a hb)]

theorem sum_map_set {σ : Type} (f : σ → Nat) {l : List σ} {k : Nat} {a : σ} (h : l[k]? = some a) (b : σ)
    : ∃ others, (l.map f).sum = f a + others ∧ ((l.set k b).map f).sum = f b + others := by
  induction l generalizing k with
  | nil => cases h
  | cons c l ih =>
    cases k with
    | zero =>
      rw [List.getElem?_cons_zero, Option.some_inj] at h
      rw [h]
      exact ⟨(l.map f).sum, rfl, rfl⟩
    | succ k =>
      have ⟨others, hbefore, hafter⟩ := ih h
      refine ⟨f c + others, ?_, ?_⟩
      . rw [List.map_cons, List.sum_cons, hbefore]
        omega
      . rw [List.set_cons_succ, List.map_cons, List.sum_cons, hafter]
        omega

section Counts

variable {q q' : TracedQueue α} {producer : Producer α} {others : Nat}

theorem Counts.new (capacity : Nat) : (TracedQueue.new capacity : TracedQueue α).Counts 0 := rfl

theorem ofNat_succ (n : Nat) : BitVec.ofNat 64 (n + 1) = BitVec.ofNat 64 n + 1 := BitVec.ofNat_add n 1

theorem ofNat_succ_sub_one (n : Nat) : BitVec.ofNat 64 (n + 1) - 1 = BitVec.ofNat 64 n := by
  rw [ofNat_succ]
  exact BitVec.add_sub_cancel _ _

theorem Counts.offer (h : q.Counts (producer.inFlight + others))
    : (q.offer producer).1.Counts ((q.offer producer).2.inFlight + others) := by
  unfold Counts at h ⊢
  unfold TracedQueue.offer
  cases hpending : producer.pending with
  | nil => exact h
  | cons a rest =>
    dsimp only
    cases hphase : producer.phase with
    | ready =>
      have hbefore : producer.inFlight = 0 := by simp [Producer.inFlight, hpending, hphase]
      have hafter : Producer.inFlight { pending := a :: rest, phase := .counted } = 1 := rfl
      dsimp only
      rw [hafter, h, hbefore]
      have hsum : q.queue.elements.length + (1 + others) = q.queue.elements.length + (0 + others) + 1 := by omega
      rw [hsum, ofNat_succ]
    | counted =>
      have hbefore : producer.inFlight = 1 := by simp [Producer.inFlight, hpending, hphase]
      dsimp only
      cases hpush : (q.queue.push a).2 with
      | true =>
        rw [if_pos rfl]
        dsimp only
        rw [Producer.inFlight_ready, BoundedQueue.elements_push_accepted hpush, h, hbefore]
        rw [List.length_append, List.length_singleton]
        congr 1
        omega
      | false =>
        have hafter : Producer.inFlight { pending := a :: rest, phase := .refused } = 1 := rfl
        rw [if_neg (by simp)]
        dsimp only
        rw [hafter, h, hbefore]
    | refused =>
      have hbefore : producer.inFlight = 1 := by simp [Producer.inFlight, hpending, hphase]
      dsimp only
      rw [Producer.inFlight_ready, h, hbefore]
      have hsum : q.queue.elements.length + (1 + others) = q.queue.elements.length + (0 + others) + 1 := by omega
      rw [hsum, ofNat_succ_sub_one]

theorem Counts.pop {a : α} (h : q.Counts others) (hpop : q.pop = some (a, q')) : q'.Counts (others + 1) := by
  unfold TracedQueue.pop at hpop
  rw [Option.map_eq_some_iff] at hpop
  obtain ⟨⟨a', queue⟩, hqueue, heq⟩ := hpop
  have helements := (BoundedQueue.elements_pop hqueue).1
  rw [← (Prod.mk.inj heq).2]
  unfold Counts at h ⊢
  dsimp only
  rw [h, helements, List.length_cons]
  congr 1
  omega

theorem Counts.uncount (h : q.Counts (others + 1)) : q.uncount.Counts others := by
  unfold Counts at h ⊢
  unfold TracedQueue.uncount
  dsimp only
  rw [h, ← Nat.add_assoc, ofNat_succ_sub_one]

end Counts

section Contents

variable {q q' : TracedQueue α} {producer : Producer α} {P : α → Prop}

theorem offer_forall (hqueue : ∀ a ∈ q.queue.elements, P a) (hpending : ∀ a ∈ producer.pending, P a)
    : (∀ a ∈ (q.offer producer).1.queue.elements, P a) ∧ ∀ a ∈ (q.offer producer).2.pending, P a := by
  unfold offer
  cases hcons : producer.pending with
  | nil =>
    dsimp only
    rw [hcons]
    exact ⟨hqueue, fun a ha => absurd ha (by simp)⟩
  | cons a rest =>
    rw [hcons] at hpending
    have hrest : ∀ b ∈ rest, P b := fun b hb => hpending b (List.mem_cons_of_mem a hb)
    dsimp only
    cases producer.phase with
    | ready => exact ⟨hqueue, hpending⟩
    | counted =>
      dsimp only
      cases hpush : (q.queue.push a).2 with
      | true =>
        rw [if_pos rfl]
        refine ⟨?_, hrest⟩
        dsimp only
        rw [BoundedQueue.elements_push_accepted hpush]
        intro b hb
        rw [List.mem_append, List.mem_singleton] at hb
        cases hb with
        | inl hold => exact hqueue b hold
        | inr hnew =>
          rw [hnew]
          exact hpending a (by simp)
      | false =>
        rw [if_neg (by simp)]
        exact ⟨hqueue, hpending⟩
    | refused => exact ⟨hqueue, hrest⟩

theorem pop_forall {a : α} (hqueue : ∀ a ∈ q.queue.elements, P a) (hpop : q.pop = some (a, q'))
    : P a ∧ ∀ a ∈ q'.queue.elements, P a := by
  unfold TracedQueue.pop at hpop
  rw [Option.map_eq_some_iff] at hpop
  have ⟨⟨a', queue⟩, hqueue', heq⟩ := hpop
  rw [(BoundedQueue.elements_pop hqueue').1] at hqueue
  rw [← (Prod.mk.inj heq).1, ← (Prod.mk.inj heq).2]
  exact ⟨hqueue a' (by simp), fun b hb => hqueue b (List.mem_cons_of_mem a' hb)⟩

end Contents

end TracedQueue
