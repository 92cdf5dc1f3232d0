import Mathlib.Data.List.Nodup
import Mathlib.Logic.Function.Basic

/-!
This module contains the theory of ledgers: channels that items are stored in and readers that take the
newest items of a channel, each item at most once.
-/

def numbered {α : Type} (items : List α) : List (α × Nat) :=
  match items with
  | [] => []
  | item :: items => (item, items.length) :: numbered items

section Numbered

variable {α : Type} {items : List α}

@[simp]
theorem numbered_length : (numbered items).length = items.length := by
  induction items with
  | nil => rfl
  | cons item items ih => simp [numbered, ih]

@[simp]
theorem numbered_map_fst : (numbered items).map Prod.fst = items := by
  induction items with
  | nil => rfl
  | cons item items ih => simp [numbered, ih]

theorem lt_of_mem_numbered {entry : α × Nat} (h : entry ∈ numbered items)
    : entry.2 < items.length := by
  induction items with
  | nil => cases h
  | cons item items ih =>
    unfold numbered at h
    rw [List.mem_cons] at h
    rw [List.length_cons]
    cases h with
    | inl heq =>
      rw [heq]
      omega
    | inr hmem =>
      have := ih hmem
      omega

theorem numbered_pairwise (items : List α)
    : (numbered items).Pairwise fun entry entry' => entry'.2 < entry.2 := by
  induction items with
  | nil => exact List.Pairwise.nil
  | cons item items ih =>
    apply List.Pairwise.cons _ ih
    intro entry hentry
    exact lt_of_mem_numbered hentry

end Numbered

/--
Item number `n` of a channel is the one that was stored there after `n` others. `sent` lists who took
which item, in this order.
-/
structure Ledger (Reader Channel Item : Type) where
  stored : Channel → List Item
  sent : List (Reader × Channel × Nat)

namespace Ledger

variable {Reader Channel Item : Type}

def empty : Ledger Reader Channel Item := ⟨fun _ => [], []⟩

structure WellFormed (L : Ledger Reader Channel Item) : Prop where
  known : ∀ entry ∈ L.sent, entry.2.2 < (L.stored entry.2.1).length
  nodup : L.sent.Nodup

theorem wellFormed_empty : (empty : Ledger Reader Channel Item).WellFormed where
  known := by
    intro entry hentry
    cases hentry
  nodup := List.nodup_nil

def grow (more : Channel → List Item) (L : Ledger Reader Channel Item) : Ledger Reader Channel Item :=
  { L with stored := fun k => more k ++ L.stored k }

theorem WellFormed.grow {L : Ledger Reader Channel Item} (h : L.WellFormed)
    (more : Channel → List Item)
    : (L.grow more).WellFormed where
  known := by
    intro entry hentry
    have := h.known entry hentry
    unfold Ledger.grow
    rw [List.length_append]
    omega
  nodup := h.nodup

section Take

variable [DecidableEq Reader] [DecidableEq Channel]

-- Those of the newest `count` items that the reader did not take yet, with their numbers.
def unsent (L : Ledger Reader Channel Item) (c : Reader) (k : Channel) (count : Nat)
    : List (Item × Nat) :=
  ((numbered (L.stored k)).take count).filter fun entry => (c, k, entry.2) ∉ L.sent

def send (L : Ledger Reader Channel Item) (c : Reader) (k : Channel) (count : Nat)
    : Ledger Reader Channel Item :=
  { L with sent := L.sent ++ (L.unsent c k count).map fun entry => (c, k, entry.2) }

variable {L : Ledger Reader Channel Item} {c c' : Reader} {k k' : Channel} {count number : Nat}

@[simp]
theorem send_stored : (L.send c k count).stored = L.stored := rfl

theorem mem_send
    : (c', k', number) ∈ (L.send c k count).sent
        ↔
      (c', k', number) ∈ L.sent
        ∨ c' = c ∧ k' = k ∧ ∃ item, (item, number) ∈ (numbered (L.stored k)).take count := by
  unfold send unsent
  simp only [List.mem_append, List.mem_map, List.mem_filter, Prod.mk.injEq]
  constructor
  . intro h
    rcases h with h | ⟨entry, ⟨hmem, _⟩, hc, hk, hnumber⟩
    . exact Or.inl h
    . exact Or.inr ⟨hc.symm, hk.symm, entry.1, hnumber ▸ hmem⟩
  . intro h
    rcases h with h | ⟨hc, hk, item, hmem⟩
    . exact Or.inl h
    . by_cases hsent : (c, k, number) ∈ L.sent
      . exact Or.inl (hc ▸ hk ▸ hsent)
      . exact Or.inr ⟨(item, number), ⟨hmem, by simpa using hsent⟩, hc.symm, hk.symm, rfl⟩

theorem WellFormed.send (h : L.WellFormed) (c : Reader) (k : Channel) (count : Nat)
    : (L.send c k count).WellFormed where
  known := by
    intro entry hentry
    have ⟨c', k', number⟩ := entry
    rcases mem_send.mp hentry with hsent | ⟨_, hk, item, hmem⟩
    . exact h.known _ hsent
    . rw [hk]
      exact lt_of_mem_numbered (List.mem_of_mem_take hmem)
  nodup := by
    unfold Ledger.send
    rw [List.nodup_append]
    refine ⟨h.nodup, ?_, ?_⟩
    . have hpairwise := ((numbered_pairwise (L.stored k)).take (i := count)).filter
        fun entry => (c, k, entry.2) ∉ L.sent
      apply List.Pairwise.map _ _ hpairwise
      intro entry entry' hlt heq
      have hnumber := (Prod.mk.inj (Prod.mk.inj heq).2).2
      omega
    . intro entry hentry entry' hentry' heq
      rw [List.mem_map] at hentry'
      have ⟨item, hitem, hmap⟩ := hentry'
      unfold unsent at hitem
      rw [List.mem_filter] at hitem
      have hnot := hitem.2
      rw [hmap, ← heq] at hnot
      simp [hentry] at hnot

end Take

section Agree

variable {Reader' : Type} {keys : Channel → Prop} {c : Reader} {c' : Reader'}
variable {L : Ledger Reader Channel Item} {L' : Ledger Reader' Channel Item}

/--
On the channels in `keys`, the reader `c` of one ledger sees what the reader `c'` of another one sees.
-/
structure Agree (keys : Channel → Prop) (c : Reader) (c' : Reader') (L : Ledger Reader Channel Item)
    (L' : Ledger Reader' Channel Item)
    : Prop where
  stored : ∀ k, keys k → L'.stored k = L.stored k
  sent : ∀ k number, keys k → ((c', k, number) ∈ L'.sent ↔ (c, k, number) ∈ L.sent)

theorem Agree.grow (h : Agree keys c c' L L') {more more' : Channel → List Item}
    (hmore : ∀ k, keys k → more' k = more k)
    : Agree keys c c' (L.grow more) (L'.grow more') where
  stored := by
    intro k hk
    unfold Ledger.grow
    dsimp only
    rw [hmore k hk, h.stored k hk]
  sent := h.sent

variable [DecidableEq Reader] [DecidableEq Reader'] [DecidableEq Channel]

theorem Agree.unsent (h : Agree keys c c' L L') {k : Channel} (hk : keys k) {count : Nat}
    : L'.unsent c' k count = L.unsent c k count := by
  unfold Ledger.unsent
  rw [h.stored k hk]
  congr 1
  funext entry
  rw [decide_eq_decide, h.sent k entry.2 hk]

theorem Agree.send (h : Agree keys c c' L L') (k : Channel) (count : Nat)
    : Agree keys c c' (L.send c k count) (L'.send c' k count) where
  stored := h.stored
  sent := by
    intro k' number hk'
    rw [mem_send, mem_send, h.sent k' number hk']
    constructor
    . intro hsent
      rcases hsent with hsent | ⟨_, hk, hmem⟩
      . exact Or.inl hsent
      . rw [h.stored k (hk ▸ hk')] at hmem
        exact Or.inr ⟨rfl, hk, hmem⟩
    . intro hsent
      rcases hsent with hsent | ⟨_, hk, hmem⟩
      . exact Or.inl hsent
      . rw [← h.stored k (hk ▸ hk')] at hmem
        exact Or.inr ⟨rfl, hk, hmem⟩

omit [DecidableEq Reader'] in
theorem Agree.send_other (h : Agree keys c c' L L') {other : Reader} (hne : other ≠ c) (k : Channel)
    (count : Nat)
    : Agree keys c c' (L.send other k count) L' where
  stored := h.stored
  sent := by
    intro k' number hk'
    rw [mem_send, h.sent k' number hk']
    simp [Ne.symm hne]

end Agree

end Ledger
