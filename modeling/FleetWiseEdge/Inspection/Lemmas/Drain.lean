import FleetWiseEdge.Inspection.Lemmas.Collect
import Mathlib.Data.Finset.Card

namespace DataInspection

open Cpp DataManagement

namespace CollectionInspectionEngine

variable {V : Type} [InspectionValue V] {s : CollectionInspectionEngine V}
variable {currentTime remaining : Nat}

def Publishable (s : CollectionInspectionEngine V) (currentTime j : Nat) (ac : ActiveCondition V) : Prop :=
  s.mConditions[j]? = some ac
    ∧ s.mConditionsNotTriggeredWaitingPublished.test j = false
    ∧ isReady ac currentTime

def published (s : CollectionInspectionEngine V) (i currentTime j : Nat) (ac : ActiveCondition V)
    : CollectionInspectionEngine V × TriggeredCollectionSchemeData V × Option (List EventMetadata) :=
  ((s.setCursor i).stopWaiting j).publish ac j currentTime

/--
The two outcomes of a call. `passed` are the conditions that were looked at in vain.
-/
def SendsNextReady (s : CollectionInspectionEngine V) (currentTime : Nat) (passed : Nat → Prop)
    (next : NextDataToSend V)
    : Prop :=
  next.refused = []
    ∧
  ((next.data = none ∧ (∃ i, next.engine = s.setCursor i)
      ∧ ∀ j ac, passed j → ¬s.Publishable currentTime j ac)
    ∨
  ∃ i j ac, s.Publishable currentTime j ac
    ∧ next.data = some (j, (s.published i currentTime j ac).2.1)
    ∧ next.engine = (s.published i currentTime j ac).1)

omit [InspectionValue V] in
theorem current_lt (hpos : 0 < s.mConditions.length) : s.current < s.mConditions.length := by
  unfold current
  split
  . exact hpos
  . omega

omit [InspectionValue V] in
theorem current_setCursor
    : (s.setCursor (s.current + 1)).current
        =
      if s.current + 1 ≥ s.mConditions.length then 0 else s.current + 1 :=
  rfl

def turn (s : CollectionInspectionEngine V) (remaining j : Nat) : Prop :=
  ∃ d < remaining, j = (s.current + d) % s.mConditions.length

omit [InspectionValue V] in
theorem turn_succ {j : Nat} (h : s.turn (remaining + 1) j) (hpos : 0 < s.mConditions.length)
    : j = s.current ∨ (s.setCursor (s.current + 1)).turn remaining j := by
  have ⟨d, hd, hj⟩ := h
  have hlt := current_lt hpos
  cases d with
  | zero =>
    rw [Nat.add_zero, Nat.mod_eq_of_lt hlt] at hj
    exact Or.inl hj
  | succ d =>
    refine Or.inr ⟨d, by omega, ?_⟩
    rw [current_setCursor, hj]
    show _ = _ % s.mConditions.length
    split
    . rename_i hlast
      have hwrap : s.current + (d + 1) = s.mConditions.length + d := by omega
      rw [hwrap, Nat.add_mod_left, Nat.zero_add]
    . congr 1
      omega

omit [InspectionValue V] in
theorem turn_all {j : Nat} (hj : j < s.mConditions.length) : s.turn s.mConditions.length j := by
  have hlt := current_lt (s := s) (by omega)
  by_cases hle : s.current ≤ j
  . refine ⟨j - s.current, by omega, ?_⟩
    rw [show s.current + (j - s.current) = j by omega, Nat.mod_eq_of_lt hj]
  . refine ⟨j + s.mConditions.length - s.current, by omega, ?_⟩
    rw [show s.current + (j + s.mConditions.length - s.current) = j + s.mConditions.length by omega]
    rw [Nat.add_mod_right, Nat.mod_eq_of_lt hj]

theorem shallSendData_disabled (hdisable : s.mDisableProbability = true) (p : V)
    : s.shallSendData p = (s, true) := by
  unfold shallSendData
  rw [hdisable]
  rfl

theorem collectLoop_sendsNextReady (s : CollectionInspectionEngine V)
    (hdisable : s.mDisableProbability = true) (currentTime remaining minimumWaitTimeMs : Nat)
    : s.SendsNextReady currentTime (s.turn remaining)
        (s.collectLoop currentTime remaining minimumWaitTimeMs) := by
  induction remaining generalizing s minimumWaitTimeMs with
  | zero =>
    refine ⟨rfl, Or.inl ⟨rfl, ⟨s.mNextConditionToCollectedIndex, rfl⟩, ?_⟩⟩
    intro j ac hturn
    have ⟨d, hd, _⟩ := hturn
    omega
  | succ remaining ih =>
    cases hcond : s.mConditions[s.current]? with
    | none =>
      rw [collectLoop_none hcond]
      refine ⟨rfl, Or.inl ⟨rfl, ⟨s.current, rfl⟩, ?_⟩⟩
      intro j ac _ hpublishable
      have hlt := (List.getElem?_eq_some_iff.mp hpublishable.1).1
      have hcurrent := current_lt (s := s) (by omega)
      rw [List.getElem?_eq_none_iff] at hcond
      omega
    | some condition =>
      have hpos : 0 < s.mConditions.length := by
        have := (List.getElem?_eq_some_iff.mp hcond).1
        omega
      -- the current condition is not publishable, the rest of the turn is that of the next call
      have hpass : (∀ ac, ¬s.Publishable currentTime s.current ac) → ∀ minimumWaitTimeMs,
          s.SendsNextReady currentTime (s.turn (remaining + 1))
            ((s.setCursor (s.current + 1)).collectLoop currentTime remaining minimumWaitTimeMs) := by
        intro hnot minimumWaitTimeMs
        have ⟨hrefused, hcases⟩ := ih (s.setCursor (s.current + 1)) hdisable minimumWaitTimeMs
        refine ⟨hrefused, ?_⟩
        cases hcases with
        | inl hnone =>
          have ⟨hdata, ⟨i, hengine⟩, hpassed⟩ := hnone
          refine Or.inl ⟨hdata, ⟨i, hengine⟩, ?_⟩
          intro j ac hturn
          cases turn_succ hturn hpos with
          | inl hj =>
            rw [hj]
            exact hnot ac
          | inr hturn => exact hpassed j ac hturn
        | inr hsome => exact Or.inr hsome
      cases hwait : s.mConditionsNotTriggeredWaitingPublished.test s.current with
      | true =>
        rw [collectLoop_not_waiting hcond hwait]
        apply hpass
        intro ac hpublishable
        rw [hpublishable.2.1] at hwait
        cases hwait
      | false =>
        by_cases hready : isReady condition currentTime
        . have hsend := shallSendData_disabled (s := (s.setCursor s.current).stopWaiting s.current)
            hdisable condition.mCondition.probabilityToSend
          rw [collectLoop_publish hcond hwait hready (by rw [hsend])]
          rw [hsend]
          exact ⟨rfl, Or.inr ⟨s.current, s.current, condition, ⟨hcond, hwait, hready⟩, rfl, rfl⟩⟩
        . rw [collectLoop_not_ready hcond hwait hready]
          apply hpass
          intro ac hpublishable
          apply hready
          rw [Option.some_inj.mp (hcond.symm.trans hpublishable.1)]
          exact hpublishable.2.2

theorem collectNextDataToSend_sendsNextReady (currentTime : Nat)
    (hdisable : s.mDisableProbability = true)
    (hsize : s.mConditions.length ≤ MAX_NUMBER_OF_ACTIVE_CONDITION)
    : s.SendsNextReady currentTime (fun _ => True) (s.collectNextDataToSend currentTime) := by
  unfold collectNextDataToSend
  dsimp only
  split
  . rename_i hall
    rw [Bitset.all_iff] at hall
    refine ⟨rfl, Or.inl ⟨rfl, ⟨s.mNextConditionToCollectedIndex, rfl⟩, ?_⟩⟩
    intro j ac _ hpublishable
    have hlt := (List.getElem?_eq_some_iff.mp hpublishable.1).1
    have hbit := hall j (by omega)
    rw [hpublishable.2.1] at hbit
    cases hbit
  . have ⟨hrefused, hcases⟩ := collectLoop_sendsNextReady s hdisable currentTime
      s.mConditions.length (2 ^ 32 - 1)
    refine ⟨hrefused, ?_⟩
    cases hcases with
    | inl hnone =>
      have ⟨hdata, hengine, hpassed⟩ := hnone
      refine Or.inl ⟨hdata, hengine, ?_⟩
      intro j ac _ hpublishable
      exact hpassed j ac (turn_all (List.getElem?_eq_some_iff.mp hpublishable.1).1) hpublishable
    | inr hsome => exact Or.inr hsome

section Until

omit [InspectionValue V] in
theorem published_frame (s : CollectionInspectionEngine V) (i currentTime j : Nat)
    (ac : ActiveCondition V)
    : (s.published i currentTime j ac).1.mConditionsNotTriggeredWaitingPublished
          = s.mConditionsNotTriggeredWaitingPublished.set j true
        ∧
      (s.published i currentTime j ac).1.mConditions.length = s.mConditions.length
        ∧
      (s.published i currentTime j ac).1.mDisableProbability = s.mDisableProbability := by
  have ⟨_, _, _, _, _, _, _, hframe⟩ :=
    publish_frame ((s.setCursor i).stopWaiting j) ac j currentTime
  unfold published
  rw [hframe]
  refine ⟨rfl, ?_, rfl⟩
  dsimp only
  rw [List.length_modify]
  rfl

def waitingConditions (s : CollectionInspectionEngine V) : Finset Nat :=
  (Finset.range s.mConditions.length).filter fun j =>
    s.mConditionsNotTriggeredWaitingPublished.test j = false

omit [InspectionValue V] in
theorem waitingConditions_published {i j : Nat} {ac : ActiveCondition V}
    (hpublishable : s.Publishable currentTime j ac)
    : (s.published i currentTime j ac).1.waitingConditions.card < s.waitingConditions.card := by
  have ⟨hbits, hlength, _⟩ := published_frame s i currentTime j ac
  have hlt := (List.getElem?_eq_some_iff.mp hpublishable.1).1
  apply Finset.card_lt_card
  rw [Finset.ssubset_iff_of_subset]
  . refine ⟨j, ?_, ?_⟩
    . unfold waitingConditions
      rw [Finset.mem_filter, Finset.mem_range]
      exact ⟨hlt, hpublishable.2.1⟩
    . unfold waitingConditions
      rw [Finset.mem_filter, hbits, Bitset.test_set_self]
      simp
  . intro k
    unfold waitingConditions
    rw [Finset.mem_filter, Finset.mem_filter, hlength, hbits, Bitset.test_set]
    split
    . simp
    . exact id

omit [InspectionValue V] in
theorem waitingConditions_le (s : CollectionInspectionEngine V)
    : s.waitingConditions.card ≤ s.mConditions.length := by
  apply Nat.le_trans (Finset.card_filter_le _ _)
  rw [Finset.card_range]

theorem collectUntilNull_induction
    {motive : CollectionInspectionEngine V → CollectionInspectionEngine V → List (Observation V) → Prop}
    (null : ∀ s i, (∀ j ac, ¬s.Publishable currentTime j ac) → motive s (s.setCursor i) [])
    (publish : ∀ s s' i j ac log, s.Publishable currentTime j ac →
      motive (s.published i currentTime j ac).1 s' log →
      motive s s' (.published currentTime j (s.published i currentTime j ac).2.1 :: log))
    (calls : Nat) (s : CollectionInspectionEngine V) (hcalls : s.waitingConditions.card < calls)
    (hdisable : s.mDisableProbability = true)
    (hsize : s.mConditions.length ≤ MAX_NUMBER_OF_ACTIVE_CONDITION)
    : motive s (s.collectUntilNull calls currentTime).1 (s.collectUntilNull calls currentTime).2 := by
  induction calls generalizing s with
  | zero => omega
  | succ calls ih =>
    have ⟨hrefused, hcases⟩ := collectNextDataToSend_sendsNextReady currentTime hdisable hsize
    unfold collectUntilNull
    dsimp only
    rcases hcases with ⟨hdata, ⟨i, hengine⟩, hpassed⟩ | ⟨i, j, ac, hpublishable, hdata, hengine⟩
    . rw [hdata]
      unfold Observation.ofNextData
      rw [hdata, hrefused, hengine]
      apply null
      intro j ac
      exact hpassed j ac trivial
    . have ⟨_, hlength, hdisabled⟩ := published_frame s i currentTime j ac
      have hless := waitingConditions_published (i := i) hpublishable
      rw [hdata]
      unfold Observation.ofNextData
      rw [hdata, hrefused, hengine]
      apply publish _ _ _ _ _ _ hpublishable
      apply ih
      . omega
      . rw [hdisabled]
        exact hdisable
      . rw [hlength]
        exact hsize

end Until

end CollectionInspectionEngine

end DataInspection
