import FleetWiseEdge.Inspection.Impl.Run
import FleetWiseEdge.Inspection.Lemmas.History

namespace DataInspection

open Cpp DataManagement

namespace CollectionInspectionEngine

variable {V : Type} [InspectionValue V]

def stopWaiting (s : CollectionInspectionEngine V) (i : Nat) : CollectionInspectionEngine V :=
  { s with
    mConditionsNotTriggeredWaitingPublished := s.mConditionsNotTriggeredWaitingPublished.set i true }

def isReady (condition : ActiveCondition V) (currentTime : Nat) : Prop :=
  currentTime ≥ u64 (condition.mLastTrigger + condition.mCondition.afterDuration)

instance (condition : ActiveCondition V) (currentTime : Nat)
    : Decidable (isReady condition currentTime) :=
  inferInstanceAs (Decidable (_ ≥ _))

def setCursor (s : CollectionInspectionEngine V) (i : Nat) : CollectionInspectionEngine V :=
  { s with mNextConditionToCollectedIndex := i }

def current (s : CollectionInspectionEngine V) : Nat :=
  if s.mNextConditionToCollectedIndex ≥ s.mConditions.length then
    0
  else
    s.mNextConditionToCollectedIndex

def setRandomNumbers (s : CollectionInspectionEngine V) (mRandomNumbers : Nat → V)
    : CollectionInspectionEngine V :=
  { s with mRandomNumbers }

variable {s : CollectionInspectionEngine V} {condition : ActiveCondition V}
variable {currentTime remaining minimumWaitTimeMs : Nat}

omit [InspectionValue V] in
@[simp]
theorem mConditions_stopWaiting (s : CollectionInspectionEngine V) (i : Nat)
    : (s.stopWaiting i).mConditions = s.mConditions :=
  rfl

omit [InspectionValue V] in
@[simp]
theorem mConditions_setCursor (s : CollectionInspectionEngine V) (i : Nat)
    : (s.setCursor i).mConditions = s.mConditions :=
  rfl

omit [InspectionValue V] in
@[simp]
theorem mConditions_setRandomNumbers (s : CollectionInspectionEngine V) (mRandomNumbers : Nat → V)
    : (s.setRandomNumbers mRandomNumbers).mConditions = s.mConditions :=
  rfl

theorem shallSendData_fst (s : CollectionInspectionEngine V) (p : V)
    : ∃ mRandomNumbers, (s.shallSendData p).1 = s.setRandomNumbers mRandomNumbers := by
  unfold shallSendData
  split
  . exact ⟨s.mRandomNumbers, rfl⟩
  . split
    . exact ⟨_, rfl⟩
    . exact ⟨s.mRandomNumbers, rfl⟩

theorem collectLoop_zero
    : s.collectLoop currentTime 0 minimumWaitTimeMs
        =
      { engine := s, waitTimeMs := some minimumWaitTimeMs } :=
  rfl

theorem collectLoop_not_waiting (hcond : s.mConditions[s.current]? = some condition)
    (hwait : s.mConditionsNotTriggeredWaitingPublished.test s.current = true)
    : s.collectLoop currentTime (remaining + 1) minimumWaitTimeMs
        =
      (s.setCursor (s.current + 1)).collectLoop currentTime remaining minimumWaitTimeMs := by
  conv => lhs; unfold collectLoop
  unfold current at hcond hwait
  simp only [hcond, hwait, if_true]
  rfl

theorem collectLoop_not_ready (hcond : s.mConditions[s.current]? = some condition)
    (hwait : s.mConditionsNotTriggeredWaitingPublished.test s.current = false)
    (hready : ¬isReady condition currentTime)
    : s.collectLoop currentTime (remaining + 1) minimumWaitTimeMs
        =
      (s.setCursor (s.current + 1)).collectLoop currentTime remaining
        (min minimumWaitTimeMs
          (u32 (u64 (condition.mLastTrigger + condition.mCondition.afterDuration) - currentTime))) := by
  conv => lhs; unfold collectLoop
  unfold current at hcond hwait
  unfold isReady at hready
  simp only [hcond, hwait, hready, if_false]
  rfl

theorem collectLoop_refuse (hcond : s.mConditions[s.current]? = some condition)
    (hwait : s.mConditionsNotTriggeredWaitingPublished.test s.current = false)
    (hready : isReady condition currentTime)
    (hsend : (((s.setCursor s.current).stopWaiting s.current).shallSendData
      condition.mCondition.probabilityToSend).2 = false)
    : s.collectLoop currentTime (remaining + 1) minimumWaitTimeMs
        =
      let sent := ((s.setCursor s.current).stopWaiting s.current).shallSendData
        condition.mCondition.probabilityToSend
      let result := (sent.1.setCursor (s.current + 1)).collectLoop currentTime remaining minimumWaitTimeMs
      { result with refused := s.current :: result.refused } := by
  conv => lhs; unfold collectLoop
  unfold stopWaiting setCursor current at hsend
  unfold current at hcond hwait
  unfold isReady at hready
  simp only [hcond, hwait, hready, if_true, Bool.false_eq_true, if_false]
  split
  . rename_i heq
    rw [heq] at hsend
    simp at hsend
  . rename_i heq
    simp only [stopWaiting, setCursor, current, heq]

theorem collectLoop_publish (hcond : s.mConditions[s.current]? = some condition)
    (hwait : s.mConditionsNotTriggeredWaitingPublished.test s.current = false)
    (hready : isReady condition currentTime)
    (hsend : (((s.setCursor s.current).stopWaiting s.current).shallSendData
      condition.mCondition.probabilityToSend).2 = true)
    : s.collectLoop currentTime (remaining + 1) minimumWaitTimeMs
        =
      let sent := ((s.setCursor s.current).stopWaiting s.current).shallSendData
        condition.mCondition.probabilityToSend
      let published := sent.1.publish condition s.current currentTime
      { engine := published.1
        data := some (s.current, published.2.1)
        eventMetadata := published.2.2 } := by
  conv => lhs; unfold collectLoop
  unfold stopWaiting setCursor current at hsend
  unfold current at hcond hwait
  unfold isReady at hready
  simp only [hcond, hwait, hready, if_true, Bool.false_eq_true, if_false]
  split
  . rename_i heq
    simp only [stopWaiting, setCursor, current, heq]
  . rename_i heq
    rw [heq] at hsend
    simp at hsend

theorem collectLoop_none (hcond : s.mConditions[s.current]? = none)
    : s.collectLoop currentTime (remaining + 1) minimumWaitTimeMs
        =
      { engine := s.setCursor s.current, waitTimeMs := some minimumWaitTimeMs } := by
  unfold collectLoop
  unfold current at hcond
  simp only [hcond]
  rfl

theorem collectLoop_induction
    {motive : CollectionInspectionEngine V → CollectionInspectionEngine V → List (Observation V) → Prop}
    (done : ∀ s, motive s s [])
    (move : ∀ s s' i log, motive (s.setCursor i) s' log → motive s s' log)
    (refuse : ∀ s s' i mRandomNumbers log condition, s.mConditions[i]? = some condition →
      s.mConditionsNotTriggeredWaitingPublished.test i = false → isReady condition currentTime →
      ((s.stopWaiting i).shallSendData condition.mCondition.probabilityToSend).2 = false →
      motive ((s.stopWaiting i).setRandomNumbers mRandomNumbers) s' log →
      motive s s' (.refused currentTime i :: log))
    (publish : ∀ s i mRandomNumbers condition, s.mConditions[i]? = some condition →
      s.mConditionsNotTriggeredWaitingPublished.test i = false → isReady condition currentTime →
      motive s
        (((s.stopWaiting i).setRandomNumbers mRandomNumbers).publish condition i currentTime).1
        [.published currentTime i
          (((s.stopWaiting i).setRandomNumbers mRandomNumbers).publish condition i currentTime).2.1])
    (remaining minimumWaitTimeMs : Nat) (s : CollectionInspectionEngine V)
    : motive s (s.collectLoop currentTime remaining minimumWaitTimeMs).engine
        (Observation.ofNextData currentTime
          (s.collectLoop currentTime remaining minimumWaitTimeMs)) := by
  induction remaining generalizing s minimumWaitTimeMs with
  | zero =>
    rw [collectLoop_zero]
    exact done s
  | succ remaining ih =>
    apply move s _ s.current
    cases hcond : s.mConditions[s.current]? with
    | none =>
      rw [collectLoop_none hcond]
      exact done _
    | some condition =>
      have hpass : ∀ minimumWaitTimeMs',
          motive (s.setCursor s.current)
            ((s.setCursor (s.current + 1)).collectLoop currentTime remaining minimumWaitTimeMs').engine
            (Observation.ofNextData currentTime
              ((s.setCursor (s.current + 1)).collectLoop currentTime remaining minimumWaitTimeMs')) := by
        intro minimumWaitTimeMs'
        apply move _ _ (s.current + 1)
        apply ih
      cases hwait : s.mConditionsNotTriggeredWaitingPublished.test s.current with
      | true =>
        rw [collectLoop_not_waiting hcond hwait]
        apply hpass
      | false =>
        by_cases hready : isReady condition currentTime
        . obtain ⟨mRandomNumbers, hrandom⟩ :=
            shallSendData_fst ((s.setCursor s.current).stopWaiting s.current)
              condition.mCondition.probabilityToSend
          cases hsend : (((s.setCursor s.current).stopWaiting s.current).shallSendData
              condition.mCondition.probabilityToSend).2 with
          | false =>
            rw [collectLoop_refuse hcond hwait hready hsend]
            dsimp only
            rw [hrandom]
            apply refuse (s.setCursor s.current) _ s.current mRandomNumbers _ condition
              hcond hwait hready hsend
            apply move _ _ (s.current + 1)
            apply ih
          | true =>
            rw [collectLoop_publish hcond hwait hready hsend]
            dsimp only
            rw [hrandom]
            exact publish (s.setCursor s.current) s.current mRandomNumbers condition
              hcond hwait hready
        . rw [collectLoop_not_ready hcond hwait hready]
          apply hpass

def Skimmed (s s' : CollectionInspectionEngine V) : Prop :=
  ∃ mNextConditionToCollectedIndex mConditionsNotTriggeredWaitingPublished mRandomNumbers,
    s' = { s with
      mNextConditionToCollectedIndex, mConditionsNotTriggeredWaitingPublished, mRandomNumbers }

omit [InspectionValue V] in
theorem Skimmed.trans {s s' s'' : CollectionInspectionEngine V} (h : Skimmed s s')
    (h' : Skimmed s' s'')
    : Skimmed s s'' := by
  have ⟨_, _, _, heq⟩ := h
  have ⟨_, _, _, heq'⟩ := h'
  rw [heq] at heq'
  exact ⟨_, _, _, heq'⟩

end CollectionInspectionEngine

def Observation.payload {V : Type} (observation : Observation V)
    : Option (Nat × TriggeredCollectionSchemeData V) :=
  match observation with
  | .published _ i data => some (i, data)
  | _ => none

theorem Observation.filterMap_ofNextData {V : Type} (currentTime : Nat) (next : NextDataToSend V)
    : (Observation.ofNextData currentTime next).filterMap Observation.payload = next.data.toList := by
  unfold Observation.ofNextData
  rw [List.filterMap_append, List.filterMap_map]
  have hrefused : next.refused.filterMap (Observation.payload (V := V) ∘ .refused currentTime) = [] := by
    rw [List.filterMap_eq_nil_iff]
    intro i _
    rfl
  rw [hrefused, List.nil_append]
  cases next.data with
  | none => rfl
  | some data => rfl

namespace CollectionInspectionEngine

def PublishesAtMostOne {V : Type} (currentTime : Nat) (s engine : CollectionInspectionEngine V)
    (log : List (Observation V))
    : Prop :=
  ∃ s', Skimmed s s'
    ∧
  (log.filterMap Observation.payload = [] ∧ engine = s'
    ∨
  ∃ i condition, s.mConditions[i]? = some condition
    ∧ log.filterMap Observation.payload = [(i, (s'.publish condition i currentTime).2.1)]
    ∧ engine = (s'.publish condition i currentTime).1)

theorem collectNextDataToSend_publishesAtMostOne {V : Type} [InspectionValue V]
    (s : CollectionInspectionEngine V) (currentTime : Nat)
    : PublishesAtMostOne currentTime s (s.collectNextDataToSend currentTime).engine
        (Observation.ofNextData currentTime (s.collectNextDataToSend currentTime)) := by
  unfold collectNextDataToSend
  dsimp only
  split
  . exact ⟨s, ⟨_, _, _, rfl⟩, Or.inl ⟨rfl, rfl⟩⟩
  . apply collectLoop_induction (motive := PublishesAtMostOne currentTime)
    . intro s
      exact ⟨s, ⟨_, _, _, rfl⟩, Or.inl ⟨rfl, rfl⟩⟩
    . intro s engine i log hrest
      have ⟨s', hskimmed, hcases⟩ := hrest
      exact ⟨s', Skimmed.trans ⟨_, _, _, rfl⟩ hskimmed, hcases⟩
    . intro s engine i mRandomNumbers log condition _ _ _ _ hrest
      have ⟨s', hskimmed, hcases⟩ := hrest
      exact ⟨s', Skimmed.trans ⟨_, _, _, rfl⟩ hskimmed, hcases⟩
    . intro s i mRandomNumbers condition hcond _ _
      exact ⟨_, ⟨_, _, _, rfl⟩, Or.inr ⟨i, condition, hcond, rfl, rfl⟩⟩

theorem collectNextDataToSend_spec {V : Type} [InspectionValue V] (s : CollectionInspectionEngine V)
    (currentTime : Nat)
    : ∃ s', Skimmed s s'
        ∧
      ((s.collectNextDataToSend currentTime).data = none
          ∧ (s.collectNextDataToSend currentTime).engine = s'
        ∨
      ∃ i condition, s.mConditions[i]? = some condition
          ∧ (s.collectNextDataToSend currentTime).data
            = some (i, (s'.publish condition i currentTime).2.1)
          ∧ (s.collectNextDataToSend currentTime).engine = (s'.publish condition i currentTime).1) := by
  have ⟨s', hskimmed, hcases⟩ := collectNextDataToSend_publishesAtMostOne s currentTime
  rw [Observation.filterMap_ofNextData] at hcases
  refine ⟨s', hskimmed, ?_⟩
  cases hcases with
  | inl hnone => exact Or.inl ⟨by simpa using hnone.1, hnone.2⟩
  | inr hsome =>
    have ⟨i, condition, hcond, hdata, hengine⟩ := hsome
    rw [Option.toList_eq_singleton_iff] at hdata
    exact Or.inr ⟨i, condition, hcond, hdata, hengine⟩

end CollectionInspectionEngine

namespace CollectionInspectionEngine

variable {V : Type} {s : CollectionInspectionEngine V} {condition : ActiveCondition V}
variable {currentTime : Nat}

theorem foldl_collectLastSignals_frame (conditionId : Nat)
    (signals : List InspectionMatrixSignalCollectionInfo) (c : Collecting V)
    : ∃ mSignalBuffers,
        (signals.foldl (Collecting.collectLastSignals conditionId) c).engine
          =
        { c.engine with mSignalBuffers } := by
  induction signals generalizing c with
  | nil => exact ⟨c.engine.mSignalBuffers, rfl⟩
  | cons signal signals ih =>
    obtain ⟨mSignalBuffers, hframe⟩ := ih (c.collectLastSignals conditionId signal)
    rw [List.foldl_cons]
    rw [hframe]
    unfold Collecting.collectLastSignals
    split
    . exact ⟨mSignalBuffers, rfl⟩
    . split
      . exact ⟨mSignalBuffers, rfl⟩
      . exact ⟨mSignalBuffers, rfl⟩

theorem foldl_collectLastSignals_forall₂ {R : SignalHistoryBuffer V → SignalHistoryBuffer V → Prop}
    (hrefl : ∀ b, R b b) (htrans : ∀ a b c, R a b → R b c → R a c) (conditionId : Nat)
    (hcollect : ∀ (b : SignalHistoryBuffer V) (maxNumber : Nat) (once : Bool) (newestTimestamp : Nat),
      R b { b with
        mBuffer := (b.collectLastSamples maxNumber conditionId once newestTimestamp).mBuffer })
    (signals : List InspectionMatrixSignalCollectionInfo) (c : Collecting V)
    : List.Forall₂ R c.engine.mSignalBuffers
        (signals.foldl (Collecting.collectLastSignals conditionId) c).engine.mSignalBuffers := by
  induction signals generalizing c with
  | nil => exact List.forall₂_same.mpr fun b _ => hrefl b
  | cons signal signals ih =>
    apply KeyedList.forall₂_trans htrans _ (ih _)
    unfold Collecting.collectLastSignals
    split
    . exact List.forall₂_same.mpr fun b _ => hrefl b
    . rename_i buf hbuf
      split
      . apply KeyedList.update_forall₂ hrefl
        intro b hb
        have heq : buf = b := Option.some_inj.mp (hbuf.symm.trans hb)
        rw [heq]
        exact hcollect b _ _ _
      . exact List.forall₂_same.mpr fun b _ => hrefl b

theorem foldl_collectLastCanFrames_frame (conditionId : Nat)
    (canFrames : List InspectionMatrixCanFrameCollectionInfo) (c : Collecting V)
    : ∃ mCanFrameBuffers,
        (canFrames.foldl (Collecting.collectLastCanFrames conditionId) c).engine
          =
        { c.engine with mCanFrameBuffers } := by
  induction canFrames generalizing c with
  | nil => exact ⟨c.engine.mCanFrameBuffers, rfl⟩
  | cons f canFrames ih =>
    obtain ⟨mCanFrameBuffers, hframe⟩ := ih (c.collectLastCanFrames conditionId f)
    rw [List.foldl_cons]
    rw [hframe]
    unfold Collecting.collectLastCanFrames
    split
    . exact ⟨mCanFrameBuffers, rfl⟩
    . exact ⟨mCanFrameBuffers, rfl⟩

theorem collectSamples_frame (s : CollectionInspectionEngine V) (condition : ActiveCondition V)
    (conditionId : Nat)
    : ∃ mSignalBuffers mCanFrameBuffers,
        (s.collectSamples condition conditionId).engine
          =
        { s with mSignalBuffers, mCanFrameBuffers } := by
  unfold collectSamples
  obtain ⟨mCanFrameBuffers, hframes⟩ := foldl_collectLastCanFrames_frame conditionId
    condition.mCondition.canFrames
    ((condition.mCondition.signals.filter fun s => !s.isConditionOnlySignal).foldl
      (Collecting.collectLastSignals conditionId) ⟨s, 0, [], []⟩)
  obtain ⟨mSignalBuffers, hsignals⟩ := foldl_collectLastSignals_frame conditionId
    (condition.mCondition.signals.filter fun s => !s.isConditionOnlySignal)
    (⟨s, 0, [], []⟩ : Collecting V)
  rw [hsignals] at hframes
  exact ⟨mSignalBuffers, mCanFrameBuffers, hframes⟩

theorem collectData_frame (s : CollectionInspectionEngine V) (condition : ActiveCondition V)
    (conditionId : Nat)
    : ∃ mSignalBuffers mCanFrameBuffers mActiveDTCsConsumed mGeohashFunctionNode,
        (s.collectData condition conditionId).1
          =
        { s with mSignalBuffers, mCanFrameBuffers, mActiveDTCsConsumed, mGeohashFunctionNode } := by
  obtain ⟨mSignalBuffers, mCanFrameBuffers, hframe⟩ := collectSamples_frame s condition conditionId
  unfold collectData
  dsimp only
  rw [hframe]
  split
  . split
    . exact ⟨mSignalBuffers, mCanFrameBuffers, _, _, rfl⟩
    . exact ⟨mSignalBuffers, mCanFrameBuffers, _, _, rfl⟩
  . split
    . exact ⟨mSignalBuffers, mCanFrameBuffers, _, _, rfl⟩
    . exact ⟨mSignalBuffers, mCanFrameBuffers, _, _, rfl⟩

variable {i : Nat}

@[simp]
theorem publish_triggerTime
    : (s.publish condition i currentTime).2.1.triggerTime = condition.mLastTrigger :=
  rfl

theorem publish_frame (s : CollectionInspectionEngine V) (condition : ActiveCondition V)
    (i currentTime : Nat)
    : ∃ mSignalBuffers mCanFrameBuffers mActiveDTCsConsumed mGeohashFunctionNode eventCounter
        mEventID mLastDataTimestampPublished,
        (s.publish condition i currentTime).1
          =
        { s with
          mSignalBuffers, mCanFrameBuffers, mActiveDTCsConsumed, mGeohashFunctionNode, eventCounter
          mConditions := s.mConditions.modify i fun condition =>
            { condition with mEventID, mLastDataTimestampPublished } } := by
  obtain ⟨mSignalBuffers, mCanFrameBuffers, mActiveDTCsConsumed, mGeohashFunctionNode, hframe⟩ :=
    collectData_frame (s.generateEventID currentTime).1
      { condition with mEventID := (s.generateEventID currentTime).2 } i
  unfold publish
  dsimp only
  rw [hframe]
  exact ⟨mSignalBuffers, mCanFrameBuffers, mActiveDTCsConsumed, mGeohashFunctionNode, _, _, _, rfl⟩

section Signals

def collectSignals (s : CollectionInspectionEngine V) (p : ConditionWithCollectedData V) (i : Nat)
    : Collecting V :=
  (p.signals.filter fun s => !s.isConditionOnlySignal).foldl (Collecting.collectLastSignals i)
    ⟨s, 0, [], []⟩

theorem foldl_collectLastCanFrames_signals (conditionId : Nat)
    (canFrames : List InspectionMatrixCanFrameCollectionInfo) (c : Collecting V)
    : (canFrames.foldl (Collecting.collectLastCanFrames conditionId) c).signals = c.signals
        ∧
      (canFrames.foldl (Collecting.collectLastCanFrames conditionId) c).engine.mSignalBuffers
        =
      c.engine.mSignalBuffers := by
  induction canFrames generalizing c with
  | nil => exact ⟨rfl, rfl⟩
  | cons f canFrames ih =>
    rw [List.foldl_cons]
    rw [(ih _).1, (ih _).2]
    unfold Collecting.collectLastCanFrames
    split <;> exact ⟨rfl, rfl⟩

theorem publish_signals (s : CollectionInspectionEngine V) (condition : ActiveCondition V)
    (i currentTime : Nat)
    : (s.publish condition i currentTime).2.1.signals
        =
      ((s.generateEventID currentTime).1.collectSignals condition.mCondition i).signals := by
  apply (foldl_collectLastCanFrames_signals i condition.mCondition.canFrames _).1

theorem publish_mSignalBuffers (s : CollectionInspectionEngine V) (condition : ActiveCondition V)
    (i currentTime : Nat)
    : (s.publish condition i currentTime).1.mSignalBuffers
        =
      ((s.generateEventID currentTime).1.collectSignals condition.mCondition i).engine.mSignalBuffers := by
  have hsamples := (foldl_collectLastCanFrames_signals i condition.mCondition.canFrames
    ((s.generateEventID currentTime).1.collectSignals condition.mCondition i)).2
  rw [← hsamples]
  unfold publish collectData
  dsimp only
  split
  . split <;> rfl
  . split <;> rfl

end Signals

section Readings

def SameReadings (b b' : SignalHistoryBuffer V) : Prop :=
  b' = { b with mBuffer := b'.mBuffer } ∧ b'.mBuffer.map (·.content) = b.mBuffer.map (·.content)

theorem SameReadings.refl (b : SignalHistoryBuffer V) : SameReadings b b := ⟨rfl, rfl⟩

theorem SameReadings.trans {b b' b'' : SignalHistoryBuffer V} (h : SameReadings b b')
    (h' : SameReadings b' b'')
    : SameReadings b b'' := by
  constructor
  . rw [h'.1, h.1]
  . exact h'.2.trans h.2

theorem SameReadings.ptr {b b' : SignalHistoryBuffer V} (h : SameReadings b b') : b'.ptr = b.ptr := by
  rw [h.1]
  rfl

theorem publish_forall₂ (s : CollectionInspectionEngine V) (condition : ActiveCondition V)
    (i currentTime : Nat)
    : List.Forall₂ SameReadings s.mSignalBuffers
        (s.publish condition i currentTime).1.mSignalBuffers := by
  rw [publish_mSignalBuffers]
  refine foldl_collectLastSignals_forall₂ SameReadings.refl (fun _ _ _ => SameReadings.trans) i ?_ _
    ⟨(s.generateEventID currentTime).1, 0, [], []⟩
  intro b maxNumber once newestTimestamp
  refine ⟨rfl, ?_⟩
  apply HistoryBuffer.collectSamples_map
  intro sample
  rfl

end Readings

end CollectionInspectionEngine

end DataInspection
