import FleetWiseEdge.Inspection.Impl.Run
import FleetWiseEdge.Inspection.Lemmas.Marks

/-!
This module contains what an invalid condition does to the other conditions of its matrix. Either the
engine does not come to it and behaves as without it, or it rejects the whole matrix and does nothing.
-/

namespace DataInspection

open Cpp DataManagement

namespace CollectionInspectionEngine

variable {V : Type} [InspectionValue V] {s : CollectionInspectionEngine V}

section Inert

-- No ring has a slot, no condition reads a buffer and no condition is up for evaluation or publishing.
structure Inert (s : CollectionInspectionEngine V) : Prop where
  notWaiting : s.mConditionsNotTriggeredWaitingPublished = Bitset.ofBool true
  notTrue : s.mConditionsWithConditionCurrentlyTrue = Bitset.ofBool false
  notChanged : s.mConditionsWithInputSignalChanged = Bitset.ofBool false
  signals : ∀ b ∈ s.mSignalBuffers,
    b.mBuffer = [] ∧ b.mConditionsThatEvaluateOnThisSignal = Bitset.ofBool false
  canFrames : ∀ b ∈ s.mCanFrameBuffers, b.mBuffer = []

theorem not_acceptsSample {α : Type} {b : HistoryBuffer α} (h : b.mBuffer = []) (receiveTime : Nat)
    : b.acceptsSample receiveTime = false := by
  unfold HistoryBuffer.acceptsSample
  rw [h, List.length_nil]
  by_cases hsize : b.mSize > 0
  . simp [Nat.not_le.mpr hsize]
  . simp [hsize]

namespace Inert

theorem addNewSignal (h : s.Inert) (id : SignalID) (receiveTime : Nat) (value : V)
    : (s.addNewSignal id receiveTime value).Inert := by
  have hchanged : (s.addNewSignal id receiveTime value).mConditionsWithInputSignalChanged
      = s.mConditionsWithInputSignalChanged := by
    apply visitBuffers_unread _ s.changeMarks
    . intro b hb
      exact (h.signals b hb).2
    . intro b marks
      dsimp only
      split
      . exact Or.inr rfl
      . exact Or.inl rfl
  constructor
  . exact h.notWaiting
  . exact h.notTrue
  . rw [hchanged]
    exact h.notChanged
  . rw [addNewSignal_buffers]
    intro b hb
    have ⟨b', hb', heq⟩ := List.mem_map.mp hb
    have ⟨hempty, hread⟩ := h.signals b' hb'
    have hsame : b'.addSample id receiveTime value = b' := by
      unfold SignalHistoryBuffer.addSample
      rw [not_acceptsSample hempty, Bool.and_false]
      rfl
    rw [← heq, hsame]
    exact ⟨hempty, hread⟩
  . exact h.canFrames

omit [InspectionValue V] in
theorem addNewRawCanFrame (h : s.Inert) (canID channelID receiveTime : Nat) (buffer : CanFrameBytes)
    (size : Nat)
    : (s.addNewRawCanFrame canID channelID receiveTime buffer size).Inert := by
  constructor
  . exact h.notWaiting
  . exact h.notTrue
  . exact h.notChanged
  . exact h.signals
  . intro b hb
    have ⟨b', hb', heq⟩ := List.mem_map.mp hb
    have hempty := h.canFrames b' hb'
    rw [← heq, not_acceptsSample hempty, Bool.and_false]
    exact hempty

theorem updateAllFixedWindowFunctions (h : s.Inert) (currentTime : Nat)
    : (s.updateAllFixedWindowFunctions currentTime).Inert := by
  have hchanged : (s.updateAllFixedWindowFunctions currentTime).mConditionsWithInputSignalChanged
      = s.mConditionsWithInputSignalChanged := by
    apply visitBuffers_unread _ ⟨2 ^ 64 - 1, s.mConditionsWithInputSignalChanged⟩
    . intro b hb
      exact (h.signals b hb).2
    . intro b marks
      dsimp only
      split
      . exact Or.inr rfl
      . exact Or.inl rfl
  constructor
  . exact h.notWaiting
  . exact h.notTrue
  . rw [hchanged]
    exact h.notChanged
  . rw [updateAllFixedWindowFunctions_buffers]
    intro b hb
    have ⟨b', hb', heq⟩ := List.mem_map.mp hb
    rw [← heq]
    exact h.signals b' hb'
  . exact h.canFrames

theorem evaluateConditions (h : s.Inert) (currentTime : Nat)
    : (s.evaluateConditions currentTime).1.Inert ∧ (s.evaluateConditions currentTime).2 = [] := by
  have hnone : ∀ s : CollectionInspectionEngine V, s.Inert →
      s.conditionsToEvaluate.none MAX_NUMBER_OF_ACTIVE_CONDITION = true := by
    intro s h
    rw [Bitset.none_iff]
    intro idx _
    unfold conditionsToEvaluate
    simp [h.notTrue, h.notChanged]
  unfold CollectionInspectionEngine.evaluateConditions
  dsimp only
  split
  . have hupdated := h.updateAllFixedWindowFunctions currentTime
    rw [if_pos (hnone _ hupdated)]
    exact ⟨hupdated, rfl⟩
  . rw [if_pos (hnone _ h)]
    exact ⟨h, rfl⟩

theorem collectNextDataToSend (h : s.Inert) (currentTime : Nat)
    : (s.collectNextDataToSend currentTime).engine = s
        ∧
      Observation.ofNextData currentTime (s.collectNextDataToSend currentTime) = [] := by
  unfold CollectionInspectionEngine.collectNextDataToSend
  dsimp only
  rw [if_pos]
  . exact ⟨rfl, rfl⟩
  . rw [Bitset.all_iff]
    intro idx _
    simp [h.notWaiting]

theorem step (h : s.Inert) (event : EngineEvent V)
    : (s.step event).1.Inert ∧ (s.step event).2 = [] := by
  cases event with
  | addNewSignal id receiveTime value => exact ⟨h.addNewSignal id receiveTime value, rfl⟩
  | addNewRawCanFrame canID channelID receiveTime buffer size =>
    exact ⟨h.addNewRawCanFrame canID channelID receiveTime buffer size, rfl⟩
  | setActiveDTCs activeDTCs =>
    refine ⟨?_, rfl⟩
    constructor
    . exact h.notWaiting
    . exact h.notTrue
    . exact h.notChanged
    . exact h.signals
    . exact h.canFrames
  | evaluateConditions currentTime =>
    have ⟨hinert, hnone⟩ := h.evaluateConditions currentTime
    unfold CollectionInspectionEngine.step
    dsimp only
    rw [hnone]
    exact ⟨hinert, rfl⟩
  | collectNextDataToSend currentTime =>
    have ⟨hsame, hlog⟩ := h.collectNextDataToSend currentTime
    unfold CollectionInspectionEngine.step
    dsimp only
    rw [hsame]
    exact ⟨h, hlog⟩

theorem run (h : s.Inert) (events : List (EngineEvent V))
    : (s.run events).1.Inert ∧ (s.run events).2 = [] := by
  induction events generalizing s with
  | nil => exact ⟨h, rfl⟩
  | cons event events ih =>
    have ⟨hnext, hlog⟩ := h.step event
    have ⟨hlast, hrest⟩ := ih hnext
    unfold CollectionInspectionEngine.run at hlast hrest ⊢
    rw [Machine.run_cons, hlog, hrest]
    exact ⟨hlast, rfl⟩

end Inert

theorem addFixedWindow_unread (b : SignalHistoryBuffer V) (windowSizeMs : Nat)
    : (b.addFixedWindow windowSizeMs).mBuffer = b.mBuffer
        ∧
      (b.addFixedWindow windowSizeMs).mConditionsThatEvaluateOnThisSignal
        =
      b.mConditionsThatEvaluateOnThisSignal := by
  unfold SignalHistoryBuffer.addFixedWindow
  split
  . exact ⟨rfl, rfl⟩
  . split
    . exact ⟨rfl, rfl⟩
    . exact ⟨rfl, rfl⟩

theorem requestSignals_unread (signals : List InspectionMatrixSignalCollectionInfo)
    {buffers : List (SignalHistoryBuffer V)}
    (h : ∀ b ∈ buffers, b.mBuffer = [] ∧ b.mConditionsThatEvaluateOnThisSignal = Bitset.ofBool false)
    : ∀ b ∈ signals.foldl requestSignal buffers,
        b.mBuffer = [] ∧ b.mConditionsThatEvaluateOnThisSignal = Bitset.ofBool false := by
  induction signals generalizing buffers with
  | nil => exact h
  | cons signal signals ih =>
    apply ih
    apply KeyedList.insert_forall _ _ h
    . intro b _ hb
      have ⟨hring, hread⟩ := addFixedWindow_unread
        { b with mSize := max b.mSize signal.sampleBufferSize } signal.fixedWindowPeriod
      unfold grownBuffer
      rw [hring, hread]
      exact hb
    . have ⟨hring, hread⟩ := addFixedWindow_unread
        (.ofRequest signal.signalID signal.sampleBufferSize signal.minimumSampleIntervalMs :
          SignalHistoryBuffer V) signal.fixedWindowPeriod
      unfold newBuffer
      rw [hring, hread]
      exact ⟨rfl, rfl⟩

theorem requestCanFrames_unallocated (canFrames : List InspectionMatrixCanFrameCollectionInfo)
    {buffers : List CanFrameHistoryBuffer} (h : ∀ b ∈ buffers, b.mBuffer = [])
    : ∀ b ∈ canFrames.foldl requestCanFrame buffers, b.mBuffer = [] := by
  induction canFrames generalizing buffers with
  | nil => exact h
  | cons c canFrames ih =>
    apply ih
    apply KeyedList.insert_forall _ _ h
    . intro b _ hb
      exact hb
    . rfl

/--
Wherever `onChangeInspectionMatrix` returns early, it has not marked or allocated anything yet.
-/
theorem inert_onChangeInspectionMatrix (s : CollectionInspectionEngine V) (order : IterationOrder V)
    {m : InspectionMatrix V} (hm : ¬m.Accepted)
    : (s.onChangeInspectionMatrix order m).Inert := by
  have ⟨requested, requestedFrames, mConditions, hframe⟩ := onChangeInspectionMatrix_rejected s order hm
  rw [hframe]
  constructor
  . rfl
  . rfl
  . rfl
  . apply requestSignals_unread
    intro b hb
    cases hb
  . apply requestCanFrames_unallocated
    intro b hb
    cases hb

end Inert

section Matrix

def withMatrix (s : CollectionInspectionEngine V) (m : InspectionMatrix V)
    : CollectionInspectionEngine V :=
  { s with mActiveInspectionMatrix := m }

variable {m : InspectionMatrix V}
variable (hstorage : m.expressionNodeStorage = s.mActiveInspectionMatrix.expressionNodeStorage)

include hstorage in
theorem evaluateCondition_withMatrix (currentTime i : Nat)
    : (s.withMatrix m).evaluateCondition currentTime i
        =
      ((s.evaluateCondition currentTime i).1.withMatrix m, (s.evaluateCondition currentTime i).2) := by
  cases hcond : s.mConditions[i]? with
  | none =>
    rw [evaluateCondition_none hcond]
    rw [evaluateCondition_none (by exact hcond)]
  | some ac =>
    have heval : (s.withMatrix m).evalCondition ac = s.evalCondition ac := by
      unfold evalCondition withMatrix
      dsimp only
      rw [hstorage]
    have htrue : (s.withMatrix m).isTrueNow ac = s.isTrueNow ac := congrArg (·.1.isTrue) heval
    have htriggers : (s.withMatrix m).triggersNow ac i = s.triggersNow ac i := by
      unfold triggersNow
      rw [htrue]
      rfl
    by_cases hdue : isDue ac currentTime
    . rw [evaluateCondition_due hcond hdue]
      rw [evaluateCondition_due (by exact hcond) hdue]
      unfold afterEvaluation
      rw [heval, htrue, htriggers]
      rfl
    . rw [evaluateCondition_not_due hcond hdue]
      rw [evaluateCondition_not_due (by exact hcond) hdue]

include hstorage in
theorem evaluateLoop_withMatrix (currentTime : Nat) (toEvaluate : Bitset) (remaining i : Nat)
    : (s.withMatrix m).evaluateLoop currentTime toEvaluate remaining i
        =
      ((s.evaluateLoop currentTime toEvaluate remaining i).1.withMatrix m,
        (s.evaluateLoop currentTime toEvaluate remaining i).2) := by
  induction remaining generalizing s i with
  | zero => rfl
  | succ remaining ih =>
    rw [evaluateLoop_succ, evaluateLoop_succ]
    cases toEvaluate.test i with
    | false =>
      simp only [Bool.false_eq_true, if_false]
      rw [ih hstorage]
    | true =>
      simp only [if_true]
      rw [evaluateCondition_withMatrix hstorage]
      dsimp only
      rw [ih]
      have hmatrix : (s.evaluateCondition currentTime i).1.mActiveInspectionMatrix
          = s.mActiveInspectionMatrix := by
        have hone := (evaluateLoop_sameConfiguration currentTime
          (Bitset.ofBool true) 1 i s).matrix
        rwa [evaluateLoop_succ] at hone
      rw [hmatrix]
      exact hstorage

include hstorage in
theorem evaluateConditions_withMatrix (currentTime : Nat)
    : (s.withMatrix m).evaluateConditions currentTime
        =
      ((s.evaluateConditions currentTime).1.withMatrix m, (s.evaluateConditions currentTime).2) := by
  have hbefore : (s.withMatrix m).beforeEvaluation currentTime
      = (s.beforeEvaluation currentTime).withMatrix m := by
    unfold beforeEvaluation
    split
    . rename_i htimeout
      rw [if_pos (by exact htimeout)]
      rfl
    . rename_i htimeout
      rw [if_neg (by exact htimeout)]
  have hstorage' : m.expressionNodeStorage
      = (s.beforeEvaluation currentTime).mActiveInspectionMatrix.expressionNodeStorage := by
    unfold beforeEvaluation
    split
    . exact hstorage
    . exact hstorage
  rw [evaluateConditions_split, evaluateConditions_split, hbefore]
  unfold evaluateMarked
  split
  . rename_i hnone
    rw [if_pos (by exact hnone)]
  . rename_i hsome
    rw [if_neg (by exact hsome)]
    exact evaluateLoop_withMatrix hstorage' _ _ _ _

theorem collectNextDataToSend_withMatrix (currentTime : Nat)
    : (s.withMatrix m).collectNextDataToSend currentTime
        =
      let next := s.collectNextDataToSend currentTime
      { next with engine := next.engine.withMatrix m } := by
  have hmarks := congrArg NextDataToSend.engine (collectNextDataToSend_withMarks s s.changeMarks
    currentTime)
  have hmatrix : s.withMatrix m = s.withUncollected ⟨s.changeMarks, m⟩ := rfl
  rw [hmatrix, collectNextDataToSend_withUncollected]
  rw [withMarks_changeMarks] at hmarks
  dsimp only at hmarks ⊢
  conv => rhs; rw [hmarks]
  rfl

include hstorage in
theorem step_withMatrix (event : EngineEvent V)
    : (s.withMatrix m).step event = ((s.step event).1.withMatrix m, (s.step event).2) := by
  cases event with
  | addNewSignal id receiveTime value => rfl
  | addNewRawCanFrame canID channelID receiveTime buffer size => rfl
  | setActiveDTCs activeDTCs => rfl
  | evaluateConditions currentTime =>
    unfold step
    dsimp only
    rw [evaluateConditions_withMatrix hstorage]
  | collectNextDataToSend currentTime =>
    unfold step
    dsimp only
    rw [collectNextDataToSend_withMatrix]
    rfl

include hstorage in
theorem run_withMatrix (events : List (EngineEvent V))
    : ((s.withMatrix m).run events).2 = (s.run events).2 := by
  induction events generalizing s with
  | nil => rfl
  | cons event events ih =>
    have hnext : m.expressionNodeStorage
        = (s.step event).1.mActiveInspectionMatrix.expressionNodeStorage := by
      rw [(step_sameConfiguration s event).matrix]
      exact hstorage
    have hrest := ih hnext
    unfold run at hrest ⊢
    rw [Machine.run_cons, Machine.run_cons]
    rw [step_withMatrix hstorage]
    dsimp only
    rw [hrest]

end Matrix

end CollectionInspectionEngine

section Invalid

open CollectionInspectionEngine

variable {V : Type} [InspectionValue V] {m : InspectionMatrix V}

def InspectionMatrix.withoutInvalid {V : Type} (m : InspectionMatrix V) : InspectionMatrix V :=
  { m with conditions := m.conditions.filter fun p => p.Valid }

theorem take_filter {α : Type} {p : α → Bool} {l : List α} {n : Nat} (h : ∀ a ∈ l.take n, p a = true)
    : (l.filter p).take n = l.take n := by
  induction l generalizing n with
  | nil => rfl
  | cons a l ih =>
    cases n with
    | zero => rfl
    | succ n =>
      have ha : p a = true := h a (by simp)
      rw [List.filter_cons_of_pos ha]
      rw [List.take_succ_cons, List.take_succ_cons]
      rw [ih]
      intro b hb
      exact h b (by simp [hb])

omit [InspectionValue V] in
theorem activeConditions_withoutInvalid (hm : m.Accepted)
    : activeConditions m.withoutInvalid = activeConditions m := by
  apply take_filter
  intro p hp
  simpa using hm p hp

theorem onChangeInspectionMatrix_withoutInvalid (s : CollectionInspectionEngine V)
    (order : IterationOrder V) (hm : m.Accepted)
    : s.onChangeInspectionMatrix order m.withoutInvalid
        =
      (s.onChangeInspectionMatrix order m).withMatrix m.withoutInvalid := by
  have hactive := activeConditions_withoutInvalid hm
  have hvalid : m.withoutInvalid.Accepted := by
    intro p hp
    have hp' : p ∈ activeConditions m.withoutInvalid := hp
    rw [hactive] at hp'
    exact hm p hp'
  have hlinked : linkedEngine s m.withoutInvalid = (linkedEngine s m).withMatrix m.withoutInvalid := by
    unfold linkedEngine linkedSignals requestedSignals requestedCanFrames
    rw [hactive]
    rfl
  rw [onChangeInspectionMatrix_accepted s order hm]
  rw [onChangeInspectionMatrix_accepted s order hvalid]
  rw [hlinked]
  unfold preAllocateBuffers withMatrix
  dsimp only
  split
  . rfl
  . rfl

/--
If all conditions that the engine comes to are valid, it does not matter that others are not. Otherwise
the engine rejects the matrix.
-/
theorem invalid_condition (s : CollectionInspectionEngine V) (order : IterationOrder V)
    (m : InspectionMatrix V) (events : List (EngineEvent V))
    : if m.Accepted then
        (s.onChangeInspectionMatrix order m).mSignalBuffers
            = (s.onChangeInspectionMatrix order m.withoutInvalid).mSignalBuffers
          ∧
        ((s.onChangeInspectionMatrix order m).run events).2
            = ((s.onChangeInspectionMatrix order m.withoutInvalid).run events).2
      else
        (∀ b ∈ ((s.onChangeInspectionMatrix order m).run events).1.mSignalBuffers, b.mBuffer = [])
          ∧
        ((s.onChangeInspectionMatrix order m).run events).2 = [] := by
  split
  . rename_i hm
    rw [onChangeInspectionMatrix_withoutInvalid s order hm]
    refine ⟨rfl, ?_⟩
    rw [run_withMatrix]
    rw [(onChangeInspectionMatrix_settings order hm).2.2]
    rfl
  . rename_i hm
    have ⟨hinert, hlog⟩ := (inert_onChangeInspectionMatrix s order hm).run events
    refine ⟨?_, hlog⟩
    intro b hb
    exact (hinert.signals b hb).1

def zeroSizeMatrix : InspectionMatrix Rat where
  conditions :=
    [{ condition := some 0
       minimumPublishInterval := 0
       afterDuration := 0
       signals := [⟨7, 2, 0, 0, false⟩]
       canFrames := []
       includeActiveDtcs := false
       triggerOnlyOnRisingEdge := false
       probabilityToSend := 1
       metaData := {}
       imageCollectionInfos := []
       includeImageCapture := false },
     { condition := some 2
       minimumPublishInterval := 0
       afterDuration := 0
       signals := [⟨8, 0, 0, 0, false⟩]
       canFrames := []
       includeActiveDtcs := false
       triggerOnlyOnRisingEdge := false
       probabilityToSend := 1
       metaData := {}
       imageCollectionInfos := []
       includeImageCapture := false }]
  expressionNodeStorage :=
    [{ nodeType := .OPERATOR_BIGGER, left := some 1, right := some 2, floatingValue := 0 },
     { nodeType := .SIGNAL, signalID := 7, floatingValue := 0 },
     { nodeType := .FLOAT, floatingValue := 5 }]

theorem invalid_condition_zeroSize
    : let engine := emptyEngine.onChangeInspectionMatrix (.inserted Rat) zeroSizeMatrix
      let engine' := emptyEngine.onChangeInspectionMatrix (.inserted Rat) zeroSizeMatrix.withoutInvalid
      let events := [.addNewSignal 7 1 6, .evaluateConditions 2]
      zeroSizeMatrix.withoutInvalid.conditions = zeroSizeMatrix.conditions.take 1
        ∧
      (bufferAt engine.mSignalBuffers ⟨7, 0⟩).map (·.mBuffer.length) = some 0
        ∧
      (engine.run events).2 = []
        ∧
      (engine'.run events).2 = [.evaluated 2 0 true true] := by
  refine ⟨rfl, by decide +kernel, by decide +kernel, by decide +kernel⟩

end Invalid

end DataInspection
