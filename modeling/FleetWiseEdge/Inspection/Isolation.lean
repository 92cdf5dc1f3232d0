import FleetWiseEdge.Inspection.ConditionModel
import FleetWiseEdge.Inspection.Incremental
import FleetWiseEdge.Inspection.Lemmas.Configuration
import FleetWiseEdge.Inspection.Lemmas.Drain
import FleetWiseEdge.Inspection.Lemmas.Ledger

/-!
This module contains the isolation of conditions. A condition of the engine behaves as its model, whatever
the other conditions are, so two engines that share a condition show the same of it.
-/

namespace DataInspection

open Cpp DataManagement

open CollectionInspectionEngine

def Observation.ofCondition {V : Type} (i : Nat) (observation : Observation V)
    : Option (ConditionOutput V) :=
  match observation with
  | .evaluated currentTime j _ triggered =>
    if j = i && triggered then some (.triggered currentTime) else none
  | .refused _ _ => none
  | .published _ j data => if j = i then some (.published data.triggerTime data.signals) else none

section Relation

variable {V : Type} [InspectionValue V]

def ConditionWithCollectedData.Uses (p : ConditionWithCollectedData V) (k : SignalBufferPtr) : Prop :=
  ∃ signal ∈ p.signals, signal.ptr = k

def ConditionWithCollectedData.UsesWindow (p : ConditionWithCollectedData V) (ptr : FixedWindowPtr)
    : Prop :=
  ∃ signal ∈ p.signals, signal.fixedWindowPeriod ≠ 0
    ∧ ptr = ⟨signal.ptr, signal.fixedWindowPeriod⟩

omit [InspectionValue V] in
theorem ConditionWithCollectedData.UsesWindow.uses {p : ConditionWithCollectedData V}
    {ptr : FixedWindowPtr} (h : p.UsesWindow ptr)
    : p.Uses ptr.buffer := by
  have ⟨signal, hsignal, _, heq⟩ := h
  rw [heq]
  exact ⟨signal, hsignal, rfl⟩

structure Isolating (required : SignalBufferPtr → Nat) (i : Nat) (ac : ActiveCondition V)
    (initial : CollectionInspectionEngine V)
    : Prop where
  once : initial.mSendDataOnlyOncePerCondition = true
  disableProbability : initial.mDisableProbability = true
  size : initial.mConditions.length ≤ MAX_NUMBER_OF_ACTIVE_CONDITION
  fits : ∀ ac ∈ initial.mConditions, ∀ signal ∈ ac.mCondition.signals,
    signal.sampleBufferSize ≤ required signal.ptr
  condition : initial.mConditions[i]? = some ac
  signals : ∀ id k, ac.mEvaluationSignals id = some k → ac.mCondition.Uses k
  windows : ∀ id ptr, ac.mEvaluationFunctions id = some ptr → ac.mCondition.UsesWindow ptr
  noGeohash : HasNoGeohash initial ac

/--
The condition `i` of the engine is in the state `c` of its model. `L` is the ledger of all conditions.
-/
structure Shows (required : SignalBufferPtr → Nat) (i : Nat) (ac : ActiveCondition V)
    (initial s : CollectionInspectionEngine V) (L : SampleLedger Nat V) (c : ConditionModel V)
    : Prop where
  configuration : SameConfiguration initial s
  represents : s.Represents required L
  lastTrigger : ∀ ac', s.mConditions[i]? = some ac' → ac'.mLastTrigger = c.lastTrigger
  waiting : s.mConditionsNotTriggeredWaitingPublished.test i = !c.waiting
  currentlyTrue : s.mConditionsWithConditionCurrentlyTrue.test i = c.currentlyTrue
  ledger : Ledger.Agree ac.mCondition.Uses i () L c.samples
  buffers : ∀ k, ac.mCondition.Uses k → ∃ b, bufferAt s.mSignalBuffers k = some b ∧ b.mBuffer ≠ []
  windows : ∀ ptr, ac.mCondition.UsesWindow ptr →
    windowAt s.mSignalBuffers ptr = some (c.windows ptr)

end Relation

namespace Shows

variable {V : Type} [InspectionValue V] {required : SignalBufferPtr → Nat} {i : Nat}
variable {ac : ActiveCondition V} {initial s s' : CollectionInspectionEngine V}
variable {L : SampleLedger Nat V} {c : ConditionModel V} {currentTime : Nat}

theorem getElem? (hinitial : Isolating required i ac initial)
    (h : Shows required i ac initial s L c)
    : ∃ ac', s.mConditions[i]? = some ac' ∧ ac'.configuration = ac.configuration
        ∧ ac'.mLastTrigger = c.lastTrigger := by
  have hlt : i < s.mConditions.length := by
    rw [h.configuration.length]
    exact (List.getElem?_eq_some_iff.mp hinitial.condition).1
  have hac' := List.getElem?_eq_getElem hlt
  have ⟨ac'', hac'', hconf⟩ := h.configuration.getElem? hac'
  refine ⟨_, hac', ?_, h.lastTrigger _ hac'⟩
  rw [← hconf, Option.some_inj.mp (hac''.symm.trans hinitial.condition)]

theorem holds (h : Shows required i ac initial s L c) {k : SignalBufferPtr}
    (hk : ac.mCondition.Uses k)
    : ∃ b, bufferAt s.mSignalBuffers k = some b ∧ b.mBuffer ≠ []
        ∧ b.mMinimumSampleIntervalMs = k.minimumSampleIntervalMs ∧ b.signalID = k.signalID
        ∧ b.Holds (SampleLedger.history L k) := by
  have ⟨b, hb, hne⟩ := h.buffers k hk
  have hkey : b.ptr = k := KeyedList.key_of_lookup hb
  refine ⟨b, hb, hne, congrArg SignalBufferPtr.minimumSampleIntervalMs hkey,
    congrArg SignalBufferPtr.signalID hkey, ?_⟩
  cases h.represents.present k b hb with
  | inl hholds => exact hholds.1
  | inr hempty => exact absurd hempty.1 hne

section AddNewSignal

variable {id : SignalID} {receiveTime : Nat} {value : V}

theorem accepts_eq (h : Shows required i ac initial s L c) {k : SignalBufferPtr}
    (hk : ac.mCondition.Uses k) {b : SignalHistoryBuffer V} (hb : bufferAt s.mSignalBuffers k = some b)
    : (b.signalID = id && b.acceptsSample receiveTime)
        =
      (k.signalID = id && c.accepts k receiveTime) := by
  have ⟨b', hb', _, hinterval, hid, hholds⟩ := h.holds hk
  rw [Option.some_inj.mp (hb.symm.trans hb')]
  rw [hholds.acceptsSample, SampleLedger.lastSample_history, hinterval, hid]
  unfold ConditionModel.accepts
  rw [h.ledger.stored k hk]

theorem addNewSignal (h : Shows required i ac initial s L c)
    : Shows required i ac initial (s.addNewSignal id receiveTime value)
        (L.grow (s.accepted id receiveTime value)) (c.addNewSignal id receiveTime value) := by
  have hlookup : ∀ k, bufferAt (s.addNewSignal id receiveTime value).mSignalBuffers k
      = (bufferAt s.mSignalBuffers k).map (SignalHistoryBuffer.addSample id receiveTime value) := by
    intro k
    rw [addNewSignal_buffers]
    exact KeyedList.lookup_map fun b => SignalHistoryBuffer.addSample_ptr
  constructor
  . exact h.configuration.trans (step_sameConfiguration s (.addNewSignal id receiveTime value))
  . exact h.represents.addNewSignal id receiveTime value
  . exact h.lastTrigger
  . exact h.waiting
  . exact h.currentlyTrue
  . apply h.ledger.grow
    intro k hk
    have ⟨b, hb, _⟩ := h.holds hk
    unfold ConditionModel.accepted accepted
    rw [hb]
    dsimp only
    rw [h.accepts_eq hk hb]
  . intro k hk
    have ⟨b, hb, hne⟩ := h.buffers k hk
    refine ⟨b.addSample id receiveTime value, by rw [hlookup, hb]; rfl, ?_⟩
    exact SignalHistoryBuffer.addSample_ne_nil hne
  . intro ptr hptr
    have hk : ac.mCondition.Uses ptr.buffer := hptr.uses
    have ⟨b, hb, _⟩ := h.holds hk
    have hwindow := h.windows ptr hptr
    unfold windowAt at hwindow ⊢
    rw [hb] at hwindow
    rw [hlookup, hb]
    dsimp only [Option.map_some, Option.bind_some] at hwindow ⊢
    rw [SignalHistoryBuffer.getFixedWindow_addSample, hwindow]
    unfold ConditionModel.addNewSignal
    dsimp only
    rw [h.accepts_eq hk hb]
    split
    . rfl
    . rfl

end AddNewSignal

theorem updateAllFixedWindowFunctions (h : Shows required i ac initial s L c) (currentTime : Nat)
    : Shows required i ac initial (s.updateAllFixedWindowFunctions currentTime) L
        (c.tick currentTime) := by
  have hlookup : ∀ k, bufferAt (s.updateAllFixedWindowFunctions currentTime).mSignalBuffers k
      = (bufferAt s.mSignalBuffers k).map (SignalHistoryBuffer.tick currentTime) := by
    intro k
    rw [updateAllFixedWindowFunctions_buffers]
    exact KeyedList.lookup_map fun b => SignalHistoryBuffer.tick_ptr
  constructor
  . exact h.configuration.trans (updateAllFixedWindowFunctions_sameConfiguration s currentTime)
  . exact h.represents.updateAllFixedWindowFunctions currentTime
  . exact h.lastTrigger
  . exact h.waiting
  . exact h.currentlyTrue
  . exact h.ledger
  . intro k hk
    have ⟨b, hb, hne⟩ := h.buffers k hk
    exact ⟨b.tick currentTime, by rw [hlookup, hb]; rfl, hne⟩
  . intro ptr hptr
    have ⟨b, hb, _⟩ := h.holds hptr.uses
    have hwindow := h.windows ptr hptr
    unfold windowAt at hwindow ⊢
    rw [hb] at hwindow
    rw [hlookup, hb]
    dsimp only [Option.map_some, Option.bind_some] at hwindow ⊢
    rw [SignalHistoryBuffer.getFixedWindow_tick, hwindow]
    rfl

section Evaluation

variable {ac' : ActiveCondition V}

theorem latestSignalValue_eq (hinitial : Isolating required i ac initial)
    (h : Shows required i ac initial s L c) (hconf : ac'.configuration = ac.configuration)
    (id : SignalID)
    : getLatestSignalValue s.mSignalBuffers id ac' = c.signalValue ac id := by
  have hrefs : ac'.mEvaluationSignals = ac.mEvaluationSignals :=
    configuration_mEvaluationSignals hconf
  unfold getLatestSignalValue ConditionModel.signalValue
  rw [hrefs]
  cases href : ac.mEvaluationSignals id with
  | none => rfl
  | some k =>
    have hk := hinitial.signals id k href
    have ⟨b, hb, _, _, _, hholds⟩ := h.holds hk
    rw [Option.bind_some, hb]
    dsimp only
    rw [hholds.counter, SampleLedger.history_length, h.ledger.stored k hk]
    split
    . rfl
    . cases hstored : L.stored k with
      | nil =>
        rename_i hcounter
        rw [hstored] at hcounter
        exact absurd rfl hcounter
      | cons sample samples =>
        have hhead : (SampleLedger.history L k).head?
            = some (SampleLedger.asSample L.sent k (sample, samples.length)) := by
          unfold SampleLedger.history
          rw [hstored]
          rfl
        rw [hholds.newest hhead]
        rfl

theorem sampleWindowFunction_eq (hinitial : Isolating required i ac initial)
    (h : Shows required i ac initial s L c) (hconf : ac'.configuration = ac.configuration)
    (function : WindowFunction) (id : SignalID)
    : getSampleWindowFunction s.mSignalBuffers function id ac' = c.windowValue ac function id := by
  have hrefs : ac'.mEvaluationFunctions = ac.mEvaluationFunctions :=
    configuration_mEvaluationFunctions hconf
  unfold getSampleWindowFunction ConditionModel.windowValue
  rw [hrefs]
  cases href : ac.mEvaluationFunctions id with
  | none => rfl
  | some ptr =>
    rw [Option.bind_some, h.windows ptr (hinitial.windows id ptr href)]

theorem isTrueNow_eq (hinitial : Isolating required i ac initial)
    (h : Shows required i ac initial s L c) (hconf : ac'.configuration = ac.configuration)
    : s.isTrueNow ac' = c.isTrue initial.mActiveInspectionMatrix.expressionNodeStorage ac := by
  have hcondition : ac'.mCondition = ac.mCondition := configuration_mCondition hconf
  unfold isTrueNow evalCondition ConditionModel.isTrue
  rw [hcondition, h.configuration.matrix]
  rw [eval_eq_meaning (h.latestSignalValue_eq hinitial hconf) (h.sampleWindowFunction_eq hinitial hconf)]
  exact hinitial.noGeohash

theorem afterEvaluation_ne {j : Nat} (h : Shows required i ac initial s L c) (hne : i ≠ j)
    : Shows required i ac initial (s.afterEvaluation ac' currentTime j) L c := by
  constructor
  . exact h.configuration.trans (afterEvaluation_sameConfiguration s ac' currentTime j)
  . exact h.represents.congr rfl
  . intro ac'' hac''
    rw [afterEvaluation_getElem_ne hne] at hac''
    exact h.lastTrigger ac'' hac''
  . rw [afterEvaluation_waiting_ne hne]
    exact h.waiting
  . rw [← h.currentlyTrue]
    exact Bitset.test_set_ne _ _ hne
  . exact h.ledger
  . exact h.buffers
  . exact h.windows

theorem triggersNow_eq (hinitial : Isolating required i ac initial)
    (h : Shows required i ac initial s L c) (hconf : ac'.configuration = ac.configuration)
    : s.triggersNow ac' i = c.triggers initial.mActiveInspectionMatrix.expressionNodeStorage ac := by
  unfold triggersNow ConditionModel.triggers
  rw [h.isTrueNow_eq hinitial hconf, h.currentlyTrue, configuration_mCondition hconf]

theorem afterEvaluation (hinitial : Isolating required i ac initial)
    (h : Shows required i ac initial s L c) (hac' : s.mConditions[i]? = some ac')
    (hconf : ac'.configuration = ac.configuration) (hwaiting : c.waiting = false)
    : Shows required i ac initial (s.afterEvaluation ac' currentTime i) L
        { c with
          currentlyTrue := c.isTrue initial.mActiveInspectionMatrix.expressionNodeStorage ac
          waiting := c.triggers initial.mActiveInspectionMatrix.expressionNodeStorage ac
          lastTrigger :=
            if c.triggers initial.mActiveInspectionMatrix.expressionNodeStorage ac then
              currentTime
            else
              c.lastTrigger } := by
  have htriggers := h.triggersNow_eq hinitial hconf
  constructor
  . exact h.configuration.trans (afterEvaluation_sameConfiguration s ac' currentTime i)
  . exact h.represents.congr rfl
  . intro ac'' hac''
    rw [afterEvaluation_getElem_self hac'] at hac''
    rw [← Option.some_inj.mp hac'', htriggers]
    dsimp only
    rw [h.lastTrigger ac' hac']
  . rw [afterEvaluation_waiting_self, h.waiting, hwaiting, htriggers]
    rfl
  . rw [← h.isTrueNow_eq hinitial hconf]
    exact Bitset.test_set_self _ _ _
  . exact h.ledger
  . exact h.buffers
  . exact h.windows

end Evaluation

section Loop

def evaluationOutputs (V : Type) (i currentTime : Nat) (evaluations : List Evaluation)
    : List (ConditionOutput V) :=
  (evaluations.map (Observation.ofEvaluation currentTime)).filterMap (Observation.ofCondition i)

omit [InspectionValue V] in
theorem evaluationOutputs_append (evaluations later : List Evaluation)
    : evaluationOutputs V i currentTime (evaluations ++ later)
        =
      evaluationOutputs V i currentTime evaluations ++ evaluationOutputs V i currentTime later := by
  unfold evaluationOutputs
  rw [List.map_append, List.filterMap_append]

theorem evaluateCondition_ne {j : Nat} (h : Shows required i ac initial s L c) (hne : i ≠ j)
    : Shows required i ac initial (s.evaluateCondition currentTime j).1 L c
        ∧
      evaluationOutputs V i currentTime (s.evaluateCondition currentTime j).2 = [] := by
  cases hcond : s.mConditions[j]? with
  | none =>
    rw [evaluateCondition_none hcond]
    exact ⟨h, rfl⟩
  | some ac' =>
    by_cases hdue : isDue ac' currentTime
    . rw [evaluateCondition_due hcond hdue]
      refine ⟨h.afterEvaluation_ne hne, ?_⟩
      unfold evaluationOutputs Observation.ofEvaluation Observation.ofCondition
      simp [Ne.symm hne]
    . rw [evaluateCondition_not_due hcond hdue]
      exact ⟨h, rfl⟩

theorem evaluateLoop_ne (currentTime : Nat) (toEvaluate : Bitset) (remaining j : Nat)
    (h : Shows required i ac initial s L c) (hrange : i < j ∨ j + remaining ≤ i)
    : Shows required i ac initial (s.evaluateLoop currentTime toEvaluate remaining j).1 L c
        ∧
      evaluationOutputs V i currentTime (s.evaluateLoop currentTime toEvaluate remaining j).2 = [] := by
  induction remaining generalizing j s with
  | zero => exact ⟨h, rfl⟩
  | succ remaining ih =>
    rw [evaluateLoop_succ]
    have hfirst : Shows required i ac initial
          (if toEvaluate.test j then s.evaluateCondition currentTime j else (s, [])).1 L c
        ∧
        evaluationOutputs V i currentTime
          (if toEvaluate.test j then s.evaluateCondition currentTime j else (s, [])).2 = [] := by
      split
      . exact h.evaluateCondition_ne (by omega)
      . exact ⟨h, rfl⟩
    have hrest := ih (j + 1) hfirst.1 (by omega)
    dsimp only
    rw [evaluationOutputs_append, hfirst.2, hrest.2]
    exact ⟨hrest.1, rfl⟩

theorem evaluateCondition_self (hinitial : Isolating required i ac initial)
    (h : Shows required i ac initial s L c) (hwaiting : c.waiting = false) (currentTime : Nat)
    : Shows required i ac initial (s.evaluateCondition currentTime i).1 L
          (c.evaluate initial.mActiveInspectionMatrix.expressionNodeStorage ac currentTime).1
        ∧
      evaluationOutputs V i currentTime (s.evaluateCondition currentTime i).2
        =
      (c.evaluate initial.mActiveInspectionMatrix.expressionNodeStorage ac currentTime).2 := by
  have ⟨ac', hac', hconf, hlast⟩ := h.getElem? hinitial
  have hdue : isDue ac' currentTime
      ↔ currentTime ≥ u64 (c.lastTrigger + ac.mCondition.minimumPublishInterval) := by
    unfold isDue
    rw [hlast, configuration_mCondition hconf]
  unfold ConditionModel.evaluate
  rw [hwaiting]
  by_cases hnow : isDue ac' currentTime
  . rw [evaluateCondition_due hac' hnow]
    rw [if_pos (by simpa using hdue.mp hnow)]
    refine ⟨h.afterEvaluation hinitial hac' hconf hwaiting, ?_⟩
    rw [h.triggersNow_eq hinitial hconf]
    unfold evaluationOutputs Observation.ofEvaluation Observation.ofCondition
    cases c.triggers initial.mActiveInspectionMatrix.expressionNodeStorage ac with
    | true => simp
    | false => simp
  . rw [evaluateCondition_not_due hac' hnow]
    rw [if_neg (by simpa using fun hge => hnow (hdue.mpr hge))]
    exact ⟨h, rfl⟩

theorem evaluateLoop_self (hinitial : Isolating required i ac initial) (toEvaluate : Bitset)
    (remaining j : Nat) (h : Shows required i ac initial s L c)
    (htest : toEvaluate.test i = !c.waiting) (hle : j ≤ i) (hlt : i < j + remaining)
    : Shows required i ac initial (s.evaluateLoop currentTime toEvaluate remaining j).1 L
          (c.evaluate initial.mActiveInspectionMatrix.expressionNodeStorage ac currentTime).1
        ∧
      evaluationOutputs V i currentTime (s.evaluateLoop currentTime toEvaluate remaining j).2
        =
      (c.evaluate initial.mActiveInspectionMatrix.expressionNodeStorage ac currentTime).2 := by
  induction remaining generalizing j s with
  | zero => omega
  | succ remaining ih =>
    rw [evaluateLoop_succ]
    dsimp only
    by_cases hj : j = i
    . -- the condition itself, all that follow are others
      rw [hj, htest]
      cases hwaiting : c.waiting with
      | false =>
        have hself := h.evaluateCondition_self hinitial hwaiting currentTime
        have hrest := hself.1.evaluateLoop_ne currentTime toEvaluate remaining (i + 1) (by omega)
        simp only [Bool.not_false, if_true]
        rw [evaluationOutputs_append, hself.2, hrest.2, List.append_nil]
        exact ⟨hrest.1, rfl⟩
      | true =>
        have hrest := h.evaluateLoop_ne currentTime toEvaluate remaining (i + 1) (by omega)
        have hnothing : c.evaluate initial.mActiveInspectionMatrix.expressionNodeStorage ac currentTime
            = (c, []) := by
          unfold ConditionModel.evaluate
          rw [hwaiting]
          rfl
        rw [hnothing]
        exact hrest
    . have hfirst : Shows required i ac initial
            (if toEvaluate.test j then s.evaluateCondition currentTime j else (s, [])).1 L c
          ∧
          evaluationOutputs V i currentTime
            (if toEvaluate.test j then s.evaluateCondition currentTime j else (s, [])).2 = [] := by
        split
        . exact h.evaluateCondition_ne (Ne.symm hj)
        . exact ⟨h, rfl⟩
      have hrest := ih (j + 1) hfirst.1 (by omega) (by omega)
      rw [evaluationOutputs_append, hfirst.2]
      exact hrest

theorem evaluateAllConditions (hinitial : Isolating required i ac initial)
    (h : Shows required i ac initial s L c) (currentTime : Nat)
    : Shows required i ac initial (s.evaluateAllConditions currentTime).1 L
          ((c.tick currentTime).evaluate initial.mActiveInspectionMatrix.expressionNodeStorage ac
            currentTime).1
        ∧
      evaluationOutputs V i currentTime (s.evaluateAllConditions currentTime).2
        =
      ((c.tick currentTime).evaluate initial.mActiveInspectionMatrix.expressionNodeStorage ac
        currentTime).2 := by
  have hupdated := h.updateAllFixedWindowFunctions currentTime
  have ⟨ac', hac', _⟩ := hupdated.getElem? hinitial
  have hlt := (List.getElem?_eq_some_iff.mp hac').1
  apply hupdated.evaluateLoop_self hinitial
  . exact hupdated.waiting
  . exact Nat.zero_le i
  . omega

end Loop

section Publish

variable {ac' : ActiveCondition V} {j cursor : Nat}

theorem readings (h : Shows required i ac initial s L c)
    (hbuffers : List.Forall₂ SameReadings s.mSignalBuffers s'.mSignalBuffers)
    : (∀ k, ac.mCondition.Uses k → ∃ b, bufferAt s'.mSignalBuffers k = some b ∧ b.mBuffer ≠ [])
        ∧
      (∀ ptr, ac.mCondition.UsesWindow ptr →
        windowAt s'.mSignalBuffers ptr = some (c.windows ptr)) := by
  constructor
  . intro k hk
    have ⟨b, hb, hne⟩ := h.buffers k hk
    have hrel := lookup_sameReadings hbuffers k
    rw [hb] at hrel
    generalize bufferAt s'.mSignalBuffers k = found at hrel ⊢
    cases hrel with
    | some hsame =>
      refine ⟨_, rfl, ?_⟩
      intro hnil
      have hcontent := hsame.2
      rw [hnil, List.map_nil, eq_comm, List.map_eq_nil_iff] at hcontent
      exact hne hcontent
  . intro ptr hptr
    rw [← h.windows ptr hptr]
    exact windowAt_sameReadings hbuffers ptr

theorem published (hinitial : Isolating required i ac initial) (h : Shows required i ac initial s L c)
    (cursor currentTime : Nat) (hac' : s.mConditions[j]? = some ac')
    : (s.published cursor currentTime j ac').1.Represents required
          (SampleLedger.collect j ac'.mCondition.collectedSignals L).1
        ∧
      (s.published cursor currentTime j ac').2.1.signals
        =
      (SampleLedger.collect j ac'.mCondition.collectedSignals L).2 := by
  have ⟨ac'', hac'', hconf⟩ := h.configuration.getElem? hac'
  apply CollectionInspectionEngine.Represents.publish
  . exact h.represents.congr rfl
  . exact h.configuration.once.trans hinitial.once
  . have hlt := (List.getElem?_eq_some_iff.mp hac'').1
    have hsize := hinitial.size
    unfold ALL_CONDITIONS
    unfold MAX_NUMBER_OF_ACTIVE_CONDITION at hsize
    omega
  . rw [← configuration_mCondition hconf]
    exact hinitial.fits ac'' (List.mem_of_getElem? hac'')

theorem published_configuration (h : Shows required i ac initial s L c)
    : SameConfiguration initial (s.published cursor currentTime j ac').1 := by
  apply h.configuration.trans
  apply SameConfiguration.trans _ (publish_sameConfiguration _ ac' j currentTime)
  exact ⟨rfl, rfl, rfl, rfl⟩

omit [InspectionValue V] in
theorem published_lastTrigger {ac'' : ActiveCondition V}
    (hac'' : (s.published cursor currentTime j ac').1.mConditions[i]? = some ac'')
    : ∃ ac, s.mConditions[i]? = some ac ∧ ac.mLastTrigger = ac''.mLastTrigger := by
  have ⟨_, _, _, _, _, mEventID, mLastDataTimestampPublished, hframe⟩ :=
    publish_frame ((s.setCursor cursor).stopWaiting j) ac' j currentTime
  unfold CollectionInspectionEngine.published at hac''
  rw [hframe] at hac''
  dsimp only at hac''
  rw [List.getElem?_modify] at hac''
  simp only [Option.map_eq_map, Option.map_eq_some_iff] at hac''
  have ⟨ac, hac, heq⟩ := hac''
  refine ⟨ac, hac, ?_⟩
  rw [← heq]
  split <;> rfl

omit [InspectionValue V] in
theorem published_currentlyTrue
    : (s.published cursor currentTime j ac').1.mConditionsWithConditionCurrentlyTrue
        =
      s.mConditionsWithConditionCurrentlyTrue := by
  have ⟨_, _, _, _, _, mEventID, mLastDataTimestampPublished, hframe⟩ :=
    publish_frame ((s.setCursor cursor).stopWaiting j) ac' j currentTime
  unfold CollectionInspectionEngine.published
  rw [hframe]
  rfl

theorem published_ne (hinitial : Isolating required i ac initial)
    (h : Shows required i ac initial s L c) (hac' : s.mConditions[j]? = some ac') (hne : i ≠ j)
    : Shows required i ac initial (s.published cursor currentTime j ac').1
        (SampleLedger.collect j ac'.mCondition.collectedSignals L).1 c := by
  have hreadings := h.readings (publish_forall₂ ((s.setCursor cursor).stopWaiting j) ac' j currentTime)
  constructor
  . exact h.published_configuration
  . exact (h.published hinitial cursor currentTime hac').1
  . intro ac'' hac''
    have ⟨ac, hac, hlast⟩ := published_lastTrigger hac''
    rw [← hlast]
    exact h.lastTrigger ac hac
  . rw [(published_frame s cursor currentTime j ac').1, Bitset.test_set_ne _ _ hne]
    exact h.waiting
  . rw [published_currentlyTrue]
    exact h.currentlyTrue
  . exact SampleLedger.collect_agree_other (Ne.symm hne) _ h.ledger
  . exact hreadings.1
  . exact hreadings.2

theorem published_self (hinitial : Isolating required i ac initial)
    (h : Shows required i ac initial s L c) (cursor currentTime : Nat)
    (hac' : s.mConditions[i]? = some ac') (hconf : ac'.configuration = ac.configuration)
    : Shows required i ac initial (s.published cursor currentTime i ac').1
          (SampleLedger.collect i ac'.mCondition.collectedSignals L).1 (c.publish ac).1
        ∧
      [ConditionOutput.published (s.published cursor currentTime i ac').2.1.triggerTime
          (s.published cursor currentTime i ac').2.1.signals]
        =
      (c.publish ac).2 := by
  have hreadings := h.readings (publish_forall₂ ((s.setCursor cursor).stopWaiting i) ac' i currentTime)
  have hcondition : ac'.mCondition = ac.mCondition := configuration_mCondition hconf
  have hcollect : Ledger.Agree ac.mCondition.Uses i ()
        (SampleLedger.collect i ac.mCondition.collectedSignals L).1
        (SampleLedger.collect () ac.mCondition.collectedSignals c.samples).1
      ∧
      (SampleLedger.collect i ac.mCondition.collectedSignals L).2
        = (SampleLedger.collect () ac.mCondition.collectedSignals c.samples).2 := by
    apply SampleLedger.collect_agree _ _ h.ledger
    intro signal hsignal
    exact ⟨signal, List.mem_of_mem_filter hsignal, rfl⟩
  have hpublished := h.published hinitial cursor currentTime hac'
  constructor
  . constructor
    . exact h.published_configuration
    . exact hpublished.1
    . intro ac'' hac''
      have ⟨ac, hac, hlast⟩ := published_lastTrigger hac''
      rw [← hlast]
      exact h.lastTrigger ac hac
    . rw [(published_frame s cursor currentTime i ac').1, Bitset.test_set_self]
      rfl
    . rw [published_currentlyTrue]
      exact h.currentlyTrue
    . rw [hcondition]
      exact hcollect.1
    . exact hreadings.1
    . exact hreadings.2
  . rw [hpublished.2, hcondition, hcollect.2]
    unfold ConditionModel.publish
    rw [← h.lastTrigger ac' hac']
    rfl

end Publish

section Inspect

theorem setCursor (h : Shows required i ac initial s L c) (cursor : Nat)
    : Shows required i ac initial (s.setCursor cursor) L c := by
  constructor
  . exact h.configuration.trans ⟨rfl, rfl, rfl, rfl⟩
  . exact h.represents.congr rfl
  . exact h.lastTrigger
  . exact h.waiting
  . exact h.currentlyTrue
  . exact h.ledger
  . exact h.buffers
  . exact h.windows

theorem isReady_iff (hinitial : Isolating required i ac initial)
    (h : Shows required i ac initial s L c)
    : c.isReady ac currentTime = true ↔ ∃ ac', s.Publishable currentTime i ac' := by
  have ⟨ac', hac', hconf, hlast⟩ := h.getElem? hinitial
  have hcondition : ac'.mCondition = ac.mCondition := configuration_mCondition hconf
  have hwaiting := h.waiting
  unfold ConditionModel.isReady
  rw [Bool.and_eq_true, decide_eq_true_iff]
  constructor
  . intro hready
    rw [hready.1] at hwaiting
    refine ⟨ac', hac', hwaiting, ?_⟩
    unfold isReady
    rw [hlast, hcondition]
    exact hready.2
  . intro hready
    have ⟨ac'', hac'', hbit, hnow⟩ := hready
    rw [Option.some_inj.mp (hac''.symm.trans hac')] at hnow
    unfold isReady at hnow
    rw [hlast, hcondition] at hnow
    rw [hbit] at hwaiting
    exact ⟨by simpa using hwaiting.symm, hnow⟩

theorem drain_of_not_ready (hnot : c.isReady ac currentTime = false)
    : c.drain ac currentTime = (c, []) := by
  unfold ConditionModel.drain
  rw [hnot]
  rfl

theorem collectUntilNull (hinitial : Isolating required i ac initial)
    (h : Shows required i ac initial s L c) (currentTime : Nat)
    : ∃ L',
        Shows required i ac initial
          (s.collectUntilNull (s.mConditions.length + 1) currentTime).1 L' (c.drain ac currentTime).1
        ∧
        (s.collectUntilNull (s.mConditions.length + 1) currentTime).2.filterMap
            (Observation.ofCondition i)
          =
        (c.drain ac currentTime).2 := by
  have hcalls : s.waitingConditions.card < s.mConditions.length + 1 := by
    have := waitingConditions_le s
    omega
  have hdisable : s.mDisableProbability = true :=
    h.configuration.disableProbability.trans hinitial.disableProbability
  have hsize : s.mConditions.length ≤ MAX_NUMBER_OF_ACTIVE_CONDITION := by
    rw [h.configuration.length]
    exact hinitial.size
  revert L c
  apply collectUntilNull_induction (motive := fun s s' log => ∀ {L c},
    Shows required i ac initial s L c → ∃ L',
      Shows required i ac initial s' L' (c.drain ac currentTime).1
        ∧ log.filterMap (Observation.ofCondition i) = (c.drain ac currentTime).2)
  . intro s cursor hnone L c h
    have hnot : c.isReady ac currentTime = false := by
      rw [← Bool.not_eq_true, h.isReady_iff hinitial]
      intro hready
      have ⟨ac', hpublishable⟩ := hready
      exact hnone i ac' hpublishable
    rw [drain_of_not_ready hnot]
    exact ⟨L, h.setCursor cursor, rfl⟩
  . intro s s' cursor j ac' log hpublishable hrest L c h
    by_cases hj : i = j
    . -- the condition itself, it is not ready any more afterwards
      rw [← hj] at hpublishable hrest ⊢
      have hready := (h.isReady_iff hinitial).mpr ⟨ac', hpublishable⟩
      have ⟨ac'', hac'', hconf, _⟩ := h.getElem? hinitial
      rw [← Option.some_inj.mp (hac''.symm.trans hpublishable.1)] at hrest ⊢
      have hself := h.published_self hinitial cursor currentTime hac'' hconf
      have ⟨L', hshows, hlog⟩ := hrest hself.1
      have hdone : (c.publish ac).1.isReady ac currentTime = false := rfl
      rw [drain_of_not_ready hdone] at hshows hlog
      unfold ConditionModel.drain
      rw [if_pos hready]
      refine ⟨L', hshows, ?_⟩
      rw [List.filterMap_cons, hlog, ← hself.2]
      simp [Observation.ofCondition]
    . have ⟨L', hshows, hlog⟩ := hrest (h.published_ne hinitial hpublishable.1 hj)
      refine ⟨L', hshows, ?_⟩
      rw [List.filterMap_cons, hlog]
      simp [Observation.ofCondition, Ne.symm hj]
  . exact hcalls
  . exact hdisable
  . exact hsize

theorem addNewSignals (h : Shows required i ac initial s L c) (signals : List (CollectedSignal V))
    : ∃ L', Shows required i ac initial (s.addNewSignals signals) L'
        (signals.foldl (fun c s => c.addNewSignal s.signalID s.receiveTime s.value) c) := by
  induction signals generalizing s L c with
  | nil => exact ⟨L, h⟩
  | cons signal signals ih => exact ih h.addNewSignal

end Inspect

end Shows

section Reference

variable {V : Type} [InspectionValue V]

def CollectionInspectionEngine.referenceInspect (s : CollectionInspectionEngine V)
    (input : InspectionInput V)
    : CollectionInspectionEngine V × List (Observation V) :=
  let (s, evaluations) := (s.addNewSignals input.signals).evaluateAllConditions input.currentTime
  let (s, log) := s.collectUntilNull (s.mConditions.length + 1) input.currentTime
  (s, evaluations.map (.ofEvaluation input.currentTime) ++ log)

def InspectionInput.Within (bound : Nat) (input : InspectionInput V) : Prop :=
  (∀ signal ∈ input.signals, signal.receiveTime ≤ bound)
    ∧ input.currentTime ≤ bound ∧ 0 < input.currentTime

variable {bound : Nat} {s reference : CollectionInspectionEngine V}

theorem addNewSignals_simulates (h : Simulates bound s reference) (signals : List (CollectedSignal V))
    (htimes : ∀ signal ∈ signals, signal.receiveTime ≤ bound)
    : Simulates bound (s.addNewSignals signals) (reference.addNewSignals signals) := by
  induction signals generalizing s reference with
  | nil => exact h
  | cons signal signals ih =>
    apply ih
    . exact (step_simulates (.addNewSignal signal.signalID signal.receiveTime signal.value) h
        (htimes signal (by simp))).1
    . intro other hother
      exact htimes other (by simp [hother])

theorem collectUntilNull_simulates (calls currentTime : Nat) (h : Simulates bound s reference)
    : Simulates bound (s.collectUntilNull calls currentTime).1
          (reference.collectUntilNull calls currentTime).1
        ∧
      (reference.collectUntilNull calls currentTime).2 = (s.collectUntilNull calls currentTime).2 := by
  induction calls generalizing s reference with
  | zero => exact ⟨h, rfl⟩
  | succ calls ih =>
    have ⟨hinv, marks, hreference⟩ := h
    have hnext : Simulates bound (s.collectNextDataToSend currentTime).engine
        (reference.collectNextDataToSend currentTime).engine := by
      refine ⟨hinv.collectNextDataToSend, marks, ?_⟩
      rw [hreference, collectNextDataToSend_withMarks]
    have hdata : (reference.collectNextDataToSend currentTime).data
        = (s.collectNextDataToSend currentTime).data := by
      rw [hreference, collectNextDataToSend_withMarks]
    have hlog : Observation.ofNextData currentTime (reference.collectNextDataToSend currentTime)
        = Observation.ofNextData currentTime (s.collectNextDataToSend currentTime) := by
      rw [hreference, collectNextDataToSend_withMarks]
      rfl
    unfold collectUntilNull
    dsimp only
    rw [hdata, hlog]
    cases (s.collectNextDataToSend currentTime).data with
    | none => exact ⟨hnext, rfl⟩
    | some data =>
      have hrest := ih hnext
      refine ⟨hrest.1, ?_⟩
      dsimp only
      rw [hrest.2]

theorem inspect_simulates {input : InspectionInput V} (h : Simulates bound s reference)
    (hin : input.Within bound)
    : Simulates bound (s.inspect input).1 (reference.referenceInspect input).1
        ∧
      (s.inspect input).2.filterMap Observation.significant
        =
      (reference.referenceInspect input).2.filterMap Observation.significant := by
  have ⟨hsignals, htime, hpos⟩ := hin
  have hadded := addNewSignals_simulates h input.signals hsignals
  have hevaluated := evaluateConditions_simulates hadded htime hpos
  have hlength : ((reference.addNewSignals input.signals).evaluateAllConditions
      input.currentTime).1.mConditions.length
      = ((s.addNewSignals input.signals).evaluateConditions input.currentTime).1.mConditions.length := by
    have ⟨_, marks, heq⟩ := hevaluated.1
    rw [heq]
    rfl
  have hcollected := collectUntilNull_simulates
    (((s.addNewSignals input.signals).evaluateConditions input.currentTime).1.mConditions.length + 1)
    input.currentTime hevaluated.1
  unfold inspect referenceInspect
  dsimp only
  rw [hlength]
  refine ⟨hcollected.1, ?_⟩
  rw [List.filterMap_append, List.filterMap_append]
  rw [hevaluated.2, hcollected.2]

omit [InspectionValue V] in
theorem Observation.filterMap_ofCondition (i : Nat) (log : List (Observation V))
    : (log.filterMap Observation.significant).filterMap (Observation.ofCondition i)
        =
      log.filterMap (Observation.ofCondition i) := by
  rw [List.filterMap_filterMap]
  congr 1
  funext observation
  cases observation with
  | evaluated currentTime j result triggered =>
    cases triggered with
    | true => rfl
    | false => simp [significant, ofCondition]
  | refused currentTime j => rfl
  | published currentTime j data => rfl

end Reference

section Refinement

variable {V : Type} [InspectionValue V] {required : SignalBufferPtr → Nat} {i : Nat}
variable {ac : ActiveCondition V} {initial s : CollectionInspectionEngine V} {c : ConditionModel V}

def Refines (required : SignalBufferPtr → Nat) (i : Nat) (ac : ActiveCondition V)
    (initial s : CollectionInspectionEngine V) (c : ConditionModel V)
    : Prop :=
  ∃ L, Shows required i ac initial s L c

theorem referenceInspect_refines (hinitial : Isolating required i ac initial)
    (h : Refines required i ac initial s c) (input : InspectionInput V)
    : Refines required i ac initial (s.referenceInspect input).1
          (c.step initial.mActiveInspectionMatrix.expressionNodeStorage ac input).1
        ∧
      (s.referenceInspect input).2.filterMap (Observation.ofCondition i)
        =
      (c.step initial.mActiveInspectionMatrix.expressionNodeStorage ac input).2 := by
  have ⟨L, hshows⟩ := h
  have ⟨L', hadded⟩ := hshows.addNewSignals input.signals
  have hevaluated := hadded.evaluateAllConditions hinitial input.currentTime
  have ⟨L'', hcollected, hlog⟩ := hevaluated.1.collectUntilNull hinitial input.currentTime
  unfold referenceInspect ConditionModel.step
  dsimp only
  refine ⟨⟨L'', hcollected⟩, ?_⟩
  rw [List.filterMap_append, hlog]
  congr 1
  exact hevaluated.2

theorem inspectAll_refines {bound : Nat} (hinitial : Isolating required i ac initial)
    (hincremental : IncrementalInvariant bound s) (h : Refines required i ac initial s c)
    (inputs : List (InspectionInput V)) (hin : ∀ input ∈ inputs, input.Within bound)
    : (s.inspectAll inputs).2.filterMap (Observation.ofCondition i)
        =
      (c.run initial.mActiveInspectionMatrix.expressionNodeStorage ac inputs).2 := by
  have hreference : (s.inspectAll inputs).2.filterMap Observation.significant
      = (Machine.run referenceInspect s inputs).2.filterMap Observation.significant := by
    apply (Machine.run_simulation (Simulates bound) (fun _ input => input.Within bound) _ _ _).2
    . intro s reference input hin h
      exact inspect_simulates h hin
    . exact ⟨hincremental, _, (withMarks_changeMarks s).symm⟩
    . exact Machine.always_of_forall (fun input => input.Within bound) (fun _ _ h => h) hin
  have hmodel : (Machine.run referenceInspect s inputs).2.filterMap (Observation.ofCondition i)
      = (c.run initial.mActiveInspectionMatrix.expressionNodeStorage ac inputs).2.filterMap some := by
    apply (Machine.run_simulation (Refines required i ac initial) (fun _ _ => True) _ h _).2
    . intro s c input _ h
      have hstep := referenceInspect_refines hinitial h input
      exact ⟨hstep.1, by rw [hstep.2, List.filterMap_some]⟩
    . exact Machine.always_of_forall (fun _ => True) (fun _ _ _ => trivial) (fun _ _ => trivial)
  rw [← Observation.filterMap_ofCondition, hreference, Observation.filterMap_ofCondition]
  rw [hmodel, List.filterMap_some]

end Refinement

section Accepted

variable {V : Type} [InspectionValue V] {m : InspectionMatrix V} {i : Nat}
variable {p : ConditionWithCollectedData V}

theorem isolating_onChangeInspectionMatrix (s : CollectionInspectionEngine V)
    (order : IterationOrder V) (hm : m.Accepted) (hno : m.NoGeohash)
    (hdisable : s.mDisableProbability = true) (honce : s.mSendDataOnlyOncePerCondition = true)
    (hp : (activeConditions m)[i]? = some p)
    : Isolating (requiredSize m) i (activate m.expressionNodeStorage p)
        (s.onChangeInspectionMatrix order m) := by
  have ⟨hsameOnce, hsameDisable, hmatrix⟩ := onChangeInspectionMatrix_settings (s := s) order hm
  have hcondition : (activate m.expressionNodeStorage p).mCondition = p := foldl_linkEntry_mCondition _
  have hrefs : (∀ id k, (activate m.expressionNodeStorage p).mEvaluationSignals id = some k → p.Uses k)
      ∧ ∀ id ptr, (activate m.expressionNodeStorage p).mEvaluationFunctions id = some ptr →
          p.UsesWindow ptr := by
    apply foldl_linkEntry_refs p.Uses p.UsesWindow
    . intro signal hsignal _
      exact ⟨⟨signal, hsignal, rfl⟩, fun hne => ⟨signal, hsignal, hne, rfl⟩⟩
    . constructor
      . intro _ _ href
        cases href
      . intro _ _ href
        cases href
  constructor
  . rw [hsameOnce]
    exact honce
  . rw [hsameDisable]
    exact hdisable
  . exact onChangeInspectionMatrix_length order hm
  . exact onChangeInspectionMatrix_fits s order hm
  . rw [onChangeInspectionMatrix_conditions order hm, List.getElem?_map, hp]
    rfl
  . rw [hcondition]
    exact hrefs.1
  . rw [hcondition]
    exact hrefs.2
  . unfold HasNoGeohash
    rw [hmatrix, hcondition]
    exact hno p (List.mem_of_mem_take (List.mem_of_getElem? hp))

theorem refines_onChangeInspectionMatrix (s : CollectionInspectionEngine V)
    (order : IterationOrder V) (hm : m.Accepted) (hfits : signalBytes m ≤ MAX_SAMPLE_MEMORY)
    (hp : (activeConditions m)[i]? = some p)
    : Refines (requiredSize m) i (activate m.expressionNodeStorage p)
        (s.onChangeInspectionMatrix order m) (s.onChangeInspectionMatrix order m) {} := by
  have hcondition : (activate m.expressionNodeStorage p).mCondition = p := foldl_linkEntry_mCondition _
  have hbuffers := bufferAt_allocated s order hm hfits
  have hnew : ∀ b ∈ linkedSignals m, b.IsNew fun _ => True :=
    isNew_linkedSignals hm fun _ _ _ _ _ => trivial
  refine ⟨Ledger.empty, ?_⟩
  constructor
  . exact SameConfiguration.refl _
  . exact represents_onChangeInspectionMatrix s order hm
  . intro ac' hac'
    rw [onChangeInspectionMatrix_conditions order hm, List.getElem?_map, hp] at hac'
    rw [← Option.some_inj.mp hac']
    exact foldl_linkEntry_mLastTrigger _
  . rw [onChangeInspectionMatrix_accepted s order hm]
    have ⟨_, _, hframe⟩ := preAllocateBuffers_frame (linkedEngine s m) order
    rw [hframe]
    rfl
  . rw [onChangeInspectionMatrix_accepted s order hm]
    have ⟨_, _, hframe⟩ := preAllocateBuffers_frame (linkedEngine s m) order
    rw [hframe]
    rfl
  . refine ⟨fun _ _ => rfl, ?_⟩
    intro k _ n
    constructor
    . intro hmem
      cases hmem
    . intro hmem
      cases hmem
  . intro k hk
    rw [hcondition] at hk
    have ⟨signal, hsignal, hptr⟩ := hk
    have ⟨b, hb, _⟩ := served_linkedSignals (List.mem_of_getElem? hp) hsignal
    rw [hptr] at hb
    refine ⟨_, by rw [hbuffers, hb]; rfl, ?_⟩
    have := (hnew b (KeyedList.mem_of_lookup hb)).position
    unfold allocated
    dsimp only
    rw [ne_eq, List.replicate_eq_nil_iff]
    omega
  . intro ptr hptr
    rw [hcondition] at hptr
    have ⟨signal, hsignal, hne, heq⟩ := hptr
    have ⟨b, hb, hserved, _⟩ := served_linkedSignals (List.mem_of_getElem? hp) hsignal
    have hwindow := hserved hne
    rw [heq]
    unfold windowAt
    dsimp only
    rw [hbuffers, hb]
    cases hget : b.getFixedWindow signal.fixedWindowPeriod with
    | none => simp [hget] at hwindow
    | some w =>
      rw [(hnew b (KeyedList.mem_of_lookup hb)).getFixedWindow hget] at hget
      exact hget

/--
A condition of an engine behaves as its model, whatever other conditions the engine has.
-/
theorem condition_refines_model (s : CollectionInspectionEngine V) (order : IterationOrder V)
    (bound : Nat) (hm : m.Accepted) (hno : m.NoGeohash) (hfit : WindowsFit bound m)
    (hmemory : signalBytes m ≤ MAX_SAMPLE_MEMORY) (hdisable : s.mDisableProbability = true)
    (honce : s.mSendDataOnlyOncePerCondition = true) (hp : (activeConditions m)[i]? = some p)
    (inputs : List (InspectionInput V)) (hin : ∀ input ∈ inputs, input.Within bound)
    : ((s.onChangeInspectionMatrix order m).inspectAll inputs).2.filterMap (Observation.ofCondition i)
        =
      (ConditionModel.run m.expressionNodeStorage (activate m.expressionNodeStorage p) {} inputs).2 := by
  rw [inspectAll_refines (isolating_onChangeInspectionMatrix s order hm hno hdisable honce hp)
    (incrementalInvariant_onChangeInspectionMatrix s order hm hno hfit)
    (refines_onChangeInspectionMatrix s order hm hmemory hp) inputs hin]
  rw [(onChangeInspectionMatrix_settings order hm).2.2]

/--
What an engine shows of a condition is what an engine with this condition alone shows of it.
-/
theorem condition_isolation (s s' : CollectionInspectionEngine V) (order order' : IterationOrder V)
    (m : InspectionMatrix V) (bound : Nat) (hm : m.Accepted) (hno : m.NoGeohash)
    (hfits : m.FitsMemory) (hwindows : WindowsFit bound m)
    (hdisable : s.mDisableProbability = true) (hdisable' : s'.mDisableProbability = true)
    (honce : s.mSendDataOnlyOncePerCondition = true)
    (honce' : s'.mSendDataOnlyOncePerCondition = true) (i : Nat)
    (p : ConditionWithCollectedData V) (hp : (activeConditions m)[i]? = some p)
    (inputs : List (InspectionInput V)) (hin : ∀ input ∈ inputs, input.Within bound)
    : ((s.onChangeInspectionMatrix order m).inspectAll inputs).2.filterMap (Observation.ofCondition i)
        =
      ((s'.onChangeInspectionMatrix order' { m with conditions := [p] }).inspectAll inputs).2.filterMap
        (Observation.ofCondition 0) := by
  have hactive : p ∈ activeConditions m := List.mem_of_getElem? hp
  have hmem : p ∈ m.conditions := List.mem_of_mem_take hactive
  have hmemory : signalBytes m ≤ MAX_SAMPLE_MEMORY := Nat.le_trans (Nat.le_add_right _ _) hfits
  rw [condition_refines_model s order bound hm hno hwindows hmemory hdisable honce hp inputs hin]
  rw [condition_refines_model s' order' bound _ _ _ _ hdisable' honce' _ inputs hin]
  . intro p' hp'
    rw [List.mem_singleton.mp (List.mem_of_mem_take hp')]
    exact hm p hactive
  . intro p' hp'
    rw [List.mem_singleton.mp hp']
    exact hno p hmem
  . intro p' hp'
    rw [List.mem_singleton.mp hp']
    exact hwindows p hmem
  . exact Nat.le_trans (signalBytes_le hactive) hmemory
  . rfl

end Accepted

section Overflow

open CollectionInspectionEngine

def neighbourMatrix : InspectionMatrix Rat :=
  { windowMatrix with
    conditions :=
      windowMatrix.conditions
        ++ windowMatrix.conditions.map fun p =>
          { p with signals := [⟨7, 5, 3, 20, false⟩, ⟨8, 2, 0, 1, false⟩] } }

def isolatedEngine : CollectionInspectionEngine Rat := { emptyEngine with mDisableProbability := true }

def neighbourInputs (firstSample : Nat) : List (InspectionInput Rat) :=
  [{ signals :=
       [{ signalID := 7, receiveTime := firstSample, value := 4 },
        { signalID := 8, receiveTime := 5, value := 0 }]
     currentTime := 5 },
   { signals := [], currentTime := 6 },
   { signals := [{ signalID := 7, receiveTime := 7, value := 100 }], currentTime := 16 }]

def firstCondition (m : InspectionMatrix Rat) (firstSample : Nat) : List (ConditionOutput Rat) :=
  ((isolatedEngine.onChangeInspectionMatrix (.inserted Rat) m).inspectAll
    (neighbourInputs firstSample)).2.filterMap (Observation.ofCondition 0)

theorem condition_isolation_neighbour
    : ConditionOutput.triggered 16 ∈ firstCondition neighbourMatrix 1
        ∧
      firstCondition neighbourMatrix 1 = firstCondition windowMatrix 1 := by
  constructor
  . decide +kernel
  . apply condition_isolation isolatedEngine isolatedEngine (.inserted Rat) (.inserted Rat)
      neighbourMatrix 100 _ _ _ _ rfl rfl rfl rfl 0 _ rfl
    . simp [neighbourInputs, InspectionInput.Within]
    . decide
    . decide
    . decide +kernel
    . simp [WindowsFit, InspectionMatrix.Windows, neighbourMatrix, windowMatrix]

theorem condition_isolation_overflow
    : (neighbourMatrix.Accepted ∧ neighbourMatrix.NoGeohash ∧ neighbourMatrix.FitsMemory)
        ∧
      ConditionOutput.triggered 16 ∈ firstCondition neighbourMatrix (2 ^ 64 - 10)
        ∧
      firstCondition windowMatrix (2 ^ 64 - 10) = [] := by
  refine ⟨⟨by decide, by decide, by decide +kernel⟩, by decide +kernel, by decide +kernel⟩

end Overflow

end DataInspection
