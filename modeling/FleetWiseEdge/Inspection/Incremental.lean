import FleetWiseEdge.Inspection.Lemmas.Eval
import FleetWiseEdge.Inspection.Lemmas.Marks
import FleetWiseEdge.Inspection.Lemmas.Accepted

/-!
This module contains the incremental evaluation of conditions. The reference engine updates all windows
and evaluates all conditions that are not waiting, the engine itself skips those whose inputs did not
change. A condition that is skipped would not have been true.
-/

namespace DataInspection

open Cpp DataManagement

namespace CollectionInspectionEngine

variable {V : Type} [InspectionValue V]

def evaluateAllConditions (s : CollectionInspectionEngine V) (currentTime : Nat)
    : CollectionInspectionEngine V × List Evaluation :=
  let s := s.updateAllFixedWindowFunctions currentTime
  s.evaluateLoop currentTime s.mConditionsNotTriggeredWaitingPublished s.mConditions.length 0

def referenceStep (s : CollectionInspectionEngine V) (event : EngineEvent V)
    : CollectionInspectionEngine V × List (Observation V) :=
  match event with
  | .evaluateConditions currentTime =>
    let (s, evaluations) := s.evaluateAllConditions currentTime
    (s, evaluations.map (.ofEvaluation currentTime))
  | event => s.step event

def referenceRun (s : CollectionInspectionEngine V) (events : List (EngineEvent V))
    : CollectionInspectionEngine V × List (Observation V) :=
  Machine.run referenceStep s events

end CollectionInspectionEngine

namespace Observation

variable {V : Type}

def significant (observation : Observation V) : Option (Observation V) :=
  match observation with
  | .evaluated currentTime i result triggered =>
    if triggered then some (.evaluated currentTime i result true) else none
  | other => some other

def trigger (observation : Observation V) : Option (Nat × Nat) :=
  match observation with
  | .evaluated currentTime i _ triggered => if triggered then some (currentTime, i) else none
  | _ => none

theorem filterMap_trigger (log : List (Observation V))
    : (log.filterMap significant).filterMap trigger = log.filterMap trigger := by
  rw [List.filterMap_filterMap]
  congr 1
  funext observation
  cases observation with
  | evaluated currentTime i result triggered => cases triggered <;> rfl
  | refused currentTime i => rfl
  | published currentTime i data => rfl

end Observation

def EngineEvent.evaluationTime {V : Type} (event : EngineEvent V) : Option Nat :=
  match event with
  | .evaluateConditions currentTime => some currentTime
  | _ => none

def EngineEvent.Within {V : Type} (bound : Nat) (event : EngineEvent V) : Prop :=
  match event with
  | .addNewSignal _ receiveTime _ => receiveTime ≤ bound
  | .evaluateConditions currentTime => currentTime ≤ bound ∧ 0 < currentTime
  | _ => True

open CollectionInspectionEngine

section Evaluation

variable {V : Type} [InspectionValue V] {s s' : CollectionInspectionEngine V}
variable {ac ac' : ActiveCondition V} {currentTime i : Nat}

def HasNoGeohash (s : CollectionInspectionEngine V) (ac : ActiveCondition V) : Prop :=
  usesGeohash s.mActiveInspectionMatrix.expressionNodeStorage ac.mCondition.condition
    MAX_EQUATION_DEPTH = false

structure SameExpression (ac ac' : ActiveCondition V) : Prop where
  condition : ac'.mCondition = ac.mCondition
  signals : ac'.mEvaluationSignals = ac.mEvaluationSignals
  windows : ac'.mEvaluationFunctions = ac.mEvaluationFunctions

omit [InspectionValue V] in
theorem SameExpression.refl (ac : ActiveCondition V) : SameExpression ac ac := ⟨rfl, rfl, rfl⟩

theorem evalCondition_snd (hno : HasNoGeohash s ac)
    : (s.evalCondition ac).2 = s.mGeohashFunctionNode := by
  unfold evalCondition
  rw [eval_of_not_usesGeohash _ _ _ hno]

theorem isTrueNow_eq (hno : HasNoGeohash s ac)
    : s.isTrueNow ac
        =
      (eval s.mActiveInspectionMatrix.expressionNodeStorage s.mSignalBuffers ac.mCondition.condition
        ac {} MAX_EQUATION_DEPTH).1.isTrue := by
  unfold isTrueNow evalCondition
  rw [eval_of_not_usesGeohash _ _ _ hno]

theorem isTrueNow_congr (hno : HasNoGeohash s ac)
    (hmatrix : s'.mActiveInspectionMatrix = s.mActiveInspectionMatrix)
    (hcondition : ac'.mCondition = ac.mCondition)
    (hsignals : ∀ id, getLatestSignalValue s'.mSignalBuffers id ac'
      = getLatestSignalValue s.mSignalBuffers id ac)
    (hwindows : ∀ function id, getSampleWindowFunction s'.mSignalBuffers function id ac'
      = getSampleWindowFunction s.mSignalBuffers function id ac)
    : s'.isTrueNow ac' = s.isTrueNow ac := by
  have hno' : HasNoGeohash s' ac' := by
    unfold HasNoGeohash
    rw [hmatrix, hcondition]
    exact hno
  rw [isTrueNow_eq hno, isTrueNow_eq hno']
  rw [hmatrix, hcondition]
  rw [eval_congr hsignals hwindows]

theorem afterEvaluation_of_not_true (hno : HasNoGeohash s ac) (htrue : s.isTrueNow ac = false)
    (hbit : s.mConditionsWithConditionCurrentlyTrue.test i = false)
    : s.afterEvaluation ac currentTime i
        =
      s.withMarks ⟨s.mNextWindowFunctionTimesOut, s.mConditionsWithInputSignalChanged.set i false⟩ := by
  have hsame : s.mConditionsWithConditionCurrentlyTrue.set i false
      = s.mConditionsWithConditionCurrentlyTrue := by
    apply Bitset.ext
    intro j
    rw [Bitset.test_set]
    split
    . rename_i heq
      rw [heq, hbit]
    . rfl
  unfold afterEvaluation triggersNow
  rw [htrue, evalCondition_snd hno, hsame]
  rfl

end Evaluation

/--
The invariant of the engine. The last field is the reason why a condition may be skipped.
-/
structure IncrementalInvariant {V : Type} [InspectionValue V] (bound : Nat)
    (s : CollectionInspectionEngine V)
    : Prop where
  timeout : s.TimeoutSound bound
  signalsLinked : ∀ i ac id ptr, s.mConditions[i]? = some ac → ac.mEvaluationSignals id = some ptr →
    HasReader s.mSignalBuffers ptr i
  windowsLinked : ∀ i ac id ptr, s.mConditions[i]? = some ac → ac.mEvaluationFunctions id = some ptr →
    HasReader s.mSignalBuffers ptr.buffer i
  noGeohash : ∀ (i : Nat) ac, s.mConditions[i]? = some ac → HasNoGeohash s ac
  size : s.mConditions.length ≤ MAX_NUMBER_OF_ACTIVE_CONDITION
  skipped : ∀ i ac, s.mConditions[i]? = some ac →
    s.mConditionsWithInputSignalChanged.test i = false →
    s.mConditionsWithConditionCurrentlyTrue.test i = false →
    s.isTrueNow ac = false

namespace IncrementalInvariant

variable {V : Type} [InspectionValue V] {s s' : CollectionInspectionEngine V} {bound : Nat}

section Buffers

variable {g : SignalHistoryBuffer V → SignalHistoryBuffer V} {marks : ChangeMarks}

omit [InspectionValue V] in
theorem hasReader_map (hptr : ∀ b, (g b).ptr = b.ptr)
    (hreaders : ∀ b, (g b).mConditionsThatEvaluateOnThisSignal = b.mConditionsThatEvaluateOnThisSignal)
    {buffers : List (SignalHistoryBuffer V)} {k : SignalBufferPtr} {i : Nat}
    (h : HasReader buffers k i)
    : HasReader (buffers.map g) k i := by
  obtain ⟨b, hb, hbit⟩ := h
  refine ⟨g b, ?_, ?_⟩
  . unfold bufferAt at hb ⊢
    rw [KeyedList.lookup_map hptr, hb]
    rfl
  . rw [hreaders]
    exact hbit

theorem mapBuffers (h : IncrementalInvariant bound s) (hptr : ∀ b, (g b).ptr = b.ptr)
    (hreaders : ∀ b, (g b).mConditionsThatEvaluateOnThisSignal = b.mConditionsThatEvaluateOnThisSignal)
    (hs' : s' = { s with mSignalBuffers := s.mSignalBuffers.map g }.withMarks marks)
    (htimeout : s'.TimeoutSound bound)
    (hunmarked : ∀ i, s'.mConditionsWithInputSignalChanged.test i = false →
      s.mConditionsWithInputSignalChanged.test i = false
        ∧
      ∀ b ∈ s.mSignalBuffers, b.mConditionsThatEvaluateOnThisSignal.test i = true → g b = b)
    : IncrementalInvariant bound s' := by
  have hconds : s'.mConditions = s.mConditions := by rw [hs']; rfl
  have hbuffers : s'.mSignalBuffers = s.mSignalBuffers.map g := by rw [hs']; rfl
  have hmatrix : s'.mActiveInspectionMatrix = s.mActiveInspectionMatrix := by rw [hs']; rfl
  have htrue : s'.mConditionsWithConditionCurrentlyTrue = s.mConditionsWithConditionCurrentlyTrue := by
    rw [hs']
    rfl
  constructor
  . exact htimeout
  . intro i ac id ptr hac href
    rw [hconds] at hac
    rw [hbuffers]
    exact hasReader_map hptr hreaders (h.signalsLinked i ac id ptr hac href)
  . intro i ac id ptr hac href
    rw [hconds] at hac
    rw [hbuffers]
    exact hasReader_map hptr hreaders (h.windowsLinked i ac id ptr hac href)
  . intro i ac hac
    rw [hconds] at hac
    unfold HasNoGeohash
    rw [hmatrix]
    exact h.noGeohash i ac hac
  . rw [hconds]
    exact h.size
  . intro i ac hac hchanged hbit
    rw [hconds] at hac
    rw [htrue] at hbit
    obtain ⟨hchanged, hsame⟩ := hunmarked i hchanged
    rw [← h.skipped i ac hac hchanged hbit]
    have hread : ∀ k, HasReader s.mSignalBuffers k i →
        bufferAt s'.mSignalBuffers k = bufferAt s.mSignalBuffers k := by
      intro k hreader
      obtain ⟨b, hb, hreads⟩ := hreader
      rw [hbuffers]
      unfold bufferAt at hb ⊢
      rw [KeyedList.lookup_map hptr, hb]
      rw [Option.map_some]
      rw [hsame b (KeyedList.mem_of_lookup hb) hreads]
    apply isTrueNow_congr (h.noGeohash i ac hac) hmatrix rfl
    . apply getLatestSignalValue_congr rfl
      intro id ptr href
      exact hread ptr (h.signalsLinked i ac id ptr hac href)
    . apply getSampleWindowFunction_congr rfl
      intro id ptr href
      exact hread ptr.buffer (h.windowsLinked i ac id ptr hac href)

end Buffers

section Calls

variable {id : SignalID} {receiveTime currentTime : Nat} {value : V}

theorem addNewSignal (h : IncrementalInvariant bound s) (htime : receiveTime ≤ bound)
    : IncrementalInvariant bound (s.addNewSignal id receiveTime value) := by
  apply h.mapBuffers _ _ (addNewSignal_eq s id receiveTime value)
  . exact addNewSignal_timeoutSound h.timeout htime
  . intro i hchanged
    exact addNewSignal_unmarked hchanged
  . intro b
    exact SignalHistoryBuffer.addSample_ptr
  . intro b
    exact SignalHistoryBuffer.addSample_readers

theorem updateAllFixedWindowFunctions (h : IncrementalInvariant bound s)
    (htime : currentTime ≤ bound) (hpos : 0 < currentTime)
    : IncrementalInvariant bound (s.updateAllFixedWindowFunctions currentTime) := by
  apply h.mapBuffers _ _ (updateAllFixedWindowFunctions_eq s currentTime)
  . exact updateAllFixedWindowFunctions_timeoutSound h.timeout htime hpos
  . intro i hchanged
    exact updateAllFixedWindowFunctions_unmarked hchanged
  . intro b
    rfl
  . intro b
    rfl

theorem afterEvaluation {i : Nat} {ac : ActiveCondition V} (h : IncrementalInvariant bound s)
    (hac : s.mConditions[i]? = some ac)
    : IncrementalInvariant bound (s.afterEvaluation ac currentTime i) := by
  -- the condition `j` after the evaluation reads what it read before
  have hsame : ∀ (j : Nat) ac', (s.afterEvaluation ac currentTime i).mConditions[j]? = some ac' →
      ∃ ac'', s.mConditions[j]? = some ac'' ∧ SameExpression ac'' ac' := by
    intro j ac' hac'
    by_cases hj : j = i
    . rw [hj] at hac' ⊢
      rw [afterEvaluation_getElem_self hac] at hac'
      refine ⟨ac, hac, ?_⟩
      rw [← Option.some_inj.mp hac']
      exact ⟨rfl, rfl, rfl⟩
    . rw [afterEvaluation_getElem_ne hj] at hac'
      exact ⟨ac', hac', SameExpression.refl ac'⟩
  have hvalue : ∀ (j : Nat) ac' ac'', s.mConditions[j]? = some ac'' → SameExpression ac'' ac' →
      (s.afterEvaluation ac currentTime i).isTrueNow ac' = s.isTrueNow ac'' := by
    intro j ac' ac'' hac'' hexpr
    apply isTrueNow_congr (h.noGeohash j ac'' hac'') _ hexpr.condition
    . exact getLatestSignalValue_congr hexpr.signals fun _ _ _ => rfl
    . exact getSampleWindowFunction_congr hexpr.windows fun _ _ _ => rfl
    . rfl
  constructor
  . exact h.timeout
  . intro j ac' id ptr hac' href
    obtain ⟨ac'', hac'', hexpr⟩ := hsame j ac' hac'
    rw [hexpr.signals] at href
    exact h.signalsLinked j ac'' id ptr hac'' href
  . intro j ac' id ptr hac' href
    obtain ⟨ac'', hac'', hexpr⟩ := hsame j ac' hac'
    rw [hexpr.windows] at href
    exact h.windowsLinked j ac'' id ptr hac'' href
  . intro j ac' hac'
    obtain ⟨ac'', hac'', hexpr⟩ := hsame j ac' hac'
    unfold HasNoGeohash
    rw [hexpr.condition]
    exact h.noGeohash j ac'' hac''
  . rw [afterEvaluation_length]
    exact h.size
  . intro j ac' hac' hchanged hbit
    obtain ⟨ac'', hac'', hexpr⟩ := hsame j ac' hac'
    rw [hvalue j ac' ac'' hac'' hexpr]
    by_cases hj : j = i
    . rw [hj] at hac'' hbit
      rw [← Option.some_inj.mp (hac.symm.trans hac'')]
      exact (Bitset.test_set_self _ _ _).symm.trans hbit
    . apply h.skipped j ac'' hac''
      . exact (Bitset.test_set_ne _ _ hj).symm.trans hchanged
      . exact (Bitset.test_set_ne _ _ hj).symm.trans hbit

theorem congr (h : IncrementalInvariant bound s)
    (hbuffers : List.Forall₂ SameReadings s.mSignalBuffers s'.mSignalBuffers)
    (hconds : ∀ (j : Nat) ac', s'.mConditions[j]? = some ac' →
      ∃ ac, s.mConditions[j]? = some ac ∧ SameExpression ac ac')
    (hlength : s'.mConditions.length = s.mConditions.length)
    (hmatrix : s'.mActiveInspectionMatrix = s.mActiveInspectionMatrix)
    (hmarks : s'.changeMarks = s.changeMarks)
    (htrue : s'.mConditionsWithConditionCurrentlyTrue = s.mConditionsWithConditionCurrentlyTrue)
    : IncrementalInvariant bound s' := by
  have hreader : ∀ k i, HasReader s.mSignalBuffers k i → HasReader s'.mSignalBuffers k i := by
    intro k i hreads
    obtain ⟨b, hb, hbit⟩ := hreads
    have hrel := lookup_sameReadings hbuffers k
    unfold HasReader
    rw [hb] at hrel
    generalize bufferAt s'.mSignalBuffers k = found at hrel ⊢
    cases hrel with
    | some hsame =>
      refine ⟨_, rfl, ?_⟩
      rw [hsame.1]
      exact hbit
  have hnext : s'.mNextWindowFunctionTimesOut = s.mNextWindowFunctionTimesOut :=
    congrArg ChangeMarks.mNextWindowFunctionTimesOut hmarks
  have hchanged : s'.mConditionsWithInputSignalChanged = s.mConditionsWithInputSignalChanged :=
    congrArg ChangeMarks.mConditionsWithInputSignalChanged hmarks
  constructor
  . intro b' hb'
    obtain ⟨b, hb, hsame⟩ := KeyedList.mem_forall₂ hbuffers hb'
    rw [hsame.1, hnext]
    exact h.timeout b hb
  . intro i ac' id ptr hac' href
    obtain ⟨ac, hac, hexpr⟩ := hconds i ac' hac'
    rw [hexpr.signals] at href
    exact hreader _ _ (h.signalsLinked i ac id ptr hac href)
  . intro i ac' id ptr hac' href
    obtain ⟨ac, hac, hexpr⟩ := hconds i ac' hac'
    rw [hexpr.windows] at href
    exact hreader _ _ (h.windowsLinked i ac id ptr hac href)
  . intro i ac' hac'
    obtain ⟨ac, hac, hexpr⟩ := hconds i ac' hac'
    unfold HasNoGeohash
    rw [hmatrix, hexpr.condition]
    exact h.noGeohash i ac hac
  . rw [hlength]
    exact h.size
  . intro i ac' hac' hmark hbit
    obtain ⟨ac, hac, hexpr⟩ := hconds i ac' hac'
    rw [hchanged] at hmark
    rw [htrue] at hbit
    rw [← h.skipped i ac hac hmark hbit]
    apply isTrueNow_congr (h.noGeohash i ac hac) hmatrix hexpr.condition
    . exact getLatestSignalValue_sameReadings hbuffers hexpr.signals
    . exact getSampleWindowFunction_sameReadings hbuffers hexpr.windows

omit [InspectionValue V] in
theorem sameReadings_refl (s : CollectionInspectionEngine V)
    : List.Forall₂ SameReadings s.mSignalBuffers s.mSignalBuffers :=
  List.forall₂_same.mpr fun b _ => SameReadings.refl b

omit [InspectionValue V] in
theorem sameConditions_refl (s : CollectionInspectionEngine V)
    : ∀ (j : Nat) ac', s.mConditions[j]? = some ac' →
        ∃ ac, s.mConditions[j]? = some ac ∧ SameExpression ac ac' := by
  intro j ac hac
  exact ⟨ac, hac, SameExpression.refl ac⟩

theorem publish {ac : ActiveCondition V} {i : Nat} (h : IncrementalInvariant bound s)
    : IncrementalInvariant bound (s.publish ac i currentTime).1 := by
  obtain ⟨_, _, _, _, _, mEventID, mLastDataTimestampPublished, hframe⟩ :=
    publish_frame s ac i currentTime
  apply h.congr (publish_forall₂ s ac i currentTime)
  . intro j ac' hac'
    rw [hframe] at hac'
    dsimp only at hac'
    rw [List.getElem?_modify] at hac'
    simp only [Option.map_eq_map, Option.map_eq_some_iff] at hac'
    obtain ⟨ac, hac, heq⟩ := hac'
    refine ⟨ac, hac, ?_⟩
    rw [← heq]
    split
    . exact ⟨rfl, rfl, rfl⟩
    . exact SameExpression.refl ac
  . rw [hframe]
    simp
  . rw [hframe]
  . rw [hframe]
    rfl
  . rw [hframe]

theorem collectNextDataToSend (h : IncrementalInvariant bound s)
    : IncrementalInvariant bound (s.collectNextDataToSend currentTime).engine := by
  unfold CollectionInspectionEngine.collectNextDataToSend
  dsimp only
  split
  . exact h
  . apply collectLoop_induction
      (motive := fun s s' _ => IncrementalInvariant bound s → IncrementalInvariant bound s')
    . intro s h
      exact h
    . intro s s' _ _ hrest h
      apply hrest
      exact h.congr (sameReadings_refl s) (sameConditions_refl s) rfl rfl rfl rfl
    . intro s s' i mRandomNumbers _ _ _ _ _ _ hrest h
      apply hrest
      exact h.congr (sameReadings_refl s) (sameConditions_refl s) rfl rfl rfl rfl
    . intro s i mRandomNumbers ac _ _ _ h
      apply publish
      exact h.congr (sameReadings_refl s) (sameConditions_refl s) rfl rfl rfl rfl
    . exact h

end Calls

end IncrementalInvariant

section Simulation

variable {V : Type} [InspectionValue V] {bound currentTime : Nat}

-- The reference engine is in the state of the engine but for its marks.
def Simulates (bound : Nat) (s reference : CollectionInspectionEngine V) : Prop :=
  IncrementalInvariant bound s ∧ ∃ marks, reference = s.withMarks marks

theorem conditionsToEvaluate_afterEvaluation {s : CollectionInspectionEngine V} {ac : ActiveCondition V}
    {i j : Nat} (hne : j ≠ i)
    : (s.afterEvaluation ac currentTime i).conditionsToEvaluate.test j
        =
      s.conditionsToEvaluate.test j := by
  unfold conditionsToEvaluate
  rw [Bitset.test_and, Bitset.test_and]
  rw [Bitset.test_or, Bitset.test_or]
  rw [afterEvaluation_waiting_ne hne]
  congr 2
  . exact Bitset.test_set_ne _ _ hne
  . exact Bitset.test_set_ne _ _ hne

/--
The loops of the two engines. `toEvaluate` are the conditions that the engine selected before its loop,
`notWaiting` those of the reference engine. From `i` on, the selections are those of the current state.
-/
theorem evaluateLoop_simulates {toEvaluate notWaiting : Bitset} (remaining i : Nat)
    {s : CollectionInspectionEngine V} (marks : ChangeMarks) (h : IncrementalInvariant bound s)
    (hselect : ∀ j ≥ i, toEvaluate.test j = s.conditionsToEvaluate.test j)
    (hnotWaiting : ∀ j ≥ i, notWaiting.test j = s.mConditionsNotTriggeredWaitingPublished.test j)
    : Simulates bound (s.evaluateLoop currentTime toEvaluate remaining i).1
          ((s.withMarks marks).evaluateLoop currentTime notWaiting remaining i).1
        ∧
      ((s.evaluateLoop currentTime toEvaluate remaining i).2.map
          (.ofEvaluation currentTime)).filterMap (Observation.significant (V := V))
        =
      (((s.withMarks marks).evaluateLoop currentTime notWaiting remaining i).2.map
          (.ofEvaluation currentTime)).filterMap (Observation.significant (V := V)) := by
  induction remaining generalizing i s marks with
  | zero => exact ⟨⟨h, marks, rfl⟩, rfl⟩
  | succ remaining ih =>
    rw [evaluateLoop_succ, evaluateLoop_succ]
    -- the marks may be others afterwards, the selection of later conditions is the same
    have hskip := fun marks => ih (i + 1) marks h (fun j hj => hselect j (by omega))
      (fun j hj => hnotWaiting j (by omega))
    have htest : toEvaluate.test i
        = ((s.mConditionsWithConditionCurrentlyTrue.test i
            || s.mConditionsWithInputSignalChanged.test i) && notWaiting.test i) := by
      rw [hselect i (Nat.le_refl i), hnotWaiting i (Nat.le_refl i)]
      unfold conditionsToEvaluate
      rw [Bitset.test_and, Bitset.test_or]
    cases hnot : notWaiting.test i with
    | false =>
      rw [hnot, Bool.and_false] at htest
      rw [htest]
      exact hskip marks
    | true =>
      rw [hnot, Bool.and_true] at htest
      cases hcond : s.mConditions[i]? with
      | none =>
        rw [evaluateCondition_none hcond]
        rw [evaluateCondition_none (s := s.withMarks marks) hcond]
        rw [ite_self, ite_self]
        exact hskip marks
      | some ac =>
        have hcond' : (s.withMarks marks).mConditions[i]? = some ac := hcond
        by_cases hdue : isDue ac currentTime
        . rw [evaluateCondition_due hcond hdue]
          rw [evaluateCondition_due hcond' hdue]
          cases hselected : toEvaluate.test i with
          | true =>
            have hnext : IncrementalInvariant bound (s.afterEvaluation ac currentTime i) :=
              h.afterEvaluation hcond
            have hrest := ih (i + 1)
              ⟨marks.mNextWindowFunctionTimesOut, marks.mConditionsWithInputSignalChanged.set i false⟩
              hnext
              (fun j hj => by
                rw [conditionsToEvaluate_afterEvaluation (by omega)]
                exact hselect j (by omega))
              (fun j hj => by
                rw [afterEvaluation_waiting_ne (by omega)]
                exact hnotWaiting j (by omega))
            constructor
            . exact hrest.1
            . simp only [if_true, List.map_append, List.filterMap_append]
              rw [hrest.2]
              rfl
          | false =>
            -- only the reference engine evaluates, and the condition is not true
            rw [hselected] at htest
            have hmarks := Bool.or_eq_false_iff.mp htest.symm
            have hfalse : (s.withMarks marks).isTrueNow ac = false := h.skipped i ac hcond hmarks.2 hmarks.1
            have hnoTrigger : (s.withMarks marks).triggersNow ac i = false := by
              unfold triggersNow
              rw [hfalse, Bool.false_and]
            rw [afterEvaluation_of_not_true (s := s.withMarks marks) (h.noGeohash i ac hcond) hfalse hmarks.1]
            rw [hfalse, hnoTrigger]
            exact hskip _
        . rw [evaluateCondition_not_due hcond hdue]
          rw [evaluateCondition_not_due hcond' hdue]
          rw [ite_self, ite_self]
          exact hskip marks

theorem evaluateLoop_of_none {toEvaluate : Bitset} (remaining i : Nat) (s : CollectionInspectionEngine V)
    (hnone : ∀ j, i ≤ j → j < i + remaining → toEvaluate.test j = false)
    : s.evaluateLoop currentTime toEvaluate remaining i = (s, []) := by
  induction remaining generalizing i with
  | zero => rfl
  | succ remaining ih =>
    rw [evaluateLoop_succ]
    rw [hnone i (Nat.le_refl i) (by omega)]
    simp only [Bool.false_eq_true, if_false, List.nil_append]
    rw [ih]
    intro j hle hlt
    exact hnone j (by omega) (by omega)

theorem evaluateConditions_eq (s : CollectionInspectionEngine V)
    (hsize : s.mConditions.length ≤ MAX_NUMBER_OF_ACTIVE_CONDITION)
    : s.evaluateConditions currentTime
        =
      let s :=
        if currentTime ≥ s.mNextWindowFunctionTimesOut then
          s.updateAllFixedWindowFunctions currentTime
        else
          s
      s.evaluateLoop currentTime s.conditionsToEvaluate s.mConditions.length 0 := by
  have hsave : ∀ s : CollectionInspectionEngine V,
      s.mConditions.length ≤ MAX_NUMBER_OF_ACTIVE_CONDITION →
      (if s.conditionsToEvaluate.none MAX_NUMBER_OF_ACTIVE_CONDITION then
        (s, [])
      else
        s.evaluateLoop currentTime s.conditionsToEvaluate s.mConditions.length 0)
        = s.evaluateLoop currentTime s.conditionsToEvaluate s.mConditions.length 0 := by
    intro s hsize
    split
    . rename_i hnone
      rw [Bitset.none_iff] at hnone
      rw [evaluateLoop_of_none]
      intro j _ hlt
      exact hnone j (by omega)
    . rfl
  unfold evaluateConditions
  dsimp only
  apply hsave
  split
  . exact hsize
  . exact hsize

theorem evaluateConditions_simulates {s reference : CollectionInspectionEngine V}
    (h : Simulates bound s reference) (htime : currentTime ≤ bound) (hpos : 0 < currentTime)
    : Simulates bound (s.evaluateConditions currentTime).1
          (reference.evaluateAllConditions currentTime).1
        ∧
      ((s.evaluateConditions currentTime).2.map
          (.ofEvaluation currentTime)).filterMap (Observation.significant (V := V))
        =
      ((reference.evaluateAllConditions currentTime).2.map
          (.ofEvaluation currentTime)).filterMap (Observation.significant (V := V)) := by
  have ⟨hinv, marks, hreference⟩ := h
  rw [evaluateConditions_eq s hinv.size]
  unfold evaluateAllConditions
  rw [hreference]
  dsimp only
  split
  . have ⟨marks', hupdate⟩ := updateAllFixedWindowFunctions_withMarks s marks currentTime
    rw [hupdate]
    apply evaluateLoop_simulates
    . exact hinv.updateAllFixedWindowFunctions htime hpos
    . intro j _
      rfl
    . intro j _
      rfl
  . rename_i hquiet
    -- no window has run out, the reference engine updates them in vain
    have hbuffers : s.mSignalBuffers.map (SignalHistoryBuffer.tick currentTime) = s.mSignalBuffers :=
      tick_of_quiet hinv.timeout (Nat.lt_of_not_le hquiet)
    have ⟨marks', hupdate⟩ : ∃ marks',
        (s.withMarks marks).updateAllFixedWindowFunctions currentTime = s.withMarks marks' := by
      rw [updateAllFixedWindowFunctions_eq]
      unfold withMarks
      dsimp only
      rw [hbuffers]
      exact ⟨_, rfl⟩
    rw [hupdate]
    apply evaluateLoop_simulates _ _ _ hinv
    . intro j _
      rfl
    . intro j _
      rfl

theorem step_simulates {s reference : CollectionInspectionEngine V} (event : EngineEvent V)
    (h : Simulates bound s reference) (htime : event.Within bound)
    : Simulates bound (s.step event).1 (reference.referenceStep event).1
        ∧
      (s.step event).2.filterMap Observation.significant
        =
      (reference.referenceStep event).2.filterMap Observation.significant := by
  have ⟨hinv, marks, hreference⟩ := h
  cases event with
  | addNewSignal id receiveTime value =>
    rw [hreference]
    refine ⟨⟨hinv.addNewSignal htime, ?_⟩, rfl⟩
    exact addNewSignal_withMarks s marks
  | addNewRawCanFrame canID channelID receiveTime buffer size =>
    rw [hreference]
    refine ⟨⟨?_, marks, rfl⟩, rfl⟩
    exact hinv.congr (IncrementalInvariant.sameReadings_refl s)
      (IncrementalInvariant.sameConditions_refl s) rfl rfl rfl rfl
  | setActiveDTCs activeDTCs =>
    rw [hreference]
    refine ⟨⟨?_, marks, rfl⟩, rfl⟩
    exact hinv.congr (IncrementalInvariant.sameReadings_refl s)
      (IncrementalInvariant.sameConditions_refl s) rfl rfl rfl rfl
  | evaluateConditions currentTime =>
    exact evaluateConditions_simulates h htime.1 htime.2
  | collectNextDataToSend currentTime =>
    rw [hreference]
    unfold referenceStep step
    dsimp only
    rw [collectNextDataToSend_withMarks]
    exact ⟨⟨hinv.collectNextDataToSend, marks, rfl⟩, rfl⟩

theorem run_simulates {s reference : CollectionInspectionEngine V} {events : List (EngineEvent V)}
    (h : Simulates bound s reference) (htimes : ∀ event ∈ events, event.Within bound)
    : Simulates bound (s.run events).1 (reference.referenceRun events).1
        ∧
      (s.run events).2.filterMap Observation.significant
        =
      (reference.referenceRun events).2.filterMap Observation.significant := by
  apply Machine.run_simulation (Simulates bound) (fun _ event => event.Within bound) _ h
  . exact Machine.always_of_forall (fun event => event.Within bound) (fun _ _ hgood => hgood) htimes
  . intro s reference event htime h
    exact step_simulates _ h htime

end Simulation

section Accepted

variable {V : Type} [InspectionValue V] {m : InspectionMatrix V} {bound : Nat}

def WindowsFit (bound : Nat) (m : InspectionMatrix V) : Prop :=
  m.Windows fun windowSizeMs => bound + 2 * windowSizeMs < 2 ^ 64

theorem SignalHistoryBuffer.IsNew.timesOut {b : SignalHistoryBuffer V}
    (h : b.IsNew fun windowSizeMs => bound + 2 * windowSizeMs < 2 ^ 64)
    : b.TimesOut bound 0 := by
  intro w hw
  have ⟨_, hbound, hnew⟩ := h.windows w hw
  have hzero : w.mLastTimeCalculated = 0 := by
    rw [hnew]
    rfl
  refine ⟨⟨?_, hbound⟩, Nat.zero_le _, fun _ => rfl⟩
  rw [hzero]
  exact Nat.zero_le _

theorem incrementalInvariant_onChangeInspectionMatrix (s : CollectionInspectionEngine V)
    (order : IterationOrder V) (hm : m.Accepted) (hno : m.NoGeohash) (hfit : WindowsFit bound m)
    : IncrementalInvariant bound (s.onChangeInspectionMatrix order m) := by
  rw [onChangeInspectionMatrix_accepted s order hm]
  have ⟨_, _, hframe⟩ := preAllocateBuffers_frame (linkedEngine s m) order
  have hconds : ((linkedEngine s m).preAllocateBuffers order).1.mConditions
      = (activeConditions m).map (activate m.expressionNodeStorage) := by
    rw [hframe]
    rfl
  have hactive : ∀ (i : Nat) ac,
      ((linkedEngine s m).preAllocateBuffers order).1.mConditions[i]? = some ac →
      ∃ p, (activeConditions m)[i]? = some p ∧ activate m.expressionNodeStorage p = ac := by
    intro i ac hac
    rw [hconds, List.getElem?_map, Option.map_eq_some_iff] at hac
    exact hac
  constructor
  . intro b' hb'
    have ⟨b, hb, hpre⟩ := preAllocateBuffers_mem order hb'
    have ⟨_, _, heq⟩ := hpre.ring
    have hnext : ((linkedEngine s m).preAllocateBuffers order).1.mNextWindowFunctionTimesOut = 0 := by
      rw [hframe]
      rfl
    rw [hnext, heq]
    exact (isNew_linkedSignals hm hfit b hb).timesOut
  . intro i ac id ptr hac href
    have ⟨p, hp, heq⟩ := hactive i ac hac
    rw [← heq] at href
    apply HasReader.preAllocateBuffers order (nodup_linkedSignals m)
    exact (hasReader_activate hp).1 id ptr href
  . intro i ac id ptr hac href
    have ⟨p, hp, heq⟩ := hactive i ac hac
    rw [← heq] at href
    apply HasReader.preAllocateBuffers order (nodup_linkedSignals m)
    exact (hasReader_activate hp).2 id ptr href
  . intro i ac hac
    have ⟨p, hp, heq⟩ := hactive i ac hac
    unfold HasNoGeohash
    rw [hframe, ← heq]
    unfold activate
    rw [foldl_linkEntry_mCondition]
    exact hno p (List.mem_of_mem_take (List.mem_of_getElem? hp))
  . rw [hconds, List.length_map]
    exact List.length_take_le _ _
  . intro i ac hac hchanged hbit
    rw [hframe] at hbit
    cases hbit

theorem significant_run_eq (s : CollectionInspectionEngine V) (order : IterationOrder V)
    (hm : m.Accepted) (hno : m.NoGeohash) (hfit : WindowsFit bound m) (events : List (EngineEvent V))
    (htimes : ∀ event ∈ events, event.Within bound)
    : ((s.onChangeInspectionMatrix order m).run events).2.filterMap Observation.significant
        =
      ((s.onChangeInspectionMatrix order m).referenceRun events).2.filterMap
        Observation.significant := by
  apply (run_simulates _ htimes).2
  refine ⟨incrementalInvariant_onChangeInspectionMatrix s order hm hno hfit, ?_⟩
  exact ⟨_, (withMarks_changeMarks _).symm⟩

theorem incremental_evaluation (s : CollectionInspectionEngine V) (order : IterationOrder V)
    (m : InspectionMatrix V) (bound : Nat) (hm : m.Accepted) (hno : m.NoGeohash) (hfit : WindowsFit bound m)
    (events : List (EngineEvent V))
    (htimes : ∀ event ∈ events, event.Within bound)
    : ((s.onChangeInspectionMatrix order m).run events).2.filterMap Observation.trigger
        =
      ((s.onChangeInspectionMatrix order m).referenceRun events).2.filterMap Observation.trigger := by
  rw [← Observation.filterMap_trigger]
  rw [significant_run_eq s order hm hno hfit events htimes]
  rw [Observation.filterMap_trigger]

end Accepted

section Overflow

open CollectionInspectionEngine

def windowMatrix : InspectionMatrix Rat where
  conditions :=
    [{ condition := some 0
       minimumPublishInterval := 0
       afterDuration := 0
       signals := [⟨7, 2, 0, 10, false⟩]
       canFrames := []
       includeActiveDtcs := false
       triggerOnlyOnRisingEdge := false
       probabilityToSend := 1
       metaData := {}
       imageCollectionInfos := []
       includeImageCapture := false }]
  expressionNodeStorage :=
    [{ nodeType := .OPERATOR_BIGGER, left := some 1, right := some 2, floatingValue := 0 },
     { nodeType := .WINDOWFUNCTION, signalID := 7, floatingValue := 0,
       function := { windowFunction := .LAST_FIXED_WINDOW_AVG } },
     { nodeType := .FLOAT, floatingValue := 5 }]

def windowEngine : CollectionInspectionEngine Rat :=
  emptyEngine.onChangeInspectionMatrix (.inserted Rat) windowMatrix

def windowEvents (firstSample : Nat) : List (EngineEvent Rat) :=
  [.addNewSignal 7 firstSample 4, .evaluateConditions 5, .evaluateConditions 6,
   .addNewSignal 7 7 100, .evaluateConditions 16]

theorem incremental_evaluation_window
    : (windowEngine.referenceRun (windowEvents 1)).2.filterMap Observation.trigger = [(16, 0)]
        ∧
      (windowEngine.run (windowEvents 1)).2.filterMap Observation.trigger
        =
      (windowEngine.referenceRun (windowEvents 1)).2.filterMap Observation.trigger := by
  constructor
  . decide +kernel
  . apply incremental_evaluation emptyEngine (.inserted Rat) windowMatrix 100
    . decide
    . decide
    . simp [WindowsFit, InspectionMatrix.Windows, windowMatrix]
    . simp [windowEvents, EngineEvent.Within]

/--
The end of a window that starts 10 milliseconds before the timestamps overflow is 0. Its next one has no
start time, so only an engine that updates its windows in every evaluation starts it in time.
-/
theorem incremental_evaluation_overflow
    : windowMatrix.Accepted ∧ windowMatrix.NoGeohash
        ∧
      [5, 6, 16] = (windowEvents (2 ^ 64 - 10)).filterMap EngineEvent.evaluationTime
        ∧
      (windowEngine.run (windowEvents (2 ^ 64 - 10))).2.filterMap Observation.trigger = []
        ∧
      (windowEngine.referenceRun (windowEvents (2 ^ 64 - 10))).2.filterMap Observation.trigger
        = [(16, 0)] := by
  decide +kernel

end Overflow

end DataInspection
