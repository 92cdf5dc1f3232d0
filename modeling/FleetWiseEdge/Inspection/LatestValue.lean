import FleetWiseEdge.Inspection.Lemmas.WindowRun
import FleetWiseEdge.Inspection.Lemmas.Ledger

namespace DataInspection

open Cpp DataManagement CollectionInspectionEngine

namespace HistoryBuffer

variable {α : Type} {b : HistoryBuffer α} {stored : List (α × Nat)}

structure Latest (b : HistoryBuffer α) (stored : List (α × Nat)) : Prop where
  counter : b.mCounter = u32 stored.length
  newest : ∀ sample ∈ stored.head?,
    (b.mBuffer.map (·.content))[b.mCurrentPosition]? = some sample.1

theorem Latest.storeSample (h : b.Latest stored) {receiveTime : Nat}
    (haccepts : b.acceptsSample receiveTime = true) (value : α)
    : (b.storeSample receiveTime fun _ => value).Latest ((value, receiveTime) :: stored) := by
  unfold acceptsSample at haccepts
  simp only [Bool.and_eq_true, decide_eq_true_iff] at haccepts
  have hlt := nextPosition_lt haccepts.1.1
  have hbounds : b.nextPosition < b.mBuffer.length := by omega
  rw [storeSample_eq _ _ hbounds]
  constructor
  . dsimp only
    rw [h.counter]
    unfold u32
    rw [List.length_cons]
    omega
  . intro sample hsample
    rw [List.head?_cons, Option.mem_some_iff] at hsample
    dsimp only
    rw [← hsample, List.getElem?_map, List.getElem?_set_self hbounds]
    rfl

theorem Latest.sameContents {b' : HistoryBuffer α} (h : b.Latest stored)
    (hcounter : b'.mCounter = b.mCounter) (hposition : b'.mCurrentPosition = b.mCurrentPosition)
    (hcontents : b'.mBuffer.map (·.content) = b.mBuffer.map (·.content))
    : b'.Latest stored := by
  constructor
  . rw [hcounter]
    exact h.counter
  . rw [hposition, hcontents]
    exact h.newest

end HistoryBuffer

section Evaluation

variable {V : Type} [InspectionValue V]

theorem getLatestSignalValue_latest {mSignalBuffers : List (SignalHistoryBuffer V)} {id : SignalID}
    {condition : ActiveCondition V} {k : SignalBufferPtr} {b : SignalHistoryBuffer V}
    {newest : V × Nat} {older : List (V × Nat)} (hk : condition.mEvaluationSignals id = some k)
    (hb : bufferAt mSignalBuffers k = some b) (h : b.Latest (newest :: older))
    : getLatestSignalValue mSignalBuffers id condition
        =
      if 2 ^ 32 ∣ (newest :: older).length then .ofCode .SIGNAL_NOT_FOUND else .ofDouble newest.1 := by
  have hcounter := h.counter
  have hnewest := h.newest newest (by simp)
  rw [List.getElem?_map, Option.map_eq_some_iff] at hnewest
  have ⟨slot, hslot, hcontent⟩ := hnewest
  unfold getLatestSignalValue
  rw [hk, Option.bind_some, hb]
  dsimp only
  rw [hslot, hcounter, ← hcontent]
  unfold u32
  simp only [Nat.dvd_iff_mod_eq_zero]

end Evaluation

namespace CollectionInspectionEngine

variable {V : Type} [InspectionValue V] {s : CollectionInspectionEngine V}
variable {stored : SignalBufferPtr → List (V × Nat)}

def stores (s : CollectionInspectionEngine V) (event : EngineEvent V) (k : SignalBufferPtr)
    : List (V × Nat) :=
  match event with
  | .addNewSignal id receiveTime value => s.accepted id receiveTime value k
  | _ => []

def storedIn (s : CollectionInspectionEngine V) (events : List (EngineEvent V)) (k : SignalBufferPtr)
    : List (V × Nat) :=
  match events with
  | [] => []
  | event :: events => (s.step event).1.storedIn events k ++ s.stores event k

def takesAll (s : CollectionInspectionEngine V) (k : SignalBufferPtr) : Bool :=
  (bufferAt s.mSignalBuffers k).any fun b =>
    b.mSize > 0 && b.mSize ≤ b.mBuffer.length && b.mMinimumSampleIntervalMs = 0

structure StoresLatest (s : CollectionInspectionEngine V) (stored : SignalBufferPtr → List (V × Nat))
    : Prop where
  present : ∀ k b, bufferAt s.mSignalBuffers k = some b → b.Latest (stored k)
  missing : ∀ k, bufferAt s.mSignalBuffers k = none → stored k = []

namespace StoresLatest

theorem addNewSignal (h : s.StoresLatest stored) (id : SignalID) (receiveTime : Nat) (value : V)
    : (s.addNewSignal id receiveTime value).StoresLatest fun k =>
        s.accepted id receiveTime value k ++ stored k := by
  have hlookup : ∀ k, bufferAt (s.addNewSignal id receiveTime value).mSignalBuffers k
      = (bufferAt s.mSignalBuffers k).map (SignalHistoryBuffer.addSample id receiveTime value) := by
    intro k
    rw [addNewSignal_buffers]
    exact KeyedList.lookup_map fun b => SignalHistoryBuffer.addSample_ptr
  constructor
  . intro k b' hb'
    rw [hlookup, Option.map_eq_some_iff] at hb'
    have ⟨b, hb, heq⟩ := hb'
    rw [← heq]
    unfold accepted SignalHistoryBuffer.addSample
    rw [hb]
    dsimp only
    split
    . rename_i haccepts
      rw [Bool.and_eq_true] at haccepts
      exact (h.present k b hb).storeSample haccepts.2 value
    . exact h.present k b hb
  . intro k hnone
    rw [hlookup, Option.map_eq_none_iff] at hnone
    unfold accepted
    rw [hnone]
    exact h.missing k hnone

omit [InspectionValue V] in
theorem sameReadings {s' : CollectionInspectionEngine V} (h : s.StoresLatest stored)
    (hbuffers : List.Forall₂ SameReadings s.mSignalBuffers s'.mSignalBuffers)
    : s'.StoresLatest stored := by
  constructor
  . intro k b' hb'
    have hrel := lookup_sameReadings hbuffers k
    rw [hb'] at hrel
    generalize hfound : bufferAt s.mSignalBuffers k = found at hrel
    cases hrel with
    | some hsame =>
      apply (h.present k _ hfound).sameContents
      . rw [hsame.1]
      . rw [hsame.1]
      . exact hsame.2
  . intro k hnone
    have hrel := lookup_sameReadings hbuffers k
    rw [hnone] at hrel
    generalize hfound : bufferAt s.mSignalBuffers k = found at hrel
    cases hrel
    exact h.missing k hfound

theorem evaluateConditions (h : s.StoresLatest stored) (currentTime : Nat)
    : (s.evaluateConditions currentTime).1.StoresLatest stored := by
  have hbuffers := evaluateConditions_mSignalBuffers s currentTime
  unfold beforeEvaluation at hbuffers
  split at hbuffers
  . rw [updateAllFixedWindowFunctions_buffers] at hbuffers
    constructor
    . intro k b' hb'
      unfold bufferAt at hb'
      rw [hbuffers, KeyedList.lookup_map fun b => SignalHistoryBuffer.tick_ptr,
        Option.map_eq_some_iff] at hb'
      have ⟨b, hb, heq⟩ := hb'
      rw [← heq]
      exact h.present k b hb
    . intro k hnone
      unfold bufferAt at hnone
      rw [hbuffers, KeyedList.lookup_map fun b => SignalHistoryBuffer.tick_ptr,
        Option.map_eq_none_iff] at hnone
      exact h.missing k hnone
  . constructor
    . rw [hbuffers]
      exact h.present
    . rw [hbuffers]
      exact h.missing

theorem step (h : s.StoresLatest stored) (event : EngineEvent V)
    : (s.step event).1.StoresLatest fun k => s.stores event k ++ stored k := by
  cases event with
  | addNewSignal id receiveTime value => exact h.addNewSignal id receiveTime value
  | addNewRawCanFrame canID channelID receiveTime buffer size => exact ⟨h.present, h.missing⟩
  | setActiveDTCs activeDTCs => exact ⟨h.present, h.missing⟩
  | evaluateConditions currentTime => exact h.evaluateConditions currentTime
  | collectNextDataToSend currentTime =>
    exact h.sameReadings (collectNextDataToSend_forall₂ s currentTime)

theorem run (h : s.StoresLatest stored) (events : List (EngineEvent V))
    : (s.run events).1.StoresLatest fun k => s.storedIn events k ++ stored k := by
  induction events generalizing s stored with
  | nil => exact h
  | cons event events ih =>
    have hrest := ih (h.step event)
    unfold storedIn
    simp only [List.append_assoc]
    exact hrest

end StoresLatest

theorem storesLatest_onChangeInspectionMatrix (s : CollectionInspectionEngine V)
    (order : IterationOrder V) {m : InspectionMatrix V} (hm : m.Accepted)
    : (s.onChangeInspectionMatrix order m).StoresLatest fun _ => [] := by
  have h := represents_onChangeInspectionMatrix s order hm
  constructor
  . intro k b hb
    constructor
    . cases h.present k b hb with
      | inl hholds => exact hholds.1.counter
      | inr hempty => exact hempty.2.1
    . intro sample hsample
      cases hsample
  . intro k _
    rfl

theorem getLatestSignalValue_run (s : CollectionInspectionEngine V) (order : IterationOrder V)
    {m : InspectionMatrix V} (hm : m.Accepted) (events : List (EngineEvent V))
    {condition : ActiveCondition V} {id : SignalID} {k : SignalBufferPtr}
    (hk : condition.mEvaluationSignals id = some k) {newest : V × Nat} {older : List (V × Nat)}
    (hstored : (s.onChangeInspectionMatrix order m).storedIn events k = newest :: older)
    : getLatestSignalValue ((s.onChangeInspectionMatrix order m).run events).1.mSignalBuffers id condition
        =
      if 2 ^ 32 ∣ (newest :: older).length then .ofCode .SIGNAL_NOT_FOUND else .ofDouble newest.1 := by
  have h := (storesLatest_onChangeInspectionMatrix s order hm).run events
  cases hb : bufferAt ((s.onChangeInspectionMatrix order m).run events).1.mSignalBuffers k with
  | none =>
    have hnil := h.missing k hb
    rw [hstored] at hnil
    cases hnil
  | some b =>
    have hlatest := h.present k b hb
    rw [List.append_nil, hstored] at hlatest
    exact getLatestSignalValue_latest hk hb hlatest

/--
Once the buffer that a condition reads a signal from has stored a sample, `getLatestSignalValue` gives the
newest one if and only if the number of stored samples is not a multiple of 2^32.
-/
theorem latest_signal_value (s : CollectionInspectionEngine V) (order : IterationOrder V)
    {m : InspectionMatrix V} (hm : m.Accepted) (events : List (EngineEvent V))
    {condition : ActiveCondition V} {id : SignalID} {k : SignalBufferPtr}
    (hk : condition.mEvaluationSignals id = some k) {newest : V × Nat} {older : List (V × Nat)}
    (hstored : (s.onChangeInspectionMatrix order m).storedIn events k = newest :: older)
    : let engine := ((s.onChangeInspectionMatrix order m).run events).1
      getLatestSignalValue engine.mSignalBuffers id condition = .ofDouble newest.1
        ↔
      ¬2 ^ 32 ∣ ((s.onChangeInspectionMatrix order m).storedIn events k).length := by
  intro engine
  rw [getLatestSignalValue_run s order hm events hk hstored, hstored]
  split
  . rename_i hdvd
    simp only [hdvd, not_true, iff_false]
    intro heq
    cases congrArg EvalResult.code heq
  . rename_i hdvd
    simp only [hdvd, not_false_iff]

theorem takesAll_addNewSignal {k : SignalBufferPtr} (h : s.takesAll k = true) (receiveTime : Nat)
    (value : V)
    : s.accepted k.signalID receiveTime value k = [(value, receiveTime)]
        ∧
      (s.addNewSignal k.signalID receiveTime value).takesAll k = true := by
  unfold takesAll at h
  rw [Option.any_eq_true] at h
  have ⟨b, hb, hring⟩ := h
  simp only [Bool.and_eq_true, decide_eq_true_iff] at hring
  have hkey : b.ptr = k := KeyedList.key_of_lookup hb
  have hid : b.signalID = k.signalID := congrArg SignalBufferPtr.signalID hkey
  have haccepts : b.acceptsSample receiveTime = true := by
    unfold HistoryBuffer.acceptsSample
    simp [hring]
  constructor
  . unfold accepted
    rw [hb]
    simp [hid, haccepts]
  . have hlookup : bufferAt (s.addNewSignal k.signalID receiveTime value).mSignalBuffers k
        = (bufferAt s.mSignalBuffers k).map
          (SignalHistoryBuffer.addSample k.signalID receiveTime value) := by
      rw [addNewSignal_buffers]
      exact KeyedList.lookup_map fun b => SignalHistoryBuffer.addSample_ptr
    unfold takesAll
    rw [hlookup, hb]
    unfold SignalHistoryBuffer.addSample HistoryBuffer.storeSample
    simp [hid, haccepts, hring]

theorem storedIn_replicate {k : SignalBufferPtr} (h : s.takesAll k = true) (receiveTime : Nat) (value : V)
    (count : Nat)
    : let events := List.replicate count (EngineEvent.addNewSignal k.signalID receiveTime value)
      s.storedIn events k = List.replicate count (value, receiveTime)
        ∧
      (s.run events).1.mConditions = s.mConditions := by
  induction count generalizing s with
  | zero => exact ⟨rfl, rfl⟩
  | succ count ih =>
    have ⟨haccepted, htakes⟩ := takesAll_addNewSignal h receiveTime value
    have ⟨hstored, hconditions⟩ := ih htakes
    constructor
    . rw [List.replicate_succ, List.replicate_succ']
      exact congrArg₂ _ hstored haccepted
    . exact hconditions

def speedMatrix : InspectionMatrix Rat where
  conditions :=
    [{ condition := some 0
       minimumPublishInterval := 0
       afterDuration := 0
       signals := [⟨7, 2, 0, 0, false⟩]
       canFrames := []
       includeActiveDtcs := false
       triggerOnlyOnRisingEdge := false
       probabilityToSend := 1
       metaData := {}
       imageCollectionInfos := []
       includeImageCapture := false }]
  expressionNodeStorage :=
    [{ nodeType := .OPERATOR_BIGGER, left := some 1, right := some 2, floatingValue := 0 },
     { nodeType := .SIGNAL, signalID := 7, floatingValue := 0 },
     { nodeType := .FLOAT, floatingValue := 5 }]

def speedEngine : CollectionInspectionEngine Rat :=
  emptyEngine.onChangeInspectionMatrix (.inserted Rat) speedMatrix

theorem speedEngine_conditions
    : ∃ condition, speedEngine.mConditions = [condition]
        ∧ condition.mEvaluationSignals 7 = some ⟨7, 0⟩ := by
  unfold speedEngine
  rw [onChangeInspectionMatrix_conditions _ (by decide)]
  exact ⟨_, rfl, rfl⟩

def speedEvents : List (EngineEvent Rat) :=
  [.addNewSignal 7 1 6, .addNewSignal 7 1 9, .evaluateConditions 2]

theorem latest_signal_value_example
    : ∃ condition, speedEngine.mConditions = [condition]
        ∧
      getLatestSignalValue (speedEngine.run speedEvents).1.mSignalBuffers 7 condition = .ofDouble 9 := by
  have ⟨condition, hcondition, hk⟩ := speedEngine_conditions
  have hstored : speedEngine.storedIn speedEvents ⟨7, 0⟩ = [(9, 1), (6, 1)] := by decide +kernel
  have hlength := congrArg List.length hstored
  refine ⟨condition, hcondition, ?_⟩
  apply (latest_signal_value emptyEngine (.inserted Rat) (by decide) speedEvents hk hstored).mpr
  unfold speedEngine at hlength
  rw [hlength]
  decide

theorem speedEngine_overflow {count : Nat} (hne : count ≠ 0) (hdvd : 2 ^ 32 ∣ count)
    : let events := List.replicate count (EngineEvent.addNewSignal 7 1 6)
      speedMatrix.Accepted
        ∧
      speedEngine.storedIn events ⟨7, 0⟩ = List.replicate count (6, 1)
        ∧
      ∃ condition, (speedEngine.run events).1.mConditions = [condition]
        ∧ condition.mEvaluationSignals 7 = some ⟨7, 0⟩
        ∧ getLatestSignalValue (speedEngine.run events).1.mSignalBuffers 7 condition
          = .ofCode .SIGNAL_NOT_FOUND := by
  intro events
  have hm : speedMatrix.Accepted := by decide
  have ⟨condition, hcondition, hk⟩ := speedEngine_conditions
  have htakes : speedEngine.takesAll ⟨7, 0⟩ = true := by decide +kernel
  have ⟨hstored, hconditions⟩ := storedIn_replicate htakes 1 6 count
  refine ⟨hm, hstored, condition, hconditions.trans hcondition, hk, ?_⟩
  have ⟨count', hsucc⟩ := Nat.exists_eq_succ_of_ne_zero hne
  have hcons : List.replicate count ((6, 1) : Rat × Nat) = (6, 1) :: List.replicate count' (6, 1) := by
    rw [hsucc]
    rfl
  have hvalue := getLatestSignalValue_run emptyEngine (.inserted Rat) hm events hk (hstored.trans hcons)
  rw [← hcons, List.length_replicate, if_pos hdvd] at hvalue
  exact hvalue

theorem latest_signal_value_overflow
    : let events := List.replicate (2 ^ 32) (EngineEvent.addNewSignal 7 1 6)
      speedMatrix.Accepted
        ∧
      speedEngine.storedIn events ⟨7, 0⟩ = List.replicate (2 ^ 32) (6, 1)
        ∧
      ∃ condition, (speedEngine.run events).1.mConditions = [condition]
        ∧ condition.mEvaluationSignals 7 = some ⟨7, 0⟩
        ∧ getLatestSignalValue (speedEngine.run events).1.mSignalBuffers 7 condition
          = .ofCode .SIGNAL_NOT_FOUND :=
  speedEngine_overflow (by decide) (Nat.dvd_refl _)

end CollectionInspectionEngine

end DataInspection
