import FleetWiseEdge.Inspection.Lemmas.Configuration
import FleetWiseEdge.Inspection.Lemmas.Ledger

/-!
This module contains what a payload holds. A ledger that runs along with the engine writes down the
samples that the buffers store and the ones that go into payloads, without rings and consumed bits.
-/

namespace DataInspection

open Cpp DataManagement

section Payload

variable {V : Type}

/--
The signal entries of a condition take, one after the other, those of the newest samples of their buffers
that the condition did not take yet.
-/
def payload (i : Nat) (signals : List InspectionMatrixSignalCollectionInfo) (L : SampleLedger Nat V)
    : SampleLedger Nat V × List (CollectedSignal V) :=
  match signals with
  | [] => (L, [])
  | signal :: rest =>
    let count := min signal.sampleBufferSize (L.stored signal.ptr).length
    let (L', later) := payload i rest (L.send i signal.ptr count)
    (L',
      ((L.unsent i signal.ptr count).map fun entry =>
        { signalID := signal.signalID, receiveTime := entry.1.2, value := entry.1.1 }) ++ later)

def Spaced (interval : Nat) (samples : List (V × Nat)) : Prop :=
  samples.IsChain fun newer older => older.2 + interval < 2 ^ 64 → older.2 + interval ≤ newer.2

variable [InspectionValue V]

def observeLedger (s : CollectionInspectionEngine V) (L : SampleLedger Nat V) (event : EngineEvent V)
    : SampleLedger Nat V :=
  match event with
  | .addNewSignal id receiveTime value => L.grow (s.accepted id receiveTime value)
  | .collectNextDataToSend currentTime =>
    match (s.collectNextDataToSend currentTime).data with
    | some (i, _) =>
      match s.mConditions[i]? with
      | some condition => (payload i condition.mCondition.collectedSignals L).1
      | none => L
    | none => L
  | _ => L

def stepWithLedger (state : CollectionInspectionEngine V × SampleLedger Nat V) (event : EngineEvent V)
    : (CollectionInspectionEngine V × SampleLedger Nat V) × List (Observation V) :=
  ((((state.1.step event).1), observeLedger state.1 state.2 event), (state.1.step event).2)

def runWithLedger (s : CollectionInspectionEngine V) (events : List (EngineEvent V))
    : (CollectionInspectionEngine V × SampleLedger Nat V) × List (Observation V) :=
  Machine.run stepWithLedger (s, Ledger.empty) events

end Payload

section Ledger

variable {V : Type} {L : SampleLedger Nat V} {i : Nat}

def SampleLedger.Small (L : SampleLedger Nat V) : Prop := ∀ k, (L.stored k).length < 2 ^ 32

theorem payload_stored (signals : List InspectionMatrixSignalCollectionInfo)
    : (payload i signals L).1.stored = L.stored := by
  induction signals generalizing L with
  | nil => rfl
  | cons signal signals ih =>
    unfold payload
    dsimp only
    rw [ih]
    rfl

theorem collect_eq_payload (hsmall : L.Small) (signals : List InspectionMatrixSignalCollectionInfo)
    : SampleLedger.collect i signals L = payload i signals L := by
  induction signals generalizing L with
  | nil => rfl
  | cons signal signals ih =>
    have havailable : L.available signal
        = min signal.sampleBufferSize (L.stored signal.ptr).length := by
      unfold SampleLedger.available
      rw [u32_of_lt (hsmall _)]
    unfold SampleLedger.collect payload SampleLedger.taken
    rw [havailable]
    rw [ih]
    exact hsmall

end Ledger

section Invariant

open CollectionInspectionEngine

variable {V : Type} [InspectionValue V]

structure PayloadInvariant (required : SignalBufferPtr → Nat) (initial : CollectionInspectionEngine V)
    (state : CollectionInspectionEngine V × SampleLedger Nat V)
    : Prop where
  configuration : SameConfiguration initial state.1
  represents : state.2.Small → state.1.Represents required state.2
  spaced : state.2.Small → ∀ k, 0 < k.minimumSampleIntervalMs →
    Spaced k.minimumSampleIntervalMs (state.2.stored k)

namespace PayloadInvariant

variable {required : SignalBufferPtr → Nat} {initial s : CollectionInspectionEngine V}
variable {L : SampleLedger Nat V}

omit [InspectionValue V] in
theorem spaced_accepted (h : s.Represents required L) {k : SignalBufferPtr}
    (hpos : 0 < k.minimumSampleIntervalMs) (hspaced : Spaced k.minimumSampleIntervalMs (L.stored k))
    (id : SignalID) (receiveTime : Nat) (value : V)
    : Spaced k.minimumSampleIntervalMs (s.accepted id receiveTime value k ++ L.stored k) := by
  unfold CollectionInspectionEngine.accepted
  cases hb : bufferAt s.mSignalBuffers k with
  | none => exact hspaced
  | some b =>
    dsimp only
    split
    . rename_i haccepts
      rw [Bool.and_eq_true] at haccepts
      have ⟨hholds, _⟩ := (h.present k b hb).holds_of_acceptsSample haccepts.2
      have htime := haccepts.2
      have hinterval : b.mMinimumSampleIntervalMs = k.minimumSampleIntervalMs :=
        congrArg SignalBufferPtr.minimumSampleIntervalMs (KeyedList.key_of_lookup hb)
      rw [hholds.acceptsSample, SampleLedger.lastSample_history, hinterval] at htime
      unfold Spaced at hspaced ⊢
      rw [List.singleton_append]
      cases hstored : L.stored k with
      | nil => exact List.IsChain.singleton _
      | cons older samples =>
        rw [hstored] at hspaced htime
        apply List.IsChain.cons_cons _ hspaced
        intro hlt
        rw [Bool.or_eq_true, decide_eq_true_iff, decide_eq_true_iff] at htime
        cases htime with
        | inl hzero => omega
        | inr htime =>
          have hu64 : u64 (older.2 + k.minimumSampleIntervalMs)
              = older.2 + k.minimumSampleIntervalMs := u64_of_lt hlt
          rw [← hu64]
          exact htime
    . exact hspaced

omit [InspectionValue V] in
theorem congr {state state' : CollectionInspectionEngine V × SampleLedger Nat V}
    (h : PayloadInvariant required initial state) (hconf : SameConfiguration state.1 state'.1)
    (hledger : state'.2 = state.2)
    (hrepresents : ∀ L, state.1.Represents required L → state'.1.Represents required L)
    : PayloadInvariant required initial state' := by
  constructor
  . exact h.configuration.trans hconf
  . rw [hledger]
    intro hsmall
    exact hrepresents _ (h.represents hsmall)
  . rw [hledger]
    exact h.spaced

section Step

variable (honce : initial.mSendDataOnlyOncePerCondition = true)
variable (hsize : initial.mConditions.length ≤ MAX_NUMBER_OF_ACTIVE_CONDITION)
variable (hfits : ∀ ac ∈ initial.mConditions, ∀ signal ∈ ac.mCondition.signals,
  signal.sampleBufferSize ≤ required signal.ptr)

omit [InspectionValue V] in
include honce hsize hfits in
theorem publish {s' : CollectionInspectionEngine V} {ac : ActiveCondition V} {i currentTime : Nat}
    (hconf : SameConfiguration initial s) (hsmall : L.Small) (h : s'.Represents required L)
    (hskimmed : Skimmed s s') (hac : s.mConditions[i]? = some ac)
    : (s'.publish ac i currentTime).1.Represents required
          (payload i ac.mCondition.collectedSignals L).1
        ∧
      (s'.publish ac i currentTime).2.1.signals
        =
      (payload i ac.mCondition.collectedSignals L).2 := by
  have ⟨_, _, _, hskim⟩ := hskimmed
  have ⟨ac', hac', hsame⟩ := hconf.getElem? hac
  rw [← collect_eq_payload hsmall]
  apply h.publish
  . rw [hskim]
    exact hconf.once.trans honce
  . have hlt := (List.getElem?_eq_some_iff.mp hac').1
    unfold ALL_CONDITIONS
    unfold MAX_NUMBER_OF_ACTIVE_CONDITION at hsize
    omega
  . rw [← configuration_mCondition hsame]
    exact hfits ac' (List.mem_of_getElem? hac')

include honce hsize hfits

theorem step {state : CollectionInspectionEngine V × SampleLedger Nat V}
    (h : PayloadInvariant required initial state) (event : EngineEvent V)
    : PayloadInvariant required initial (stepWithLedger state event).1 := by
  have ⟨s, L⟩ := state
  cases event with
  | addNewSignal id receiveTime value =>
    -- the ledger was small before if it is small now
    have hbefore : SampleLedger.Small (L.grow (s.accepted id receiveTime value)) → L.Small := by
      intro hsmall k
      have := hsmall k
      unfold Ledger.grow at this
      rw [List.length_append] at this
      omega
    constructor
    . exact h.configuration.trans (step_sameConfiguration s (.addNewSignal id receiveTime value))
    . intro hsmall
      exact (h.represents (hbefore hsmall)).addNewSignal id receiveTime value
    . intro hsmall k hpos
      exact spaced_accepted (h.represents (hbefore hsmall)) hpos (h.spaced (hbefore hsmall) k hpos)
        id receiveTime value
  | addNewRawCanFrame canID channelID receiveTime buffer size =>
    apply PayloadInvariant.congr h
    . exact step_sameConfiguration s (.addNewRawCanFrame canID channelID receiveTime buffer size)
    . rfl
    . intro L hrepresents
      exact hrepresents.congr rfl
  | setActiveDTCs activeDTCs =>
    apply PayloadInvariant.congr h
    . exact step_sameConfiguration s (.setActiveDTCs activeDTCs)
    . rfl
    . intro L hrepresents
      exact hrepresents.congr rfl
  | evaluateConditions currentTime =>
    apply PayloadInvariant.congr h
    . exact step_sameConfiguration s (.evaluateConditions currentTime)
    . rfl
    . intro L hrepresents
      exact hrepresents.evaluateConditions currentTime
  | collectNextDataToSend currentTime =>
    have hconf := step_sameConfiguration s (.collectNextDataToSend currentTime)
    have ⟨s', hskimmed, hcases⟩ := collectNextDataToSend_spec s currentTime
    have ⟨_, _, _, hskim⟩ := hskimmed
    unfold stepWithLedger observeLedger
    dsimp only
    rcases hcases with ⟨hdata, hengine⟩ | ⟨i, ac, hac, hdata, hengine⟩
    . rw [hdata]
      apply PayloadInvariant.congr h
      . exact hconf
      . rfl
      . intro L hrepresents
        apply hrepresents.congr
        unfold CollectionInspectionEngine.step
        dsimp only
        rw [hengine, hskim]
    . rw [hdata]
      dsimp only
      rw [hac]
      have hstored := payload_stored (L := L) (i := i) ac.mCondition.collectedSignals
      constructor
      . exact h.configuration.trans hconf
      . intro hsmall
        have hbefore : L.Small := by
          intro k
          have := hsmall k
          rwa [hstored] at this
        have hrepresents : s'.Represents required L := by
          apply (h.represents hbefore).congr
          rw [hskim]
        unfold CollectionInspectionEngine.step
        dsimp only
        rw [hengine]
        exact (publish honce hsize hfits h.configuration hbefore hrepresents hskimmed hac).1
      . intro hsmall
        dsimp only
        rw [hstored]
        apply h.spaced
        intro k
        have := hsmall k
        rwa [hstored] at this

end Step

end PayloadInvariant

end Invariant

section Exactness

variable {V : Type} [InspectionValue V]

open CollectionInspectionEngine

theorem runWithLedger_eq (s : CollectionInspectionEngine V) (L : SampleLedger Nat V)
    (events : List (EngineEvent V))
    : (Machine.run stepWithLedger (s, L) events).1.1 = (s.run events).1
        ∧
      (Machine.run stepWithLedger (s, L) events).2 = (s.run events).2 := by
  induction events generalizing s L with
  | nil => exact ⟨rfl, rfl⟩
  | cons event events ih =>
    have ⟨hengine, hlog⟩ := ih (s.step event).1 (observeLedger s L event)
    unfold run
    rw [Machine.run_cons, Machine.run_cons]
    constructor
    . exact hengine
    . exact congrArg ((s.step event).2 ++ ·) hlog

theorem observeLedger_length (s : CollectionInspectionEngine V) (L : SampleLedger Nat V)
    (event : EngineEvent V) (k : SignalBufferPtr)
    : ((observeLedger s L event).stored k).length ≤ (L.stored k).length + 1 := by
  unfold observeLedger
  split
  . unfold Ledger.grow accepted
    dsimp only
    rw [List.length_append]
    split
    . split
      . simp only [List.length_singleton]
        omega
      . simp
    . simp
  . split
    . split
      . rw [payload_stored]
        omega
      . omega
    . omega
  . omega

theorem small_runWithLedger (s : CollectionInspectionEngine V) (events : List (EngineEvent V))
    (hlength : events.length < 2 ^ 32)
    : (runWithLedger s events).1.2.Small := by
  have hrun : ∀ (s : CollectionInspectionEngine V) (L : SampleLedger Nat V) (k : SignalBufferPtr),
      ((Machine.run stepWithLedger (s, L) events).1.2.stored k).length
        ≤ (L.stored k).length + events.length := by
    clear hlength
    induction events with
    | nil =>
      intro s L k
      exact Nat.le_refl _
    | cons event events ih =>
      intro s L k
      have hstep := observeLedger_length s L event k
      have hrest := ih (s.step event).1 (observeLedger s L event) k
      rw [Machine.run_cons, List.length_cons]
      exact Nat.le_trans hrest (by omega)
  intro k
  have := hrun s Ledger.empty k
  simp only [Ledger.empty, List.length_nil, Nat.zero_add] at this
  exact Nat.lt_of_le_of_lt this hlength

theorem payloadInvariant_runWithLedger (s : CollectionInspectionEngine V) (order : IterationOrder V)
    {m : InspectionMatrix V} (hm : m.Accepted) (honce : s.mSendDataOnlyOncePerCondition = true)
    (events : List (EngineEvent V))
    : PayloadInvariant (requiredSize m) (s.onChangeInspectionMatrix order m)
        (runWithLedger (s.onChangeInspectionMatrix order m) events).1 := by
  apply Machine.run_invariant (PayloadInvariant (requiredSize m) (s.onChangeInspectionMatrix order m))
    (fun _ _ => True)
  . intro state event _ h
    apply h.step
    . rw [(onChangeInspectionMatrix_settings order hm).1]
      exact honce
    . exact onChangeInspectionMatrix_length order hm
    . exact onChangeInspectionMatrix_fits s order hm
  . constructor
    . exact SameConfiguration.refl _
    . intro _
      exact represents_onChangeInspectionMatrix s order hm
    . intro _ k _
      exact List.IsChain.nil
  . exact Machine.always_of_forall (fun _ => True) (fun _ _ _ => trivial) (fun _ _ => trivial)

/--
After any run in which no buffer stored 2^32 samples or more, the payload that is built next holds what
the ledger gives to its condition, and the ledger gave no sample twice to one condition.
-/
theorem payload_exactness (s : CollectionInspectionEngine V) (order : IterationOrder V)
    (m : InspectionMatrix V) (hm : m.Accepted) (honce : s.mSendDataOnlyOncePerCondition = true)
    (events : List (EngineEvent V))
    (hsmall : (runWithLedger (s.onChangeInspectionMatrix order m) events).1.2.Small)
    : let engine := ((s.onChangeInspectionMatrix order m).run events).1
      let L := (runWithLedger (s.onChangeInspectionMatrix order m) events).1.2
      (∀ currentTime i data, (engine.collectNextDataToSend currentTime).data = some (i, data) →
        ∃ p, (activeConditions m)[i]? = some p ∧ data.signals = (payload i p.collectedSignals L).2)
        ∧
      L.sent.Nodup
        ∧
      (∀ k, 0 < k.minimumSampleIntervalMs → Spaced k.minimumSampleIntervalMs (L.stored k)) := by
  intro engine L
  have h := payloadInvariant_runWithLedger s order hm honce events
  have hengine : (runWithLedger (s.onChangeInspectionMatrix order m) events).1.1 = engine :=
    (runWithLedger_eq _ _ events).1
  have hrepresents := h.represents hsmall
  have hconf := h.configuration
  rw [hengine] at hrepresents hconf
  refine ⟨?_, hrepresents.wellFormed.nodup, h.spaced hsmall⟩
  intro currentTime i data hdata
  have ⟨s', hskimmed, hcases⟩ := collectNextDataToSend_spec engine currentTime
  rcases hcases with ⟨hnone, _⟩ | ⟨j, ac, hac, hsome, _⟩
  . rw [hnone] at hdata
    cases hdata
  . rw [hsome, Option.some_inj] at hdata
    have ⟨hj, hpayload⟩ := Prod.mk.inj hdata
    rw [hj] at hac hpayload
    have hrepresents' : s'.Represents (requiredSize m) L := by
      have ⟨_, _, _, hskim⟩ := hskimmed
      apply hrepresents.congr
      rw [hskim]
    refine ⟨ac.mCondition, (activeCondition_of_sameConfiguration order hm hconf hac).1, ?_⟩
    rw [← hpayload]
    apply (PayloadInvariant.publish _ _ _ hconf hsmall hrepresents' hskimmed hac).2
    . rw [(onChangeInspectionMatrix_settings order hm).1]
      exact honce
    . exact onChangeInspectionMatrix_length order hm
    . exact onChangeInspectionMatrix_fits s order hm

end Exactness

section Interval

open CollectionInspectionEngine

def spacedMatrix : InspectionMatrix Rat where
  conditions :=
    [{ condition := some 0
       minimumPublishInterval := 0
       afterDuration := 0
       signals := [⟨7, 2, 10, 0, false⟩]
       canFrames := []
       includeActiveDtcs := false
       triggerOnlyOnRisingEdge := false
       probabilityToSend := 1
       metaData := {}
       imageCollectionInfos := []
       includeImageCapture := false }]
  expressionNodeStorage :=
    [{ nodeType := .OPERATOR_BIGGER, left := some 1, right := some 2, floatingValue := 0 },
     { nodeType := .SIGNAL, signalID := 7, floatingValue := 0 },
     { nodeType := .FLOAT, floatingValue := 5 }]

def spacedEngine : CollectionInspectionEngine Rat :=
  emptyEngine.onChangeInspectionMatrix (.inserted Rat) spacedMatrix

def spacedEvents : List (EngineEvent Rat) :=
  [.addNewSignal 7 1 6, .addNewSignal 7 5 7, .addNewSignal 7 12 8, .addNewSignal 7 22 9,
   .evaluateConditions 23]

theorem payload_exactness_spaced
    : (((spacedEngine.run spacedEvents).1.collectNextDataToSend 23).data.map fun data =>
          (data.1, data.2.signals))
        = some (0, [{ signalID := 7, receiveTime := 22, value := 9 },
            { signalID := 7, receiveTime := 12, value := 8 }])
        ∧
      Spaced 10 ((runWithLedger spacedEngine spacedEvents).1.2.stored ⟨7, 10⟩) := by
  constructor
  . decide +kernel
  . exact (payload_exactness emptyEngine (.inserted Rat) spacedMatrix (by decide) rfl spacedEvents
      (small_runWithLedger spacedEngine spacedEvents (by decide))).2.2 ⟨7, 10⟩ (by decide)

theorem payload_exactness_overflow
    : spacedMatrix.Accepted
        ∧
      (runWithLedger spacedEngine
        [.addNewSignal 7 (2 ^ 64 - 1) 6, .addNewSignal 7 (2 ^ 64 - 2) 7]).1.2.stored ⟨7, 10⟩
        = [(7, 2 ^ 64 - 2), (6, 2 ^ 64 - 1)]
        ∧
      ¬2 ^ 64 - 1 + 10 ≤ 2 ^ 64 - 2 := by
  refine ⟨by decide, by decide +kernel, by omega⟩

end Interval

end DataInspection
