import FleetWiseEdge.Inspection.Lemmas.Frames

namespace DataInspection

open Cpp DataManagement CollectionInspectionEngine

section Ledger

variable {V : Type} [InspectionValue V]

def observeFrames (s : CollectionInspectionEngine V) (L : FrameLedger) (event : EngineEvent V)
    : FrameLedger :=
  match event with
  | .addNewRawCanFrame canID channelID receiveTime buffer size =>
    L.grow (s.acceptedFrames canID channelID receiveTime buffer size)
  | .collectNextDataToSend currentTime =>
    match (s.collectNextDataToSend currentTime).data with
    | some (i, _) =>
      match s.mConditions[i]? with
      | some condition => (framePayload i condition.mCondition.canFrames L).1
      | none => L
    | none => L
  | _ => L

def stepWithFrames (state : CollectionInspectionEngine V × FrameLedger) (event : EngineEvent V)
    : (CollectionInspectionEngine V × FrameLedger) × List (Observation V) :=
  ((((state.1.step event).1), observeFrames state.1 state.2 event), (state.1.step event).2)

def runWithFrames (s : CollectionInspectionEngine V) (events : List (EngineEvent V))
    : (CollectionInspectionEngine V × FrameLedger) × List (Observation V) :=
  Machine.run stepWithFrames (s, Ledger.empty) events

/--
A call of `addNewRawCanFrame` finds every ring that stores the frame with at least as many slots as the
frame has bytes, modulo 256, and with a counter that does not overflow.
-/
def KeepsFrames (s : CollectionInspectionEngine V) (event : EngineEvent V) : Prop :=
  match event with
  | .addNewRawCanFrame canID channelID receiveTime _ size =>
    ∀ b ∈ s.mCanFrameBuffers, b.mFrameID = canID → b.mChannelID = channelID →
      b.acceptsSample receiveTime = true → size ≤ b.mBuffer.length % 2 ^ 8 ∧ b.mCounter + 1 < 2 ^ 32
  | _ => True

end Ledger

section Invariant

variable {V : Type} [InspectionValue V]

structure FrameInvariant (required : CanFrameBufferPtr → Nat) (initial : CollectionInspectionEngine V)
    (state : CollectionInspectionEngine V × FrameLedger)
    : Prop where
  configuration : SameConfiguration initial state.1
  small : FrameLedger.Small state.2
  represents : state.1.RepresentsFrames required state.2

namespace FrameInvariant

variable {required : CanFrameBufferPtr → Nat} {initial s : CollectionInspectionEngine V}
variable {L : FrameLedger}

omit [InspectionValue V] in
theorem small_grow (h : s.RepresentsFrames required L) (hsmall : FrameLedger.Small L)
    {canID channelID receiveTime size : Nat} (buffer : CanFrameBytes)
    (hkeeps : ∀ b ∈ s.mCanFrameBuffers, b.mFrameID = canID → b.mChannelID = channelID →
      b.acceptsSample receiveTime = true → b.mCounter + 1 < 2 ^ 32)
    : FrameLedger.Small (L.grow (s.acceptedFrames canID channelID receiveTime buffer size)) := by
  intro k
  unfold Ledger.grow acceptedFrames
  dsimp only
  split
  . rename_i b hb
    split
    . rename_i haccepts
      simp only [Bool.and_eq_true, decide_eq_true_iff] at haccepts
      have hcounter := hkeeps b (KeyedList.mem_of_lookup hb) haccepts.1.1 haccepts.1.2 haccepts.2
      have haccepts' : b.visibleRing.acceptsSample receiveTime = true := by
        unfold CanFrameHistoryBuffer.visibleRing
        rw [HistoryBuffer.acceptsSample_mapContent]
        exact haccepts.2
      have ⟨hholds, _⟩ := (h.present k b hb).holds_of_acceptsSample haccepts'
      have hlength : b.mCounter = (L.stored k).length := by
        have hu32 := hholds.counter
        rw [SampleLedger.history_length, u32_of_lt (hsmall k)] at hu32
        exact hu32
      rw [List.length_append, List.length_singleton]
      omega
    . exact hsmall k
  . exact hsmall k

omit [InspectionValue V] in
theorem congr {state state' : CollectionInspectionEngine V × FrameLedger}
    (h : FrameInvariant required initial state) (hconf : SameConfiguration state.1 state'.1)
    (hledger : state'.2 = state.2) (hbuffers : state'.1.mCanFrameBuffers = state.1.mCanFrameBuffers)
    : FrameInvariant required initial state' := by
  constructor
  . exact h.configuration.trans hconf
  . rw [hledger]
    exact h.small
  . rw [hledger]
    exact h.represents.congr hbuffers

section Step

variable (honce : initial.mSendDataOnlyOncePerCondition = true)
variable (hsize : initial.mConditions.length ≤ MAX_NUMBER_OF_ACTIVE_CONDITION)
variable (hfits : ∀ ac ∈ initial.mConditions, ∀ f ∈ ac.mCondition.canFrames,
  f.sampleBufferSize ≤ required f.ptr)

omit [InspectionValue V] in
include honce hsize hfits in
theorem publish (currentTime : Nat) {s' : CollectionInspectionEngine V} {ac : ActiveCondition V} {i : Nat}
    (h : FrameInvariant required initial (s, L)) (hskimmed : Skimmed s s')
    (hac : s.mConditions[i]? = some ac)
    : (s'.publish ac i currentTime).1.RepresentsFrames required
          (framePayload i ac.mCondition.canFrames L).1
        ∧
      (s'.publish ac i currentTime).2.1.canFrames.map CollectedCanRawFrame.visible
        =
      (framePayload i ac.mCondition.canFrames L).2 := by
  have ⟨_, _, _, hskim⟩ := hskimmed
  have ⟨ac', hac', hsame⟩ := h.configuration.getElem? hac
  have hrepresents : s'.RepresentsFrames required L := by
    apply h.represents.congr
    rw [hskim]
  apply hrepresents.publish h.small
  . rw [hskim]
    exact h.configuration.once.trans honce
  . have hlt := (List.getElem?_eq_some_iff.mp hac').1
    unfold ALL_CONDITIONS
    unfold MAX_NUMBER_OF_ACTIVE_CONDITION at hsize
    omega
  . rw [← configuration_mCondition hsame]
    exact hfits ac' (List.mem_of_getElem? hac')

include honce hsize hfits

theorem step {state : CollectionInspectionEngine V × FrameLedger}
    (h : FrameInvariant required initial state) (event : EngineEvent V)
    (hkeeps : KeepsFrames state.1 event)
    : FrameInvariant required initial (stepWithFrames state event).1 := by
  have ⟨s, L⟩ := state
  cases event with
  | addNewRawCanFrame canID channelID receiveTime buffer size =>
    constructor
    . exact h.configuration.trans
        (step_sameConfiguration s (.addNewRawCanFrame canID channelID receiveTime buffer size))
    . apply small_grow h.represents h.small
      intro b hb hframe hchannel haccepts
      exact (hkeeps b hb hframe hchannel haccepts).2
    . apply h.represents.addNewRawCanFrame
      intro b hb hframe hchannel haccepts
      exact (hkeeps b hb hframe hchannel haccepts).1
  | addNewSignal id receiveTime value =>
    apply FrameInvariant.congr h
    . exact step_sameConfiguration s (.addNewSignal id receiveTime value)
    . rfl
    . rfl
  | setActiveDTCs activeDTCs =>
    apply FrameInvariant.congr h
    . exact step_sameConfiguration s (.setActiveDTCs activeDTCs)
    . rfl
    . rfl
  | evaluateConditions currentTime =>
    apply FrameInvariant.congr h
    . exact step_sameConfiguration s (.evaluateConditions currentTime)
    . rfl
    . exact evaluateConditions_mCanFrameBuffers s currentTime
  | collectNextDataToSend currentTime =>
    have hconf := step_sameConfiguration s (.collectNextDataToSend currentTime)
    have ⟨s', hskimmed, hcases⟩ := collectNextDataToSend_spec s currentTime
    have ⟨_, _, _, hskim⟩ := hskimmed
    unfold stepWithFrames observeFrames
    dsimp only
    rcases hcases with ⟨hdata, hengine⟩ | ⟨i, ac, hac, hdata, hengine⟩
    . rw [hdata]
      apply FrameInvariant.congr h
      . exact hconf
      . rfl
      . unfold CollectionInspectionEngine.step
        dsimp only
        rw [hengine, hskim]
    . rw [hdata]
      dsimp only
      rw [hac]
      constructor
      . exact h.configuration.trans hconf
      . intro k
        dsimp only
        rw [framePayload_stored]
        exact h.small k
      . unfold CollectionInspectionEngine.step
        dsimp only
        rw [hengine]
        exact (publish honce hsize hfits _ h hskimmed hac).1

end Step

end FrameInvariant

end Invariant

section Fidelity

variable {V : Type} [InspectionValue V]

theorem runWithFrames_eq (s : CollectionInspectionEngine V) (L : FrameLedger)
    (events : List (EngineEvent V))
    : (Machine.run stepWithFrames (s, L) events).1.1 = (s.run events).1 := by
  induction events generalizing s L with
  | nil => rfl
  | cons event events ih =>
    unfold run
    rw [Machine.run_cons, Machine.run_cons]
    exact ih (s.step event).1 (observeFrames s L event)

theorem always_keepsFrames (s : CollectionInspectionEngine V) (L : FrameLedger)
    (events : List (EngineEvent V))
    (h : Machine.Always KeepsFrames (fun s event => (s.step event).1) s events)
    : Machine.Always (fun state event => KeepsFrames state.1 event)
        (fun state event => (stepWithFrames state event).1) (s, L) events := by
  induction events generalizing s L with
  | nil => trivial
  | cons event events ih => exact ⟨h.1, ih _ _ h.2⟩

theorem observeFrames_origin (s : CollectionInspectionEngine V) (L : FrameLedger)
    (event : EngineEvent V) {k : CanFrameBufferPtr} {item : FrameBytes × Nat}
    (hitem : item ∈ (observeFrames s L event).stored k)
    : item ∈ L.stored k
        ∨ ∃ buffer size, event = .addNewRawCanFrame k.frameID k.channelID item.2 buffer size
            ∧ item.1 = frameBytes buffer size := by
  unfold observeFrames at hitem
  split at hitem
  . rename_i canID channelID receiveTime buffer size
    unfold Ledger.grow at hitem
    dsimp only at hitem
    rw [List.mem_append] at hitem
    cases hitem with
    | inr hmem => exact Or.inl hmem
    | inl hmem =>
      apply Or.inr
      unfold acceptedFrames at hmem
      split at hmem
      . rename_i b hb
        have hptr : b.ptr = k := KeyedList.key_of_lookup hb
        split at hmem
        . rename_i haccepts
          simp only [Bool.and_eq_true, decide_eq_true_iff] at haccepts
          rw [List.mem_singleton] at hmem
          refine ⟨buffer, size, ?_, by rw [hmem]⟩
          rw [hmem, ← hptr, ← haccepts.1.1, ← haccepts.1.2]
          rfl
        . cases hmem
      . cases hmem
  . split at hitem
    . split at hitem
      . rw [framePayload_stored] at hitem
        exact Or.inl hitem
      . exact Or.inl hitem
    . exact Or.inl hitem
  . exact Or.inl hitem

theorem runWithFrames_origin (s : CollectionInspectionEngine V) (L : FrameLedger)
    (events : List (EngineEvent V)) {k : CanFrameBufferPtr} {item : FrameBytes × Nat}
    (hitem : item ∈ (Machine.run stepWithFrames (s, L) events).1.2.stored k)
    : item ∈ L.stored k
        ∨ ∃ buffer size, .addNewRawCanFrame k.frameID k.channelID item.2 buffer size ∈ events
            ∧ item.1 = frameBytes buffer size := by
  induction events generalizing s L with
  | nil => exact Or.inl hitem
  | cons event events ih =>
    rcases ih _ _ hitem with hstored | ⟨buffer, size, hmem, hbytes⟩
    . rcases observeFrames_origin s L event hstored with hstored | ⟨buffer, size, hevent, hbytes⟩
      . exact Or.inl hstored
      . refine Or.inr ⟨buffer, size, ?_, hbytes⟩
        rw [hevent]
        simp
    . exact Or.inr ⟨buffer, size, List.mem_cons_of_mem _ hmem, hbytes⟩

theorem mem_framePayload {i : Nat} {canFrames : List InspectionMatrixCanFrameCollectionInfo}
    {L : FrameLedger} {frame : VisibleFrame} (h : frame ∈ (framePayload i canFrames L).2)
    : ∃ k : CanFrameBufferPtr, ∃ item ∈ L.stored k,
        frame = ⟨k.frameID, k.channelID, item.2, item.1⟩ := by
  induction canFrames generalizing L with
  | nil => cases h
  | cons f canFrames ih =>
    unfold framePayload at h
    dsimp only at h
    rw [List.mem_append, List.mem_map] at h
    cases h with
    | inl h =>
      obtain ⟨entry, hentry, heq⟩ := h
      refine ⟨f.ptr, entry.1, ?_, heq.symm⟩
      have hmem := List.mem_of_mem_take (List.mem_of_mem_filter hentry)
      have hmap := List.mem_map_of_mem (f := Prod.fst) hmem
      rw [numbered_map_fst] at hmap
      exact hmap
    | inr h =>
      obtain ⟨k, item, hitem, heq⟩ := ih h
      exact ⟨k, item, hitem, heq⟩

/--
In every run in which no ring cuts a frame off and no counter overflows, the raw frames of the payload that
is built next are those that the ledger gives to its condition, each of them was passed to
`addNewRawCanFrame` as it is published, and the ledger gave no frame twice to one condition.
-/
theorem raw_frame_fidelity (s : CollectionInspectionEngine V) (order : IterationOrder V)
    (m : InspectionMatrix V) (hm : m.Accepted) (honce : s.mSendDataOnlyOncePerCondition = true)
    (events : List (EngineEvent V))
    (hkeeps : Machine.Always KeepsFrames (fun s event => (s.step event).1)
      (s.onChangeInspectionMatrix order m) events)
    : let engine := ((s.onChangeInspectionMatrix order m).run events).1
      let L := (runWithFrames (s.onChangeInspectionMatrix order m) events).1.2
      (∀ currentTime i data, (engine.collectNextDataToSend currentTime).data = some (i, data) →
        (∃ p, (activeConditions m)[i]? = some p
          ∧ data.canFrames.map CollectedCanRawFrame.visible = (framePayload i p.canFrames L).2)
          ∧
        ∀ frame ∈ data.canFrames, ∃ buffer size,
          .addNewRawCanFrame frame.frameID frame.channelId frame.receiveTime buffer size ∈ events
            ∧ frame.bytes = frameBytes buffer size)
        ∧
      L.sent.Nodup := by
  intro engine L
  have hfits : ∀ ac ∈ (s.onChangeInspectionMatrix order m).mConditions, ∀ f ∈ ac.mCondition.canFrames,
      f.sampleBufferSize ≤ requiredFrames m f.ptr := by
    intro ac hac f hf
    rw [onChangeInspectionMatrix_conditions order hm, List.mem_map] at hac
    have ⟨p, hp, heq⟩ := hac
    rw [← heq] at hf
    unfold activate at hf
    rw [foldl_linkEntry_mCondition] at hf
    exact le_requiredFrames hp hf
  have honce' : (s.onChangeInspectionMatrix order m).mSendDataOnlyOncePerCondition = true := by
    rw [(onChangeInspectionMatrix_settings order hm).1]
    exact honce
  have hlength := onChangeInspectionMatrix_length (s := s) order hm
  have hinit : FrameInvariant (requiredFrames m) (s.onChangeInspectionMatrix order m)
      (s.onChangeInspectionMatrix order m, Ledger.empty) := by
    constructor
    . exact SameConfiguration.refl _
    . intro k
      exact Nat.two_pow_pos 32
    . exact representsFrames_onChangeInspectionMatrix s order hm
  have h : FrameInvariant (requiredFrames m) (s.onChangeInspectionMatrix order m)
      (runWithFrames (s.onChangeInspectionMatrix order m) events).1 := by
    apply Machine.run_invariant (FrameInvariant (requiredFrames m) (s.onChangeInspectionMatrix order m))
      (fun state event => KeepsFrames state.1 event)
    . intro state event hkeeps h
      exact h.step honce' hlength hfits event hkeeps
    . exact hinit
    . exact always_keepsFrames _ _ events hkeeps
  have hengine : (runWithFrames (s.onChangeInspectionMatrix order m) events).1 = (engine, L) := by
    apply Prod.ext
    . apply runWithFrames_eq
    . rfl
  rw [hengine] at h
  refine ⟨?_, h.represents.wellFormed.nodup⟩
  intro currentTime i data hdata
  have ⟨s', hskimmed, hcases⟩ := collectNextDataToSend_spec engine currentTime
  rcases hcases with ⟨hnone, _⟩ | ⟨j, ac, hac, hsome, _⟩
  . rw [hnone] at hdata
    cases hdata
  . rw [hsome, Option.some_inj] at hdata
    have ⟨hj, hpayload⟩ := Prod.mk.inj hdata
    rw [hj] at hac hpayload
    have hvisible := (FrameInvariant.publish honce' hlength hfits currentTime h hskimmed
      hac).2
    rw [hpayload] at hvisible
    refine ⟨⟨ac.mCondition, ?_, hvisible⟩, ?_⟩
    . exact (activeCondition_of_sameConfiguration order hm h.configuration hac).1
    . intro frame hframe
      have hmem := List.mem_map_of_mem (f := CollectedCanRawFrame.visible) hframe
      rw [hvisible] at hmem
      have ⟨k, item, hitem, heq⟩ := mem_framePayload hmem
      rcases runWithFrames_origin _ _ events hitem with hempty | ⟨buffer, size, hevent, hbytes⟩
      . cases hempty
      . unfold CollectedCanRawFrame.visible at heq
        simp only [VisibleFrame.mk.injEq] at heq
        refine ⟨buffer, size, ?_, heq.2.2.2.trans hbytes⟩
        rw [heq.1, heq.2.1, heq.2.2.1]
        exact hevent

end Fidelity

section Truncation

def frameMatrix (sampleBufferSize : Nat) : InspectionMatrix Rat where
  conditions :=
    [{ condition := some 0
       minimumPublishInterval := 0
       afterDuration := 0
       signals := []
       canFrames := [⟨256, 1, sampleBufferSize, 0⟩]
       includeActiveDtcs := false
       triggerOnlyOnRisingEdge := false
       probabilityToSend := 1
       metaData := {}
       imageCollectionInfos := []
       includeImageCapture := false }]
  expressionNodeStorage := [{ nodeType := .BOOLEAN, floatingValue := 0, booleanValue := true }]

def frameEngine (sampleBufferSize : Nat) : CollectionInspectionEngine Rat :=
  emptyEngine.onChangeInspectionMatrix (.inserted Rat) (frameMatrix sampleBufferSize)

def threeBytes : CanFrameBytes := #v[0xDE, 0xAD, 0xBE, 0, 0, 0, 0, 0]

def frameEvents : List (EngineEvent Rat) :=
  [.addNewRawCanFrame 256 1 5 threeBytes 3, .evaluateConditions 6]

def publishedFrames (sampleBufferSize : Nat) : Option (List VisibleFrame) :=
  (((frameEngine sampleBufferSize).run frameEvents).1.collectNextDataToSend 6).data.map fun data =>
    data.2.canFrames.map CollectedCanRawFrame.visible

theorem raw_frame_fidelity_ten
    : publishedFrames 10 = some [⟨256, 1, 5, (3, [0xDE, 0xAD, 0xBE])⟩]
        ∧
      (runWithFrames (frameEngine 10) frameEvents).1.2.sent.Nodup := by
  refine ⟨by decide +kernel, ?_⟩
  apply (raw_frame_fidelity emptyEngine (.inserted Rat) (frameMatrix 10) (by decide) rfl frameEvents _).2
  refine ⟨?_, trivial, trivial⟩
  show ∀ b ∈ (frameEngine 10).mCanFrameBuffers, b.mFrameID = 256 → b.mChannelID = 1 →
    b.acceptsSample 5 = true → 3 ≤ b.mBuffer.length % 2 ^ 8 ∧ b.mCounter + 1 < 2 ^ 32
  decide +kernel

theorem raw_frame_fidelity_one
    : (frameMatrix 1).Accepted
        ∧
      publishedFrames 1 = some [⟨256, 1, 5, (1, [0xDE])⟩]
        ∧
      ∀ buffer size, EngineEvent.addNewRawCanFrame 256 1 5 buffer size ∈ frameEvents →
        frameBytes buffer size ≠ (1, [0xDE]) := by
  refine ⟨by decide, by decide +kernel, ?_⟩
  intro buffer size hmem hbytes
  simp only [frameEvents, List.mem_cons, EngineEvent.addNewRawCanFrame.injEq, reduceCtorEq,
    List.not_mem_nil, or_false] at hmem
  have hsize := congrArg Prod.fst hbytes
  simp only [frameBytes] at hsize
  omega

end Truncation

end DataInspection
