import FleetWiseEdge.Inspection.Lemmas.Frames
import FleetWiseEdge.Inspection.Rejection
import FleetWiseEdge.Inspection.ActiveDTCs

namespace DataInspection

open Cpp DataManagement

section Ring

variable {α : Type} {P P' : α → Nat → Prop} {required : Nat} {b : HistoryBuffer α}

def HistoryBuffer.From (P : α → Nat → Prop) (required : Nat) (b : HistoryBuffer α) : Prop :=
  ∃ history, b.Remembers required history ∧ ∀ s ∈ history, P s.content s.mTimestamp

namespace HistoryBuffer.From

theorem mono (h : b.From P required) (hP : ∀ content timestamp, P content timestamp → P' content timestamp)
    : b.From P' required := by
  have ⟨history, hremembers, hall⟩ := h
  exact ⟨history, hremembers, fun s hs => hP _ _ (hall s hs)⟩

theorem storeSample (h : b.From P required) {receiveTime : Nat} {value : α}
    (haccepts : b.acceptsSample receiveTime = true) (hvalue : P value receiveTime)
    : (b.storeSample receiveTime fun _ => value).From P required := by
  have ⟨history, hremembers, hall⟩ := h
  refine ⟨_, hremembers.storeSample haccepts value, ?_⟩
  intro s hs
  rw [List.mem_cons] at hs
  cases hs with
  | inl hnew =>
    rw [hnew]
    exact hvalue
  | inr hold => exact hall s hold

theorem collectLastSamples (h : b.From P required) {maxNumber : Nat} (hmax : maxNumber ≤ required)
    (conditionId : Nat) (once : Bool) (newestTimestamp : Nat)
    : { b with
        mBuffer := (b.collectLastSamples maxNumber conditionId once newestTimestamp).mBuffer }.From P required
        ∧
      ∀ item ∈ (b.collectLastSamples maxNumber conditionId once newestTimestamp).output, P item.1 item.2 := by
  have ⟨history, hremembers, hall⟩ := h
  have ⟨hremembers', houtput⟩ := hremembers.collectLastSamples hmax conditionId once newestTimestamp
  constructor
  . refine ⟨_, hremembers', ?_⟩
    intro s hs
    unfold History.collect at hs
    rw [List.mem_append] at hs
    cases hs with
    | inl htaken =>
      have ⟨s', hs', heq⟩ := List.mem_map.mp htaken
      have hP := hall s' (List.mem_of_mem_take hs')
      rw [← heq]
      unfold Sample.collectedBy
      split
      . exact hP
      . exact hP
    | inr hleft => exact hall s (List.mem_of_mem_drop hleft)
  . intro item hitem
    rw [houtput] at hitem
    unfold History.fresh at hitem
    have ⟨s, hs, heq⟩ := List.mem_map.mp hitem
    rw [← heq]
    exact hall s (List.mem_of_mem_take (List.mem_of_mem_filter hs))

end HistoryBuffer.From

end Ring

section Buffers

variable {σ K α : Type} [DecidableEq K] {ptr : σ → K} {ring : σ → HistoryBuffer α}
variable {P P' : K → α → Nat → Prop} {required : K → Nat} {buffers : List σ}

def BuffersFrom (ptr : σ → K) (ring : σ → HistoryBuffer α) (P : K → α → Nat → Prop) (required : K → Nat)
    (buffers : List σ)
    : Prop :=
  ∀ k b, KeyedList.lookup ptr k buffers = some b → (ring b).From (P k) (required k)

namespace BuffersFrom

theorem ofRepresents {L : Ledger Nat K (α × Nat)} (h : BuffersRepresent ptr ring required buffers L)
    (hnone : ∀ k, L.stored k = [])
    : BuffersFrom ptr ring P required buffers := by
  intro k b hb
  refine ⟨_, h.present k b hb, ?_⟩
  intro s hs
  unfold SampleLedger.history at hs
  rw [hnone] at hs
  cases hs

theorem mono (h : BuffersFrom ptr ring P required buffers)
    (hP : ∀ k content timestamp, P k content timestamp → P' k content timestamp)
    : BuffersFrom ptr ring P' required buffers :=
  fun k b hb => (h k b hb).mono (hP k)

theorem map (h : BuffersFrom ptr ring P required buffers) {g : σ → σ} (hptr : ∀ b, ptr (g b) = ptr b)
    (hring : ∀ b, (ring b).From (P (ptr b)) (required (ptr b)) → (ring (g b)).From (P (ptr b)) (required (ptr b)))
    : BuffersFrom ptr ring P required (buffers.map g) := by
  intro k b' hb'
  rw [KeyedList.lookup_map hptr, Option.map_eq_some_iff] at hb'
  have ⟨b, hb, heq⟩ := hb'
  have hkey := KeyedList.key_of_lookup hb
  have hfrom := h k b hb
  rw [← hkey] at hfrom ⊢
  rw [← heq]
  exact hring b hfrom

theorem update (h : BuffersFrom ptr ring P required buffers) {b : σ} {k : K} {g : σ → σ}
    (hptr : ∀ b, ptr (g b) = ptr b) (hb : KeyedList.lookup ptr k buffers = some b)
    (hring : (ring (g b)).From (P k) (required k))
    : BuffersFrom ptr ring P required (KeyedList.update ptr k g buffers) := by
  intro k' b' hb'
  rw [KeyedList.lookup_update hptr, hb] at hb'
  split at hb'
  . rename_i heq
    rw [heq, ← Option.some_inj.mp hb']
    exact hring
  . exact h k' b' hb'

end BuffersFrom

end Buffers

/--
What is known about the matrices, the signals, the raw frames and the DTCs that the engine is given.
-/
structure SampleOrigin (V : Type) where
  matrix : InspectionMatrix V → Prop
  signal : SignalID → V → Nat → Prop
  canFrame : (frameID channelID : Nat) → FrameBytes → Nat → Prop
  activeDTCs : DTCInfo → Prop

namespace SampleOrigin

variable {V : Type}

structure Le (origin origin' : SampleOrigin V) : Prop where
  matrix : ∀ m, origin.matrix m → origin'.matrix m
  signal : ∀ id value receiveTime, origin.signal id value receiveTime → origin'.signal id value receiveTime
  canFrame : ∀ frameID channelID bytes receiveTime, origin.canFrame frameID channelID bytes receiveTime →
    origin'.canFrame frameID channelID bytes receiveTime
  activeDTCs : ∀ activeDTCs, origin.activeDTCs activeDTCs → origin'.activeDTCs activeDTCs

end SampleOrigin

theorem visible_writeFrame (capacity size : Nat) (buffer : CanFrameBytes) (old : CanFrameContent)
    : (CollectionInspectionEngine.writeFrame capacity buffer size old).visible
        =
      frameBytes buffer (min size (capacity % 2 ^ 8)) := by
  have hcut : CollectionInspectionEngine.writeFrame capacity buffer size old
      = CollectionInspectionEngine.writeFrame capacity buffer (min size (capacity % 2 ^ 8)) old := by
    unfold CollectionInspectionEngine.writeFrame
    rw [Nat.min_assoc, Nat.min_self]
  rw [hcut]
  exact visible_writeFrame_iff.mpr (Nat.min_le_right _ _)

namespace CollectionInspectionEngine

variable {V : Type} [InspectionValue V] {origin origin' : SampleOrigin V} {m : InspectionMatrix V}
variable {s : CollectionInspectionEngine V}

structure RingsFrom (origin : SampleOrigin V) (m : InspectionMatrix V) (s : CollectionInspectionEngine V)
    : Prop where
  signals
    : BuffersFrom SignalHistoryBuffer.ptr SignalHistoryBuffer.toHistoryBuffer
        (fun k => origin.signal k.signalID) (requiredSize m) s.mSignalBuffers
  canFrames
    : BuffersFrom CanFrameHistoryBuffer.ptr CanFrameHistoryBuffer.visibleRing
        (fun k => origin.canFrame k.frameID k.channelID) (requiredFrames m) s.mCanFrameBuffers

namespace RingsFrom

theorem mono (h : s.RingsFrom origin m) (hle : origin.Le origin') : s.RingsFrom origin' m where
  signals := h.signals.mono fun k => hle.signal k.signalID
  canFrames := h.canFrames.mono fun k => hle.canFrame k.frameID k.channelID

theorem congr {s' : CollectionInspectionEngine V} (h : s.RingsFrom origin m)
    (hsignals : s'.mSignalBuffers = s.mSignalBuffers) (hcanFrames : s'.mCanFrameBuffers = s.mCanFrameBuffers)
    : s'.RingsFrom origin m := by
  constructor
  . rw [hsignals]
    exact h.signals
  . rw [hcanFrames]
    exact h.canFrames

theorem addNewSignal (h : s.RingsFrom origin m) {id : SignalID} {receiveTime : Nat} {value : V}
    (hsignal : origin.signal id value receiveTime)
    : (s.addNewSignal id receiveTime value).RingsFrom origin m := by
  constructor
  . rw [addNewSignal_buffers]
    apply h.signals.map
    . intro b
      exact SignalHistoryBuffer.addSample_ptr
    . intro b hb
      unfold SignalHistoryBuffer.addSample
      split
      . rename_i haccepts
        rw [Bool.and_eq_true, decide_eq_true_eq] at haccepts
        apply hb.storeSample haccepts.2
        have hid : b.ptr.signalID = id := haccepts.1
        rw [hid]
        exact hsignal
      . exact hb
  . exact h.canFrames

theorem addNewRawCanFrame (h : s.RingsFrom origin m) {canID channelID receiveTime size : Nat}
    {buffer : CanFrameBytes}
    (hframe : ∀ size' ≤ size, origin.canFrame canID channelID (frameBytes buffer size') receiveTime)
    : (s.addNewRawCanFrame canID channelID receiveTime buffer size).RingsFrom origin m := by
  constructor
  . exact h.signals
  . apply h.canFrames.map
    . intro b
      split
      . rfl
      . rfl
    . intro b hb
      split
      . rename_i haccepts
        simp only [Bool.and_eq_true, decide_eq_true_iff] at haccepts
        have hstore : (b.storeSample receiveTime (writeFrame b.mBuffer.length buffer size)).mapContent
              CanFrameContent.visible
            = b.visibleRing.storeSample receiveTime
                fun _ => frameBytes buffer (min size (b.mBuffer.length % 2 ^ 8)) :=
          HistoryBuffer.storeSample_mapContent fun old => visible_writeFrame b.mBuffer.length size buffer old
        unfold CanFrameHistoryBuffer.visibleRing at hb hstore ⊢
        dsimp only
        rw [hstore]
        apply hb.storeSample
        . rw [HistoryBuffer.acceptsSample_mapContent]
          exact haccepts.2
        . have hframeID : b.ptr.frameID = canID := haccepts.1.1
          have hchannelID : b.ptr.channelID = channelID := haccepts.1.2
          rw [hframeID, hchannelID]
          exact hframe _ (Nat.min_le_left _ _)
      . exact hb

theorem evaluateConditions (h : s.RingsFrom origin m) (currentTime : Nat)
    : (s.evaluateConditions currentTime).1.RingsFrom origin m := by
  constructor
  . rw [evaluateConditions_mSignalBuffers]
    unfold beforeEvaluation
    split
    . rw [updateAllFixedWindowFunctions_buffers]
      apply h.signals.map
      . intro b
        rfl
      . intro b hb
        exact hb
    . exact h.signals
  . rw [evaluateConditions_mCanFrameBuffers]
    exact h.canFrames

end RingsFrom

section Collect

variable {i : Nat}

theorem collectLastSignals_from {c : Collecting V} {info : InspectionMatrixSignalCollectionInfo}
    (h : c.engine.RingsFrom origin m) (hfits : info.sampleBufferSize ≤ requiredSize m info.ptr)
    : (c.collectLastSignals i info).engine.RingsFrom origin m
        ∧
      ∀ signal ∈ (c.collectLastSignals i info).signals, signal ∈ c.signals
        ∨ signal.signalID = info.signalID ∧ origin.signal signal.signalID signal.value signal.receiveTime := by
  unfold Collecting.collectLastSignals
  split
  . exact ⟨h, fun signal hsignal => Or.inl hsignal⟩
  . rename_i b hb
    split
    . obtain ⟨hring, houtput⟩ := (h.signals _ b hb).collectLastSamples hfits i
        c.engine.mSendDataOnlyOncePerCondition c.newestSignalTimestamp
      constructor
      . constructor
        . apply h.signals.update _ hb hring
          intro buf
          rfl
        . exact h.canFrames
      . intro signal hsignal
        rw [List.mem_append] at hsignal
        cases hsignal with
        | inl hbefore => exact Or.inl hbefore
        | inr hnew =>
          obtain ⟨item, hitem, heq⟩ := List.mem_map.mp hnew
          apply Or.inr
          rw [← heq]
          exact ⟨rfl, houtput item hitem⟩
    . exact ⟨h, fun signal hsignal => Or.inl hsignal⟩

theorem foldl_collectLastSignals_from (infos : List InspectionMatrixSignalCollectionInfo)
    {c : Collecting V} (h : c.engine.RingsFrom origin m)
    (hfits : ∀ info ∈ infos, info.sampleBufferSize ≤ requiredSize m info.ptr)
    : (infos.foldl (Collecting.collectLastSignals i) c).engine.RingsFrom origin m
        ∧
      ∀ signal ∈ (infos.foldl (Collecting.collectLastSignals i) c).signals, signal ∈ c.signals
        ∨ (∃ info ∈ infos, signal.signalID = info.signalID)
          ∧ origin.signal signal.signalID signal.value signal.receiveTime := by
  induction infos generalizing c with
  | nil => exact ⟨h, fun signal hsignal => Or.inl hsignal⟩
  | cons info infos ih =>
    have ⟨hfirst, hsignals⟩ := collectLastSignals_from (i := i) h (hfits info (by simp))
    have ⟨hrest, hlater⟩ := ih hfirst fun other hother => hfits other (by simp [hother])
    refine ⟨hrest, ?_⟩
    intro signal hsignal
    rcases hlater signal hsignal with hmem | ⟨⟨other, hother, hid⟩, horigin⟩
    . rcases hsignals signal hmem with hbefore | ⟨hid, horigin⟩
      . exact Or.inl hbefore
      . exact Or.inr ⟨⟨info, by simp, hid⟩, horigin⟩
    . exact Or.inr ⟨⟨other, by simp [hother], hid⟩, horigin⟩

theorem collectLastCanFrames_from {c : Collecting V} {info : InspectionMatrixCanFrameCollectionInfo}
    (h : c.engine.RingsFrom origin m) (hfits : info.sampleBufferSize ≤ requiredFrames m info.ptr)
    : (c.collectLastCanFrames i info).engine.RingsFrom origin m
        ∧
      ∀ frame ∈ (c.collectLastCanFrames i info).canFrames, frame ∈ c.canFrames
        ∨ frame.frameID = info.frameID ∧ frame.channelId = info.channelID
          ∧ origin.canFrame frame.frameID frame.channelId frame.bytes frame.receiveTime := by
  unfold Collecting.collectLastCanFrames
  split
  . exact ⟨h, fun frame hframe => Or.inl hframe⟩
  . rename_i b hb
    have hcollected := (h.canFrames _ b hb).collectLastSamples hfits i
      c.engine.mSendDataOnlyOncePerCondition c.newestSignalTimestamp
    unfold CanFrameHistoryBuffer.visibleRing at hcollected
    rw [HistoryBuffer.collectLastSamples_mapContent] at hcollected
    obtain ⟨hring, houtput⟩ := hcollected
    constructor
    . constructor
      . exact h.signals
      . refine BuffersFrom.update h.canFrames ?_ hb hring
        intro buf
        rfl
    . intro frame hframe
      rw [List.mem_append] at hframe
      cases hframe with
      | inl hbefore => exact Or.inl hbefore
      | inr hnew =>
        obtain ⟨item, hitem, heq⟩ := List.mem_map.mp hnew
        apply Or.inr
        rw [← heq]
        exact ⟨rfl, rfl, houtput _ (List.mem_map_of_mem hitem)⟩

theorem foldl_collectLastCanFrames_from (infos : List InspectionMatrixCanFrameCollectionInfo)
    {c : Collecting V} (h : c.engine.RingsFrom origin m)
    (hfits : ∀ info ∈ infos, info.sampleBufferSize ≤ requiredFrames m info.ptr)
    : (infos.foldl (Collecting.collectLastCanFrames i) c).engine.RingsFrom origin m
        ∧
      ∀ frame ∈ (infos.foldl (Collecting.collectLastCanFrames i) c).canFrames, frame ∈ c.canFrames
        ∨ (∃ info ∈ infos, frame.frameID = info.frameID ∧ frame.channelId = info.channelID)
          ∧ origin.canFrame frame.frameID frame.channelId frame.bytes frame.receiveTime := by
  induction infos generalizing c with
  | nil => exact ⟨h, fun frame hframe => Or.inl hframe⟩
  | cons info infos ih =>
    have ⟨hfirst, hframes⟩ := collectLastCanFrames_from (i := i) h (hfits info (by simp))
    have ⟨hrest, hlater⟩ := ih hfirst fun other hother => hfits other (by simp [hother])
    refine ⟨hrest, ?_⟩
    intro frame hframe
    rcases hlater frame hframe with hmem | ⟨⟨other, hother, hids⟩, horigin⟩
    . rcases hframes frame hmem with hbefore | ⟨hframeID, hchannelID, horigin⟩
      . exact Or.inl hbefore
      . exact Or.inr ⟨⟨info, by simp, hframeID, hchannelID⟩, horigin⟩
    . exact Or.inr ⟨⟨other, by simp [hother], hids⟩, horigin⟩

end Collect

end CollectionInspectionEngine

structure TriggeredCollectionSchemeData.From {V : Type} (data : TriggeredCollectionSchemeData V)
    (origin : SampleOrigin V) (condition : ConditionWithCollectedData V)
    : Prop where
  metaData : data.metaData = condition.metaData
  signals
    : ∀ signal ∈ data.signals, (∃ info ∈ condition.collectedSignals, signal.signalID = info.signalID)
        ∧ origin.signal signal.signalID signal.value signal.receiveTime
  canFrames
    : ∀ frame ∈ data.canFrames,
        (∃ info ∈ condition.canFrames, frame.frameID = info.frameID ∧ frame.channelId = info.channelID)
          ∧ origin.canFrame frame.frameID frame.channelId frame.bytes frame.receiveTime
  activeDTCs
    : data.mDTCInfo = {} ∨ condition.includeActiveDtcs = true ∧ origin.activeDTCs data.mDTCInfo

theorem TriggeredCollectionSchemeData.From.mono {V : Type} {data : TriggeredCollectionSchemeData V}
    {origin origin' : SampleOrigin V} {condition : ConditionWithCollectedData V}
    (h : data.From origin condition) (hle : origin.Le origin')
    : data.From origin' condition := by
  constructor
  . exact h.metaData
  . intro signal hsignal
    have ⟨hinfo, horigin⟩ := h.signals signal hsignal
    exact ⟨hinfo, hle.signal _ _ _ horigin⟩
  . intro frame hframe
    have ⟨hinfo, horigin⟩ := h.canFrames frame hframe
    exact ⟨hinfo, hle.canFrame _ _ _ _ horigin⟩
  . cases h.activeDTCs with
    | inl hnone => exact Or.inl hnone
    | inr hsome => exact Or.inr ⟨hsome.1, hle.activeDTCs _ hsome.2⟩

namespace CollectionInspectionEngine

variable {V : Type} [InspectionValue V] {origin origin' : SampleOrigin V} {m : InspectionMatrix V}
variable {s s' : CollectionInspectionEngine V} {i : Nat}

omit [InspectionValue V] in
theorem publish_activeDTCs (s : CollectionInspectionEngine V) (ac : ActiveCondition V) (i currentTime : Nat)
    : (s.publish ac i currentTime).2.1.mDTCInfo = {}
        ∨ ac.mCondition.includeActiveDtcs = true
          ∧ (s.publish ac i currentTime).2.1.mDTCInfo = s.mActiveDTCs := by
  have ⟨_, _, hframe⟩ := collectSamples_frame (s.generateEventID currentTime).1
    { ac with mEventID := (s.generateEventID currentTime).2 } i
  unfold publish collectData
  dsimp only
  rw [hframe]
  split
  . rename_i hpacks
    rw [Bool.and_eq_true] at hpacks
    exact Or.inr ⟨hpacks.1, rfl⟩
  . exact Or.inl rfl

theorem RingsFrom.publish {ac : ActiveCondition V} {currentTime : Nat} (h : s.RingsFrom origin m)
    (hsignals : ∀ info ∈ ac.mCondition.signals, info.sampleBufferSize ≤ requiredSize m info.ptr)
    (hcanFrames : ∀ info ∈ ac.mCondition.canFrames, info.sampleBufferSize ≤ requiredFrames m info.ptr)
    (hactiveDTCs : s.mActiveDTCs = {} ∨ origin.activeDTCs s.mActiveDTCs)
    : (s.publish ac i currentTime).1.RingsFrom origin m
        ∧
      (s.publish ac i currentTime).2.1.From origin ac.mCondition := by
  have hevent : (s.generateEventID currentTime).1.RingsFrom origin m := h.congr rfl rfl
  have ⟨hrings, hcollected⟩ := foldl_collectLastSignals_from (i := i)
    (c := ⟨(s.generateEventID currentTime).1, 0, [], []⟩) ac.mCondition.collectedSignals hevent
    fun info hinfo => hsignals info (List.mem_of_mem_filter hinfo)
  have hnoFrames := foldl_collectLastSignals_canFrames i ac.mCondition.collectedSignals
    (⟨(s.generateEventID currentTime).1, 0, [], []⟩ : Collecting V)
  have ⟨hrings', hframes⟩ := foldl_collectLastCanFrames_from (i := i) ac.mCondition.canFrames hrings hcanFrames
  constructor
  . constructor
    . rw [publish_mSignalBuffers]
      exact hrings.signals
    . rw [publish_mCanFrameBuffers]
      exact hrings'.canFrames
  . constructor
    . rfl
    . intro signal hsignal
      rw [publish_signals] at hsignal
      cases hcollected signal hsignal with
      | inl hnone => cases hnone
      | inr hsome => exact hsome
    . intro frame hframe
      cases hframes frame hframe with
      | inl hnone =>
        rw [hnoFrames] at hnone
        cases hnone
      | inr hsome => exact hsome
    . rcases publish_activeDTCs s ac i currentTime with hnone | ⟨hincludes, hsame⟩
      . exact Or.inl hnone
      . rw [hsame]
        rcases hactiveDTCs with hnone | horigin
        . exact Or.inl hnone
        . exact Or.inr ⟨hincludes, horigin⟩

/--
The engine works on a matrix that it was given, unless it has nothing to publish.
-/
structure Serves (origin : SampleOrigin V) (s : CollectionInspectionEngine V) : Prop where
  activeDTCs : s.mActiveDTCs = {} ∨ origin.activeDTCs s.mActiveDTCs
  matrix
    : s.mConditions = []
        ∨ s.Inert
        ∨ ∃ (m : InspectionMatrix V) (before : CollectionInspectionEngine V) (order : IterationOrder V),
          origin.matrix m ∧ m.Accepted ∧ s.RingsFrom origin m
          ∧ SameConfiguration (before.onChangeInspectionMatrix order m) s

namespace Serves

theorem mono (h : s.Serves origin) (hle : origin.Le origin') : s.Serves origin' := by
  constructor
  . cases h.activeDTCs with
    | inl hnone => exact Or.inl hnone
    | inr hsome => exact Or.inr (hle.activeDTCs _ hsome)
  . rcases h.matrix with hempty | hinert | ⟨m, before, order, hm, haccepted, hrings, hconf⟩
    . exact Or.inl hempty
    . exact Or.inr (Or.inl hinert)
    . exact Or.inr (Or.inr ⟨m, before, order, hle.matrix m hm, haccepted, hrings.mono hle, hconf⟩)

theorem onChangeInspectionMatrix (h : s.Serves origin) (order : IterationOrder V) (hm : origin.matrix m)
    : (s.onChangeInspectionMatrix order m).Serves origin := by
  constructor
  . have hsame : (s.onChangeInspectionMatrix order m).mActiveDTCs = s.mActiveDTCs := by
      by_cases haccepted : m.Accepted
      . have ⟨_, _, hframe⟩ := preAllocateBuffers_frame (linkedEngine s m) order
        rw [onChangeInspectionMatrix_accepted s order haccepted, hframe]
        rfl
      . have ⟨_, _, _, hframe⟩ := onChangeInspectionMatrix_rejected s order haccepted
        rw [hframe]
        rfl
    rw [hsame]
    exact h.activeDTCs
  . apply Or.inr
    by_cases haccepted : m.Accepted
    . refine Or.inr ⟨m, s, order, hm, haccepted, ?_, SameConfiguration.refl _⟩
      constructor
      . exact BuffersFrom.ofRepresents (represents_onChangeInspectionMatrix s order haccepted) fun _ => rfl
      . exact BuffersFrom.ofRepresents (representsFrames_onChangeInspectionMatrix s order haccepted) fun _ => rfl
    . exact Or.inl (inert_onChangeInspectionMatrix s order haccepted)

theorem call (h : s.Serves origin) (hactiveDTCs : s'.mActiveDTCs = {} ∨ origin.activeDTCs s'.mActiveDTCs)
    (hconf : SameConfiguration s s') (hinert : s.Inert → s'.Inert)
    (hrings : ∀ m, s.RingsFrom origin m → s'.RingsFrom origin m)
    : s'.Serves origin := by
  constructor
  . exact hactiveDTCs
  . rcases h.matrix with hempty | hs | ⟨m, before, order, hm, haccepted, hfrom, hbefore⟩
    . apply Or.inl
      rw [← List.length_eq_zero_iff, hconf.length, hempty]
      rfl
    . exact Or.inr (Or.inl (hinert hs))
    . exact Or.inr (Or.inr ⟨m, before, order, hm, haccepted, hrings m hfrom, hbefore.trans hconf⟩)

theorem addNewSignal (h : s.Serves origin) {id : SignalID} {receiveTime : Nat} {value : V}
    (hsignal : origin.signal id value receiveTime)
    : (s.addNewSignal id receiveTime value).Serves origin := by
  apply h.call
  . exact h.activeDTCs
  . exact step_sameConfiguration s (.addNewSignal id receiveTime value)
  . exact fun hinert => hinert.addNewSignal id receiveTime value
  . exact fun m hrings => hrings.addNewSignal hsignal

theorem addNewRawCanFrame (h : s.Serves origin) {canID channelID receiveTime size : Nat}
    {buffer : CanFrameBytes}
    (hframe : ∀ size' ≤ size, origin.canFrame canID channelID (frameBytes buffer size') receiveTime)
    : (s.addNewRawCanFrame canID channelID receiveTime buffer size).Serves origin := by
  apply h.call
  . exact h.activeDTCs
  . exact step_sameConfiguration s (.addNewRawCanFrame canID channelID receiveTime buffer size)
  . exact fun hinert => hinert.addNewRawCanFrame canID channelID receiveTime buffer size
  . exact fun m hrings => hrings.addNewRawCanFrame hframe

theorem setActiveDTCs (h : s.Serves origin) {activeDTCs : DTCInfo} (hactive : origin.activeDTCs activeDTCs)
    : (s.setActiveDTCs activeDTCs).Serves origin := by
  apply h.call
  . exact Or.inr hactive
  . exact step_sameConfiguration s (.setActiveDTCs activeDTCs)
  . exact fun hinert => (hinert.step (.setActiveDTCs activeDTCs)).1
  . exact fun m hrings => hrings.congr rfl rfl

theorem evaluateConditions (h : s.Serves origin) (currentTime : Nat)
    : (s.evaluateConditions currentTime).1.Serves origin := by
  apply h.call
  . rw [evaluateConditions_mActiveDTCs]
    exact h.activeDTCs
  . exact step_sameConfiguration s (.evaluateConditions currentTime)
  . exact fun hinert => (hinert.evaluateConditions currentTime).1
  . exact fun m hrings => hrings.evaluateConditions currentTime

theorem collectNextDataToSend (h : s.Serves origin) (currentTime : Nat)
    : (s.collectNextDataToSend currentTime).engine.Serves origin
        ∧
      ∀ i data, (s.collectNextDataToSend currentTime).data = some (i, data) →
        ∃ m condition, origin.matrix m ∧ condition ∈ m.conditions ∧ data.From origin condition := by
  have hconf := step_sameConfiguration s (.collectNextDataToSend currentTime)
  have ⟨s', hskimmed, hcases⟩ := collectNextDataToSend_spec s currentTime
  have ⟨_, _, _, hskim⟩ := hskimmed
  have hskimmedDTCs : s'.mActiveDTCs = s.mActiveDTCs := by rw [hskim]
  rcases hcases with ⟨hnone, hengine⟩ | ⟨i, ac, hac, hdata, hengine⟩
  . constructor
    . apply h.call
      . rw [hengine, hskimmedDTCs]
        exact h.activeDTCs
      . exact hconf
      . intro hinert
        rw [(hinert.collectNextDataToSend currentTime).1]
        exact hinert
      . intro m hrings
        rw [hengine]
        apply hrings.congr
        . rw [hskim]
        . rw [hskim]
    . intro i data hdata
      rw [hnone] at hdata
      cases hdata
  . rcases h.matrix with hempty | hinert | ⟨m, before, order, hm, haccepted, hrings, hbefore⟩
    . rw [hempty] at hac
      cases hac
    . have hlog := (hinert.collectNextDataToSend currentTime).2
      unfold Observation.ofNextData at hlog
      rw [hdata] at hlog
      simp at hlog
    . have ⟨hcondition, _⟩ := activeCondition_of_sameConfiguration order haccepted hbefore hac
      have hmem := List.mem_of_getElem? hcondition
      have hpublish : (s'.publish ac i currentTime).1.RingsFrom origin m
          ∧ (s'.publish ac i currentTime).2.1.From origin ac.mCondition := by
        apply RingsFrom.publish
        . apply hrings.congr
          . rw [hskim]
          . rw [hskim]
        . exact fun info hinfo => le_requiredSize hmem hinfo
        . exact fun info hinfo => le_requiredFrames hmem hinfo
        . rw [hskimmedDTCs]
          exact h.activeDTCs
      have ⟨_, _, _, _, _, _, _, hframe⟩ := publish_frame s' ac i currentTime
      constructor
      . constructor
        . have hsame : (s.collectNextDataToSend currentTime).engine.mActiveDTCs = s.mActiveDTCs := by
            rw [hengine, hframe]
            exact hskimmedDTCs
          rw [hsame]
          exact h.activeDTCs
        . refine Or.inr (Or.inr ⟨m, before, order, hm, haccepted, ?_, hbefore.trans hconf⟩)
          rw [hengine]
          exact hpublish.1
      . intro j data hsome
        rw [hdata, Option.some_inj] at hsome
        have ⟨_, hpayload⟩ := Prod.mk.inj hsome
        rw [← hpayload]
        exact ⟨m, ac.mCondition, hm, List.mem_of_mem_take hmem, hpublish.2⟩

end Serves

end CollectionInspectionEngine

end DataInspection
