import FleetWiseEdge.Inspection.Lemmas.Ledger

namespace DataInspection

open Cpp DataManagement SampleLedger

section MapContent

variable {α β : Type} {f : α → β}

def Sample.mapContent (f : α → β) (s : Sample α) : Sample β :=
  ⟨f s.content, s.mTimestamp, s.mAlreadyConsumed⟩

def HistoryBuffer.mapContent (f : α → β) (b : HistoryBuffer α) : HistoryBuffer β where
  mMinimumSampleIntervalMs := b.mMinimumSampleIntervalMs
  mBuffer := b.mBuffer.map (Sample.mapContent f)
  mSize := b.mSize
  mCurrentPosition := b.mCurrentPosition
  mCounter := b.mCounter
  mLastSample := b.mLastSample

def CollectedSamples.mapContent (f : α → β) (c : CollectedSamples α) : CollectedSamples β where
  mBuffer := c.mBuffer.map (Sample.mapContent f)
  newestSignalTimestamp := c.newestSignalTimestamp
  output := c.output.map fun sample => (f sample.1, sample.2)

namespace HistoryBuffer

variable {b : HistoryBuffer α}

theorem acceptsSample_mapContent {receiveTime : Nat}
    : (b.mapContent f).acceptsSample receiveTime = b.acceptsSample receiveTime := by
  unfold acceptsSample mapContent
  dsimp only
  rw [List.length_map]

theorem map_modify_of_comm {l : List α} {i : Nat} {f : α → β} {g : α → α} {g' : β → β}
    (h : ∀ a, f (g a) = g' (f a))
    : (l.modify i g).map f = (l.map f).modify i g' := by
  induction l generalizing i with
  | nil => simp
  | cons a as ih =>
    cases i with
    | zero => simp [h]
    | succ i => simp [ih]

theorem storeSample_mapContent {receiveTime : Nat} {write : α → α} {value : β}
    (hwrite : ∀ old, f (write old) = value)
    : (b.storeSample receiveTime write).mapContent f
        =
      (b.mapContent f).storeSample receiveTime fun _ => value := by
  unfold storeSample mapContent
  dsimp only
  rw [map_modify_of_comm]
  intro sample
  unfold Sample.mapContent
  dsimp only
  rw [hwrite]

theorem collectSamples_mapContent {size conditionId count : Nat} {once : Bool} {pos : Int}
    {acc : CollectedSamples α}
    : (collectSamples size conditionId once count pos acc).mapContent f
        =
      collectSamples size conditionId once count pos (acc.mapContent f) := by
  induction count generalizing pos acc with
  | zero => rfl
  | succ count ih =>
    unfold collectSamples
    dsimp only
    generalize (if (if pos < 0 then (size : Int) - 1 else pos) ≥ size then 0
      else if pos < 0 then (size : Int) - 1 else pos) = pos'
    have hslot : (acc.mapContent f).mBuffer[pos'.toNat]?
        = acc.mBuffer[pos'.toNat]?.map (Sample.mapContent f) := by
      simp [CollectedSamples.mapContent]
    rw [hslot]
    cases acc.mBuffer[pos'.toNat]? with
    | none => rfl
    | some sample =>
      dsimp only [Option.map_some]
      rw [ih]
      congr 1
      have hfresh : (sample.mapContent f).isAlreadyConsumed conditionId
          = sample.isAlreadyConsumed conditionId := rfl
      rw [hfresh]
      split
      . unfold CollectedSamples.mapContent
        dsimp only
        rw [List.map_append, map_modify_of_comm]
        . rfl
        . intro sample
          rfl
      . rfl

theorem collectLastSamples_mapContent {maxNumber conditionId newestTimestamp : Nat} {once : Bool}
    : (b.mapContent f).collectLastSamples maxNumber conditionId once newestTimestamp
        =
      (b.collectLastSamples maxNumber conditionId once newestTimestamp).mapContent f := by
  unfold collectLastSamples
  rw [collectSamples_mapContent]
  rfl

end HistoryBuffer

end MapContent

section Visible

abbrev FrameBytes := Nat × List UInt8

abbrev FrameLedger := Ledger Nat CanFrameBufferPtr (FrameBytes × Nat)

def frameBytes (buffer : CanFrameBytes) (size : Nat) : FrameBytes := (size, buffer.toList.take size)

def CanFrameContent.visible (content : CanFrameContent) : FrameBytes :=
  frameBytes content.mBuffer content.mSize

def CanFrameHistoryBuffer.visibleRing (b : CanFrameHistoryBuffer) : HistoryBuffer FrameBytes :=
  b.toHistoryBuffer.mapContent CanFrameContent.visible

theorem visible_writeFrame_iff {capacity size : Nat} {buffer : CanFrameBytes} {old : CanFrameContent}
    : (CollectionInspectionEngine.writeFrame capacity buffer size old).visible = frameBytes buffer size
        ↔
      size ≤ capacity % 2 ^ 8 := by
  constructor
  . intro h
    have hsize : min size (capacity % 2 ^ 8) = size := congrArg Prod.fst h
    omega
  . intro h
    have hmin : min size (capacity % 2 ^ 8) = size := by omega
    unfold CollectionInspectionEngine.writeFrame CanFrameContent.visible frameBytes
    rw [hmin]
    dsimp only
    congr 1
    apply List.ext_getElem
    . simp
    . intro j hj _
      simp only [List.length_take] at hj
      simp only [List.getElem_take, Vector.getElem_toList, Vector.getElem_ofFn]
      rw [if_pos (by omega)]
      rfl

end Visible

namespace CollectionInspectionEngine

variable {V : Type}

def RepresentsFrames (required : CanFrameBufferPtr → Nat) (s : CollectionInspectionEngine V)
    (L : FrameLedger)
    : Prop :=
  BuffersRepresent CanFrameHistoryBuffer.ptr CanFrameHistoryBuffer.visibleRing required
    s.mCanFrameBuffers L

def acceptedFrames (s : CollectionInspectionEngine V) (canID channelID receiveTime : Nat)
    (buffer : CanFrameBytes) (size : Nat) (k : CanFrameBufferPtr)
    : List (FrameBytes × Nat) :=
  match KeyedList.lookup CanFrameHistoryBuffer.ptr k s.mCanFrameBuffers with
  | some b =>
    if b.mFrameID = canID && b.mChannelID = channelID && b.acceptsSample receiveTime then
      [(frameBytes buffer size, receiveTime)]
    else
      []
  | none => []

def FrameFits (s : CollectionInspectionEngine V) (canID channelID receiveTime size : Nat) : Prop :=
  ∀ b ∈ s.mCanFrameBuffers, b.mFrameID = canID → b.mChannelID = channelID →
    b.acceptsSample receiveTime = true → size ≤ b.mBuffer.length % 2 ^ 8

namespace RepresentsFrames

variable {required : CanFrameBufferPtr → Nat} {s s' : CollectionInspectionEngine V}
variable {L : FrameLedger}

theorem congr (h : s.RepresentsFrames required L) (hbuffers : s'.mCanFrameBuffers = s.mCanFrameBuffers)
    : s'.RepresentsFrames required L := by
  unfold RepresentsFrames
  rw [hbuffers]
  exact h

theorem addNewRawCanFrame [InspectionValue V] (h : s.RepresentsFrames required L)
    {canID channelID receiveTime size : Nat} (buffer : CanFrameBytes)
    (hfits : s.FrameFits canID channelID receiveTime size)
    : (s.addNewRawCanFrame canID channelID receiveTime buffer size).RepresentsFrames required
        (L.grow (s.acceptedFrames canID channelID receiveTime buffer size)) := by
  apply BuffersRepresent.store h
  . intro b
    split
    . rfl
    . rfl
  . intro k b hb
    unfold acceptedFrames
    rw [hb]
    dsimp only
    split
    . rename_i haccepts
      simp only [Bool.and_eq_true, decide_eq_true_iff] at haccepts
      have hsize := hfits b (KeyedList.mem_of_lookup hb) haccepts.1.1 haccepts.1.2 haccepts.2
      refine Or.inr ⟨frameBytes buffer size, receiveTime, rfl, ?_, ?_⟩
      . unfold CanFrameHistoryBuffer.visibleRing
        rw [HistoryBuffer.acceptsSample_mapContent]
        exact haccepts.2
      . apply HistoryBuffer.storeSample_mapContent
        intro old
        exact visible_writeFrame_iff.mpr hsize
    . exact Or.inl ⟨rfl, rfl⟩
  . intro k hnone
    unfold acceptedFrames
    rw [hnone]

end RepresentsFrames

end CollectionInspectionEngine

section Collect

variable {V : Type} {required : CanFrameBufferPtr → Nat} {L : FrameLedger} {i : Nat}

def CollectedCanRawFrame.bytes (frame : CollectedCanRawFrame) : FrameBytes :=
  frameBytes frame.data frame.size

structure VisibleFrame where
  frameID : Nat
  channelID : Nat
  receiveTime : Nat
  bytes : FrameBytes
  deriving DecidableEq

def CollectedCanRawFrame.visible (frame : CollectedCanRawFrame) : VisibleFrame :=
  ⟨frame.frameID, frame.channelId, frame.receiveTime, frame.bytes⟩

/--
The raw frame entries of a condition take, one after the other, those of the newest frames of their buffers
that the condition did not take yet.
-/
def framePayload (i : Nat) (canFrames : List InspectionMatrixCanFrameCollectionInfo) (L : FrameLedger)
    : FrameLedger × List VisibleFrame :=
  match canFrames with
  | [] => (L, [])
  | f :: rest =>
    let count := min f.sampleBufferSize (L.stored f.ptr).length
    let (L', later) := framePayload i rest (L.send i f.ptr count)
    (L',
      ((L.unsent i f.ptr count).map fun entry => ⟨f.frameID, f.channelID, entry.1.2, entry.1.1⟩)
        ++ later)

theorem framePayload_stored (canFrames : List InspectionMatrixCanFrameCollectionInfo)
    : (framePayload i canFrames L).1.stored = L.stored := by
  induction canFrames generalizing L with
  | nil => rfl
  | cons f canFrames ih =>
    unfold framePayload
    dsimp only
    rw [ih]
    rfl

def FrameLedger.Small (L : FrameLedger) : Prop := ∀ k, (L.stored k).length < 2 ^ 32

theorem collectLastCanFrames_represents {c : Collecting V}
    {f : InspectionMatrixCanFrameCollectionInfo} (h : c.engine.RepresentsFrames required L)
    (hsmall : FrameLedger.Small L) (honce : c.engine.mSendDataOnlyOncePerCondition = true)
    (hi : i ≠ ALL_CONDITIONS) (hfits : f.sampleBufferSize ≤ required f.ptr)
    : let count := min f.sampleBufferSize (L.stored f.ptr).length
      (c.collectLastCanFrames i f).engine.RepresentsFrames required (L.send i f.ptr count)
        ∧
      (c.collectLastCanFrames i f).canFrames.map CollectedCanRawFrame.visible
        =
      c.canFrames.map CollectedCanRawFrame.visible
        ++ (L.unsent i f.ptr count).map fun entry => ⟨f.frameID, f.channelID, entry.1.2, entry.1.1⟩ := by
  intro count
  unfold Collecting.collectLastCanFrames
  split
  . rename_i hnone
    have hnil : L.unsent i f.ptr count = [] := by
      unfold Ledger.unsent
      rw [h.missing _ hnone]
      simp [numbered]
    have hsend : L.send i f.ptr count = L := by
      unfold Ledger.send
      rw [hnil]
      simp
    rw [hnil, hsend]
    exact ⟨h, by simp⟩
  . rename_i b hb
    have hbuffer := h.present _ b hb
    obtain ⟨hcollected, houtput⟩ := hbuffer.collectLastSamples hfits i
      c.engine.mSendDataOnlyOncePerCondition c.newestSignalTimestamp
    rw [history_length, u32_of_lt (hsmall _)] at hcollected houtput
    unfold CanFrameHistoryBuffer.visibleRing at hcollected houtput
    rw [HistoryBuffer.collectLastSamples_mapContent, honce] at hcollected houtput
    rw [honce]
    constructor
    . apply BuffersRepresent.update h _ hb
      . rw [← collect_history hi]
        exact hcollected
      . intro buf
        rfl
    . have hunsent : (L.unsent i f.ptr count).map Prod.fst
          = (b.collectLastSamples f.sampleBufferSize i true c.newestSignalTimestamp).output.map
              fun sample => (sample.1.visible, sample.2) := by
        rw [← fresh_history, ← houtput]
        rfl
      have hmap : ((L.unsent i f.ptr count).map fun entry =>
          (⟨f.frameID, f.channelID, entry.1.2, entry.1.1⟩ : VisibleFrame))
          = ((L.unsent i f.ptr count).map Prod.fst).map fun entry =>
              ⟨f.frameID, f.channelID, entry.2, entry.1⟩ := by
        rw [List.map_map]
        rfl
      rw [hmap, hunsent, List.map_append, List.map_map, List.map_map]
      rfl

theorem foldl_collectLastCanFrames_represents
    (canFrames : List InspectionMatrixCanFrameCollectionInfo) {c : Collecting V}
    (h : c.engine.RepresentsFrames required L) (hsmall : FrameLedger.Small L)
    (honce : c.engine.mSendDataOnlyOncePerCondition = true) (hi : i ≠ ALL_CONDITIONS)
    (hfits : ∀ f ∈ canFrames, f.sampleBufferSize ≤ required f.ptr)
    : (canFrames.foldl (Collecting.collectLastCanFrames i) c).engine.RepresentsFrames required
          (framePayload i canFrames L).1
        ∧
      (canFrames.foldl (Collecting.collectLastCanFrames i) c).canFrames.map
          CollectedCanRawFrame.visible
        =
      c.canFrames.map CollectedCanRawFrame.visible ++ (framePayload i canFrames L).2 := by
  induction canFrames generalizing c L with
  | nil => exact ⟨h, (List.append_nil _).symm⟩
  | cons f canFrames ih =>
    have ⟨hfirst, hframes⟩ := collectLastCanFrames_represents h hsmall honce hi (hfits f (by simp))
    have honce' : (c.collectLastCanFrames i f).engine.mSendDataOnlyOncePerCondition = true := by
      have ⟨_, hframe⟩ := CollectionInspectionEngine.foldl_collectLastCanFrames_frame i [f] c
      rw [List.foldl_cons, List.foldl_nil] at hframe
      rw [hframe]
      exact honce
    have ⟨hrest, hlater⟩ := ih hfirst hsmall honce' fun other hother => hfits other (by simp [hother])
    constructor
    . exact hrest
    . rw [List.foldl_cons, hlater, hframes, List.append_assoc]
      rfl

theorem foldl_collectLastSignals_canFrames (conditionId : Nat)
    (signals : List InspectionMatrixSignalCollectionInfo) (c : Collecting V)
    : (signals.foldl (Collecting.collectLastSignals conditionId) c).canFrames = c.canFrames := by
  induction signals generalizing c with
  | nil => rfl
  | cons signal signals ih =>
    rw [List.foldl_cons, ih]
    unfold Collecting.collectLastSignals
    split
    . rfl
    . split
      . rfl
      . rfl

theorem publish_mCanFrameBuffers (s : CollectionInspectionEngine V) (condition : ActiveCondition V)
    (i currentTime : Nat)
    : (s.publish condition i currentTime).1.mCanFrameBuffers
        =
      (condition.mCondition.canFrames.foldl (Collecting.collectLastCanFrames i)
        ((s.generateEventID currentTime).1.collectSignals condition.mCondition i)).engine.mCanFrameBuffers := by
  unfold CollectionInspectionEngine.publish CollectionInspectionEngine.collectData
  dsimp only
  split
  . split
    . rfl
    . rfl
  . split
    . rfl
    . rfl

theorem collectSignals_eq (s : CollectionInspectionEngine V) (p : ConditionWithCollectedData V)
    : s.collectSignals p i
        =
      p.collectedSignals.foldl (Collecting.collectLastSignals i) ⟨s, 0, [], []⟩ :=
  rfl

theorem CollectionInspectionEngine.RepresentsFrames.publish {s : CollectionInspectionEngine V}
    {ac : ActiveCondition V} {currentTime : Nat} (h : s.RepresentsFrames required L)
    (hsmall : FrameLedger.Small L) (honce : s.mSendDataOnlyOncePerCondition = true)
    (hi : i ≠ ALL_CONDITIONS)
    (hfits : ∀ f ∈ ac.mCondition.canFrames, f.sampleBufferSize ≤ required f.ptr)
    : (s.publish ac i currentTime).1.RepresentsFrames required
          (framePayload i ac.mCondition.canFrames L).1
        ∧
      (s.publish ac i currentTime).2.1.canFrames.map CollectedCanRawFrame.visible
        =
      (framePayload i ac.mCondition.canFrames L).2 := by
  have ⟨mSignalBuffers, hframe⟩ := foldl_collectLastSignals_frame i ac.mCondition.collectedSignals
    (⟨(s.generateEventID currentTime).1, 0, [], []⟩ : Collecting V)
  have hframes := foldl_collectLastSignals_canFrames i ac.mCondition.collectedSignals
    (⟨(s.generateEventID currentTime).1, 0, [], []⟩ : Collecting V)
  have hcollecting : ((s.generateEventID currentTime).1.collectSignals ac.mCondition
      i).engine.RepresentsFrames required L := by
    rw [collectSignals_eq, hframe]
    exact h.congr rfl
  have honce' : ((s.generateEventID currentTime).1.collectSignals ac.mCondition
      i).engine.mSendDataOnlyOncePerCondition = true := by
    rw [collectSignals_eq, hframe]
    exact honce
  have ⟨hcollected, hvisible⟩ := foldl_collectLastCanFrames_represents ac.mCondition.canFrames
    hcollecting hsmall honce' hi hfits
  constructor
  . exact hcollected.congr (publish_mCanFrameBuffers s ac i currentTime)
  . apply Eq.trans hvisible
    rw [collectSignals_eq, hframes]
    rfl

end Collect

theorem evaluateConditions_mCanFrameBuffers {V : Type} [InspectionValue V]
    (s : CollectionInspectionEngine V) (currentTime : Nat)
    : (s.evaluateConditions currentTime).1.mCanFrameBuffers = s.mCanFrameBuffers := by
  have hbefore : (s.beforeEvaluation currentTime).mCanFrameBuffers = s.mCanFrameBuffers := by
    unfold CollectionInspectionEngine.beforeEvaluation
    split
    . rfl
    . rfl
  rw [← hbefore]
  apply CollectionInspectionEngine.evaluateConditions_rel fun s s' =>
    s'.mCanFrameBuffers = s.mCanFrameBuffers
  . intro s
    rfl
  . intro s s' s'' h h'
    exact h'.trans h
  . intro s condition i
    rfl

section Accepted

variable {V : Type} [InspectionValue V] {m : InspectionMatrix V}

open CollectionInspectionEngine

structure CanFrameHistoryBuffer.IsNew (b : CanFrameHistoryBuffer) : Prop where
  unallocated : b.mBuffer = []
  counter : b.mCounter = 0
  lastSample : b.mLastSample = 0

theorem isNew_requestCanFrames (canFrames : List InspectionMatrixCanFrameCollectionInfo)
    {buffers : List CanFrameHistoryBuffer} (h : ∀ b ∈ buffers, b.IsNew)
    : ∀ b ∈ canFrames.foldl requestCanFrame buffers, b.IsNew := by
  induction canFrames generalizing buffers with
  | nil => exact h
  | cons c canFrames ih =>
    apply ih
    apply KeyedList.insert_forall _ _ h
    . intro b _ hb
      exact ⟨hb.unallocated, hb.counter, hb.lastSample⟩
    . exact ⟨rfl, rfl, rfl⟩

def PreAllocatedFrames (b b' : CanFrameHistoryBuffer) : Prop :=
  AllocatedOrNot CanFrameHistoryBuffer.toHistoryBuffer
    (fun buf buffer => { buf with toHistoryBuffer := buffer }) SIZEOF_CAN_FRAME_SAMPLE
    emptyCanFrameSample b b'

theorem PreAllocatedFrames.ptr {b b' : CanFrameHistoryBuffer} (h : PreAllocatedFrames b b')
    : b'.ptr = b.ptr := by
  rcases h with ⟨heq, _⟩ | heq | heq
  . rw [heq]
    rfl
  . rw [heq]
    rfl
  . rw [heq]

theorem preAllocateBuffers_canFrames (s : CollectionInspectionEngine V) (order : IterationOrder V)
    : List.Forall₂ PreAllocatedFrames s.mCanFrameBuffers
        (s.preAllocateBuffers order).1.mCanFrameBuffers := by
  unfold preAllocateBuffers
  dsimp only
  split
  . exact allocateBuffers_forall₂
  . exact List.forall₂_same.mpr fun _ _ => Or.inr (Or.inr rfl)

theorem CanFrameHistoryBuffer.IsNew.remembers {b b' : CanFrameHistoryBuffer} (h : b.IsNew)
    (hpre : PreAllocatedFrames b b')
    : b'.visibleRing.Remembers b.mSize [] := by
  rcases hpre with ⟨heq, hfits⟩ | heq | heq
  . by_cases hsize : b.mSize = 0
    . apply Or.inr
      rw [heq]
      refine ⟨?_, h.counter, rfl⟩
      unfold allocated visibleRing HistoryBuffer.mapContent
      dsimp only
      rw [hsize]
      rfl
    . apply Or.inl
      rw [heq]
      constructor
      . apply HistoryBuffer.Holds.empty
        . unfold allocated visibleRing HistoryBuffer.mapContent
          dsimp only
          rw [List.length_map, List.length_replicate]
        . exact Nat.pos_of_ne_zero hsize
        . unfold SIZEOF_CAN_FRAME_SAMPLE MAX_SAMPLE_MEMORY at hfits
          show b.mSize < 2 ^ 32
          omega
        . exact h.counter
        . exact h.lastSample
      . exact Nat.le_refl _
  . apply Or.inr
    rw [heq]
    refine ⟨?_, h.counter, rfl⟩
    unfold visibleRing HistoryBuffer.mapContent
    dsimp only
    rw [h.unallocated]
    rfl
  . apply Or.inr
    rw [heq]
    refine ⟨?_, h.counter, rfl⟩
    unfold visibleRing HistoryBuffer.mapContent
    dsimp only
    rw [h.unallocated]
    rfl

def requiredFrames (m : InspectionMatrix V) (k : CanFrameBufferPtr) : Nat :=
  (KeyedList.lookup CanFrameHistoryBuffer.ptr k (requestedCanFrames m)).elim 0 (·.mSize)

theorem representsFrames_onChangeInspectionMatrix (s : CollectionInspectionEngine V)
    (order : IterationOrder V) (hm : m.Accepted)
    : (s.onChangeInspectionMatrix order m).RepresentsFrames (requiredFrames m) Ledger.empty := by
  rw [onChangeInspectionMatrix_accepted s order hm]
  constructor
  . exact Ledger.wellFormed_empty
  . intro k b' hb'
    have hforall := preAllocateBuffers_canFrames (linkedEngine s m) order
    have hrel : Option.Rel PreAllocatedFrames (KeyedList.lookup CanFrameHistoryBuffer.ptr k _) _ :=
      KeyedList.lookup_forall₂ (hforall.imp fun _ _ h => ⟨h.ptr, h⟩) k
    rw [hb'] at hrel
    unfold requiredFrames
    change Option.Rel PreAllocatedFrames
      (KeyedList.lookup CanFrameHistoryBuffer.ptr k (requestedCanFrames m)) _ at hrel
    generalize hfound : KeyedList.lookup CanFrameHistoryBuffer.ptr k (requestedCanFrames m) = found at hrel
    cases hrel with
    | some hpre =>
      have hnew : CanFrameHistoryBuffer.IsNew _ :=
        isNew_requestCanFrames _ (by simp) _ (KeyedList.mem_of_lookup hfound)
      exact hnew.remembers hpre
  . intro k _
    rfl

omit [InspectionValue V] in
theorem requestCanFrame_self {buffers : List CanFrameHistoryBuffer}
    {c : InspectionMatrixCanFrameCollectionInfo}
    : KeyedList.lookup CanFrameHistoryBuffer.ptr c.ptr (requestCanFrame buffers c)
        =
      some ((KeyedList.lookup CanFrameHistoryBuffer.ptr c.ptr buffers).elim
        (.ofRequest c.frameID c.channelID c.sampleBufferSize c.minimumSampleIntervalMs)
        fun buf => { buf with mSize := max buf.mSize c.sampleBufferSize }) := by
  apply KeyedList.lookup_insert_self
  . intro buf
    rfl
  . rfl

omit [InspectionValue V] in
theorem requestCanFrame_ne {buffers : List CanFrameHistoryBuffer} {k : CanFrameBufferPtr}
    {c : InspectionMatrixCanFrameCollectionInfo} (hne : k ≠ c.ptr)
    : KeyedList.lookup CanFrameHistoryBuffer.ptr k (requestCanFrame buffers c)
        =
      KeyedList.lookup CanFrameHistoryBuffer.ptr k buffers := by
  apply KeyedList.lookup_insert_ne _ _ hne
  . intro buf
    rfl
  . rfl

omit [InspectionValue V] in
theorem le_requiredFrames {p : ConditionWithCollectedData V} (hp : p ∈ activeConditions m)
    {f : InspectionMatrixCanFrameCollectionInfo} (hf : f ∈ p.canFrames)
    : f.sampleBufferSize ≤ requiredFrames m f.ptr := by
  have hserved : ∃ b, KeyedList.lookup CanFrameHistoryBuffer.ptr f.ptr (requestedCanFrames m) = some b
      ∧ f.sampleBufferSize ≤ b.mSize := by
    apply KeyedList.foldl_of_mem (fun buffers => ∃ b,
      KeyedList.lookup CanFrameHistoryBuffer.ptr f.ptr buffers = some b ∧ f.sampleBufferSize ≤ b.mSize)
      _ _ (List.mem_flatMap.mpr ⟨p, hp, hf⟩)
    . intro buffers c ⟨b, hb, hsize⟩
      by_cases hptr : f.ptr = c.ptr
      . rw [hptr] at hb ⊢
        rw [requestCanFrame_self, hb]
        exact ⟨_, rfl, Nat.le_trans hsize (Nat.le_max_left _ _)⟩
      . rw [requestCanFrame_ne hptr]
        exact ⟨b, hb, hsize⟩
    . intro buffers
      rw [requestCanFrame_self]
      cases KeyedList.lookup CanFrameHistoryBuffer.ptr f.ptr buffers with
      | none => exact ⟨_, rfl, Nat.le_refl _⟩
      | some b => exact ⟨_, rfl, Nat.le_max_right _ _⟩
  have ⟨b, hb, hsize⟩ := hserved
  unfold requiredFrames
  rw [hb]
  exact hsize

end Accepted

end DataInspection
