import FleetWiseEdge.Inspection.Lemmas.Frames

/-!
This module contains the safety of the rings: whatever matrices the engine was given and wherever their setup
stopped, no slot outside of an allocated vector is read or written, and the allocated samples stay within the
memory limit.
-/

namespace DataInspection

open Cpp DataManagement

namespace HistoryBuffer

variable {α : Type} {b b' : HistoryBuffer α}

structure Sound (b : HistoryBuffer α) : Prop where
  allocated : b.mBuffer = [] ∨ b.mBuffer.length = b.mSize
  position : b.mCounter ≠ 0 → b.mCurrentPosition < b.mBuffer.length

namespace Sound

theorem storeSample (h : b.Sound) {receiveTime : Nat} (haccepts : b.acceptsSample receiveTime = true)
    (write : α → α)
    : (b.storeSample receiveTime write).Sound := by
  unfold acceptsSample at haccepts
  simp only [Bool.and_eq_true, decide_eq_true_iff] at haccepts
  have hlength : b.mBuffer.length = b.mSize := by
    cases h.allocated with
    | inl hnil =>
      rw [hnil, List.length_nil] at haccepts
      omega
    | inr hlength => exact hlength
  have hlt := nextPosition_lt haccepts.1.1
  constructor
  . apply Or.inr
    exact (List.length_modify _ _ _).trans hlength
  . intro _
    show b.nextPosition < _
    unfold HistoryBuffer.storeSample
    dsimp only
    rw [List.length_modify]
    omega

end Sound

def KeepsSound (b b' : HistoryBuffer α) : Prop :=
  b'.mBuffer.length = b.mBuffer.length ∧ (b.Sound → b'.Sound)

theorem KeepsSound.refl (b : HistoryBuffer α) : KeepsSound b b := ⟨rfl, fun h => h⟩

theorem KeepsSound.trans {b'' : HistoryBuffer α} (h : KeepsSound b b') (h' : KeepsSound b' b'')
    : KeepsSound b b'' :=
  ⟨h'.1.trans h.1, fun hsound => h'.2 (h.2 hsound)⟩

theorem keepsSound_storeSample {receiveTime : Nat} (haccepts : b.acceptsSample receiveTime = true)
    (write : α → α)
    : KeepsSound b (b.storeSample receiveTime write) :=
  ⟨List.length_modify _ _ _, fun h => h.storeSample haccepts write⟩

theorem collectLastSamples_length {maxNumber conditionId newestTimestamp : Nat} {once : Bool}
    : (b.collectLastSamples maxNumber conditionId once newestTimestamp).mBuffer.length
        =
      b.mBuffer.length := by
  have hmap := collectSamples_map (fun _ : Sample α => ()) conditionId
    (fun _ => rfl) b.mSize once (min maxNumber b.mCounter) b.mCurrentPosition
    ⟨b.mBuffer, newestTimestamp, []⟩
  have hlength := congrArg List.length hmap
  rw [List.length_map, List.length_map] at hlength
  exact hlength

theorem keepsSound_collectLastSamples {maxNumber conditionId newestTimestamp : Nat} {once : Bool}
    : KeepsSound b { b with
        mBuffer := (b.collectLastSamples maxNumber conditionId once newestTimestamp).mBuffer } := by
  refine ⟨collectLastSamples_length, ?_⟩
  intro h
  constructor
  . dsimp only
    rw [← List.length_eq_zero_iff, collectLastSamples_length, List.length_eq_zero_iff]
    exact h.allocated
  . dsimp only
    rw [collectLastSamples_length]
    exact h.position

end HistoryBuffer

section Memory

variable {σ α : Type} {get : σ → HistoryBuffer α} {set : σ → HistoryBuffer α → σ}
variable {sizeofSample usedBytes : Nat} {emptySample : Sample α} {buffers buffers' : List σ}

def allocatedBytes (get : σ → HistoryBuffer α) (sizeofSample : Nat) (buffers : List σ) : Nat :=
  (buffers.map fun buf => (get buf).mBuffer.length * sizeofSample).sum

theorem allocatedBytes_forall₂
    (h : List.Forall₂ (fun b b' => HistoryBuffer.KeepsSound (get b) (get b')) buffers buffers')
    : allocatedBytes get sizeofSample buffers' = allocatedBytes get sizeofSample buffers := by
  unfold allocatedBytes
  induction h with
  | nil => rfl
  | cons hhead htail ih => rw [List.map_cons, List.map_cons, List.sum_cons, List.sum_cons, ih, hhead.1]

theorem allocatedBytes_unallocated (h : ∀ b ∈ buffers, (get b).mBuffer = [])
    : allocatedBytes get sizeofSample buffers = 0 := by
  unfold allocatedBytes
  induction buffers with
  | nil => rfl
  | cons buf bufs ih =>
    rw [List.map_cons, List.sum_cons, h buf (by simp)]
    simpa using ih fun b hb => h b (List.mem_cons_of_mem _ hb)

theorem allocateBuffers_bytes (get : σ → HistoryBuffer α) (set : σ → HistoryBuffer α → σ)
    (sizeofSample : Nat) (emptySample : Sample α) (hget : ∀ b x, get (set b x) = x)
    (hnew : ∀ b ∈ buffers, (get b).mBuffer = []) (hused : usedBytes ≤ MAX_SAMPLE_MEMORY)
    : let allocated := allocateBuffers get set sizeofSample emptySample buffers usedBytes
      allocated.2.1 = usedBytes + allocatedBytes get sizeofSample allocated.1
        ∧
      allocated.2.1 ≤ MAX_SAMPLE_MEMORY := by
  induction buffers generalizing usedBytes with
  | nil => exact ⟨rfl, hused⟩
  | cons buf bufs ih =>
    have hrest := fun b hb => hnew b (List.mem_cons_of_mem _ hb)
    unfold allocateBuffers
    dsimp only
    split
    . refine ⟨?_, hused⟩
      have hzero : allocatedBytes get sizeofSample (set buf { get buf with mSize := 0 } :: bufs) = 0 := by
        apply allocatedBytes_unallocated
        intro b hb
        rw [List.mem_cons] at hb
        cases hb with
        | inl heq =>
          rw [heq, hget]
          exact hnew buf (by simp)
        | inr hmem => exact hrest b hmem
      dsimp only
      rw [hzero]
      rfl
    . rename_i hfits
      have hused' : usedBytes + (get buf).mSize * sizeofSample ≤ MAX_SAMPLE_MEMORY := by omega
      obtain ⟨hbytes, hlimit⟩ := ih hrest hused'
      refine ⟨?_, hlimit⟩
      dsimp only at hbytes ⊢
      rw [hbytes]
      unfold allocatedBytes
      rw [List.map_cons, List.sum_cons, hget, List.length_replicate]
      omega

theorem allocateBuffers_sound (get : σ → HistoryBuffer α) (set : σ → HistoryBuffer α → σ)
    (sizeofSample usedBytes : Nat) (emptySample : Sample α) (hget : ∀ b x, get (set b x) = x)
    (hnew : ∀ b ∈ buffers, (get b).mBuffer = [] ∧ (get b).mCounter = 0)
    : ∀ b ∈ (allocateBuffers get set sizeofSample emptySample buffers usedBytes).1, (get b).Sound := by
  intro b' hb'
  have ⟨b, hb, hpre⟩ := KeyedList.mem_forall₂ allocateBuffers_forall₂ hb'
  have ⟨hnil, hcounter⟩ := hnew b hb
  rcases hpre with ⟨heq, _⟩ | heq | heq
  . rw [heq]
    unfold allocated
    rw [hget]
    exact ⟨Or.inr List.length_replicate, fun h => absurd hcounter h⟩
  . rw [heq, hget]
    exact ⟨Or.inl hnil, fun h => absurd hcounter h⟩
  . rw [heq]
    exact ⟨Or.inl hnil, fun h => absurd hcounter h⟩

end Memory

section Engine

variable {V : Type}

def SignalHistoryBuffer.Keeps (b b' : SignalHistoryBuffer V) : Prop :=
  b.toHistoryBuffer.KeepsSound b'.toHistoryBuffer

def CanFrameHistoryBuffer.Keeps (b b' : CanFrameHistoryBuffer) : Prop :=
  b.toHistoryBuffer.KeepsSound b'.toHistoryBuffer

namespace CollectionInspectionEngine

def sampleBytes (s : CollectionInspectionEngine V) : Nat :=
  allocatedBytes SignalHistoryBuffer.toHistoryBuffer SIZEOF_SIGNAL_SAMPLE s.mSignalBuffers
    + allocatedBytes CanFrameHistoryBuffer.toHistoryBuffer SIZEOF_CAN_FRAME_SAMPLE s.mCanFrameBuffers

structure Safe (s : CollectionInspectionEngine V) : Prop where
  signals : ∀ b ∈ s.mSignalBuffers, b.toHistoryBuffer.Sound
  canFrames : ∀ b ∈ s.mCanFrameBuffers, b.toHistoryBuffer.Sound
  memory : s.sampleBytes ≤ MAX_SAMPLE_MEMORY

structure KeepsRings (s s' : CollectionInspectionEngine V) : Prop where
  signals : List.Forall₂ SignalHistoryBuffer.Keeps s.mSignalBuffers s'.mSignalBuffers
  canFrames : List.Forall₂ CanFrameHistoryBuffer.Keeps s.mCanFrameBuffers s'.mCanFrameBuffers

theorem signals_refl (buffers : List (SignalHistoryBuffer V))
    : List.Forall₂ SignalHistoryBuffer.Keeps buffers buffers :=
  List.forall₂_same.mpr fun b _ => HistoryBuffer.KeepsSound.refl b.toHistoryBuffer

theorem canFrames_refl (buffers : List CanFrameHistoryBuffer)
    : List.Forall₂ CanFrameHistoryBuffer.Keeps buffers buffers :=
  List.forall₂_same.mpr fun b _ => HistoryBuffer.KeepsSound.refl b.toHistoryBuffer

theorem signals_map {buffers : List (SignalHistoryBuffer V)}
    {g : SignalHistoryBuffer V → SignalHistoryBuffer V} (h : ∀ b, SignalHistoryBuffer.Keeps b (g b))
    : List.Forall₂ SignalHistoryBuffer.Keeps buffers (buffers.map g) := by
  rw [List.forall₂_map_right_iff]
  exact List.forall₂_same.mpr fun b _ => h b

theorem Safe.keepsRings {s s' : CollectionInspectionEngine V} (h : s.Safe) (hkeeps : s.KeepsRings s')
    : s'.Safe := by
  constructor
  . intro b' hb'
    have ⟨b, hb, hkeep⟩ := KeyedList.mem_forall₂ hkeeps.signals hb'
    exact hkeep.2 (h.signals b hb)
  . intro b' hb'
    have ⟨b, hb, hkeep⟩ := KeyedList.mem_forall₂ hkeeps.canFrames hb'
    exact hkeep.2 (h.canFrames b hb)
  . unfold sampleBytes
    rw [allocatedBytes_forall₂ hkeeps.signals, allocatedBytes_forall₂ hkeeps.canFrames]
    exact h.memory

section Collect

theorem foldl_collectLastCanFrames_keeps (conditionId : Nat)
    (canFrames : List InspectionMatrixCanFrameCollectionInfo) (c : Collecting V)
    : List.Forall₂ CanFrameHistoryBuffer.Keeps c.engine.mCanFrameBuffers
        (canFrames.foldl (Collecting.collectLastCanFrames conditionId) c).engine.mCanFrameBuffers := by
  induction canFrames generalizing c with
  | nil => exact canFrames_refl _
  | cons f canFrames ih =>
    apply KeyedList.forall₂_trans (R := CanFrameHistoryBuffer.Keeps)
      (fun _ _ _ h h' => HistoryBuffer.KeepsSound.trans h h') _ (ih _)
    unfold Collecting.collectLastCanFrames
    split
    . exact canFrames_refl _
    . rename_i buf hbuf
      apply KeyedList.update_forall₂
      . intro b
        exact HistoryBuffer.KeepsSound.refl b.toHistoryBuffer
      . intro b hb
        have heq : buf = b := Option.some_inj.mp (hbuf.symm.trans hb)
        rw [heq]
        exact HistoryBuffer.keepsSound_collectLastSamples

theorem publish_keepsRings (s : CollectionInspectionEngine V) (condition : ActiveCondition V)
    (i currentTime : Nat)
    : s.KeepsRings (s.publish condition i currentTime).1 := by
  constructor
  . rw [publish_mSignalBuffers]
    refine foldl_collectLastSignals_forall₂ (R := SignalHistoryBuffer.Keeps)
      (fun b => HistoryBuffer.KeepsSound.refl b.toHistoryBuffer)
      (fun _ _ _ h h' => HistoryBuffer.KeepsSound.trans h h') i ?_ _
      ⟨(s.generateEventID currentTime).1, 0, [], []⟩
    intro b _ _ _
    exact HistoryBuffer.keepsSound_collectLastSamples
  . rw [publish_mCanFrameBuffers]
    have hkeeps := foldl_collectLastCanFrames_keeps i condition.mCondition.canFrames
      ((s.generateEventID currentTime).1.collectSignals condition.mCondition i)
    have ⟨_, hframe⟩ := foldl_collectLastSignals_frame i condition.mCondition.collectedSignals
      (⟨(s.generateEventID currentTime).1, 0, [], []⟩ : Collecting V)
    rw [← collectSignals_eq] at hframe
    rw [hframe] at hkeeps
    exact hkeeps

end Collect

section Step

variable [InspectionValue V]

theorem step_keepsRings (s : CollectionInspectionEngine V) (event : EngineEvent V)
    : s.KeepsRings (s.step event).1 := by
  cases event with
  | addNewSignal id receiveTime value =>
    constructor
    . show List.Forall₂ _ _ (s.addNewSignal id receiveTime value).mSignalBuffers
      rw [addNewSignal_buffers]
      apply signals_map
      intro b
      unfold SignalHistoryBuffer.addSample
      split
      . rename_i haccepts
        rw [Bool.and_eq_true] at haccepts
        exact HistoryBuffer.keepsSound_storeSample haccepts.2 _
      . exact HistoryBuffer.KeepsSound.refl _
    . exact canFrames_refl _
  | addNewRawCanFrame canID channelID receiveTime buffer size =>
    constructor
    . exact signals_refl _
    . show List.Forall₂ _ _ (s.mCanFrameBuffers.map _)
      rw [List.forall₂_map_right_iff]
      apply List.forall₂_same.mpr
      intro b _
      split
      . rename_i haccepts
        rw [Bool.and_eq_true] at haccepts
        exact HistoryBuffer.keepsSound_storeSample haccepts.2 _
      . exact HistoryBuffer.KeepsSound.refl _
  | setActiveDTCs activeDTCs => exact ⟨signals_refl _, canFrames_refl _⟩
  | evaluateConditions currentTime =>
    constructor
    . show List.Forall₂ _ _ (s.evaluateConditions currentTime).1.mSignalBuffers
      rw [evaluateConditions_mSignalBuffers]
      unfold beforeEvaluation
      split
      . rw [updateAllFixedWindowFunctions_buffers]
        apply signals_map
        intro b
        exact HistoryBuffer.KeepsSound.refl _
      . exact signals_refl _
    . show List.Forall₂ _ _ (s.evaluateConditions currentTime).1.mCanFrameBuffers
      rw [evaluateConditions_mCanFrameBuffers]
      exact canFrames_refl _
  | collectNextDataToSend currentTime =>
    show s.KeepsRings (s.collectNextDataToSend currentTime).engine
    have ⟨s', ⟨_, _, _, hskim⟩, hcases⟩ := collectNextDataToSend_spec s currentTime
    have hsame : s.KeepsRings s' := by
      rw [hskim]
      exact ⟨signals_refl _, canFrames_refl _⟩
    rcases hcases with ⟨_, hengine⟩ | ⟨i, condition, _, _, hengine⟩
    . rw [hengine]
      exact hsame
    . rw [hengine]
      have hpublish := publish_keepsRings s' condition i currentTime
      rw [hskim] at hpublish ⊢
      exact ⟨hpublish.signals, hpublish.canFrames⟩

structure Unallocated (s : CollectionInspectionEngine V) : Prop where
  signals : ∀ b ∈ s.mSignalBuffers, b.mBuffer = [] ∧ b.mCounter = 0
  canFrames : ∀ b ∈ s.mCanFrameBuffers, b.mBuffer = [] ∧ b.mCounter = 0

omit [InspectionValue V] in
theorem Unallocated.safe {s : CollectionInspectionEngine V} (h : s.Unallocated) : s.Safe := by
  constructor
  . intro b hb
    exact ⟨Or.inl (h.signals b hb).1, fun hcounter => absurd (h.signals b hb).2 hcounter⟩
  . intro b hb
    exact ⟨Or.inl (h.canFrames b hb).1, fun hcounter => absurd (h.canFrames b hb).2 hcounter⟩
  . unfold sampleBytes
    rw [allocatedBytes_unallocated fun b hb => (h.signals b hb).1]
    rw [allocatedBytes_unallocated fun b hb => (h.canFrames b hb).1]
    exact Nat.zero_le _

theorem Unallocated.preAllocateBuffers {s : CollectionInspectionEngine V} (h : s.Unallocated)
    (order : IterationOrder V)
    : (s.preAllocateBuffers order).1.Safe := by
  have hsignals : ∀ b ∈ order.apply s.mSignalBuffers, b.mBuffer = [] ∧ b.mCounter = 0 := by
    intro b hb
    exact h.signals b ((order.perm _).mem_iff.mp hb)
  have ⟨hbytes, hlimit⟩ := allocateBuffers_bytes SignalHistoryBuffer.toHistoryBuffer
    (fun buf buffer => { buf with toHistoryBuffer := buffer }) SIZEOF_SIGNAL_SAMPLE emptySignalSample
    (fun _ _ => rfl)
    (fun b hb => (hsignals b hb).1) (Nat.zero_le _)
  have hsound := allocateBuffers_sound SignalHistoryBuffer.toHistoryBuffer
    (fun buf buffer => { buf with toHistoryBuffer := buffer }) SIZEOF_SIGNAL_SAMPLE 0 emptySignalSample
    (fun _ _ => rfl) hsignals
  unfold CollectionInspectionEngine.preAllocateBuffers
  dsimp only
  generalize allocateBuffers SignalHistoryBuffer.toHistoryBuffer
    (fun buf buffer => { buf with toHistoryBuffer := buffer }) SIZEOF_SIGNAL_SAMPLE emptySignalSample
    (order.apply s.mSignalBuffers) 0 = allocatedSignals at hbytes hlimit hsound ⊢
  split
  . have ⟨hbytes', hlimit'⟩ := allocateBuffers_bytes CanFrameHistoryBuffer.toHistoryBuffer
      (fun buf buffer => { buf with toHistoryBuffer := buffer }) SIZEOF_CAN_FRAME_SAMPLE
      emptyCanFrameSample (fun _ _ => rfl)
      (fun b hb => (h.canFrames b hb).1) hlimit
    have hsound' := allocateBuffers_sound CanFrameHistoryBuffer.toHistoryBuffer
      (fun buf buffer => { buf with toHistoryBuffer := buffer }) SIZEOF_CAN_FRAME_SAMPLE
      allocatedSignals.2.1 emptyCanFrameSample (fun _ _ => rfl) h.canFrames
    generalize allocateBuffers CanFrameHistoryBuffer.toHistoryBuffer
      (fun buf buffer => { buf with toHistoryBuffer := buffer }) SIZEOF_CAN_FRAME_SAMPLE
      emptyCanFrameSample s.mCanFrameBuffers allocatedSignals.2.1 = allocatedFrames
      at hbytes' hlimit' hsound' ⊢
    refine ⟨hsound, hsound', ?_⟩
    unfold sampleBytes
    dsimp only at hbytes hbytes' ⊢
    omega
  . constructor
    . exact hsound
    . exact h.safe.canFrames
    . unfold sampleBytes
      dsimp only
      rw [allocatedBytes_unallocated fun b hb => (h.canFrames b hb).1]
      omega

end Step

end CollectionInspectionEngine

theorem addFixedWindow_ring [InspectionValue V] (b : SignalHistoryBuffer V) (windowSizeMs : Nat)
    : (b.addFixedWindow windowSizeMs).toHistoryBuffer = b.toHistoryBuffer := by
  unfold SignalHistoryBuffer.addFixedWindow
  split
  . rfl
  . split
    . rfl
    . rfl

theorem requestSignals_unallocated [InspectionValue V]
    (signals : List InspectionMatrixSignalCollectionInfo) {buffers : List (SignalHistoryBuffer V)}
    (h : ∀ b ∈ buffers, b.mBuffer = [] ∧ b.mCounter = 0)
    : ∀ b ∈ signals.foldl requestSignal buffers, b.mBuffer = [] ∧ b.mCounter = 0 := by
  induction signals generalizing buffers with
  | nil => exact h
  | cons signal signals ih =>
    apply ih
    apply KeyedList.insert_forall _ _ h
    . intro b _ hb
      unfold grownBuffer
      rw [addFixedWindow_ring]
      exact hb
    . unfold newBuffer
      rw [addFixedWindow_ring]
      exact ⟨rfl, rfl⟩

section Run

variable [InspectionValue V]

inductive EngineCall (V : Type) where
  | onChangeInspectionMatrix (order : IterationOrder V) (activeInspectionMatrix : InspectionMatrix V)
  | event (event : EngineEvent V)

namespace CollectionInspectionEngine

def call (s : CollectionInspectionEngine V) (call : EngineCall V) : CollectionInspectionEngine V :=
  match call with
  | .onChangeInspectionMatrix order activeInspectionMatrix =>
    s.onChangeInspectionMatrix order activeInspectionMatrix
  | .event event => (s.step event).1

def calls (s : CollectionInspectionEngine V) (calls : List (EngineCall V))
    : CollectionInspectionEngine V :=
  calls.foldl call s

theorem onChangeInspectionMatrix_safe (s : CollectionInspectionEngine V) (order : IterationOrder V)
    (m : InspectionMatrix V)
    : (s.onChangeInspectionMatrix order m).Safe := by
  have hnone : ∀ b ∈ ([] : List CanFrameHistoryBuffer), b.IsNew := by simp
  by_cases hm : m.Accepted
  . rw [onChangeInspectionMatrix_accepted s order hm]
    apply Unallocated.preAllocateBuffers
    constructor
    . intro b hb
      have hnew : SignalHistoryBuffer.IsNew (fun _ => True) b :=
        isNew_linkedSignals hm (fun _ _ _ _ _ => trivial) b hb
      exact ⟨hnew.unallocated, hnew.counter⟩
    . intro b hb
      have hnew := isNew_requestCanFrames _ hnone b hb
      exact ⟨hnew.unallocated, hnew.counter⟩
  . have ⟨requested, requestedFrames, _, hframe⟩ := onChangeInspectionMatrix_rejected s order hm
    rw [hframe]
    apply Unallocated.safe
    constructor
    . apply requestSignals_unallocated
      simp
    . intro b hb
      have hnew := isNew_requestCanFrames _ hnone b hb
      exact ⟨hnew.unallocated, hnew.counter⟩

theorem Safe.call {s : CollectionInspectionEngine V} (h : s.Safe) (call : EngineCall V)
    : (s.call call).Safe := by
  cases call with
  | onChangeInspectionMatrix order m => exact onChangeInspectionMatrix_safe s order m
  | event event => exact h.keepsRings (step_keepsRings s event)

theorem Safe.calls {s : CollectionInspectionEngine V} (h : s.Safe) (calls : List (EngineCall V))
    : (s.calls calls).Safe := by
  induction calls generalizing s with
  | nil => exact h
  | cons call calls ih => exact ih (h.call call)

end CollectionInspectionEngine

end Run

end Engine

end DataInspection
