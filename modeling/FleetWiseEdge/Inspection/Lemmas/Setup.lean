import FleetWiseEdge.Inspection.Impl.Evaluate

namespace DataInspection

open Cpp DataManagement

section Folds

variable {V : Type} [InspectionValue V]

def grownBuffer (signal : InspectionMatrixSignalCollectionInfo) (buffer : SignalHistoryBuffer V)
    : SignalHistoryBuffer V :=
  let buffer := { buffer with mSize := max buffer.mSize signal.sampleBufferSize }
  buffer.addFixedWindow signal.fixedWindowPeriod

def newBuffer (signal : InspectionMatrixSignalCollectionInfo) : SignalHistoryBuffer V :=
  let buffer : SignalHistoryBuffer V :=
    .ofRequest signal.signalID signal.sampleBufferSize signal.minimumSampleIntervalMs
  buffer.addFixedWindow signal.fixedWindowPeriod

def requestSignal (buffers : List (SignalHistoryBuffer V))
    (signal : InspectionMatrixSignalCollectionInfo)
    : List (SignalHistoryBuffer V) :=
  KeyedList.insert SignalHistoryBuffer.ptr signal.ptr (grownBuffer signal) (newBuffer signal) buffers

def requestCanFrame (buffers : List CanFrameHistoryBuffer)
    (c : InspectionMatrixCanFrameCollectionInfo)
    : List CanFrameHistoryBuffer :=
  KeyedList.insert CanFrameHistoryBuffer.ptr c.ptr
    (fun buf => { buf with mSize := max buf.mSize c.sampleBufferSize })
    (.ofRequest c.frameID c.channelID c.sampleBufferSize c.minimumSampleIntervalMs)
    buffers

def linkEntry (expressionNodeStorage : List (ExpressionNode V)) (ac : ActiveCondition V)
    (signal : InspectionMatrixSignalCollectionInfo)
    : ActiveCondition V :=
  if isSignalPartOfEval expressionNodeStorage ac.mCondition.condition signal.signalID
      MAX_EQUATION_DEPTH then
    { ac with
      mEvaluationSignals := Function.update ac.mEvaluationSignals signal.signalID (some signal.ptr)
      mEvaluationFunctions :=
        if signal.fixedWindowPeriod = 0 then
          ac.mEvaluationFunctions
        else
          Function.update ac.mEvaluationFunctions signal.signalID
            (some ⟨signal.ptr, signal.fixedWindowPeriod⟩) }
  else
    ac

def activate (expressionNodeStorage : List (ExpressionNode V)) (p : ConditionWithCollectedData V)
    : ActiveCondition V :=
  p.signals.foldl (linkEntry expressionNodeStorage) { mCondition := p }

def markReader (expressionNodeStorage : List (ExpressionNode V)) (condition : ExpressionNodePtr)
    (i : Nat) (buffers : List (SignalHistoryBuffer V)) (signal : InspectionMatrixSignalCollectionInfo)
    : List (SignalHistoryBuffer V) :=
  if isSignalPartOfEval expressionNodeStorage condition signal.signalID MAX_EQUATION_DEPTH then
    KeyedList.update SignalHistoryBuffer.ptr signal.ptr
      (fun buf =>
        { buf with
          mConditionsThatEvaluateOnThisSignal :=
            buf.mConditionsThatEvaluateOnThisSignal.set i true })
      buffers
  else
    buffers

def markReaders (expressionNodeStorage : List (ExpressionNode V))
    (conditions : List (ActiveCondition V)) (i : Nat) (buffers : List (SignalHistoryBuffer V))
    : List (SignalHistoryBuffer V) :=
  match conditions with
  | [] => buffers
  | ac :: rest =>
    markReaders expressionNodeStorage rest (i + 1)
      (ac.mCondition.signals.foldl
        (markReader expressionNodeStorage ac.mCondition.condition i) buffers)

def Served (buffers : List (SignalHistoryBuffer V)) (signal : InspectionMatrixSignalCollectionInfo)
    : Prop :=
  ∃ buf, bufferAt buffers signal.ptr = some buf
    ∧
  (signal.fixedWindowPeriod ≠ 0 → (buf.getFixedWindow signal.fixedWindowPeriod).isSome = true)
    ∧
  signal.sampleBufferSize ≤ buf.mSize

end Folds

namespace SignalHistoryBuffer

variable {V : Type} {b : SignalHistoryBuffer V} {windowSizeMs other : Nat}

theorem getFixedWindow_size {w : FixedTimeWindowFunctionData V}
    (h : b.getFixedWindow windowSizeMs = some w)
    : w.mWindowSizeMs = windowSizeMs := by
  unfold getFixedWindow at h
  split at h
  . simp at h
  . have := List.find?_some h
    simpa using this

theorem getFixedWindow_ne_zero {w : FixedTimeWindowFunctionData V}
    (h : b.getFixedWindow windowSizeMs = some w)
    : windowSizeMs ≠ 0 := by
  unfold getFixedWindow at h
  split at h
  . simp at h
  . assumption

theorem getFixedWindow_mem {w : FixedTimeWindowFunctionData V}
    (h : b.getFixedWindow windowSizeMs = some w)
    : w ∈ b.mWindowFunctionData := by
  unfold getFixedWindow at h
  split at h
  . simp at h
  . exact List.mem_of_find?_eq_some h
variable [InspectionValue V]

@[simp]
theorem addFixedWindow_ptr : (b.addFixedWindow windowSizeMs).ptr = b.ptr := by
  unfold addFixedWindow
  split
  . rfl
  . split <;> rfl

@[simp]
theorem addFixedWindow_mSize : (b.addFixedWindow windowSizeMs).mSize = b.mSize := by
  unfold addFixedWindow
  split
  . rfl
  . split <;> rfl

theorem getFixedWindow_addFixedWindow
    : (b.addFixedWindow windowSizeMs).getFixedWindow other
        =
      if other = windowSizeMs ∧ other ≠ 0 then
        some ((b.getFixedWindow other).getD (.ofSize other))
      else
        b.getFixedWindow other := by
  unfold addFixedWindow
  by_cases hzero : windowSizeMs = 0
  . rw [if_pos hzero]
    rw [if_neg]
    omega
  . rw [if_neg hzero]
    cases hget : b.getFixedWindow windowSizeMs with
    | some w =>
      simp only [Option.isSome_some, if_true]
      split
      . rename_i heq
        rw [heq.1, hget]
        rfl
      . rfl
    | none =>
      simp only [Option.isSome_none, Bool.false_eq_true, if_false]
      unfold getFixedWindow at hget ⊢
      rw [if_neg hzero] at hget
      by_cases hother : other = 0
      . simp [hother]
      . rw [if_neg hother, if_neg hother]
        rw [List.find?_append]
        by_cases heq : other = windowSizeMs
        . simp only [heq, hget, true_and, ne_eq, hzero, not_false_eq_true, if_true]
          simp [FixedTimeWindowFunctionData.ofSize]
        . simp [heq, FixedTimeWindowFunctionData.ofSize, Ne.symm heq]

theorem addFixedWindow_isSome (hne : windowSizeMs ≠ 0)
    : ((b.addFixedWindow windowSizeMs).getFixedWindow windowSizeMs).isSome = true := by
  rw [getFixedWindow_addFixedWindow]
  simp [hne]

theorem addFixedWindow_mono (h : (b.getFixedWindow other).isSome = true)
    : ((b.addFixedWindow windowSizeMs).getFixedWindow other).isSome = true := by
  rw [getFixedWindow_addFixedWindow]
  split
  . rfl
  . exact h

end SignalHistoryBuffer

section Requests

variable {V : Type} [InspectionValue V] {buffers : List (SignalHistoryBuffer V)}
variable {signal : InspectionMatrixSignalCollectionInfo} {k : SignalBufferPtr}

@[simp]
theorem grownBuffer_ptr (b : SignalHistoryBuffer V) : (grownBuffer signal b).ptr = b.ptr := by
  unfold grownBuffer
  rw [SignalHistoryBuffer.addFixedWindow_ptr]
  rfl

@[simp]
theorem newBuffer_ptr : (newBuffer signal : SignalHistoryBuffer V).ptr = signal.ptr := by
  unfold newBuffer
  rw [SignalHistoryBuffer.addFixedWindow_ptr]
  rfl

@[simp]
theorem grownBuffer_mSize (b : SignalHistoryBuffer V)
    : (grownBuffer signal b).mSize = max b.mSize signal.sampleBufferSize := by
  unfold grownBuffer
  rw [SignalHistoryBuffer.addFixedWindow_mSize]

@[simp]
theorem newBuffer_mSize
    : (newBuffer signal : SignalHistoryBuffer V).mSize = signal.sampleBufferSize := by
  unfold newBuffer
  rw [SignalHistoryBuffer.addFixedWindow_mSize]
  rfl

theorem requestSignal_self
    : bufferAt (requestSignal buffers signal) signal.ptr
        =
      some ((bufferAt buffers signal.ptr).elim (newBuffer signal) (grownBuffer signal)) := by
  apply KeyedList.lookup_insert_self
  . exact grownBuffer_ptr
  . exact newBuffer_ptr

theorem requestSignal_ne (hne : k ≠ signal.ptr)
    : bufferAt (requestSignal buffers signal) k = bufferAt buffers k := by
  apply KeyedList.lookup_insert_ne
  . exact grownBuffer_ptr
  . exact newBuffer_ptr
  . exact hne

theorem nodup_requestSignal (h : (buffers.map SignalHistoryBuffer.ptr).Nodup)
    : ((requestSignal buffers signal).map SignalHistoryBuffer.ptr).Nodup := by
  apply KeyedList.nodup_insert
  . exact grownBuffer_ptr
  . exact newBuffer_ptr
  . exact h

theorem nodup_requestSignals (signals : List InspectionMatrixSignalCollectionInfo)
    (h : (buffers.map SignalHistoryBuffer.ptr).Nodup)
    : ((signals.foldl requestSignal buffers).map SignalHistoryBuffer.ptr).Nodup := by
  induction signals generalizing buffers with
  | nil => exact h
  | cons signal signals ih =>
    apply ih
    exact nodup_requestSignal h

namespace Served

variable {other : InspectionMatrixSignalCollectionInfo}

theorem requestSignal_self : Served (requestSignal buffers signal) signal := by
  unfold Served
  rw [DataInspection.requestSignal_self]
  refine ⟨_, rfl, ?_, ?_⟩
  . intro hne
    cases bufferAt buffers signal.ptr with
    | none => exact SignalHistoryBuffer.addFixedWindow_isSome hne
    | some b => exact SignalHistoryBuffer.addFixedWindow_isSome hne
  . cases bufferAt buffers signal.ptr with
    | none => exact Nat.le_of_eq newBuffer_mSize.symm
    | some b =>
      rw [Option.elim_some, grownBuffer_mSize]
      exact Nat.le_max_right _ _

theorem requestSignal (h : Served buffers other) : Served (requestSignal buffers signal) other := by
  obtain ⟨b, hb, hwindow, hsize⟩ := h
  unfold Served
  by_cases heq : other.ptr = signal.ptr
  . rw [heq]
    rw [DataInspection.requestSignal_self]
    rw [heq] at hb
    rw [hb]
    refine ⟨_, rfl, ?_, ?_⟩
    . intro hne
      exact SignalHistoryBuffer.addFixedWindow_mono (hwindow hne)
    . rw [Option.elim_some, grownBuffer_mSize]
      exact Nat.le_trans hsize (Nat.le_max_left _ _)
  . rw [requestSignal_ne heq]
    exact ⟨b, hb, hwindow, hsize⟩

theorem requestSignals {signals : List InspectionMatrixSignalCollectionInfo}
    (h : other ∈ signals ∨ Served buffers other)
    : Served (signals.foldl DataInspection.requestSignal buffers) other := by
  induction signals generalizing buffers with
  | nil =>
    cases h with
    | inl hmem => simp at hmem
    | inr hserved => exact hserved
  | cons signal signals ih =>
    apply ih
    cases h with
    | inr hserved => exact Or.inr hserved.requestSignal
    | inl hmem =>
      rw [List.mem_cons] at hmem
      cases hmem with
      | inl heq =>
        rw [heq]
        exact Or.inr requestSignal_self
      | inr hmem => exact Or.inl hmem

end Served

end Requests

section Marks

variable {V : Type} {buffers : List (SignalHistoryBuffer V)}
variable {storage : List (ExpressionNode V)} {condition : ExpressionNodePtr} {i : Nat}
variable {signal other : InspectionMatrixSignalCollectionInfo} {k : SignalBufferPtr}

def SameButReaders (b b' : SignalHistoryBuffer V) : Prop :=
  b' = { b with
    mConditionsThatEvaluateOnThisSignal := b'.mConditionsThatEvaluateOnThisSignal }

def HasReader (buffers : List (SignalHistoryBuffer V)) (k : SignalBufferPtr) (i : Nat) : Prop :=
  ∃ b, bufferAt buffers k = some b ∧ b.mConditionsThatEvaluateOnThisSignal.test i = true

theorem markReader_lookup
    : bufferAt (markReader storage condition i buffers signal) k
        =
      if isSignalPartOfEval storage condition signal.signalID MAX_EQUATION_DEPTH ∧ k = signal.ptr then
        (bufferAt buffers k).map fun buf =>
          { buf with
            mConditionsThatEvaluateOnThisSignal :=
              buf.mConditionsThatEvaluateOnThisSignal.set i true }
      else
        bufferAt buffers k := by
  unfold markReader bufferAt
  split
  . rename_i hpart
    rw [KeyedList.lookup_update]
    . by_cases heq : k = signal.ptr
      . simp [heq, hpart]
      . simp [heq]
    . intro a
      rfl
  . rename_i hpart
    simp [hpart]

theorem SameButReaders.refl (b : SignalHistoryBuffer V) : SameButReaders b b := rfl

theorem SameButReaders.trans {b b' b'' : SignalHistoryBuffer V} (h : SameButReaders b b')
    (h' : SameButReaders b' b'')
    : SameButReaders b b'' := by
  unfold SameButReaders at *
  rw [h', h]

theorem SameButReaders.ptr {b b' : SignalHistoryBuffer V} (h : SameButReaders b b')
    : b'.ptr = b.ptr := by
  unfold SameButReaders at h
  rw [h]
  rfl

theorem markReader_forall₂
    : List.Forall₂ SameButReaders buffers (markReader storage condition i buffers signal) := by
  unfold markReader
  split
  . apply KeyedList.update_forall₂
    . exact SameButReaders.refl
    . intro b _
      rfl
  . exact List.forall₂_same.mpr fun b _ => SameButReaders.refl b

theorem foldl_markReader_forall₂ (signals : List InspectionMatrixSignalCollectionInfo)
    : List.Forall₂ SameButReaders buffers
        (signals.foldl (markReader storage condition i) buffers) := by
  induction signals generalizing buffers with
  | nil => exact List.forall₂_same.mpr fun b _ => SameButReaders.refl b
  | cons signal signals ih =>
    exact KeyedList.forall₂_trans (fun _ _ _ => SameButReaders.trans) markReader_forall₂ ih

theorem markReaders_forall₂ (conditions : List (ActiveCondition V))
    : List.Forall₂ SameButReaders buffers (markReaders storage conditions i buffers) := by
  induction conditions generalizing buffers i with
  | nil => exact List.forall₂_same.mpr fun b _ => SameButReaders.refl b
  | cons ac rest ih =>
    exact KeyedList.forall₂_trans (fun _ _ _ => SameButReaders.trans)
      (foldl_markReader_forall₂ ac.mCondition.signals) ih

theorem HasReader.markReader {j : Nat} (h : HasReader buffers k j)
    : HasReader (markReader storage condition i buffers signal) k j := by
  obtain ⟨b, hb, hbit⟩ := h
  unfold HasReader
  rw [markReader_lookup]
  split
  . rw [hb]
    refine ⟨_, rfl, ?_⟩
    rw [Bitset.test_set]
    split
    . rfl
    . exact hbit
  . exact ⟨b, hb, hbit⟩

theorem HasReader.foldl_markReader {j : Nat} (signals : List InspectionMatrixSignalCollectionInfo)
    (h : HasReader buffers k j)
    : HasReader (signals.foldl (DataInspection.markReader storage condition i) buffers) k j := by
  induction signals generalizing buffers with
  | nil => exact h
  | cons signal signals ih =>
    apply ih
    exact h.markReader

theorem HasReader.markReaders {j : Nat} (conditions : List (ActiveCondition V))
    (h : HasReader buffers k j)
    : HasReader (markReaders storage conditions i buffers) k j := by
  induction conditions generalizing buffers i with
  | nil => exact h
  | cons ac rest ih =>
    apply ih
    exact h.foldl_markReader _

end Marks

section Link

theorem modify_of_getElem? {α : Type} {f : α → α} {l : List α} {i : Nat} {a : α}
    (h : l[i]? = some a)
    : l.modify i f = l.set i (f a) := by
  rw [List.modify_eq_set_getElem?]
  rw [h]
  rfl

theorem set_of_getElem? {α : Type} {l : List α} {i : Nat} {a : α} (h : l[i]? = some a)
    : l.set i a = l := by
  obtain ⟨hlt, heq⟩ := List.getElem?_eq_some_iff.mp h
  rw [← heq]
  exact List.set_getElem_self hlt

variable {V : Type} {storage : List (ExpressionNode V)}
variable {s : CollectionInspectionEngine V} {ac : ActiveCondition V} {i : Nat}
variable {buffers buffers' : List (SignalHistoryBuffer V)}
variable {signal : InspectionMatrixSignalCollectionInfo}

@[simp]
theorem linkEntry_mCondition : (linkEntry storage ac signal).mCondition = ac.mCondition := by
  unfold linkEntry
  split <;> rfl

theorem foldl_linkEntry_mCondition (signals : List InspectionMatrixSignalCollectionInfo)
    : (signals.foldl (linkEntry storage) ac).mCondition = ac.mCondition := by
  induction signals generalizing ac with
  | nil => rfl
  | cons signal signals ih =>
    rw [List.foldl_cons]
    rw [ih]
    rw [linkEntry_mCondition]

theorem foldl_linkEntry_mLastTrigger (signals : List InspectionMatrixSignalCollectionInfo)
    : (signals.foldl (linkEntry storage) ac).mLastTrigger = ac.mLastTrigger := by
  induction signals generalizing ac with
  | nil => rfl
  | cons signal signals ih =>
    rw [List.foldl_cons]
    rw [ih]
    unfold linkEntry
    split <;> rfl

theorem Served.sameButReaders (h : Served buffers signal)
    (hsame : List.Forall₂ SameButReaders buffers buffers')
    : Served buffers' signal := by
  obtain ⟨b, hb, hserved⟩ := h
  have hrel := KeyedList.lookup_forall₂ (hsame.imp fun _ _ h => ⟨h.ptr, h⟩) signal.ptr
  unfold bufferAt at hb
  rw [hb] at hrel
  unfold Served bufferAt
  generalize KeyedList.lookup SignalHistoryBuffer.ptr signal.ptr buffers' = found at hrel ⊢
  cases hrel with
  | some hbuffer =>
    refine ⟨_, rfl, ?_⟩
    unfold SameButReaders at hbuffer
    rw [hbuffer]
    exact hserved

theorem linkSignal_eq (hstorage : s.mActiveInspectionMatrix.expressionNodeStorage = storage)
    (hac : s.mConditions[i]? = some ac) (hserved : Served s.mSignalBuffers signal)
    : s.linkSignal i signal
        =
      { s with
        mSignalBuffers := markReader storage ac.mCondition.condition i s.mSignalBuffers signal
        mConditions := s.mConditions.set i (linkEntry storage ac signal) } := by
  obtain ⟨b, hb, hwindow, _⟩ := hserved
  unfold bufferAt at hb
  unfold CollectionInspectionEngine.linkSignal markReader linkEntry
  simp only [hb, hac, hstorage]
  split
  . congr 1
    rw [modify_of_getElem? hac]
    congr 2
    cases hget : b.getFixedWindow signal.fixedWindowPeriod with
    | some w =>
      rw [if_neg (SignalHistoryBuffer.getFixedWindow_ne_zero hget)]
      dsimp only
      rw [SignalHistoryBuffer.getFixedWindow_size hget]
    | none =>
      by_cases hzero : signal.fixedWindowPeriod = 0
      . rw [if_pos hzero]
      . have := hwindow hzero
        rw [hget] at this
        simp at this
  . rw [set_of_getElem? hac]

theorem foldl_linkSignal (ac : ActiveCondition V)
    (hstorage : s.mActiveInspectionMatrix.expressionNodeStorage = storage)
    (hac : s.mConditions[i]? = some ac) (signals : List InspectionMatrixSignalCollectionInfo)
    (hserved : ∀ signal ∈ signals, Served s.mSignalBuffers signal)
    : signals.foldl (CollectionInspectionEngine.linkSignal i) s
        =
      { s with
        mSignalBuffers :=
          signals.foldl (markReader storage ac.mCondition.condition i) s.mSignalBuffers
        mConditions := s.mConditions.set i (signals.foldl (linkEntry storage) ac) } := by
  induction signals generalizing s ac with
  | nil =>
    dsimp only [List.foldl_nil]
    rw [set_of_getElem? hac]
  | cons signal signals ih =>
    have hlt : i < s.mConditions.length := (List.getElem?_eq_some_iff.mp hac).1
    rw [List.foldl_cons]
    rw [linkSignal_eq hstorage hac (hserved signal (by simp))]
    rw [ih (linkEntry storage ac signal)]
    . simp
    . exact hstorage
    . simp [hlt]
    . intro other hother
      apply Served.sameButReaders (hserved other (by simp [hother]))
      exact markReader_forall₂

theorem linkConditions_eq (hstorage : s.mActiveInspectionMatrix.expressionNodeStorage = storage)
    (linked rest : List (ActiveCondition V)) (hconds : s.mConditions = linked ++ rest)
    (hserved : ∀ ac ∈ rest, ∀ signal ∈ ac.mCondition.signals, Served s.mSignalBuffers signal)
    : s.linkConditions rest linked.length
        =
      { s with
        mSignalBuffers := markReaders storage rest linked.length s.mSignalBuffers
        mConditions :=
          linked ++ rest.map fun ac => ac.mCondition.signals.foldl (linkEntry storage) ac } := by
  induction rest generalizing s linked with
  | nil =>
    unfold CollectionInspectionEngine.linkConditions markReaders
    simp [← hconds]
  | cons ac rest ih =>
    have hac : s.mConditions[linked.length]? = some ac := by simp [hconds]
    unfold CollectionInspectionEngine.linkConditions markReaders
    rw [foldl_linkSignal ac hstorage hac _ (hserved ac (by simp))]
    have hlength : linked.length + 1
        = (linked ++ [ac.mCondition.signals.foldl (linkEntry storage) ac]).length := by
      simp
    rw [hlength]
    rw [ih]
    . simp
    . exact hstorage
    . simp [hconds]
    . intro other hother signal hsignal
      apply Served.sameButReaders (hserved other (by simp [hother]) signal hsignal)
      exact foldl_markReader_forall₂ _

end Link

section Setup

variable {V : Type} [InspectionValue V] {s : CollectionInspectionEngine V}

open CollectionInspectionEngine

theorem setupSignals_eq (signals : List InspectionMatrixSignalCollectionInfo)
    (hvalid : ∀ signal ∈ signals, signal.signalID ≠ INVALID_SIGNAL_ID ∧ signal.sampleBufferSize ≠ 0)
    : s.setupSignals signals
        =
      ({ s with mSignalBuffers := signals.foldl requestSignal s.mSignalBuffers }, true) := by
  induction signals generalizing s with
  | nil => rfl
  | cons signal signals ih =>
    have hfirst := hvalid signal (by simp)
    unfold setupSignals
    rw [if_neg hfirst.1, if_neg hfirst.2]
    rw [ih]
    . rfl
    . intro other hother
      exact hvalid other (by simp [hother])

theorem setupSignals_snd (signals : List InspectionMatrixSignalCollectionInfo)
    : (s.setupSignals signals).2 = true
        ↔
      ∀ signal ∈ signals, signal.signalID ≠ INVALID_SIGNAL_ID ∧ signal.sampleBufferSize ≠ 0 := by
  induction signals generalizing s with
  | nil => simp [setupSignals]
  | cons signal signals ih =>
    unfold setupSignals
    split
    . simp_all
    . split
      . simp_all
      . rw [ih]
        simp_all

omit [InspectionValue V] in
theorem setupCanFrames_eq (canFrames : List InspectionMatrixCanFrameCollectionInfo)
    : s.setupCanFrames canFrames
        =
      { s with mCanFrameBuffers := canFrames.foldl requestCanFrame s.mCanFrameBuffers } := by
  induction canFrames generalizing s with
  | nil => rfl
  | cons c canFrames ih =>
    unfold setupCanFrames
    rw [ih]
    rfl

def taken (s : CollectionInspectionEngine V) (conditions : List (ConditionWithCollectedData V))
    : List (ConditionWithCollectedData V) :=
  conditions.take (MAX_NUMBER_OF_ACTIVE_CONDITION - s.mConditions.length)

theorem setupConditions_eq (conditions : List (ConditionWithCollectedData V))
    (hvalid : ∀ p ∈ taken s conditions, p.Valid)
    : s.setupConditions conditions
        =
      ({ s with
          mSignalBuffers :=
            ((taken s conditions).flatMap (·.signals)).foldl requestSignal s.mSignalBuffers
          mCanFrameBuffers :=
            ((taken s conditions).flatMap (·.canFrames)).foldl requestCanFrame s.mCanFrameBuffers
          mConditions :=
            s.mConditions ++ (taken s conditions).map fun p => { mCondition := p } },
        true) := by
  induction conditions generalizing s with
  | nil => simp [setupConditions, taken]
  | cons p rest ih =>
    unfold setupConditions
    split
    . rename_i hfull
      have hnone : taken s (p :: rest) = [] := by
        unfold taken
        rw [Nat.sub_eq_zero_of_le hfull]
        rfl
      simp [hnone]
    . rename_i hroom
      have hsome : taken s (p :: rest)
          = p :: rest.take (MAX_NUMBER_OF_ACTIVE_CONDITION - (s.mConditions.length + 1)) := by
        unfold taken
        rw [show MAX_NUMBER_OF_ACTIVE_CONDITION - s.mConditions.length
          = MAX_NUMBER_OF_ACTIVE_CONDITION - (s.mConditions.length + 1) + 1 by omega]
        rfl
      rw [hsome] at hvalid ⊢
      have hp := hvalid p (by simp)
      rw [if_neg (by have := hp.1; omega)]
      rw [setupSignals_eq _ hp.2]
      dsimp only
      rw [setupCanFrames_eq]
      rw [ih]
      . simp [taken, List.foldl_append]
      . intro q hq
        apply hvalid
        simp only [taken, List.length_append, List.length_singleton] at hq
        simp [hq]

theorem setupConditions_snd (conditions : List (ConditionWithCollectedData V))
    : (s.setupConditions conditions).2 = true ↔ ∀ p ∈ taken s conditions, p.Valid := by
  constructor
  . induction conditions generalizing s with
    | nil => simp [taken]
    | cons p rest ih =>
      intro hsetup
      unfold setupConditions at hsetup
      split at hsetup
      . rename_i hfull
        unfold taken
        rw [Nat.sub_eq_zero_of_le hfull]
        simp
      . rename_i hroom
        dsimp only at hsetup
        split at hsetup
        . simp at hsetup
        . rename_i hlength
          split at hsetup
          . simp at hsetup
          . rename_i s' heq
            have hsignals := (setupSignals_snd (s := { s with
              mConditions := s.mConditions ++ [{ mCondition := p }] }) p.signals).mp (by rw [heq])
            have hp : p.Valid := ⟨by omega, hsignals⟩
            have hs' : s' = { s with
                mSignalBuffers := p.signals.foldl requestSignal s.mSignalBuffers
                mConditions := s.mConditions ++ [{ mCondition := p }] } := by
              rw [setupSignals_eq _ hsignals] at heq
              exact (Prod.mk.inj heq).1.symm
            have hrest := ih hsetup
            intro q hq
            unfold taken at hq hrest
            rw [setupCanFrames_eq] at hrest
            rw [hs'] at hrest
            rw [show MAX_NUMBER_OF_ACTIVE_CONDITION - s.mConditions.length
              = MAX_NUMBER_OF_ACTIVE_CONDITION - (s.mConditions.length + 1) + 1 by omega] at hq
            rw [List.take_succ_cons, List.mem_cons] at hq
            cases hq with
            | inl heq => exact heq ▸ hp
            | inr hmem =>
              apply hrest
              simpa using hmem
  . intro hvalid
    rw [setupConditions_eq _ hvalid]

theorem setupSignals_frame (signals : List InspectionMatrixSignalCollectionInfo)
    : ∃ requested : List InspectionMatrixSignalCollectionInfo,
        (s.setupSignals signals).1
          =
        { s with mSignalBuffers := requested.foldl requestSignal s.mSignalBuffers } := by
  induction signals generalizing s with
  | nil => exact ⟨[], rfl⟩
  | cons signal signals ih =>
    unfold setupSignals
    split
    . exact ⟨[], rfl⟩
    . split
      . exact ⟨[], rfl⟩
      . obtain ⟨requested, hframe⟩ := ih (s := s.addSignalToBuffer signal fun buf =>
          buf.addFixedWindow signal.fixedWindowPeriod)
        exact ⟨signal :: requested, hframe⟩

theorem setupConditions_frame (conditions : List (ConditionWithCollectedData V))
    : ∃ (requested : List InspectionMatrixSignalCollectionInfo)
        (requestedFrames : List InspectionMatrixCanFrameCollectionInfo)
        (mConditions : List (ActiveCondition V)),
        (s.setupConditions conditions).1
          =
        { s with
          mSignalBuffers := requested.foldl requestSignal s.mSignalBuffers
          mCanFrameBuffers := requestedFrames.foldl requestCanFrame s.mCanFrameBuffers
          mConditions } := by
  induction conditions generalizing s with
  | nil => exact ⟨[], [], s.mConditions, rfl⟩
  | cons p rest ih =>
    unfold setupConditions
    split
    . exact ⟨[], [], s.mConditions, rfl⟩
    . dsimp only
      split
      . exact ⟨[], [], s.mConditions ++ [{ mCondition := p }], rfl⟩
      . obtain ⟨requested, hframe⟩ := setupSignals_frame (s := { s with
          mConditions := s.mConditions ++ [{ mCondition := p }] }) p.signals
        split
        . rename_i s' heq
          rw [heq] at hframe
          exact ⟨requested, [], _, hframe⟩
        . rename_i s' heq
          rw [heq] at hframe
          obtain ⟨requested', requestedFrames, mConditions, hframe'⟩ :=
            ih (s := s'.setupCanFrames p.canFrames)
          refine ⟨requested ++ requested', p.canFrames ++ requestedFrames, mConditions, ?_⟩
          rw [hframe']
          rw [setupCanFrames_eq]
          dsimp only at hframe
          rw [hframe]
          simp [List.foldl_append]

theorem setupConditions_length (conditions : List (ConditionWithCollectedData V))
    (h : s.mConditions.length ≤ MAX_NUMBER_OF_ACTIVE_CONDITION)
    : (s.setupConditions conditions).1.mConditions.length ≤ MAX_NUMBER_OF_ACTIVE_CONDITION := by
  induction conditions generalizing s with
  | nil => exact h
  | cons p rest ih =>
    unfold setupConditions
    split
    . exact h
    . next hfull =>
      have hlength : (s.mConditions ++ [({ mCondition := p } : ActiveCondition V)]).length
          ≤ MAX_NUMBER_OF_ACTIVE_CONDITION := by
        rw [List.length_append, List.length_singleton]
        omega
      dsimp only
      split
      . exact hlength
      . obtain ⟨requested, hframe⟩ := setupSignals_frame (s := { s with
          mConditions := s.mConditions ++ [{ mCondition := p }] }) p.signals
        split
        . rename_i s' heq
          rw [heq] at hframe
          rw [hframe]
          exact hlength
        . rename_i s' heq
          rw [heq] at hframe
          apply ih
          rw [setupCanFrames_eq]
          dsimp only at hframe
          rw [hframe]
          exact hlength

end Setup

section Allocate

variable {σ α : Type} {get : σ → HistoryBuffer α} {set : σ → HistoryBuffer α → σ}
variable {sizeofSample usedBytes : Nat} {emptySample : Sample α} {buffers : List σ}

def allocated (get : σ → HistoryBuffer α) (set : σ → HistoryBuffer α → σ) (emptySample : Sample α)
    (buf : σ)
    : σ :=
  set buf { get buf with mBuffer := List.replicate (get buf).mSize emptySample }

def requiredBytes (get : σ → HistoryBuffer α) (sizeofSample : Nat) (buffers : List σ) : Nat :=
  (buffers.map fun buf => (get buf).mSize * sizeofSample).sum

def AllocatedOrNot (get : σ → HistoryBuffer α) (set : σ → HistoryBuffer α → σ) (sizeofSample : Nat)
    (emptySample : Sample α) (buf buf' : σ)
    : Prop :=
  buf' = allocated get set emptySample buf ∧ (get buf).mSize * sizeofSample ≤ MAX_SAMPLE_MEMORY
    ∨ buf' = set buf { get buf with mSize := 0 } ∨ buf' = buf

theorem allocateBuffers_forall₂
    : List.Forall₂ (AllocatedOrNot get set sizeofSample emptySample) buffers
        (allocateBuffers get set sizeofSample emptySample buffers usedBytes).1 := by
  induction buffers generalizing usedBytes with
  | nil => exact List.Forall₂.nil
  | cons buf bufs ih =>
    unfold allocateBuffers
    dsimp only
    split
    . apply List.Forall₂.cons
      . exact Or.inr (Or.inl rfl)
      . exact List.forall₂_same.mpr fun _ _ => Or.inr (Or.inr rfl)
    . apply List.Forall₂.cons
      . exact Or.inl ⟨rfl, by omega⟩
      . exact ih

theorem allocateBuffers_fits
    (hfits : usedBytes + requiredBytes get sizeofSample buffers ≤ MAX_SAMPLE_MEMORY)
    : allocateBuffers get set sizeofSample emptySample buffers usedBytes
        =
      (buffers.map (allocated get set emptySample),
        usedBytes + requiredBytes get sizeofSample buffers, true) := by
  induction buffers generalizing usedBytes with
  | nil => simp [allocateBuffers, requiredBytes]
  | cons buf bufs ih =>
    unfold requiredBytes at hfits
    rw [List.map_cons, List.sum_cons] at hfits
    unfold allocateBuffers
    dsimp only
    rw [if_neg (by omega)]
    rw [ih (by unfold requiredBytes; omega)]
    simp [allocated, requiredBytes, Nat.add_assoc]

end Allocate

section OnChange

variable {V : Type} [InspectionValue V]

open CollectionInspectionEngine

def activeConditions (m : InspectionMatrix V) : List (ConditionWithCollectedData V) :=
  m.conditions.take MAX_NUMBER_OF_ACTIVE_CONDITION

def requestedSignals (m : InspectionMatrix V) : List (SignalHistoryBuffer V) :=
  ((activeConditions m).flatMap (·.signals)).foldl requestSignal []

def requestedCanFrames (m : InspectionMatrix V) : List CanFrameHistoryBuffer :=
  ((activeConditions m).flatMap (·.canFrames)).foldl requestCanFrame []

def linkedSignals (m : InspectionMatrix V) : List (SignalHistoryBuffer V) :=
  markReaders m.expressionNodeStorage ((activeConditions m).map fun p => { mCondition := p }) 0
    (requestedSignals m)

def linkedEngine (s : CollectionInspectionEngine V) (m : InspectionMatrix V)
    : CollectionInspectionEngine V :=
  { s.beforeSetup m with
    mSignalBuffers := linkedSignals m
    mCanFrameBuffers := requestedCanFrames m
    mConditions := (activeConditions m).map (activate m.expressionNodeStorage)
    mConditionsWithConditionCurrentlyTrue := Bitset.ofBool true }

theorem served_requestedSignals {m : InspectionMatrix V} {p : ConditionWithCollectedData V}
    (hp : p ∈ activeConditions m) {signal : InspectionMatrixSignalCollectionInfo}
    (hsignal : signal ∈ p.signals)
    : Served (requestedSignals m) signal := by
  apply Served.requestSignals
  apply Or.inl
  rw [List.mem_flatMap]
  exact ⟨p, hp, hsignal⟩

theorem preAllocateBuffers_frame (s : CollectionInspectionEngine V) (order : IterationOrder V)
    : ∃ mSignalBuffers mCanFrameBuffers,
        (s.preAllocateBuffers order).1 = { s with mSignalBuffers, mCanFrameBuffers } := by
  unfold preAllocateBuffers
  dsimp only
  split
  . exact ⟨_, _, rfl⟩
  . exact ⟨_, s.mCanFrameBuffers, rfl⟩

theorem onChangeInspectionMatrix_accepted (s : CollectionInspectionEngine V)
    (order : IterationOrder V) {m : InspectionMatrix V} (h : m.Accepted)
    : s.onChangeInspectionMatrix order m = ((linkedEngine s m).preAllocateBuffers order).1 := by
  have htaken : taken (s.beforeSetup m) m.conditions = activeConditions m := rfl
  unfold onChangeInspectionMatrix
  rw [setupConditions_eq]
  . rw [htaken]
    dsimp only
    congr 1
    have hlink := linkConditions_eq (s := { s.beforeSetup m with
        mSignalBuffers := requestedSignals m
        mCanFrameBuffers := requestedCanFrames m
        mConditions := (activeConditions m).map fun p => { mCondition := p } })
      (show _ = m.expressionNodeStorage from rfl) []
      ((activeConditions m).map fun p => { mCondition := p }) rfl
    simp only [List.length_nil, List.nil_append, List.map_map] at hlink
    have hmem : ∀ ac ∈ (activeConditions m).map (fun p => ({ mCondition := p } : ActiveCondition V)),
        ∀ signal ∈ ac.mCondition.signals, Served (requestedSignals m) signal := by
      intro ac hac signal hsignal
      rw [List.mem_map] at hac
      obtain ⟨p, hp, heq⟩ := hac
      rw [← heq] at hsignal
      exact served_requestedSignals hp hsignal
    have hlinked := hlink hmem
    unfold requestedSignals requestedCanFrames at hlinked
    simp only [beforeSetup, clear, List.nil_append] at hlinked ⊢
    rw [hlinked]
    rfl
  . rw [htaken]
    exact h

theorem onChangeInspectionMatrix_returns (s : CollectionInspectionEngine V)
    (order : IterationOrder V) {m : InspectionMatrix V} (h : ¬m.Accepted)
    : s.onChangeInspectionMatrix order m = ((s.beforeSetup m).setupConditions m.conditions).1 := by
  have hreturns : ((s.beforeSetup m).setupConditions m.conditions).2 = false := by
    rw [Bool.eq_false_iff]
    intro htrue
    apply h
    exact (setupConditions_snd m.conditions).mp htrue
  unfold onChangeInspectionMatrix
  generalize (s.beforeSetup m).setupConditions m.conditions = setup at hreturns
  cases setup with
  | mk s' completed =>
    rw [show completed = false from hreturns]

theorem onChangeInspectionMatrix_rejected (s : CollectionInspectionEngine V)
    (order : IterationOrder V) {m : InspectionMatrix V} (h : ¬m.Accepted)
    : ∃ (requested : List InspectionMatrixSignalCollectionInfo)
        (requestedFrames : List InspectionMatrixCanFrameCollectionInfo)
        (mConditions : List (ActiveCondition V)),
        s.onChangeInspectionMatrix order m
          =
        { s.beforeSetup m with
          mSignalBuffers := requested.foldl requestSignal []
          mCanFrameBuffers := requestedFrames.foldl requestCanFrame []
          mConditions } := by
  have ⟨requested, requestedFrames, mConditions, hframe⟩ :=
    setupConditions_frame (s := s.beforeSetup m) m.conditions
  exact ⟨requested, requestedFrames, mConditions, (onChangeInspectionMatrix_returns s order h).trans hframe⟩

end OnChange

end DataInspection
