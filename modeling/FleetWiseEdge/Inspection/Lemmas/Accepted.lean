import FleetWiseEdge.Inspection.Lemmas.Setup

namespace DataInspection

open Cpp DataManagement

section Buffers

variable {V : Type} [InspectionValue V]

structure SignalHistoryBuffer.IsNew (P : Nat → Prop) (b : SignalHistoryBuffer V) : Prop where
  unallocated : b.mBuffer = []
  position : b.mCurrentPosition < b.mSize
  counter : b.mCounter = 0
  lastSample : b.mLastSample = 0
  windows : ∀ w ∈ b.mWindowFunctionData, w.mWindowSizeMs ≠ 0 ∧ P w.mWindowSizeMs
    ∧ w = .ofSize w.mWindowSizeMs

namespace SignalHistoryBuffer.IsNew

variable {P : Nat → Prop} {b : SignalHistoryBuffer V} {windowSizeMs : Nat}

theorem addFixedWindow (h : b.IsNew P) (hP : windowSizeMs ≠ 0 → P windowSizeMs)
    : (b.addFixedWindow windowSizeMs).IsNew P := by
  unfold SignalHistoryBuffer.addFixedWindow
  split
  . exact h
  . rename_i hne
    split
    . exact h
    . constructor
      . exact h.unallocated
      . exact h.position
      . exact h.counter
      . exact h.lastSample
      . intro w hw
        rw [List.mem_append, List.mem_singleton] at hw
        cases hw with
        | inl hmem => exact h.windows w hmem
        | inr heq =>
          rw [heq]
          exact ⟨hne, hP hne, rfl⟩

theorem getFixedWindow (h : b.IsNew P) {w : FixedTimeWindowFunctionData V}
    (hw : b.getFixedWindow windowSizeMs = some w)
    : w = .ofSize windowSizeMs := by
  have hnew := (h.windows w (SignalHistoryBuffer.getFixedWindow_mem hw)).2.2
  rw [SignalHistoryBuffer.getFixedWindow_size hw] at hnew
  exact hnew

theorem grownBuffer {signal : InspectionMatrixSignalCollectionInfo} (h : b.IsNew P)
    (hP : signal.fixedWindowPeriod ≠ 0 → P signal.fixedWindowPeriod)
    : (DataInspection.grownBuffer signal b).IsNew P := by
  apply addFixedWindow _ hP
  constructor
  . exact h.unallocated
  . exact Nat.lt_of_lt_of_le h.position (Nat.le_max_left _ _)
  . exact h.counter
  . exact h.lastSample
  . exact h.windows

theorem newBuffer {signal : InspectionMatrixSignalCollectionInfo} (hsize : signal.sampleBufferSize ≠ 0)
    (hP : signal.fixedWindowPeriod ≠ 0 → P signal.fixedWindowPeriod)
    : (DataInspection.newBuffer signal : SignalHistoryBuffer V).IsNew P := by
  apply addFixedWindow _ hP
  constructor
  . rfl
  . show u32 (signal.sampleBufferSize + (2 ^ 32 - 1)) < signal.sampleBufferSize
    unfold u32
    omega
  . rfl
  . rfl
  . intro w hw
    cases hw

end SignalHistoryBuffer.IsNew

variable {P : Nat → Prop} {buffers : List (SignalHistoryBuffer V)}

theorem isNew_requestSignals (signals : List InspectionMatrixSignalCollectionInfo)
    (hvalid : ∀ signal ∈ signals, signal.sampleBufferSize ≠ 0)
    (hP : ∀ signal ∈ signals, signal.fixedWindowPeriod ≠ 0 → P signal.fixedWindowPeriod)
    (h : ∀ b ∈ buffers, b.IsNew P)
    : ∀ b ∈ signals.foldl requestSignal buffers, b.IsNew P := by
  induction signals generalizing buffers with
  | nil => exact h
  | cons signal signals ih =>
    apply ih
    . intro other hother
      exact hvalid other (by simp [hother])
    . intro other hother
      exact hP other (by simp [hother])
    . apply KeyedList.insert_forall _ _ h
      . intro b _ hb
        exact hb.grownBuffer (hP signal (by simp))
      . exact SignalHistoryBuffer.IsNew.newBuffer (hvalid signal (by simp)) (hP signal (by simp))

theorem SignalHistoryBuffer.IsNew.sameButReaders {b b' : SignalHistoryBuffer V} (h : b.IsNew P)
    (hsame : SameButReaders b b')
    : b'.IsNew P := by
  unfold SameButReaders at hsame
  rw [hsame]
  exact ⟨h.unallocated, h.position, h.counter, h.lastSample, h.windows⟩

end Buffers

section Readers

variable {V : Type} {storage : List (ExpressionNode V)}
variable {signals : List InspectionMatrixSignalCollectionInfo}

def IsRead (storage : List (ExpressionNode V)) (condition : ExpressionNodePtr)
    (signal : InspectionMatrixSignalCollectionInfo)
    : Prop :=
  isSignalPartOfEval storage condition signal.signalID MAX_EQUATION_DEPTH = true

theorem foldl_linkEntry_refs (Q : SignalBufferPtr → Prop) (Q' : FixedWindowPtr → Prop)
    {ac : ActiveCondition V}
    (hsignals : ∀ signal ∈ signals, IsRead storage ac.mCondition.condition signal →
      Q signal.ptr
        ∧ (signal.fixedWindowPeriod ≠ 0 → Q' ⟨signal.ptr, signal.fixedWindowPeriod⟩))
    (hac : (∀ id ptr, ac.mEvaluationSignals id = some ptr → Q ptr)
      ∧ (∀ id ptr, ac.mEvaluationFunctions id = some ptr → Q' ptr))
    : (∀ id ptr, (signals.foldl (linkEntry storage) ac).mEvaluationSignals id = some ptr → Q ptr)
        ∧
      (∀ id ptr, (signals.foldl (linkEntry storage) ac).mEvaluationFunctions id = some ptr → Q' ptr) := by
  induction signals generalizing ac with
  | nil => exact hac
  | cons signal signals ih =>
    apply ih
    . intro other hother hread
      rw [linkEntry_mCondition] at hread
      exact hsignals other (by simp [hother]) hread
    . have hfirst := hsignals signal (by simp)
      unfold linkEntry
      split
      . rename_i hread
        constructor
        . intro id ptr
          dsimp only
          rw [Function.update_apply]
          split
          . intro heq
            rw [← Option.some_inj.mp heq]
            exact (hfirst hread).1
          . exact hac.1 id ptr
        . intro id ptr
          dsimp only
          split
          . exact hac.2 id ptr
          . rename_i hne
            rw [Function.update_apply]
            split
            . intro heq
              rw [← Option.some_inj.mp heq]
              exact (hfirst hread).2 hne
            . exact hac.2 id ptr
      . exact hac

variable {buffers : List (SignalHistoryBuffer V)} {condition : ExpressionNodePtr} {i : Nat}
variable {signal : InspectionMatrixSignalCollectionInfo}

theorem hasReader_foldl_markReader (hmem : signal ∈ signals) (hread : IsRead storage condition signal)
    (hbuffer : (bufferAt buffers signal.ptr).isSome = true)
    : HasReader (signals.foldl (markReader storage condition i) buffers) signal.ptr i := by
  induction signals generalizing buffers with
  | nil => cases hmem
  | cons other signals ih =>
    rw [List.foldl_cons]
    rw [List.mem_cons] at hmem
    cases hmem with
    | inl heq =>
      apply HasReader.foldl_markReader
      unfold HasReader
      rw [markReader_lookup]
      rw [if_pos ⟨heq ▸ hread, congrArg _ heq⟩]
      cases hb : bufferAt buffers signal.ptr with
      | none => simp [hb] at hbuffer
      | some b => exact ⟨_, rfl, Bitset.test_set_self _ _ _⟩
    | inr hmem =>
      apply ih hmem
      rw [markReader_lookup]
      split
      . simpa using hbuffer
      . exact hbuffer

theorem hasReader_markReaders (conditions : List (ActiveCondition V)) {i j : Nat}
    {ac : ActiveCondition V} (hac : conditions[j]? = some ac) (hmem : signal ∈ ac.mCondition.signals)
    (hread : IsRead storage ac.mCondition.condition signal)
    (hserved : Served buffers signal)
    : HasReader (markReaders storage conditions i buffers) signal.ptr (i + j) := by
  induction conditions generalizing buffers i j with
  | nil => simp at hac
  | cons first rest ih =>
    unfold markReaders
    cases j with
    | zero =>
      rw [List.getElem?_cons_zero] at hac
      rw [Option.some_inj.mp hac]
      apply HasReader.markReaders
      apply hasReader_foldl_markReader hmem hread
      obtain ⟨b, hb, _⟩ := hserved
      rw [hb]
      rfl
    | succ j =>
      rw [List.getElem?_cons_succ] at hac
      rw [show i + (j + 1) = i + 1 + j by omega]
      apply ih hac
      exact hserved.sameButReaders (foldl_markReader_forall₂ _)

end Readers

section Linked

variable {V : Type} [InspectionValue V] {m : InspectionMatrix V} {P : Nat → Prop}

open CollectionInspectionEngine

def InspectionMatrix.Windows (P : Nat → Prop) (m : InspectionMatrix V) : Prop :=
  ∀ p ∈ m.conditions, ∀ signal ∈ p.signals, signal.fixedWindowPeriod ≠ 0 → P signal.fixedWindowPeriod

theorem isNew_linkedSignals (hm : m.Accepted) (hP : m.Windows P)
    : ∀ b ∈ linkedSignals m, b.IsNew P := by
  intro b hb
  have ⟨b', hb', hsame⟩ := KeyedList.mem_forall₂ (markReaders_forall₂ _) hb
  apply SignalHistoryBuffer.IsNew.sameButReaders _ hsame
  apply isNew_requestSignals _ _ _ _ b' hb'
  . intro signal hsignal
    have ⟨p, hp, hmem⟩ := List.mem_flatMap.mp hsignal
    exact ((hm p hp).2 signal hmem).2
  . intro signal hsignal
    have ⟨p, hp, hmem⟩ := List.mem_flatMap.mp hsignal
    exact hP p (List.mem_of_mem_take hp) signal hmem
  . intro b hb
    cases hb

theorem nodup_linkedSignals (m : InspectionMatrix V)
    : ((linkedSignals m).map SignalHistoryBuffer.ptr).Nodup := by
  have hkeys : (linkedSignals m).map SignalHistoryBuffer.ptr
      = (requestedSignals m).map SignalHistoryBuffer.ptr := by
    apply KeyedList.keys_forall₂ (R := SameButReaders)
    exact (markReaders_forall₂ _).imp fun _ _ h => ⟨h.ptr, h⟩
  rw [hkeys]
  apply nodup_requestSignals
  exact List.nodup_nil

theorem hasReader_linkedSignals {i : Nat} {p : ConditionWithCollectedData V}
    (hp : (activeConditions m)[i]? = some p) {signal : InspectionMatrixSignalCollectionInfo}
    (hmem : signal ∈ p.signals) (hread : IsRead m.expressionNodeStorage p.condition signal)
    : HasReader (linkedSignals m) signal.ptr i := by
  rw [← Nat.zero_add i]
  have hac : ((activeConditions m).map fun p => ({ mCondition := p } : ActiveCondition V))[i]?
      = some { mCondition := p } := by
    rw [List.getElem?_map, hp]
    rfl
  apply hasReader_markReaders _ hac hmem hread
  exact served_requestedSignals (List.mem_of_getElem? hp) hmem

theorem hasReader_activate {i : Nat} {p : ConditionWithCollectedData V}
    (hp : (activeConditions m)[i]? = some p)
    : (∀ id ptr, (activate m.expressionNodeStorage p).mEvaluationSignals id = some ptr →
        HasReader (linkedSignals m) ptr i)
        ∧
      (∀ id ptr, (activate m.expressionNodeStorage p).mEvaluationFunctions id = some ptr →
        HasReader (linkedSignals m) ptr.buffer i) := by
  apply foldl_linkEntry_refs (fun ptr => HasReader (linkedSignals m) ptr i)
    (fun ptr => HasReader (linkedSignals m) ptr.buffer i)
  . intro signal hmem hread
    have hreader := hasReader_linkedSignals hp hmem hread
    exact ⟨hreader, fun _ => hreader⟩
  . constructor
    . intro id ptr href
      cases href
    . intro id ptr href
      cases href

def PreAllocated (b b' : SignalHistoryBuffer V) : Prop :=
  AllocatedOrNot SignalHistoryBuffer.toHistoryBuffer
    (fun buf buffer => { buf with toHistoryBuffer := buffer }) SIZEOF_SIGNAL_SAMPLE emptySignalSample
    b b'

theorem PreAllocated.ring {b b' : SignalHistoryBuffer V} (h : PreAllocated b b')
    : ∃ mBuffer mSize, b' = { b with mBuffer, mSize } := by
  rcases h with ⟨heq, _⟩ | heq | heq
  . exact ⟨_, _, heq⟩
  . exact ⟨_, _, heq⟩
  . exact ⟨_, _, heq⟩

theorem PreAllocated.ptr {b b' : SignalHistoryBuffer V} (h : PreAllocated b b') : b'.ptr = b.ptr := by
  have ⟨_, _, heq⟩ := h.ring
  rw [heq]
  rfl

variable {s : CollectionInspectionEngine V} (order : IterationOrder V)

theorem preAllocateBuffers_forall₂
    : List.Forall₂ PreAllocated (order.apply s.mSignalBuffers)
        (s.preAllocateBuffers order).1.mSignalBuffers := by
  unfold preAllocateBuffers
  dsimp only
  split
  . exact allocateBuffers_forall₂
  . exact allocateBuffers_forall₂

theorem preAllocateBuffers_mem {b' : SignalHistoryBuffer V}
    (hb' : b' ∈ (s.preAllocateBuffers order).1.mSignalBuffers)
    : ∃ b ∈ s.mSignalBuffers, PreAllocated b b' := by
  have ⟨b, hb, hpre⟩ := KeyedList.mem_forall₂ (preAllocateBuffers_forall₂ order) hb'
  exact ⟨b, (order.perm _).mem_iff.mp hb, hpre⟩

theorem preAllocateBuffers_lookup (hnodup : (s.mSignalBuffers.map SignalHistoryBuffer.ptr).Nodup)
    (k : SignalBufferPtr)
    : Option.Rel PreAllocated (bufferAt s.mSignalBuffers k)
        (bufferAt (s.preAllocateBuffers order).1.mSignalBuffers k) := by
  unfold bufferAt
  rw [← KeyedList.lookup_perm (order.perm _) hnodup]
  apply KeyedList.lookup_forall₂
  exact (preAllocateBuffers_forall₂ order).imp fun _ _ h => ⟨h.ptr, h⟩

theorem HasReader.preAllocateBuffers {k : SignalBufferPtr} {i : Nat}
    (hnodup : (s.mSignalBuffers.map SignalHistoryBuffer.ptr).Nodup)
    (h : HasReader s.mSignalBuffers k i)
    : HasReader (s.preAllocateBuffers order).1.mSignalBuffers k i := by
  have ⟨b, hb, hbit⟩ := h
  have hrel := preAllocateBuffers_lookup order hnodup k
  unfold HasReader
  rw [hb] at hrel
  generalize bufferAt (s.preAllocateBuffers order).1.mSignalBuffers k = found at hrel ⊢
  cases hrel with
  | some hpre =>
    have ⟨_, _, heq⟩ := hpre.ring
    refine ⟨_, rfl, ?_⟩
    rw [heq]
    exact hbit

end Linked

section Memory

variable {V : Type} [InspectionValue V] {m : InspectionMatrix V}

open CollectionInspectionEngine

def InspectionMatrix.FitsMemory (m : InspectionMatrix V) : Prop :=
  requiredBytes SignalHistoryBuffer.toHistoryBuffer SIZEOF_SIGNAL_SAMPLE (requestedSignals m)
      + requiredBytes CanFrameHistoryBuffer.toHistoryBuffer SIZEOF_CAN_FRAME_SAMPLE
        (requestedCanFrames m)
    ≤ MAX_SAMPLE_MEMORY

instance (m : InspectionMatrix V) : Decidable m.FitsMemory :=
  inferInstanceAs (Decidable (_ ≤ _))

def signalBytes (m : InspectionMatrix V) : Nat :=
  requiredBytes SignalHistoryBuffer.toHistoryBuffer SIZEOF_SIGNAL_SAMPLE (requestedSignals m)

omit [InspectionValue V] in
theorem requiredBytes_sameButReaders {buffers buffers' : List (SignalHistoryBuffer V)}
    (h : List.Forall₂ SameButReaders buffers buffers')
    : requiredBytes SignalHistoryBuffer.toHistoryBuffer SIZEOF_SIGNAL_SAMPLE buffers'
        =
      requiredBytes SignalHistoryBuffer.toHistoryBuffer SIZEOF_SIGNAL_SAMPLE buffers := by
  induction h with
  | nil => rfl
  | cons hhead htail ih =>
    unfold requiredBytes at ih ⊢
    rw [List.map_cons, List.map_cons, List.sum_cons, List.sum_cons, ih]
    unfold SameButReaders at hhead
    rw [hhead]

theorem preAllocateBuffers_fits (s : CollectionInspectionEngine V) (order : IterationOrder V)
    (hfits : requiredBytes SignalHistoryBuffer.toHistoryBuffer SIZEOF_SIGNAL_SAMPLE s.mSignalBuffers
      ≤ MAX_SAMPLE_MEMORY)
    : (s.preAllocateBuffers order).1.mSignalBuffers
        =
      (order.apply s.mSignalBuffers).map (allocated SignalHistoryBuffer.toHistoryBuffer
        (fun buf buffer => { buf with toHistoryBuffer := buffer }) emptySignalSample) := by
  have hbytes : requiredBytes SignalHistoryBuffer.toHistoryBuffer SIZEOF_SIGNAL_SAMPLE
      (order.apply s.mSignalBuffers)
      = requiredBytes SignalHistoryBuffer.toHistoryBuffer SIZEOF_SIGNAL_SAMPLE s.mSignalBuffers :=
    ((order.perm _).map _).sum_nat
  unfold preAllocateBuffers
  rw [allocateBuffers_fits (by rw [hbytes, Nat.zero_add]; exact hfits)]
  rfl

theorem bufferAt_allocated (s : CollectionInspectionEngine V) (order : IterationOrder V)
    (hm : m.Accepted) (hfits : signalBytes m ≤ MAX_SAMPLE_MEMORY) (k : SignalBufferPtr)
    : bufferAt (s.onChangeInspectionMatrix order m).mSignalBuffers k
        =
      (bufferAt (linkedSignals m) k).map (allocated SignalHistoryBuffer.toHistoryBuffer
        (fun buf buffer => { buf with toHistoryBuffer := buffer }) emptySignalSample) := by
  rw [onChangeInspectionMatrix_accepted s order hm]
  rw [preAllocateBuffers_fits]
  . unfold bufferAt
    rw [KeyedList.lookup_map]
    . exact congrArg _ (KeyedList.lookup_perm (order.perm _) (nodup_linkedSignals m))
    . intro b
      rfl
  . exact Nat.le_trans (Nat.le_of_eq (requiredBytes_sameButReaders (markReaders_forall₂ _))) hfits

theorem mSize_requestSignals (requests signals : List InspectionMatrixSignalCollectionInfo)
    {buffers : List (SignalHistoryBuffer V)} (hsignals : ∀ signal ∈ signals, signal ∈ requests)
    (h : ∀ b ∈ buffers, ∃ signal ∈ requests, signal.ptr = b.ptr ∧ b.mSize ≤ signal.sampleBufferSize)
    : ∀ b ∈ signals.foldl requestSignal buffers, ∃ signal ∈ requests,
        signal.ptr = b.ptr ∧ b.mSize ≤ signal.sampleBufferSize := by
  induction signals generalizing buffers with
  | nil => exact h
  | cons signal signals ih =>
    have hsignal := hsignals signal (by simp)
    apply ih
    . intro other hother
      exact hsignals other (by simp [hother])
    . apply KeyedList.insert_forall _ _ h
      . intro b hkey hb
        have ⟨other, hother, hptr, hsize⟩ := hb
        rw [grownBuffer_ptr, grownBuffer_mSize]
        cases Nat.le_total b.mSize signal.sampleBufferSize with
        | inl hle => exact ⟨signal, hsignal, hkey.symm, by omega⟩
        | inr hge => exact ⟨other, hother, hptr, by omega⟩
      . refine ⟨signal, hsignal, ?_, ?_⟩
        . rw [newBuffer_ptr]
        . rw [newBuffer_mSize]

theorem signalBytes_le {p : ConditionWithCollectedData V} (hp : p ∈ activeConditions m)
    : signalBytes { m with conditions := [p] } ≤ signalBytes m := by
  have hrequested : requestedSignals { m with conditions := [p] } = p.signals.foldl requestSignal [] := by
    unfold requestedSignals activeConditions MAX_NUMBER_OF_ACTIVE_CONDITION
    simp
  unfold signalBytes requiredBytes
  rw [hrequested]
  apply @KeyedList.total_le _ _ SignalHistoryBuffer.ptr
  . exact nodup_requestSignals _ List.nodup_nil
  . intro b hb
    have ⟨signal, hsignal, hptr, hsize⟩ := mSize_requestSignals p.signals p.signals
      (fun _ h => h) (fun b hb => by cases hb) b hb
    have ⟨b', hb', _, hserved⟩ := served_requestedSignals hp hsignal
    refine ⟨b', KeyedList.mem_of_lookup hb', ?_, ?_⟩
    . rw [KeyedList.key_of_lookup hb', hptr]
    . exact Nat.mul_le_mul_right _ (Nat.le_trans hsize hserved)

end Memory

end DataInspection
