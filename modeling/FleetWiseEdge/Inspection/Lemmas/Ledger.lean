import FleetWiseEdge.Inspection.Lemmas.Configuration
import FleetWiseEdge.Inspection.Lemmas.Engine
import FleetWiseEdge.Inspection.SampleLedger

namespace DataInspection

open Cpp DataManagement

namespace SampleLedger

variable {K V : Type} [DecidableEq K] {L : Ledger Nat K (V × Nat)} {k : K} {c count : Nat}

def asSample (sent : List (Nat × K × Nat)) (k : K)
    (entry : (V × Nat) × Nat)
    : Sample V where
  content := entry.1.1
  mTimestamp := entry.1.2
  mAlreadyConsumed := fun c => (c, k, entry.2) ∈ sent

-- The history that the ring of the buffer `k` holds the newest samples of.
def history (L : Ledger Nat K (V × Nat)) (k : K) : List (Sample V) :=
  (numbered (L.stored k)).map (asSample L.sent k)

@[simp]
theorem history_length : (history L k).length = (L.stored k).length := by
  unfold history
  rw [List.length_map, numbered_length]

theorem lastSample_history
    : ((history L k).head?.map (·.mTimestamp)).getD 0 = ((L.stored k).head?.map Prod.snd).getD 0 := by
  unfold history
  cases L.stored k with
  | nil => rfl
  | cons sample samples => rfl

theorem isFresh_asSample {sent : List (Nat × K × Nat)} {entry : (V × Nat) × Nat}
    : (asSample sent k entry).isFresh c true = decide ((c, k, entry.2) ∉ sent) := by
  unfold Sample.isFresh Sample.isAlreadyConsumed asSample Bitset.test
  simp

theorem fresh_history
    : History.fresh c true count (history L k) = (L.unsent c k count).map Prod.fst := by
  unfold History.fresh history Ledger.unsent
  rw [← List.map_take, List.filter_map, List.map_map]
  have hfresh : (fun entry : (V × Nat) × Nat => decide ((c, k, entry.2) ∉ L.sent))
      = Sample.isFresh c true ∘ asSample L.sent k := by
    funext entry
    exact isFresh_asSample.symm
  rw [hfresh]
  rfl

theorem collectedBy_asSample {sent : List (Nat × K × Nat)} {entry : (V × Nat) × Nat}
    (hc : c ≠ ALL_CONDITIONS)
    : (asSample sent k entry).collectedBy c true
        =
      ⟨entry.1.1, entry.1.2, (asSample sent k entry).mAlreadyConsumed.set c true⟩ := by
  unfold Sample.collectedBy Sample.consumedBy setAlreadyConsumed
  rw [if_neg hc]
  split
  . rfl
  . rename_i hnot
    rw [isFresh_asSample] at hnot
    have hsent : (c, k, entry.2) ∈ sent := by simpa using hnot
    apply congrArg (Sample.mk entry.1.1 entry.1.2)
    apply Bitset.ext
    intro j
    rw [Bitset.test_set]
    split
    . rename_i heq
      rw [heq]
      simpa [Bitset.test] using hsent
    . rfl

-- Setting the bits of a condition in the ring is what sending to it is in the ledger.
theorem collect_history (hc : c ≠ ALL_CONDITIONS)
    : History.collect c true count (history L k) = history (L.send c k count) k := by
  unfold History.collect history
  rw [Ledger.send_stored]
  conv => rhs; rw [← List.take_append_drop count (numbered (L.stored k)), List.map_append]
  rw [← List.map_take, ← List.map_drop, List.map_map]
  congr 1
  . apply List.map_congr_left
    intro entry hentry
    rw [Function.comp_apply, collectedBy_asSample hc]
    apply congrArg (Sample.mk entry.1.1 entry.1.2)
    apply Bitset.ext
    intro j
    rw [Bitset.test_set]
    unfold asSample Bitset.test
    rw [Bool.eq_iff_iff, decide_eq_true_iff, Ledger.mem_send]
    split
    . rename_i heq
      simp only [true_iff]
      exact Or.inr ⟨heq, trivial, entry.1, hentry⟩
    . rename_i hne
      simp [hne]
  . apply List.map_congr_left
    intro entry hentry
    unfold asSample
    congr 1
    funext j
    rw [Bool.eq_iff_iff, decide_eq_true_iff, decide_eq_true_iff, Ledger.mem_send]
    constructor
    . exact Or.inl
    . intro h
      rcases h with h | ⟨_, _, item, hmem⟩
      . exact h
      . have hpairwise := numbered_pairwise (L.stored k)
        rw [← List.take_append_drop count (numbered (L.stored k)), List.pairwise_append] at hpairwise
        have := hpairwise.2.2 _ hmem _ hentry
        omega

theorem history_send_ne {k' : K} (hne : k' ≠ k)
    : history (L.send c k count) k' = history L k' := by
  unfold history
  rw [Ledger.send_stored]
  apply List.map_congr_left
  intro entry _
  unfold asSample
  congr 1
  funext j
  rw [Bool.eq_iff_iff, decide_eq_true_iff, decide_eq_true_iff, Ledger.mem_send]
  simp [hne]

theorem history_grow_nil {more : K → List (V × Nat)} (hmore : more k = [])
    : history (L.grow more) k = history L k := by
  unfold history Ledger.grow
  dsimp only
  rw [hmore, List.nil_append]

theorem history_grow_one (h : L.WellFormed) {more : K → List (V × Nat)}
    {sample : V × Nat} (hmore : more k = [sample])
    : history (L.grow more) k
        =
      ⟨sample.1, sample.2, Bitset.ofBool false⟩ :: history L k := by
  have hnumbered : numbered ((L.grow more).stored k)
      = (sample, (L.stored k).length) :: numbered (L.stored k) := by
    unfold Ledger.grow
    dsimp only
    rw [hmore]
    rfl
  unfold history
  rw [hnumbered, List.map_cons]
  congr 1
  unfold asSample
  congr 1
  funext j
  unfold Bitset.ofBool
  rw [decide_eq_false_iff_not]
  intro hsent
  have := h.known _ hsent
  dsimp only at this
  omega

end SampleLedger

open SampleLedger

/--
A buffer that was allocated holds its history, and enough of it for all who ask for at most `required`
samples. A buffer that was not allocated never has one.
-/
def HistoryBuffer.Remembers {α : Type} (required : Nat) (b : HistoryBuffer α)
    (history : List (Sample α))
    : Prop :=
  b.Holds history ∧ required ≤ b.mSize ∨ b.mBuffer = [] ∧ b.mCounter = 0 ∧ history = []

structure BuffersRepresent {σ K α : Type} [DecidableEq K] (ptr : σ → K) (ring : σ → HistoryBuffer α)
    (required : K → Nat) (buffers : List σ) (L : Ledger Nat K (α × Nat))
    : Prop where
  wellFormed : L.WellFormed
  present : ∀ k b, KeyedList.lookup ptr k buffers = some b →
    (ring b).Remembers (required k) (history L k)
  missing : ∀ k, KeyedList.lookup ptr k buffers = none → L.stored k = []

def CollectionInspectionEngine.Represents {V : Type} (required : SignalBufferPtr → Nat)
    (s : CollectionInspectionEngine V) (L : SampleLedger Nat V)
    : Prop :=
  BuffersRepresent SignalHistoryBuffer.ptr SignalHistoryBuffer.toHistoryBuffer required
    s.mSignalBuffers L

namespace HistoryBuffer.Remembers

variable {α : Type} {required : Nat} {b : HistoryBuffer α} {samples : List (Sample α)}

theorem holds_of_acceptsSample (h : b.Remembers required samples) {receiveTime : Nat}
    (haccepts : b.acceptsSample receiveTime = true)
    : b.Holds samples ∧ required ≤ b.mSize := by
  cases h with
  | inl hholds => exact hholds
  | inr hempty =>
    unfold acceptsSample at haccepts
    rw [hempty.1] at haccepts
    simp only [List.length_nil, Bool.and_eq_true, decide_eq_true_iff] at haccepts
    omega

theorem storeSample (h : b.Remembers required samples) {receiveTime : Nat}
    (haccepts : b.acceptsSample receiveTime = true) (value : α)
    : (b.storeSample receiveTime fun _ => value).Remembers required
        (⟨value, receiveTime, Bitset.ofBool false⟩ :: samples) := by
  have ⟨hholds, hrequired⟩ := h.holds_of_acceptsSample haccepts
  exact Or.inl ⟨hholds.storeSample receiveTime value, hrequired⟩

theorem collectLastSamples (h : b.Remembers required samples) {maxNumber : Nat}
    (hmax : maxNumber ≤ required) (conditionId : Nat) (once : Bool) (newestTimestamp : Nat)
    : { b with
        mBuffer := (b.collectLastSamples maxNumber conditionId once newestTimestamp).mBuffer }.Remembers
        required (History.collect conditionId once (min maxNumber (u32 samples.length)) samples)
        ∧
      (b.collectLastSamples maxNumber conditionId once newestTimestamp).output
        =
      History.fresh conditionId once (min maxNumber (u32 samples.length)) samples := by
  cases h with
  | inl hholds =>
    have ⟨hholds', houtput⟩ := hholds.1.collectLastSamples (Nat.le_trans hmax hholds.2)
      conditionId once newestTimestamp
    exact ⟨Or.inl ⟨hholds', hholds.2⟩, houtput⟩
  | inr hempty =>
    have hnothing : b.collectLastSamples maxNumber conditionId once newestTimestamp
        = ⟨b.mBuffer, newestTimestamp, []⟩ := by
      unfold HistoryBuffer.collectLastSamples
      rw [hempty.2.1, Nat.min_zero]
      rfl
    rw [hnothing, hempty.2.2]
    constructor
    . exact Or.inr ⟨hempty.1, hempty.2.1, by simp [History.collect]⟩
    . simp [History.fresh]

end HistoryBuffer.Remembers

namespace BuffersRepresent

variable {σ K α : Type} [DecidableEq K] {ptr : σ → K} {ring : σ → HistoryBuffer α}
variable {required : K → Nat} {buffers : List σ} {L : Ledger Nat K (α × Nat)}

theorem map (h : BuffersRepresent ptr ring required buffers L) {g : σ → σ}
    (hptr : ∀ b, ptr (g b) = ptr b) (hring : ∀ b, ring (g b) = ring b)
    : BuffersRepresent ptr ring required (buffers.map g) L := by
  constructor
  . exact h.wellFormed
  . intro k b' hb'
    rw [KeyedList.lookup_map hptr, Option.map_eq_some_iff] at hb'
    have ⟨b, hb, heq⟩ := hb'
    rw [← heq, hring]
    exact h.present k b hb
  . intro k hnone
    rw [KeyedList.lookup_map hptr, Option.map_eq_none_iff] at hnone
    exact h.missing k hnone

theorem store (h : BuffersRepresent ptr ring required buffers L) {g : σ → σ}
    {more : K → List (α × Nat)} (hptr : ∀ b, ptr (g b) = ptr b)
    (hstore : ∀ k b, KeyedList.lookup ptr k buffers = some b →
      more k = [] ∧ ring (g b) = ring b
        ∨ ∃ value receiveTime, more k = [(value, receiveTime)]
            ∧ (ring b).acceptsSample receiveTime = true
            ∧ ring (g b) = (ring b).storeSample receiveTime fun _ => value)
    (hmissing : ∀ k, KeyedList.lookup ptr k buffers = none → more k = [])
    : BuffersRepresent ptr ring required (buffers.map g) (L.grow more) := by
  constructor
  . exact h.wellFormed.grow _
  . intro k b' hb'
    rw [KeyedList.lookup_map hptr, Option.map_eq_some_iff] at hb'
    have ⟨b, hb, heq⟩ := hb'
    have hbuffer := h.present k b hb
    rw [← heq]
    rcases hstore k b hb with ⟨hmore, hring⟩ | ⟨value, receiveTime, hmore, haccepts, hring⟩
    . rw [history_grow_nil hmore, hring]
      exact hbuffer
    . rw [history_grow_one h.wellFormed hmore, hring]
      exact hbuffer.storeSample haccepts value
  . intro k hnone
    rw [KeyedList.lookup_map hptr, Option.map_eq_none_iff] at hnone
    unfold Ledger.grow
    dsimp only
    rw [hmissing k hnone, h.missing k hnone]
    rfl

theorem update (h : BuffersRepresent ptr ring required buffers L) {b : σ} {k : K} {i count : Nat}
    {g : σ → σ} (hptr : ∀ b, ptr (g b) = ptr b) (hb : KeyedList.lookup ptr k buffers = some b)
    (hbuffer : (ring (g b)).Remembers (required k) (history (L.send i k count) k))
    : BuffersRepresent ptr ring required (KeyedList.update ptr k g buffers) (L.send i k count) := by
  constructor
  . exact h.wellFormed.send _ _ _
  . intro k' b' hb'
    rw [KeyedList.lookup_update hptr, hb] at hb'
    split at hb'
    . rename_i heq
      rw [heq, ← Option.some_inj.mp hb']
      exact hbuffer
    . rename_i hne
      rw [history_send_ne hne]
      exact h.present k' b' hb'
  . intro k' hnone
    rw [KeyedList.lookup_update hptr, hb] at hnone
    split at hnone
    . cases hnone
    . exact h.missing k' hnone

end BuffersRepresent

theorem CollectionInspectionEngine.Represents.congr {V : Type} {required : SignalBufferPtr → Nat}
    {s s' : CollectionInspectionEngine V} {L : SampleLedger Nat V} (h : s.Represents required L)
    (hbuffers : s'.mSignalBuffers = s.mSignalBuffers)
    : s'.Represents required L := by
  unfold Represents
  rw [hbuffers]
  exact h

section Store

variable {V : Type} [InspectionValue V] {required : SignalBufferPtr → Nat}
variable {s : CollectionInspectionEngine V} {L : SampleLedger Nat V}

def CollectionInspectionEngine.accepted (s : CollectionInspectionEngine V) (id : SignalID)
    (receiveTime : Nat) (value : V) (k : SignalBufferPtr)
    : List (V × Nat) :=
  match bufferAt s.mSignalBuffers k with
  | some b => if b.signalID = id && b.acceptsSample receiveTime then [(value, receiveTime)] else []
  | none => []

theorem CollectionInspectionEngine.Represents.addNewSignal (h : s.Represents required L)
    (id : SignalID) (receiveTime : Nat) (value : V)
    : (s.addNewSignal id receiveTime value).Represents required
        (L.grow (s.accepted id receiveTime value)) := by
  unfold Represents
  rw [addNewSignal_buffers]
  apply BuffersRepresent.store h
  . intro b
    exact SignalHistoryBuffer.addSample_ptr
  . intro k b hb
    unfold accepted SignalHistoryBuffer.addSample bufferAt
    rw [hb]
    dsimp only
    split
    . rename_i haccepts
      rw [Bool.and_eq_true] at haccepts
      exact Or.inr ⟨value, receiveTime, rfl, haccepts.2, rfl⟩
    . exact Or.inl ⟨rfl, rfl⟩
  . intro k hnone
    unfold accepted bufferAt
    rw [hnone]

theorem CollectionInspectionEngine.Represents.updateAllFixedWindowFunctions
    (h : s.Represents required L) (timestamp : Nat)
    : (s.updateAllFixedWindowFunctions timestamp).Represents required L := by
  unfold Represents
  rw [updateAllFixedWindowFunctions_buffers]
  apply BuffersRepresent.map h
  . intro b
    rfl
  . intro b
    rfl

theorem CollectionInspectionEngine.evaluateConditions_mSignalBuffers (s : CollectionInspectionEngine V)
    (currentTime : Nat)
    : (s.evaluateConditions currentTime).1.mSignalBuffers
        =
      (s.beforeEvaluation currentTime).mSignalBuffers := by
  apply evaluateConditions_rel fun s s' => s'.mSignalBuffers = s.mSignalBuffers
  . intro s
    rfl
  . intro s s' s'' h h'
    exact h'.trans h
  . intro s condition i
    rfl

theorem CollectionInspectionEngine.Represents.evaluateConditions (h : s.Represents required L)
    (currentTime : Nat)
    : (s.evaluateConditions currentTime).1.Represents required L := by
  apply Represents.congr _ (evaluateConditions_mSignalBuffers s currentTime)
  unfold beforeEvaluation
  split
  . exact h.updateAllFixedWindowFunctions currentTime
  . exact h

end Store

section Collect

variable {V : Type} {required : SignalBufferPtr → Nat} {L : SampleLedger Nat V} {i : Nat}

theorem collectLastSignals_represents {c : Collecting V}
    {signal : InspectionMatrixSignalCollectionInfo} (h : c.engine.Represents required L)
    (honce : c.engine.mSendDataOnlyOncePerCondition = true) (hi : i ≠ ALL_CONDITIONS)
    (hfits : signal.sampleBufferSize ≤ required signal.ptr)
    : (c.collectLastSignals i signal).engine.Represents required
          (L.send i signal.ptr (L.available signal))
        ∧
      (c.collectLastSignals i signal).signals = c.signals ++ L.taken i signal := by
  unfold Collecting.collectLastSignals
  split
  . rename_i hnone
    obtain ⟨hsend, htaken⟩ := SampleLedger.collect_nothing (i := i) (h.missing _ hnone)
    rw [hsend, htaken, List.append_nil]
    exact ⟨h, rfl⟩
  . rename_i b hb
    have hbuffer := h.present _ b hb
    split
    . obtain ⟨hcollected, houtput⟩ := hbuffer.collectLastSamples hfits i
        c.engine.mSendDataOnlyOncePerCondition c.newestSignalTimestamp
      rw [history_length] at hcollected houtput
      rw [honce] at hcollected houtput ⊢
      dsimp only
      constructor
      . apply BuffersRepresent.update h _ hb
        . rw [← collect_history hi]
          exact hcollected
        . intro buf
          rfl
      . rw [houtput, fresh_history]
        unfold SampleLedger.taken
        rw [List.map_map]
        rfl
    . rename_i hsize
      have hnil : L.stored signal.ptr = [] := by
        cases hbuffer with
        | inl hholds =>
          have := hholds.1.nonempty
          omega
        | inr hempty =>
          rw [← List.length_eq_zero_iff, ← history_length, hempty.2.2]
          rfl
      obtain ⟨hsend, htaken⟩ := SampleLedger.collect_nothing (i := i) hnil
      rw [hsend, htaken, List.append_nil]
      exact ⟨h, rfl⟩

theorem foldl_collectLastSignals_represents (signals : List InspectionMatrixSignalCollectionInfo)
    {c : Collecting V} (h : c.engine.Represents required L)
    (honce : c.engine.mSendDataOnlyOncePerCondition = true) (hi : i ≠ ALL_CONDITIONS)
    (hfits : ∀ signal ∈ signals, signal.sampleBufferSize ≤ required signal.ptr)
    : (signals.foldl (Collecting.collectLastSignals i) c).engine.Represents required
          (SampleLedger.collect i signals L).1
        ∧
      (signals.foldl (Collecting.collectLastSignals i) c).signals
        =
      c.signals ++ (SampleLedger.collect i signals L).2 := by
  induction signals generalizing c L with
  | nil => exact ⟨h, (List.append_nil _).symm⟩
  | cons signal signals ih =>
    have ⟨hfirst, hsignals⟩ := collectLastSignals_represents h honce hi (hfits signal (by simp))
    have honce' : (c.collectLastSignals i signal).engine.mSendDataOnlyOncePerCondition = true := by
      have ⟨_, hframe⟩ := CollectionInspectionEngine.foldl_collectLastSignals_frame i [signal] c
      rw [List.foldl_cons, List.foldl_nil] at hframe
      rw [hframe]
      exact honce
    have ⟨hrest, hlater⟩ := ih hfirst honce' fun other hother => hfits other (by simp [hother])
    constructor
    . exact hrest
    . rw [List.foldl_cons, hlater, hsignals, List.append_assoc]
      rfl

theorem CollectionInspectionEngine.Represents.publish {s : CollectionInspectionEngine V}
    {ac : ActiveCondition V} {currentTime : Nat} (h : s.Represents required L)
    (honce : s.mSendDataOnlyOncePerCondition = true) (hi : i ≠ ALL_CONDITIONS)
    (hfits : ∀ signal ∈ ac.mCondition.signals, signal.sampleBufferSize ≤ required signal.ptr)
    : (s.publish ac i currentTime).1.Represents required
          (SampleLedger.collect i ac.mCondition.collectedSignals L).1
        ∧
      (s.publish ac i currentTime).2.1.signals
        =
      (SampleLedger.collect i ac.mCondition.collectedSignals L).2 := by
  have hevent : (s.generateEventID currentTime).1.Represents required L := h.congr rfl
  have ⟨hcollected, hsignals⟩ := foldl_collectLastSignals_represents
    (c := ⟨(s.generateEventID currentTime).1, 0, [], []⟩) ac.mCondition.collectedSignals hevent
    honce hi (fun signal hsignal => hfits signal (List.mem_of_mem_filter hsignal))
  constructor
  . exact hcollected.congr (publish_mSignalBuffers s ac i currentTime)
  . rw [publish_signals]
    exact hsignals

end Collect

section Accepted

variable {V : Type} [InspectionValue V] {m : InspectionMatrix V}

open CollectionInspectionEngine

def requiredSize (m : InspectionMatrix V) (k : SignalBufferPtr) : Nat :=
  (bufferAt (linkedSignals m) k).elim 0 (·.mSize)

theorem served_linkedSignals {p : ConditionWithCollectedData V} (hp : p ∈ activeConditions m)
    {signal : InspectionMatrixSignalCollectionInfo} (hsignal : signal ∈ p.signals)
    : Served (linkedSignals m) signal :=
  (served_requestedSignals hp hsignal).sameButReaders (markReaders_forall₂ _)

theorem le_requiredSize {p : ConditionWithCollectedData V} (hp : p ∈ activeConditions m)
    {signal : InspectionMatrixSignalCollectionInfo} (hsignal : signal ∈ p.signals)
    : signal.sampleBufferSize ≤ requiredSize m signal.ptr := by
  have ⟨b, hb, _, hsize⟩ := served_linkedSignals hp hsignal
  unfold requiredSize
  rw [hb]
  exact hsize

theorem SignalHistoryBuffer.IsNew.remembers {P : Nat → Prop} {b b' : SignalHistoryBuffer V}
    (h : b.IsNew P) (hpre : PreAllocated b b')
    : b'.Remembers b.mSize [] := by
  rcases hpre with ⟨heq, hfits⟩ | heq | heq
  . apply Or.inl
    rw [heq]
    constructor
    . apply HistoryBuffer.Holds.empty
      . exact List.length_replicate
      . exact Nat.lt_of_le_of_lt (Nat.zero_le _) h.position
      . unfold SIZEOF_SIGNAL_SAMPLE MAX_SAMPLE_MEMORY at hfits
        show b.mSize < 2 ^ 32
        omega
      . exact h.counter
      . exact h.lastSample
    . exact Nat.le_refl _
  . apply Or.inr
    rw [heq]
    exact ⟨h.unallocated, h.counter, rfl⟩
  . apply Or.inr
    rw [heq]
    exact ⟨h.unallocated, h.counter, rfl⟩

theorem represents_onChangeInspectionMatrix (s : CollectionInspectionEngine V)
    (order : IterationOrder V) (hm : m.Accepted)
    : (s.onChangeInspectionMatrix order m).Represents (requiredSize m) Ledger.empty := by
  rw [onChangeInspectionMatrix_accepted s order hm]
  constructor
  . exact Ledger.wellFormed_empty
  . intro k b' hb'
    have hrel := preAllocateBuffers_lookup (s := linkedEngine s m) order (nodup_linkedSignals m) k
    unfold bufferAt at hrel
    rw [hb'] at hrel
    unfold requiredSize
    change Option.Rel PreAllocated (bufferAt (linkedSignals m) k) _ at hrel
    generalize hfound : bufferAt (linkedSignals m) k = found at hrel
    cases hrel with
    | some hpre =>
      have hnew : SignalHistoryBuffer.IsNew (fun _ => True) _ :=
        isNew_linkedSignals hm (fun _ _ _ _ _ => trivial) _ (KeyedList.mem_of_lookup hfound)
      exact hnew.remembers hpre
  . intro k _
    rfl

theorem onChangeInspectionMatrix_fits (s : CollectionInspectionEngine V) (order : IterationOrder V)
    (hm : m.Accepted)
    : ∀ ac ∈ (s.onChangeInspectionMatrix order m).mConditions, ∀ signal ∈ ac.mCondition.signals,
        signal.sampleBufferSize ≤ requiredSize m signal.ptr := by
  intro ac hac signal hsignal
  rw [onChangeInspectionMatrix_conditions order hm, List.mem_map] at hac
  have ⟨p, hp, heq⟩ := hac
  rw [← heq] at hsignal
  unfold activate at hsignal
  rw [foldl_linkEntry_mCondition] at hsignal
  exact le_requiredSize hp hsignal

end Accepted

end DataInspection
