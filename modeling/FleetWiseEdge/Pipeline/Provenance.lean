import FleetWiseEdge.Inspection.Lemmas.WorkerProvenance
import FleetWiseEdge.Pipeline.Delivery
import FleetWiseEdge.Upload.Lemmas.Transmissions

namespace Pipeline

open Cpp DataInspection DataManagement ExecutionManagement OffboardConnectivity VehicleDataMsg

section Frames

variable {V : Type}

theorem canRawFrame_prefix (frame : ConsumedFrame V) {size : Nat} (hsize : size ≤ frame.canRawFrame.size)
    : (frameBytes frame.canRawFrame.data size).2 <+: frame.message.mRawData := by
  have hlength : frame.canRawFrame.size ≤ frame.message.mRawData.length :=
    Nat.le_trans (Nat.min_le_left _ _) (Nat.mod_le _ _)
  have hbytes : frame.canRawFrame.size ≤ MAX_CAN_FRAME_BYTE_SIZE := Nat.min_le_right _ _
  have hdata : ∀ i (hi : i < MAX_CAN_FRAME_BYTE_SIZE), i < frame.canRawFrame.size →
      frame.canRawFrame.data[i] = frame.message.mRawData[i]?.getD 0 := by
    intro i hi hlt
    have hofFn : frame.canRawFrame.data[i]
        = if i < frame.canRawFrame.size then frame.message.mRawData[i]?.getD 0 else 0 := Vector.getElem_ofFn hi
    rw [hofFn, if_pos hlt]
  have htake : (frameBytes frame.canRawFrame.data size).2 = frame.message.mRawData.take size := by
    apply List.ext_getElem
    . simp only [frameBytes, List.length_take, Vector.length_toList]
      omega
    . intro i hi hi'
      simp only [frameBytes, List.length_take, Vector.length_toList] at hi
      simp only [frameBytes, List.getElem_take, Vector.getElem_toList]
      rw [hdata i (by omega) (by omega), List.getElem?_eq_getElem (by omega), Option.getD_some]
  rw [htake]
  exact List.take_prefix size _

theorem mem_rawFrames {frame : ConsumedFrame V} {raw : CollectedCanRawFrame} (h : raw ∈ frame.rawFrames)
    : raw = frame.canRawFrame := by
  unfold ConsumedFrame.rawFrames at h
  split at h
  . cases h
  . split at h
    . cases h
    . exact List.mem_singleton.mp h

/--
The consumer pushes exactly the raw frames and the signals of the frame.
-/
theorem consumeMessage_pushes [CANSignalValue V] (frame : ConsumedFrame V)
    (signals : BoundedQueue (CollectedSignal V)) (rawFrames : BoundedQueue CollectedCanRawFrame)
    : CANDataConsumerWorker.consumeMessage ⟨frame.mDataSourceID, some signals, some rawFrames⟩ frame.dictionary
          frame.message frame.behind
        =
      ⟨frame.mDataSourceID, some (signals.pushAll frame.signals),
        some (rawFrames.pushAll frame.rawFrames)⟩ := by
  unfold CANDataConsumerWorker.consumeMessage ConsumedFrame.signals ConsumedFrame.rawFrames ConsumedFrame.method
  dsimp only
  cases frame.dictionary.canMessageDecoderMethod frame.mDataSourceID with
  | none => rfl
  | some methods =>
    rw [Option.bind_some]
    dsimp only
    cases methods (u32 frame.message.mID) with
    | none => rfl
    | some method =>
      dsimp only
      unfold CANDataConsumerWorker.collectSignals CANDataConsumerWorker.collectRawFrame
      cases method.collectType with
      | RAW => rfl
      | DECODE =>
        dsimp only
        split
        . split
          . rfl
          . rfl
        . rfl
      | RAW_AND_DECODE =>
        dsimp only
        split
        . split
          . rfl
          . rfl
        . rfl

end Frames

variable {V : Type} [CANSignalValue V] {libraries : Libraries V} {connectivity : Nat → Connectivity}
variable {s : Pipeline V}

def Received (s : Pipeline V) (signal : CollectedSignal V) : Prop :=
  (∃ frame ∈ s.frames, signal ∈ frame.signals) ∨ signal ∈ s.responses

def origin (s : Pipeline V) : SampleOrigin V where
  matrix m := m ∈ s.matrices
  signal id value receiveTime := ∃ signal, s.Received signal ∧ signal.signalID = id ∧ signal.value = value
    ∧ signal.receiveTime = receiveTime
  canFrame frameID channelID bytes receiveTime := ∃ frame ∈ s.frames, frame.rawFrames ≠ []
    ∧ frameID = u32 frame.message.mID ∧ channelID = frame.mDataSourceID
    ∧ receiveTime = frame.message.mTimestamp ∧ bytes.2 <+: frame.message.mRawData
  activeDTCs activeDTCs := activeDTCs ∈ s.reports

def SignalFrom (origin : SampleOrigin V) (signal : CollectedSignal V) : Prop :=
  origin.signal signal.signalID signal.value signal.receiveTime

def RawFrameFrom (origin : SampleOrigin V) (raw : CollectedCanRawFrame) : Prop :=
  ∀ size ≤ raw.size, origin.canFrame raw.frameID raw.channelId (frameBytes raw.data size) raw.receiveTime

theorem signalFrom_of_received {signal : CollectedSignal V} (h : s.Received signal)
    : SignalFrom s.origin signal :=
  ⟨signal, h, rfl, rfl, rfl⟩

theorem rawFrameFrom_of_mem {frame : ConsumedFrame V} (hframe : frame ∈ s.frames) {raw : CollectedCanRawFrame}
    (hraw : raw ∈ frame.rawFrames)
    : RawFrameFrom s.origin raw := by
  intro size hsize
  have hne : frame.rawFrames ≠ [] := List.ne_nil_of_mem hraw
  rw [mem_rawFrames hraw] at hsize ⊢
  exact ⟨frame, hframe, hne, rfl, rfl, rfl, canRawFrame_prefix frame hsize⟩

def InspectionPhase.From (origin : SampleOrigin V) (phase : InspectionPhase V) : Prop :=
  match phase with
  | .uncountsSignal inputSignal => SignalFrom origin inputSignal
  | .uncountsCANFrame inputCANFrame => RawFrameFrom origin inputCANFrame
  | .pushes collectedData => origin.Collects collectedData
  | _ => True

structure Traced (origin : SampleOrigin V) (s : Pipeline V) : Prop where
  signals : ∀ signal ∈ s.mSignalBuffer.queue.elements, SignalFrom origin signal
  rawFrames : ∀ raw ∈ s.mCANBuffer.queue.elements, RawFrameFrom origin raw
  activeDTCs : ∀ activeDTCs ∈ s.mActiveDTCBuffer.elements, origin.activeDTCs activeDTCs
  sources : ∀ source ∈ s.sources, (∀ signal ∈ source.signals.pending, SignalFrom origin signal)
    ∧ ∀ raw ∈ source.rawFrames.pending, RawFrameFrom origin raw
  inspection : s.inspection.From origin
  phase : s.phase.From origin
  offered : ∀ data ∈ s.offered, origin.Collects data
  uploads : ∀ event ∈ s.thread.uploads, event.ofThread = true

namespace Traced

theorem mono {origin origin' : SampleOrigin V} (h : s.Traced origin) (hle : origin.Le origin')
    : s.Traced origin' := by
  have hsignal : ∀ signal, SignalFrom origin signal → SignalFrom origin' signal :=
    fun signal => hle.signal _ _ _
  have hraw : ∀ raw, RawFrameFrom origin raw → RawFrameFrom origin' raw :=
    fun raw hfrom size hsize => hle.canFrame _ _ _ _ (hfrom size hsize)
  constructor
  . exact fun signal hmem => hsignal signal (h.signals signal hmem)
  . exact fun raw hmem => hraw raw (h.rawFrames raw hmem)
  . exact fun activeDTCs hmem => hle.activeDTCs _ (h.activeDTCs activeDTCs hmem)
  . intro source hsource
    have ⟨hsignals, hraws⟩ := h.sources source hsource
    exact ⟨fun signal hmem => hsignal signal (hsignals signal hmem), fun raw hmem => hraw raw (hraws raw hmem)⟩
  . exact h.inspection.mono hle
  . have hphase := h.phase
    cases hcase : s.phase with
    | uncountsSignal inputSignal =>
      rw [hcase] at hphase
      exact hsignal inputSignal hphase
    | uncountsCANFrame inputCANFrame =>
      rw [hcase] at hphase
      exact hraw inputCANFrame hphase
    | pushes collectedData =>
      rw [hcase] at hphase
      exact SampleOrigin.Collects.mono hphase hle
    | _ => trivial
  . exact fun data hmem => (h.offered data hmem).mono hle
  . exact h.uploads

section Steps

variable {origin : SampleOrigin V}

theorem setSource (h : s.Traced origin) {k : Nat} {source : Source V}
    (hsource : (∀ signal ∈ source.signals.pending, SignalFrom origin signal)
      ∧ ∀ raw ∈ source.rawFrames.pending, RawFrameFrom origin raw)
    : ∀ other ∈ s.sources.set k source, (∀ signal ∈ other.signals.pending, SignalFrom origin signal)
        ∧ ∀ raw ∈ other.rawFrames.pending, RawFrameFrom origin raw := by
  intro other hother
  rcases List.mem_or_eq_of_mem_set hother with hmem | heq
  . exact h.sources other hmem
  . rw [heq]
    exact hsource

theorem produce (h : s.Traced origin) (k : Nat) : (s.produce k).Traced origin := by
  unfold Pipeline.produce
  split
  . exact h
  . rename_i source hget
    have ⟨hsignals, hraws⟩ := h.sources source (List.mem_of_getElem? hget)
    split
    . have ⟨hqueue, hpending⟩ := TracedQueue.offer_forall h.signals hsignals
      constructor
      . exact hqueue
      . exact h.rawFrames
      . exact h.activeDTCs
      . exact h.setSource ⟨hpending, hraws⟩
      . exact h.inspection
      . exact h.phase
      . exact h.offered
      . exact h.uploads
    . have ⟨hqueue, hpending⟩ := TracedQueue.offer_forall h.rawFrames hraws
      constructor
      . exact h.signals
      . exact hqueue
      . exact h.activeDTCs
      . exact h.setSource ⟨hsignals, hpending⟩
      . exact h.inspection
      . exact h.phase
      . exact h.offered
      . exact h.uploads

theorem withInspection (h : s.Traced origin) {s' : Pipeline V}
    (hframe : s'.mSignalBuffer.queue = s.mSignalBuffer.queue ∧ s'.mCANBuffer.queue = s.mCANBuffer.queue
      ∧ s'.mActiveDTCBuffer = s.mActiveDTCBuffer ∧ s'.sources = s.sources)
    (hthread : s'.offered = s.offered ∧ s'.thread.uploads = s.thread.uploads)
    (hinspection : s'.inspection.From origin) (hphase : s'.phase.From origin)
    : s'.Traced origin := by
  obtain ⟨hsignals, hrawFrames, hactiveDTCs, hsources⟩ := hframe
  constructor
  . rw [hsignals]
    exact h.signals
  . rw [hrawFrames]
    exact h.rawFrames
  . rw [hactiveDTCs]
    exact h.activeDTCs
  . rw [hsources]
    exact h.sources
  . exact hinspection
  . exact hphase
  . rw [hthread.1]
    exact h.offered
  . rw [hthread.2]
    exact h.uploads

theorem pops (h : s.Traced origin) (input : PassInput V)
    (hphase : s.phase = .popsSignal ∨ s.phase = .popsCANFrame ∨ s.phase = .popsActiveDTCs)
    : (s.inspect input).Traced origin := by
  unfold Pipeline.inspect
  rcases hphase with hphase | hphase | hphase
  . rw [hphase]
    dsimp only
    cases hpop : s.mSignalBuffer.pop with
    | none => exact h.withInspection ⟨rfl, rfl, rfl, rfl⟩ ⟨rfl, rfl⟩ h.inspection trivial
    | some popped =>
      obtain ⟨hfirst, hrest⟩ := TracedQueue.pop_forall h.signals hpop
      exact ⟨hrest, h.rawFrames, h.activeDTCs, h.sources, h.inspection, hfirst, h.offered, h.uploads⟩
  . rw [hphase]
    dsimp only
    cases hpop : s.mCANBuffer.pop with
    | none => exact h.withInspection ⟨rfl, rfl, rfl, rfl⟩ ⟨rfl, rfl⟩ h.inspection trivial
    | some popped =>
      obtain ⟨hfirst, hrest⟩ := TracedQueue.pop_forall h.rawFrames hpop
      exact ⟨h.signals, hrest, h.activeDTCs, h.sources, h.inspection, hfirst, h.offered, h.uploads⟩
  . rw [hphase]
    dsimp only
    cases hpop : s.mActiveDTCBuffer.pop with
    | none => exact h.withInspection ⟨rfl, rfl, rfl, rfl⟩ ⟨rfl, rfl⟩ h.inspection trivial
    | some popped =>
      have hall := h.activeDTCs
      rw [(BoundedQueue.elements_pop hpop).1] at hall
      have hfirst : ∀ dtcs, some popped.1 = some dtcs → origin.activeDTCs dtcs := by
        intro dtcs hsome
        rw [← Option.some_inj.mp hsome]
        exact hall popped.1 List.mem_cons_self
      exact ⟨h.signals, h.rawFrames, fun dtcs hmem => hall dtcs (List.mem_cons_of_mem _ hmem), h.sources,
        h.inspection.popActiveDTCs hfirst, trivial, h.offered, h.uploads⟩

theorem inspect (h : s.Traced origin) (input : PassInput V) : (s.inspect input).Traced origin := by
  have hfrom := h.phase
  cases hphase : s.phase with
  | popsSignal => exact h.pops input (Or.inl hphase)
  | popsCANFrame => exact h.pops input (Or.inr (Or.inl hphase))
  | popsActiveDTCs => exact h.pops input (Or.inr (Or.inr hphase))
  | begins =>
    unfold Pipeline.inspect
    rw [hphase]
    refine h.withInspection ⟨rfl, rfl, rfl, rfl⟩ ⟨rfl, rfl⟩ h.inspection ?_
    dsimp only
    split <;> trivial
  | takesMatrix =>
    unfold Pipeline.inspect
    rw [hphase]
    exact h.withInspection ⟨rfl, rfl, rfl, rfl⟩ ⟨rfl, rfl⟩
      ⟨h.inspection.worker.takeMatrix input.order, h.inspection.log⟩ trivial
  | checksMatrix =>
    unfold Pipeline.inspect
    rw [hphase]
    dsimp only
    cases s.inspection.worker.fUpdatedInspectionMatrix with
    | none => exact h.withInspection ⟨rfl, rfl, rfl, rfl⟩ ⟨rfl, rfl⟩ h.inspection trivial
    | some matrix =>
      exact h.withInspection ⟨rfl, rfl, rfl, rfl⟩ ⟨rfl, rfl⟩
        ⟨h.inspection.worker, fun data hdata => by cases hdata⟩ trivial
  | uncountsSignal inputSignal =>
    rw [hphase] at hfrom
    have hinput : ∀ signal, some inputSignal = some signal → SignalFrom origin signal := by
      intro signal hsome
      rw [← Option.some_inj.mp hsome]
      exact hfrom
    unfold Pipeline.inspect
    rw [hphase]
    dsimp only
    exact h.withInspection ⟨rfl, rfl, rfl, rfl⟩ ⟨rfl, rfl⟩ (h.inspection.popSignal hinput) trivial
  | uncountsCANFrame inputCANFrame =>
    rw [hphase] at hfrom
    have hinput : ∀ raw, some inputCANFrame = some raw → RawFrameFrom origin raw := by
      intro raw hsome
      rw [← Option.some_inj.mp hsome]
      exact hfrom
    unfold Pipeline.inspect
    rw [hphase]
    dsimp only
    exact h.withInspection ⟨rfl, rfl, rfl, rfl⟩ ⟨rfl, rfl⟩ (h.inspection.popCANFrame hinput) trivial
  | evaluates =>
    unfold Pipeline.inspect
    rw [hphase]
    exact h.withInspection ⟨rfl, rfl, rfl, rfl⟩ ⟨rfl, rfl⟩
      ((h.inspection.evaluateInput _).evaluateBeforeSleep _ _) trivial
  | collects =>
    obtain ⟨hengine, hcollects⟩ := h.inspection.worker.engine.collectNextDataToSend input.collectTime
    unfold Pipeline.inspect
    rw [hphase]
    refine h.withInspection ⟨rfl, rfl, rfl, rfl⟩ ⟨rfl, rfl⟩
      ⟨⟨hengine, h.inspection.worker.matrix⟩, h.inspection.log⟩ ?_
    dsimp only
    split
    . split <;> trivial
    . next i collectedData hdata =>
      split
      . split <;> trivial
      . exact hcollects i collectedData hdata
  | pushes collectedData =>
    rw [hphase] at hfrom
    unfold Pipeline.inspect
    rw [hphase]
    refine ⟨h.signals, h.rawFrames, h.activeDTCs, h.sources, h.inspection, ?_, ?_, h.uploads⟩
    . dsimp only
      split <;> trivial
    . intro offered hmem
      rw [List.mem_append, List.mem_singleton] at hmem
      cases hmem with
      | inl hold => exact h.offered offered hold
      | inr hnew =>
        rw [hnew]
        exact hfrom
  | notifies =>
    unfold Pipeline.inspect
    rw [hphase]
    exact h.withInspection ⟨rfl, rfl, rfl, rfl⟩ ⟨rfl, rfl⟩ h.inspection trivial
  | sleeps =>
    unfold Pipeline.inspect
    rw [hphase]
    exact h.withInspection ⟨rfl, rfl, rfl, rfl⟩ ⟨rfl, rfl⟩ h.inspection trivial
  | checksStop =>
    unfold Pipeline.inspect
    rw [hphase]
    refine h.withInspection ⟨rfl, rfl, rfl, rfl⟩ ⟨rfl, rfl⟩
      ⟨⟨h.inspection.worker.engine, h.inspection.worker.matrix⟩, h.inspection.log⟩ ?_
    dsimp only
    split <;> trivial
  | ended =>
    unfold Pipeline.inspect
    rw [hphase]
    exact h

end Steps

theorem consume (h : s.Traced s.origin) (k : Nat) (dictionary : CANDecoderDictionary V)
    (message : VehicleDataMessage) (behind : Nat → UInt8)
    : (s.consume k dictionary message behind).Traced (s.consume k dictionary message behind).origin := by
  unfold Pipeline.consume
  split
  . exact h
  . rename_i source hget
    split
    . have hle : s.origin.Le (Pipeline.origin { s with
          frames := s.frames ++ [⟨source.mDataSourceID, dictionary, message, behind⟩] }) := by
        constructor
        . exact fun m hm => hm
        . rintro id value receiveTime ⟨signal, ⟨frame, hframe, hsignal⟩ | hresponse, hid, hvalue, htime⟩
          . exact ⟨signal, Or.inl ⟨frame, List.mem_append_left _ hframe, hsignal⟩, hid, hvalue, htime⟩
          . exact ⟨signal, Or.inr hresponse, hid, hvalue, htime⟩
        . rintro frameID channelID bytes receiveTime ⟨frame, hframe, hrest⟩
          exact ⟨frame, List.mem_append_left _ hframe, hrest⟩
        . exact fun activeDTCs hmem => hmem
      have hmore := h.mono hle
      constructor
      . exact hmore.signals
      . exact hmore.rawFrames
      . exact hmore.activeDTCs
      . apply hmore.setSource
        constructor
        . intro signal hsignal
          apply signalFrom_of_received
          exact Or.inl ⟨_, List.mem_append_right _ (List.mem_singleton_self _), hsignal⟩
        . intro raw hraw
          exact rawFrameFrom_of_mem (List.mem_append_right _ (List.mem_singleton_self _)) hraw
      . exact hmore.inspection
      . exact hmore.phase
      . exact hmore.offered
      . exact hmore.uploads
    . exact h

theorem respond (h : s.Traced s.origin) (k : Nat) (signals : List (CollectedSignal V))
    : (s.respond k signals).Traced (s.respond k signals).origin := by
  unfold Pipeline.respond
  split
  . exact h
  . rename_i source hget
    split
    . have hle : s.origin.Le (Pipeline.origin { s with responses := s.responses ++ signals }) := by
        constructor
        . exact fun m hm => hm
        . rintro id value receiveTime ⟨signal, hframe | hresponse, hid, hvalue, htime⟩
          . exact ⟨signal, Or.inl hframe, hid, hvalue, htime⟩
          . exact ⟨signal, Or.inr (List.mem_append_left _ hresponse), hid, hvalue, htime⟩
        . exact fun frameID channelID bytes receiveTime hframe => hframe
        . exact fun activeDTCs hmem => hmem
      have hmore := h.mono hle
      constructor
      . exact hmore.signals
      . exact hmore.rawFrames
      . exact hmore.activeDTCs
      . apply hmore.setSource
        constructor
        . intro signal hsignal
          apply signalFrom_of_received
          exact Or.inr (List.mem_append_right _ hsignal)
        . exact (hmore.sources source (List.mem_of_getElem? hget)).2
      . exact hmore.inspection
      . exact hmore.phase
      . exact hmore.offered
      . exact hmore.uploads
    . exact h

theorem report (h : s.Traced s.origin) (activeDTCs : DTCInfo)
    : (s.step libraries connectivity (.report activeDTCs)).Traced
        (s.step libraries connectivity (.report activeDTCs)).origin := by
  have hle : s.origin.Le (s.step libraries connectivity (.report activeDTCs)).origin := by
    constructor
    . exact fun m hm => hm
    . exact fun id value receiveTime hsignal => hsignal
    . exact fun frameID channelID bytes receiveTime hframe => hframe
    . exact fun activeDTCs hmem => List.mem_append_left _ hmem
  have hmore := h.mono hle
  constructor
  . exact hmore.signals
  . exact hmore.rawFrames
  . intro dtcs hdtcs
    have hmem : dtcs ∈ (s.mActiveDTCBuffer.push activeDTCs).1.elements := hdtcs
    cases hpush : (s.mActiveDTCBuffer.push activeDTCs).2 with
    | true =>
      rw [BoundedQueue.elements_push_accepted hpush, List.mem_append, List.mem_singleton] at hmem
      cases hmem with
      | inl hold => exact hmore.activeDTCs dtcs hold
      | inr hnew =>
        rw [hnew]
        exact List.mem_append_right _ (List.mem_singleton_self _)
    | false =>
      rw [(BoundedQueue.elements_push_full hpush).1] at hmem
      exact hmore.activeDTCs dtcs hmem
  . exact hmore.sources
  . exact hmore.inspection
  . exact hmore.phase
  . exact hmore.offered
  . exact hmore.uploads

theorem upload (h : s.Traced s.origin) (action : EngineAction)
    : (s.step libraries connectivity (.upload action)).Traced
        (s.step libraries connectivity (.upload action)).origin :=
  ⟨h.signals, h.rawFrames, h.activeDTCs, h.sources, h.inspection, h.phase, h.offered,
    EngineThread.act_uploads s.thread s.mCollectedDataReadyToPublish action h.uploads⟩

theorem onChangeInspectionMatrix (h : s.Traced s.origin) (activeConditions : InspectionMatrix V)
    : (s.onChangeInspectionMatrix activeConditions).Traced (s.onChangeInspectionMatrix activeConditions).origin := by
  have hle : s.origin.Le (s.onChangeInspectionMatrix activeConditions).origin := by
    constructor
    . exact fun m hm => List.mem_append_left _ hm
    . exact fun id value receiveTime hsignal => hsignal
    . exact fun frameID channelID bytes receiveTime hframe => hframe
    . exact fun activeDTCs hmem => hmem
  have hmore := h.mono hle
  have hnew : ∀ m, some activeConditions = some m → m ∈ (s.onChangeInspectionMatrix activeConditions).matrices := by
    intro m hm
    rw [← Option.some_inj.mp hm]
    exact List.mem_append_right _ (List.mem_singleton_self _)
  exact hmore.withInspection ⟨rfl, rfl, rfl, rfl⟩ ⟨rfl, rfl⟩
    ⟨hmore.inspection.worker.onChangeInspectionMatrix hnew, hmore.inspection.log⟩ hmore.phase

theorem inspectNew (h : s.Traced s.origin) (input : PassInput V)
    : (s.inspect input).Traced (s.inspect input).origin := by
  have horigin : (s.inspect input).origin = s.origin := by
    unfold Pipeline.inspect
    split <;> try rfl
    all_goals split <;> rfl
  rw [horigin]
  exact h.inspect input

theorem produceNew (h : s.Traced s.origin) (k : Nat) : (s.produce k).Traced (s.produce k).origin := by
  have horigin : (s.produce k).origin = s.origin := by
    unfold Pipeline.produce
    split
    . rfl
    . split
      . rfl
      . rfl
  rw [horigin]
  exact h.produce k

theorem step (h : s.Traced s.origin) (event : Event V)
    : (s.step libraries connectivity event).Traced (s.step libraries connectivity event).origin := by
  cases event with
  | consume k dictionary message behind => exact h.consume k dictionary message behind
  | respond k signals => exact h.respond k signals
  | produce k => exact h.produceNew k
  | report activeDTCs => exact h.report activeDTCs
  | onChangeInspectionMatrix activeConditions => exact h.onChangeInspectionMatrix activeConditions
  | inspect input => exact h.inspectNew input
  | upload action => exact h.upload action

theorem run (h : s.Traced s.origin) (events : List (Event V))
    : (s.run libraries connectivity events).Traced (s.run libraries connectivity events).origin := by
  induction events generalizing s with
  | nil => exact h
  | cons event events ih => exact ih (h.step event)

theorem start (config : Config) (mRandomNumbers : Nat → V) (engine : IoTFleetWiseEngine V)
    : (Pipeline.start config mRandomNumbers engine).Traced (Pipeline.start config mRandomNumbers engine).origin := by
  constructor
  . exact fun signal hmem => by cases hmem
  . exact fun raw hmem => by cases hmem
  . exact fun activeDTCs hmem => by cases hmem
  . intro source hsource
    obtain ⟨mDataSourceID, _, heq⟩ := List.mem_map.mp hsource
    rw [← heq]
    constructor
    . exact fun signal hmem => by cases hmem
    . exact fun raw hmem => by cases hmem
  . refine ⟨?_, fun data hmem => by cases hmem⟩
    unfold Pipeline.start init
    dsimp only
    split
    . exact ⟨⟨Or.inl rfl, Or.inl rfl⟩, by simp⟩
    . exact ⟨⟨Or.inl rfl, Or.inl rfl⟩, by simp⟩
  . trivial
  . exact fun data hmem => by cases hmem
  . exact fun event hmem => by cases hmem

end Traced

/--
A condition of the campaign asked for everything that the payload has, and all of it came in.
-/
def Explains (s : Pipeline V) (translator : CANInterfaceIDTranslator) (payload : VehicleData V) : Prop :=
  ∃ m ∈ s.matrices, ∃ condition ∈ m.conditions,
    payload.campaign_arn = condition.metaData.collectionSchemeID
      ∧ payload.decoder_arn = condition.metaData.decoderID
      ∧ (∀ captured ∈ payload.captured_signals,
          (∃ info ∈ condition.collectedSignals, captured.signal_id = info.signalID)
            ∧ ∃ signal, s.Received signal
              ∧ captured = capturedSignal payload.collection_event_time_ms_epoch signal)
      ∧ (∀ sent ∈ payload.can_frames, ∃ frame ∈ s.frames, frame.rawFrames ≠ []
          ∧ (∃ info ∈ condition.canFrames,
              info.frameID = u32 frame.message.mID ∧ info.channelID = frame.mDataSourceID)
          ∧ sent.message_id = u32 frame.message.mID
          ∧ sent.interface_id = translator.getInterfaceID frame.mDataSourceID
          ∧ sent.relative_time_ms
              = relativeTime frame.message.mTimestamp payload.collection_event_time_ms_epoch
          ∧ sent.byte_values <+: frame.message.mRawData)
      ∧ ∀ code ∈ payload.activeDtcCodes, condition.includeActiveDtcs = true
          ∧ ∃ report ∈ s.reports, code ∈ report.mDTCCodes

theorem explains_of_payloadOf {translator : CANInterfaceIDTranslator} {data : TriggeredCollectionSchemeData V}
    {payload : VehicleData V} (hdata : s.origin.Collects data) (h : PayloadOf translator data payload)
    : s.Explains translator payload := by
  obtain ⟨m, condition, hm, hcondition, hfrom⟩ := hdata
  refine ⟨m, hm, condition, hcondition, ?_, ?_, ?_, ?_, ?_⟩
  . rw [h.campaign, hfrom.metaData]
  . rw [h.decoder, hfrom.metaData]
  . intro captured hcaptured
    obtain ⟨stored, hstored, heq⟩ := h.signals captured hcaptured
    obtain ⟨⟨info, hinfo, hid⟩, signal, hreceived, hsignalID, hvalue, htime⟩ := hfrom.signals stored hstored
    rw [heq, h.triggerTime]
    refine ⟨⟨info, hinfo, hid⟩, signal, hreceived, ?_⟩
    unfold capturedSignal
    rw [hsignalID, hvalue, htime]
  . intro sent hsent
    obtain ⟨raw, hraw, heq⟩ := h.canFrames sent hsent
    obtain ⟨⟨info, hinfo, hframeID, hchannelID⟩, frame, hframe, hne, hid, hchannel, htime, hbytes⟩ :=
      hfrom.canFrames raw hraw
    rw [heq, h.triggerTime]
    refine ⟨frame, hframe, hne, ⟨info, hinfo, ?_, ?_⟩, hid, ?_, ?_, hbytes⟩
    . rw [← hframeID, hid]
    . rw [← hchannelID, hchannel]
    . unfold rawCanFrame
      dsimp only
      rw [hchannel]
    . unfold rawCanFrame
      dsimp only
      rw [htime]
  . intro code hcode
    have hmem := h.dtcs code hcode
    rcases hfrom.activeDTCs with hnone | ⟨hincludes, hreport⟩
    . rw [hnone] at hmem
      cases hmem
    . exact ⟨hincludes, data.mDTCInfo, hreport, hmem⟩

theorem explains_of_transmission {mTopicName : String} {mMaximumIotSDKHeapMemoryBytes : Nat}
    {mMaxPersistencePartitionSize : { size : Nat // size < 2 ^ 64 }} {maxMessageCount interval : Nat}
    {canIDTranslator : CANInterfaceIDTranslator} (htraced : s.Traced s.origin)
    (hdelivers : s.Delivers libraries connectivity (.new mTopicName mMaximumIotSDKHeapMemoryBytes
      mMaxPersistencePartitionSize maxMessageCount canIDTranslator) interval)
    {t : Transmission V} (ht : t ∈ s.thread.engine.mDataCollectionSender.transmissions)
    : s.Explains canIDTranslator t.payload := by
  rw [hdelivers.thread.uploads] at ht
  rcases IoTFleetWiseEngine.run_transmissions _ htraced.uploads ht with hbefore | ⟨data, hdata, hpayload⟩
  . cases hbefore
  . apply explains_of_payloadOf _ hpayload
    apply htraced.offered
    apply hdelivers.accepted.subset
    rw [hdelivers.sent]
    exact List.mem_append_left _ hdata

/--
Whatever the order of the atomic steps of all threads, and whatever matrices were handed over in between:
every payload that was transmitted names a campaign with a condition that asked for each of its signals, raw
frames and DTC codes; each signal was decoded from a frame that was consumed, or came from the OBD thread, with
its value and its time; each raw frame is the beginning of a consumed frame of this ID and interface; and each
DTC code was reported.
-/
theorem provenance (config : Config) (mRandomNumbers : Nat → V) (mTopicName : String)
    (mMaximumIotSDKHeapMemoryBytes : Nat) (mMaxPersistencePartitionSize : { size : Nat // size < 2 ^ 64 })
    (maxMessageCount : Nat) (canIDTranslator : CANInterfaceIDTranslator) (events : List (Event V))
    : let s := (start config mRandomNumbers (.new mTopicName mMaximumIotSDKHeapMemoryBytes
        mMaxPersistencePartitionSize maxMessageCount canIDTranslator)).run libraries connectivity events
      ∀ t ∈ s.thread.engine.mDataCollectionSender.transmissions, s.Explains canIDTranslator t.payload := by
  intro s t ht
  have htraced : s.Traced s.origin := (Traced.start config mRandomNumbers _).run events
  exact explains_of_transmission htraced ((Delivers.start config mRandomNumbers _).run events) ht

section Example

def rawMatrix : InspectionMatrix Rat where
  conditions :=
    [{ condition := some 0
       minimumPublishInterval := 0
       afterDuration := 0
       signals := []
       canFrames := [⟨256, 1, 10, 0⟩]
       includeActiveDtcs := false
       triggerOnlyOnRisingEdge := false
       probabilityToSend := 1
       metaData := {}
       imageCollectionInfos := []
       includeImageCapture := false }]
  expressionNodeStorage := [{ nodeType := .BOOLEAN, floatingValue := 0, booleanValue := true }]

def rawDictionary : CANDecoderDictionary Rat where
  canMessageDecoderMethod := fun canChannelID =>
    if canChannelID = 1 then
      some fun canRawFrameID => if canRawFrameID = 256 then some ⟨.RAW, {}⟩ else none
    else
      none
  signalIDsToCollect := fun _ => false

def rawLibraries : Libraries Rat where
  Compress := id
  Uncompress := some
  SerializeToString := fun _ => some [1]

theorem noPartition : 0 < 2 ^ 64 := by decide

def rawPipeline : Pipeline Rat :=
  start ⟨10, 10, 10, 10, 0, false, 0, [1]⟩ (fun _ => 0)
    (.new "topic" 0 ⟨0, noPartition⟩ 5 ((CANInterfaceIDTranslator.empty.add "can0").add "can1"))

def rawEvents : List (Event Rat) :=
  [.onChangeInspectionMatrix rawMatrix, .consume 0 rawDictionary ⟨256, [0xDE, 0xAD, 0xBE], 5⟩ fun _ => 0,
    .produce 0, .produce 0] ++
  List.replicate 11 (.inspect { order := .inserted Rat, evaluationTime := 6, collectTime := 6 }) ++
  [.upload (.computeWait 0), .upload .wake, .upload .consume]

example : (rawPipeline.run rawLibraries (fun _ => ⟨true, 0⟩) rawEvents
    ).thread.engine.mDataCollectionSender.transmissions.map (·.payload.can_frames)
      = [[⟨-1, 256, "can1", [0xDE, 0xAD, 0xBE]⟩]] := by
  decide +kernel

end Example

end Pipeline
