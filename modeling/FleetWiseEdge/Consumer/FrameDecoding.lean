import FleetWiseEdge.Consumer.Impl.CANFrames
import FleetWiseEdge.Decoding.Lemmas.CANDecoder

namespace DataInspection

open Cpp DataManagement CANDecoder

namespace CANDataConsumerWorker

variable {V : Type} [CANSignalValue V]

def misfits (format : CANMessageFormat V) (signalIDsToCollect : SignalID → Bool)
    (message : VehicleDataMessage) (behind : Nat → UInt8)
    : Nat :=
  let frameData := message.frameData behind
  format.mSignals.countP fun signal =>
    isSelected signalIDsToCollect (filterGroup frameData format signalIDsToCollect) signal
      && !isInRange (u32 (message.mRawData.length * 8)) signal

/--
A signal to collect that fits the frame, and that belongs to its group if the decoder filters by one.
-/
def Fitting (format : CANMessageFormat V) (signalIDsToCollect : SignalID → Bool)
    (message : VehicleDataMessage) (behind : Nat → UInt8) (signal : CANSignalFormat V)
    : Prop :=
  HasMultiplexor format ∧ signal ∈ format.mSignals
    ∧ isSelected signalIDsToCollect
        (filterGroup (message.frameData behind) format signalIDsToCollect) signal = true
    ∧ isInRange (u32 (message.mRawData.length * 8)) signal = true

variable {consumer : CANDataConsumerWorker V} {dictionary : CANDecoderDictionary V}
variable {method : CANMessageDecoderMethod V} {message : VehicleDataMessage} {behind : Nat → UInt8}
variable {buffer : BoundedQueue (CollectedSignal V)}

def PushesFitting (consumer : CANDataConsumerWorker V) (dictionary : CANDecoderDictionary V)
    (format : CANMessageFormat V) (message : VehicleDataMessage) (behind : Nat → UInt8)
    (buffer : BoundedQueue (CollectedSignal V))
    : Prop :=
  ∀ signal, Fitting format dictionary.signalIDsToCollect message behind signal →
    ∃ pushed, (consumer.consumeMessage dictionary message behind).mSignalBufferPtr.map (·.elements)
          = some (buffer.elements ++ pushed)
        ∧ collectedSignal message (decodedSignal (message.frameData behind) signal) ∈ pushed

structure DecodesWith (consumer : CANDataConsumerWorker V) (dictionary : CANDecoderDictionary V)
    (method : CANMessageDecoderMethod V) (message : VehicleDataMessage)
    (buffer : BoundedQueue (CollectedSignal V)) : Prop where
  entry : (dictionary.canMessageDecoderMethod consumer.mDataSourceID).bind (· (u32 message.mID))
    = some method
  decode : method.collectType ≠ .RAW
  valid : method.format.isValid = true
  signalBuffer : consumer.mSignalBufferPtr = some buffer
  room : buffer.elements.length + (method.format.mSignals.length + 1) ≤ buffer.capacity

theorem consumeMessage_eq (h : DecodesWith consumer dictionary method message buffer)
    : consumer.consumeMessage dictionary message behind
        =
      collectSignals (consumer.collectRawFrame method.collectType message) method
        dictionary.signalIDsToCollect message behind := by
  have hentry := h.entry
  rw [Option.bind_eq_some_iff] at hentry
  have ⟨methods, hmethods, hmethod⟩ := hentry
  unfold consumeMessage
  rw [hmethods]
  dsimp only
  rw [hmethod]

omit [CANSignalValue V] in
theorem mSignalBufferPtr_collectRawFrame (message : VehicleDataMessage)
    (collectType : CANMessageCollectType)
    : (consumer.collectRawFrame collectType message).mSignalBufferPtr = consumer.mSignalBufferPtr := by
  unfold collectRawFrame
  split <;> rfl

theorem failedEntries_length (signalIDsToCollect : SignalID → Bool) (format : CANMessageFormat V)
    : (failedEntries (message.frameData behind) message.mRawData.length format
        signalIDsToCollect).length
        =
      misfits format signalIDsToCollect message behind := by
  unfold failedEntries misfits
  rw [← List.countP_eq_length_filter]
  conv =>
    rhs
    rw [← List.zipIdx_map_fst 0 format.mSignals]
  rw [List.countP_map]
  rfl

theorem elements_collectSignals {signalIDsToCollect : SignalID → Bool}
    (hbuffer : consumer.mSignalBufferPtr = some buffer) (hdecode : method.collectType ≠ .RAW)
    (hvalid : method.format.isValid = true)
    (hroom : buffer.elements.length + (method.format.mSignals.length + 1) ≤ buffer.capacity)
    : (consumer.collectSignals method signalIDsToCollect message behind).mSignalBufferPtr.map (·.elements)
        =
      let decoded := decodeCANMessage (message.frameData behind) message.mRawData.length method.format
        signalIDsToCollect
      some (buffer.elements
        ++ if decoded.2 then decoded.1.mSignals.map (collectedSignal message) else []) := by
  have hlength := @mSignals_length_le V _ (message.frameData behind) message.mRawData.length
    signalIDsToCollect method.format
  have helements
      : (buffer.pushAll ((decodeCANMessage (message.frameData behind) message.mRawData.length
            method.format signalIDsToCollect).1.mSignals.map (collectedSignal message))).elements
          =
        buffer.elements ++ (decodeCANMessage (message.frameData behind) message.mRawData.length
          method.format signalIDsToCollect).1.mSignals.map (collectedSignal message) := by
    apply BoundedQueue.elements_pushAll
    rw [List.length_map]
    omega
  unfold collectSignals
  rw [hbuffer]
  split
  . contradiction
  . contradiction
  . next heq _ =>
    rw [Option.some.injEq] at heq
    rw [if_pos hvalid]
    dsimp only
    split
    . rw [Option.map_some, ← heq, helements]
    . rw [hbuffer, Option.map_some, List.append_nil]

theorem decodeCANMessage_return {format : CANMessageFormat V} (hfound : HasMultiplexor format)
    (signalIDsToCollect : SignalID → Bool)
    : (decodeCANMessage (message.frameData behind) message.mRawData.length format signalIDsToCollect).2
        =
      decide (misfits format signalIDsToCollect message behind % 256 = 0) := by
  rw [decodeCANMessage_eq _ _ _ hfound]
  dsimp only
  rw [failedEntries_length, Bool.eq_iff_iff, beq_iff_eq, decide_eq_true_eq]
  rw [← UInt8.toNat_inj, UInt8.toNat_ofNat']
  rfl

theorem mem_mSignals_of_fitting {format : CANMessageFormat V} {signalIDsToCollect : SignalID → Bool}
    {signal : CANSignalFormat V} (hfitting : Fitting format signalIDsToCollect message behind signal)
    : decodedSignal (message.frameData behind) signal
        ∈ (decodeCANMessage (message.frameData behind) message.mRawData.length format
            signalIDsToCollect).1.mSignals := by
  have ⟨hfound, hmem, hselected, hrange⟩ := hfitting
  have ⟨idx, hidx⟩ := List.mem_iff_getElem?.mp hmem
  rw [decodeCANMessage_eq _ _ _ hfound]
  dsimp only
  rw [List.mem_append]
  right
  rw [List.mem_map]
  refine ⟨(signal, idx), ?_, rfl⟩
  rw [mem_loopEntries_iff]
  exact ⟨hidx, hselected, hrange⟩

theorem partial_decode_failure (h : DecodesWith consumer dictionary method message buffer)
    : PushesFitting consumer dictionary method.format message behind buffer
        ↔
      misfits method.format dictionary.signalIDsToCollect message behind % 256 = 0
        ∨ ∀ signal, ¬ Fitting method.format dictionary.signalIDsToCollect message behind signal := by
  have hptr := (mSignalBufferPtr_collectRawFrame message method.collectType).trans h.signalBuffer
  unfold PushesFitting
  rw [consumeMessage_eq h, elements_collectSignals hptr h.decode h.valid h.room]
  dsimp only
  constructor
  . intro hpushes
    rw [or_iff_not_imp_right, not_forall]
    intro ⟨signal, hfitting⟩
    rw [not_not] at hfitting
    have ⟨pushed, heq, hmem⟩ := hpushes signal hfitting
    rw [decodeCANMessage_return hfitting.1] at heq
    by_contra hmisfits
    rw [decide_eq_false hmisfits, if_neg Bool.false_ne_true] at heq
    rw [Option.some.injEq, List.append_cancel_left_eq] at heq
    rw [← heq] at hmem
    contradiction
  . intro hcondition signal hfitting
    have hmisfits := hcondition.resolve_right (by intro hnone; exact hnone signal hfitting)
    refine ⟨_, rfl, ?_⟩
    rw [decodeCANMessage_return hfitting.1, decide_eq_true hmisfits, if_pos rfl]
    exact List.mem_map_of_mem (mem_mSignals_of_fitting hfitting)

def twoSignals : CANMessageFormat Rat where
  mMessageID := 0x100
  mSizeInBytes := 2
  mSignals := [⟨1, false, false, 0, 8, 0, 1, false, 255⟩, ⟨2, false, false, 8, 8, 0, 1, false, 255⟩]

def twoSignalsConsumer : CANDataConsumerWorker Rat := ⟨1, some (.empty 16), none⟩

def twoSignalsDictionary : CANDecoderDictionary Rat :=
  ⟨fun _ => true, fun _ => some fun _ => some ⟨.DECODE, twoSignals⟩⟩

theorem decodesWith_twoSignals (message : VehicleDataMessage)
    : DecodesWith twoSignalsConsumer twoSignalsDictionary ⟨.DECODE, twoSignals⟩ message (.empty 16) where
  entry := rfl
  decode := by decide
  valid := rfl
  signalBuffer := rfl
  room := by decide

theorem partial_decode_failure_example
    : PushesFitting twoSignalsConsumer twoSignalsDictionary twoSignals ⟨0x100, [1, 2], 7⟩ (fun _ => 0)
        (.empty 16) := by
  apply (partial_decode_failure (decodesWith_twoSignals _)).mpr
  left
  decide

theorem partial_decode_failure_counterexample
    : ¬ (∀ (consumer : CANDataConsumerWorker Rat) (dictionary : CANDecoderDictionary Rat)
          (method : CANMessageDecoderMethod Rat) (message : VehicleDataMessage) (behind : Nat → UInt8)
          (buffer : BoundedQueue (CollectedSignal Rat)),
            DecodesWith consumer dictionary method message buffer →
              PushesFitting consumer dictionary method.format message behind buffer) := by
  intro h
  have hpushes := h twoSignalsConsumer twoSignalsDictionary ⟨.DECODE, twoSignals⟩ ⟨0x100, [1], 7⟩
    (fun _ => 0) (.empty 16) (decodesWith_twoSignals _)
  have hnothing
      : (twoSignalsConsumer.consumeMessage twoSignalsDictionary ⟨0x100, [1], 7⟩
          fun _ => 0).mSignalBufferPtr.map (·.elements) = some [] := by decide +kernel
  have hfitting
      : Fitting twoSignals twoSignalsDictionary.signalIDsToCollect ⟨0x100, [1], 7⟩ (fun _ => 0)
          ⟨1, false, false, 0, 8, 0, 1, false, 255⟩ := by
    refine ⟨?_, by decide, by decide, by decide⟩
    intro hmultiplexed
    contradiction
  have ⟨pushed, heq, hmem⟩ := hpushes _ hfitting
  rw [hnothing, Option.some.injEq] at heq
  have hpushed : pushed = [] := (List.append_eq_nil_iff.mp heq.symm).2
  rw [hpushed] at hmem
  contradiction

end CANDataConsumerWorker

end DataInspection
