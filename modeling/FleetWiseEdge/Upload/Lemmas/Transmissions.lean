import FleetWiseEdge.Upload.Chunks
import FleetWiseEdge.Upload.Lemmas.EngineThread

namespace DataManagement

open Cpp DataInspection VehicleDataMsg OffboardConnectivity

structure PayloadOf {V : Type} (translator : CANInterfaceIDTranslator)
    (data : TriggeredCollectionSchemeData V) (payload : VehicleData V)
    : Prop where
  campaign : payload.campaign_arn = data.metaData.collectionSchemeID
  decoder : payload.decoder_arn = data.metaData.decoderID
  triggerTime : payload.collection_event_time_ms_epoch = data.triggerTime
  signals
    : ∀ captured ∈ payload.captured_signals, ∃ signal ∈ data.signals,
        captured = capturedSignal data.triggerTime signal
  canFrames
    : ∀ sent ∈ payload.can_frames, ∃ frame ∈ data.canFrames,
        sent = rawCanFrame translator data.triggerTime frame
  dtcs : ∀ code ∈ payload.activeDtcCodes, code ∈ data.mDTCInfo.mDTCCodes

theorem PayloadOf.ofCarries {V : Type} {translator : CANInterfaceIDTranslator}
    {data : TriggeredCollectionSchemeData V} {payload : VehicleData V} {chunk : List (Item V)}
    (h : Carries translator data payload chunk) (hitems : ∀ item ∈ chunk, item ∈ items data)
    : PayloadOf translator data payload := by
  constructor
  . exact h.campaign
  . exact h.decoder
  . exact h.triggerTime
  . rw [h.signals, ← items_signals data]
    intro captured hcaptured
    obtain ⟨signal, hsignal, heq⟩ := List.mem_map.mp hcaptured
    obtain ⟨item, hitem, hkind⟩ := List.mem_filterMap.mp hsignal
    exact ⟨signal, List.mem_filterMap.mpr ⟨item, hitems item hitem, hkind⟩, heq.symm⟩
  . rw [h.canFrames, ← items_canFrames data]
    intro sent hsent
    obtain ⟨frame, hframe, heq⟩ := List.mem_map.mp hsent
    obtain ⟨item, hitem, hkind⟩ := List.mem_filterMap.mp hframe
    exact ⟨frame, List.mem_filterMap.mpr ⟨item, hitems item hitem, hkind⟩, heq.symm⟩
  . rw [h.dtcs, ← items_dtcs data]
    intro code hcode
    obtain ⟨item, hitem, hkind⟩ := List.mem_filterMap.mp hcode
    exact List.mem_filterMap.mpr ⟨item, hitems item hitem, hkind⟩

namespace DataCollectionSender

variable {V σ : Type} {libraries : Libraries V} {channel : ISender σ}

section Translator

variable {data : TriggeredCollectionSchemeData V}

def translator (sender : DataCollectionSender V σ) : CANInterfaceIDTranslator :=
  sender.mProtoWriter.mIDTranslator

theorem serializeAndTransmit_translator (sender : DataCollectionSender V σ)
    : (sender.serializeAndTransmit libraries channel).translator = sender.translator := by
  have ⟨_, _, _, heq⟩ := serializeAndTransmit_sender libraries channel sender
  rw [heq]
  rfl

theorem flushIfFull_translator (sender : DataCollectionSender V σ)
    {setupNext : DataCollectionProtoWriter V → DataCollectionProtoWriter V}
    (hnext : ∀ writer, (setupNext writer).mIDTranslator = writer.mIDTranslator)
    : (flushIfFull libraries channel data sender setupNext).translator = sender.translator := by
  unfold flushIfFull
  split
  . unfold translator
    dsimp only
    rw [hnext]
    exact serializeAndTransmit_translator sender
  . rfl

theorem foldl_translator {α : Type} {append : DataCollectionSender V σ → α → DataCollectionSender V σ}
    (happend : ∀ sender a, (append sender a).translator = sender.translator) (as : List α)
    (sender : DataCollectionSender V σ)
    : (as.foldl append sender).translator = sender.translator := by
  induction as generalizing sender with
  | nil => rfl
  | cons a as ih => rw [List.foldl_cons, ih, happend]

theorem appendDTCInfo_translator (sender : DataCollectionSender V σ)
    : (appendDTCInfo libraries channel data sender).translator = sender.translator := by
  unfold appendDTCInfo
  split
  . apply foldl_translator
    intro sender dtc
    apply flushIfFull_translator
    intro writer
    rfl
  . rfl

theorem appendGeohashInfo_translator (sender : DataCollectionSender V σ)
    : (appendGeohashInfo libraries channel data sender).translator = sender.translator := by
  unfold appendGeohashInfo
  split
  . apply flushIfFull_translator
    intro writer
    rfl
  . rfl

theorem send_translator (sender : DataCollectionSender V σ) (data : TriggeredCollectionSchemeData V)
    : (sender.send libraries channel data).translator = sender.translator := by
  have hsignals : ∀ (signals : List (CollectedSignal V)) (sender : DataCollectionSender V σ),
      (signals.foldl (appendSignal libraries channel data) sender).translator = sender.translator := by
    intro signals sender
    apply foldl_translator
    intro sender signal
    apply flushIfFull_translator
    intro writer
    rfl
  have hframes : ∀ (frames : List CollectedCanRawFrame) (sender : DataCollectionSender V σ),
      (frames.foldl (appendCanFrame libraries channel data) sender).translator = sender.translator := by
    intro frames sender
    apply foldl_translator
    intro sender frame
    apply flushIfFull_translator
    intro writer
    rfl
  unfold send
  dsimp only
  split
  . rw [serializeAndTransmit_translator, appendGeohashInfo_translator, appendDTCInfo_translator, hframes, hsignals]
    rfl
  . rw [appendGeohashInfo_translator, appendDTCInfo_translator, hframes, hsignals]
    rfl

end Translator

theorem send_payloads (sender : DataCollectionSender V σ) (data : TriggeredCollectionSchemeData V)
    {t : Transmission V} (ht : t ∈ (sender.send libraries channel data).transmissions)
    : t ∈ sender.transmissions ∨ PayloadOf sender.translator data t.payload := by
  have ⟨sent, htransmissions, hcarries⟩ := sender.send_cuts libraries channel data
  rw [htransmissions, List.mem_append] at ht
  cases ht with
  | inl hbefore => exact Or.inl hbefore
  | inr hnew =>
    have ⟨chunk, hchunk, hcarry⟩ := exists_chunk_of_mem hcarries (List.mem_map_of_mem hnew)
    apply Or.inr
    apply PayloadOf.ofCarries hcarry
    intro item hitem
    have hflatten := List.mem_flatten.mpr ⟨chunk, hchunk, hitem⟩
    rw [Chunking.flatten_finish, Chunking.items_foldl] at hflatten
    exact hflatten

end DataCollectionSender

end DataManagement

namespace ExecutionManagement

open DataInspection DataManagement OffboardConnectivity

def IoTFleetWiseEngine.UploadEvent.ofThread {V : Type} (event : IoTFleetWiseEngine.UploadEvent V) : Bool :=
  match event with
  | .send _ => true
  | .checkAndSendRetrievedData _ => true
  | _ => false

namespace IoTFleetWiseEngine

variable {V : Type} {libraries : Libraries V} {connectivity : Nat → Connectivity}

theorem transmitAll_transmissions (sender : DataCollectionSender V AwsIotChannel) (payloads : List Bytes)
    : (transmitAll libraries connectivity sender payloads).1.transmissions = sender.transmissions
        ∧
      (transmitAll libraries connectivity sender payloads).1.translator = sender.translator := by
  induction payloads generalizing sender with
  | nil => exact ⟨rfl, rfl⟩
  | cons payload payloads ih =>
    unfold transmitAll
    dsimp only
    split
    . exact ⟨rfl, rfl⟩
    . exact ih _

theorem checkAndSendRetrievedData_transmissions (libraries : Libraries V) (connectivity : Nat → Connectivity)
    (engine : IoTFleetWiseEngine V) (memory : Nat → UInt8)
    : (engine.checkAndSendRetrievedData libraries connectivity memory).1.mDataCollectionSender.transmissions
          = engine.mDataCollectionSender.transmissions
        ∧
      (engine.checkAndSendRetrievedData libraries connectivity memory).1.mDataCollectionSender.translator
          = engine.mDataCollectionSender.translator := by
  unfold checkAndSendRetrievedData
  dsimp only
  split
  . split
    . exact transmitAll_transmissions _ _
    . exact transmitAll_transmissions _ _
  . exact ⟨rfl, rfl⟩
  . exact ⟨rfl, rfl⟩

theorem run_transmissions (engine : IoTFleetWiseEngine V) {uploads : List (UploadEvent V)}
    (hthread : ∀ event ∈ uploads, event.ofThread = true) {t : Transmission V}
    (ht : t ∈ (engine.run libraries connectivity uploads).mDataCollectionSender.transmissions)
    : t ∈ engine.mDataCollectionSender.transmissions
        ∨
      ∃ data ∈ sentData uploads, PayloadOf engine.mDataCollectionSender.translator data t.payload := by
  induction uploads generalizing engine with
  | nil => exact Or.inl ht
  | cons event uploads ih =>
    have hrest := ih (engine.step libraries connectivity event) (fun e he => hthread e (by simp [he])) ht
    cases event with
    | send data =>
      have htranslator : (engine.step libraries connectivity (.send data)).mDataCollectionSender.translator
          = engine.mDataCollectionSender.translator := DataCollectionSender.send_translator _ data
      rw [htranslator] at hrest
      rcases hrest with hbefore | ⟨later, hlater, hpayload⟩
      . rcases DataCollectionSender.send_payloads _ data hbefore with hold | hpayload
        . exact Or.inl hold
        . exact Or.inr ⟨data, by simp [sentData, UploadEvent.sent?], hpayload⟩
      . refine Or.inr ⟨later, ?_, hpayload⟩
        unfold sentData at hlater ⊢
        rw [List.filterMap_cons]
        exact List.mem_cons_of_mem data hlater
    | checkAndSendRetrievedData memory =>
      obtain ⟨htransmissions, htranslator⟩ :=
        checkAndSendRetrievedData_transmissions libraries connectivity engine memory
      unfold step at hrest
      dsimp only at hrest
      rw [htransmissions, htranslator] at hrest
      exact hrest
    | storeDocument buf dataType hne => cases hthread (.storeDocument buf dataType hne) (by simp)
    | restart maxMessageCount canIDTranslator => cases hthread (.restart maxMessageCount canIDTranslator) (by simp)

end IoTFleetWiseEngine

namespace EngineThread

variable {V : Type} {libraries : Libraries V} {connectivity : Nat → Connectivity}

theorem act_uploads (thread : EngineThread V) (queue : BoundedQueue (TriggeredCollectionSchemeData V))
    (action : EngineAction) (h : ∀ event ∈ thread.uploads, event.ofThread = true)
    : ∀ event ∈ (thread.act libraries connectivity queue action).1.uploads, event.ofThread = true := by
  have hmore : ∀ more : IoTFleetWiseEngine.UploadEvent V, more.ofThread = true →
      ∀ event ∈ thread.uploads ++ [more], event.ofThread = true := by
    intro more hnew event hevent
    rw [List.mem_append, List.mem_singleton] at hevent
    cases hevent with
    | inl hold => exact h event hold
    | inr heq =>
      rw [heq]
      exact hnew
  unfold EngineThread.act
  split
  . exact h
  . unfold EngineThread.wake
    split
    . exact h
    . split
      . exact h
      . exact h
  . unfold EngineThread.consume
    split
    . exact h
    . exact hmore _ rfl
  . unfold EngineThread.retry
    split
    . exact hmore _ rfl
    . exact h
  . exact h

end EngineThread

end ExecutionManagement
