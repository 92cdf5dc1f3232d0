import FleetWiseEdge.Upload.Lemmas.Sender

namespace DataManagement

open Cpp DataInspection VehicleDataMsg OffboardConnectivity

def delivered {V : Type} (transmissions : List (Transmission V)) : List (VehicleData V) :=
  (transmissions.filter fun t => t.result = some .Success).map (·.payload)

def DataCollectionSender.since {V σ : Type} (sender before : DataCollectionSender V σ)
    : List (Transmission V) :=
  sender.transmissions.drop before.transmissions.length

structure CarryAll {V : Type} (translator : CANInterfaceIDTranslator) (threshold : Nat)
    (data : TriggeredCollectionSchemeData V) (payloads : List (VehicleData V))
    : Prop where
  signals
    : payloads.flatMap (·.captured_signals) = data.signals.map (capturedSignal data.triggerTime)
  canFrames
    : payloads.flatMap (·.can_frames) = data.canFrames.map (rawCanFrame translator data.triggerTime)
  dtcs : payloads.flatMap (·.activeDtcCodes) = data.mDTCInfo.mDTCCodes
  geohash
    : payloads.flatMap (·.geohash.toList)
        =
      if data.mGeohashInfo.hasItems then [geohashProto data.mGeohashInfo] else []
  messages : ∀ payload ∈ payloads, 1 ≤ payload.messages ∧ payload.messages ≤ threshold
  origin
    : ∀ payload ∈ payloads,
        payload.campaign_arn = data.metaData.collectionSchemeID
          ∧
        payload.decoder_arn = data.metaData.decoderID
          ∧
        payload.collection_event_id = data.eventID
          ∧
        payload.collection_event_time_ms_epoch = data.triggerTime

section Carries

variable {V : Type} {translator : CANInterfaceIDTranslator} {data : TriggeredCollectionSchemeData V}
variable {payload : VehicleData V} {payloads : List (VehicleData V)} {chunk : List (Item V)}
variable {chunks : List (List (Item V))}

theorem length_items (chunk : List (Item V))
    : (chunk.filterMap Item.signal?).length + (chunk.filterMap Item.canFrame?).length
          + (chunk.filterMap Item.dtc?).length + (chunk.filterMap Item.geohash?).length
        =
      chunk.length := by
  induction chunk with
  | nil => rfl
  | cons item chunk ih =>
    simp only [List.length_cons, List.filterMap_cons]
    cases item <;> simp only [Item.signal?, Item.canFrame?, Item.dtc?, Item.geohash?, List.length_cons]
      <;> omega

theorem Carries.messages (h : Carries translator data payload chunk) : payload.messages = chunk.length := by
  rw [← length_items chunk]
  simp [VehicleData.messages, h.signals, h.canFrames, h.dtcs, h.geohash]

theorem flatMap_of_carries {α β : Type} {part : VehicleData V → List β} {kind : Item V → Option α}
    (encode : α → β)
    (hpart : ∀ payload chunk, Carries translator data payload chunk →
      part payload = (chunk.filterMap kind).map encode)
    (h : List.Forall₂ (Carries translator data) payloads chunks)
    : payloads.flatMap part = (chunks.flatten.filterMap kind).map encode := by
  induction h with
  | nil => rfl
  | cons hcarries _ ih =>
    rw [List.flatMap_cons, List.flatten_cons, List.filterMap_append, List.map_append]
    rw [ih, hpart _ _ hcarries]

theorem exists_chunk_of_mem (h : List.Forall₂ (Carries translator data) payloads chunks)
    (hmem : payload ∈ payloads)
    : ∃ chunk ∈ chunks, Carries translator data payload chunk := by
  induction h with
  | nil => simp at hmem
  | cons hcarries _ ih =>
    rw [List.mem_cons] at hmem
    cases hmem with
    | inl heq =>
      rw [heq]
      exact ⟨_, by simp, hcarries⟩
    | inr hrest =>
      have ⟨chunk, hchunk, hcarries⟩ := ih hrest
      exact ⟨chunk, by simp [hchunk], hcarries⟩

theorem carryAll_of_chunks {threshold : Nat}
    (h : List.Forall₂ (Carries translator data) payloads chunks)
    (hflatten : chunks.flatten = items data)
    (hbounded : ∀ chunk ∈ chunks, 1 ≤ chunk.length ∧ chunk.length ≤ threshold)
    : CarryAll translator threshold data payloads := by
  constructor
  . rw [flatMap_of_carries _ (fun _ _ hcarries => hcarries.signals) h]
    rw [hflatten, items_signals]
  . rw [flatMap_of_carries _ (fun _ _ hcarries => hcarries.canFrames) h]
    rw [hflatten, items_canFrames]
  . rw [flatMap_of_carries id (fun _ _ hcarries => by rw [hcarries.dtcs, List.map_id]) h]
    rw [hflatten, items_dtcs, List.map_id]
  . rw [flatMap_of_carries _ (fun _ _ hcarries => hcarries.geohash) h]
    rw [hflatten, items_geohash]
    split <;> rfl
  . intro payload hmem
    have ⟨chunk, hchunk, hcarries⟩ := exists_chunk_of_mem h hmem
    rw [hcarries.messages]
    apply hbounded chunk hchunk
  . intro payload hmem
    have ⟨chunk, _, hcarries⟩ := exists_chunk_of_mem h hmem
    exact ⟨hcarries.campaign, hcarries.decoder, hcarries.eventID, hcarries.triggerTime⟩

end Carries

theorem delivered_of_success {V : Type} {transmissions : List (Transmission V)}
    (h : ∀ t ∈ transmissions, t.result = some .Success)
    : delivered transmissions = transmissions.map (·.payload) := by
  unfold delivered
  rw [List.filter_eq_self.mpr]
  intro t hmem
  simp [h t hmem]

section RelativeTime

variable (receiveTime triggerTime : Nat)

theorem relativeTime_add_triggerTime
    : u64OfInt (relativeTime receiveTime triggerTime + triggerTime) = u64 receiveTime
        ∧
      (receiveTime < 2 ^ 63 → triggerTime < 2 ^ 63 →
        relativeTime receiveTime triggerTime + triggerTime = receiveTime) := by
  constructor
  . apply u64OfInt_i64_sub_add
  . intro hreceive htrigger
    apply i64_sub_add_of_lt hreceive htrigger

end RelativeTime

/--
`send` delivers all that was collected, each part once and in order, in payloads of at least one and at
most `mTransmitThreshold` messages.
-/
theorem send_delivers_all {V σ : Type} (libraries : Libraries V) (channel : ISender σ)
    (sender : DataCollectionSender V σ) (data : TriggeredCollectionSchemeData V)
    (hsuccess : ∀ t ∈ (sender.send libraries channel data).since sender, t.result = some .Success)
    : CarryAll sender.mProtoWriter.mIDTranslator sender.mTransmitThreshold data
          (delivered ((sender.send libraries channel data).since sender))
        ∧
      (∀ signal ∈ data.signals,
        u64OfInt ((capturedSignal data.triggerTime signal).relative_time_ms + data.triggerTime)
          = u64 signal.receiveTime
        ∧ (signal.receiveTime < 2 ^ 63 → data.triggerTime < 2 ^ 63 →
          (capturedSignal data.triggerTime signal).relative_time_ms + data.triggerTime
            = signal.receiveTime))
        ∧
      (∀ frame ∈ data.canFrames,
        u64OfInt ((rawCanFrame sender.mProtoWriter.mIDTranslator data.triggerTime frame).relative_time_ms
          + data.triggerTime) = u64 frame.receiveTime
        ∧ (frame.receiveTime < 2 ^ 63 → data.triggerTime < 2 ^ 63 →
          (rawCanFrame sender.mProtoWriter.mIDTranslator data.triggerTime frame).relative_time_ms
            + data.triggerTime = frame.receiveTime)) := by
  constructor
  . have ⟨sent, htransmissions, hcarries⟩ := sender.send_cuts libraries channel data
    have hsince : (sender.send libraries channel data).since sender = sent := by
      rw [DataCollectionSender.since, htransmissions, List.drop_left]
    rw [delivered_of_success hsuccess, hsince]
    have hempty := @Chunking.bounded_empty (Item V) _ sender.mTransmitThreshold.property.1
    apply carryAll_of_chunks hcarries
    . rw [Chunking.flatten_finish, Chunking.items_foldl]
      rfl
    . apply hempty.foldl.finish
  . constructor
    . intro signal _
      simp only [capturedSignal]
      apply relativeTime_add_triggerTime
    . intro frame _
      simp only [rawCanFrame]
      apply relativeTime_add_triggerTime

section Example

def collectedExample : TriggeredCollectionSchemeData Rat where
  metaData := { collectionSchemeID := "scheme", decoderID := "decoder" }
  triggerTime := 1000
  signals :=
    [{ signalID := 7, receiveTime := 990, value := 1 },
      { signalID := 8, receiveTime := 1000, value := 2 },
      { signalID := 7, receiveTime := 1010, value := 3 }]
  canFrames :=
    [{ frameID := 0x123, channelId := 0, receiveTime := 995, data := Vector.replicate 8 0xAA, size := 2 }]
  mDTCInfo := { receiveTime := 980, mDTCCodes := ["P0143", "C0196"] }
  mGeohashInfo := { mGeohashString := "9q9hwg28j" }
  eventID := 42

def channelExample : ISender Unit where
  send := fun _ _ _ => ((), .Success)

def librariesExample : Libraries Rat where
  Compress := id
  Uncompress := some
  SerializeToString := fun _ => some [1]

def senderExample : DataCollectionSender Rat Unit :=
  .new () 2 (CANInterfaceIDTranslator.empty.add "can0")

theorem send_delivers_all_seven
    : CarryAll (({} : CANInterfaceIDTranslator).add "can0") 2 collectedExample
        (delivered
          ((senderExample.send librariesExample channelExample collectedExample).since senderExample)) :=
  (send_delivers_all librariesExample channelExample senderExample collectedExample (by decide)).1

end Example

end DataManagement
