import FleetWiseEdge.Lib.Chunking
import FleetWiseEdge.Upload.Impl.Sender

namespace DataManagement

open Cpp DataInspection VehicleDataMsg OffboardConnectivity

inductive Item (V : Type) where
  | signal (signal : CollectedSignal V)
  | canFrame (canFrame : CollectedCanRawFrame)
  | dtc (dtc : String)
  | geohash (geohashInfo : GeohashInfo)

namespace Item

variable {V : Type}

def signal? : Item V → Option (CollectedSignal V)
  | .signal msg => some msg
  | _ => none

def canFrame? : Item V → Option CollectedCanRawFrame
  | .canFrame msg => some msg
  | _ => none

def dtc? : Item V → Option String
  | .dtc code => some code
  | _ => none

def geohash? : Item V → Option GeohashInfo
  | .geohash info => some info
  | _ => none

end Item

section Items

variable {V : Type} (data : TriggeredCollectionSchemeData V)

def dtcItems : List (Item V) := data.mDTCInfo.mDTCCodes.map .dtc

def itemsBeforeGeohash : List (Item V) :=
  data.signals.map .signal ++ (data.canFrames.map .canFrame ++ dtcItems data)

def geohashItems : List (Item V) :=
  if data.mGeohashInfo.hasItems then [.geohash data.mGeohashInfo] else []

def items : List (Item V) := itemsBeforeGeohash data ++ geohashItems data

theorem itemsBeforeGeohash_geohash : (itemsBeforeGeohash data).filterMap Item.geohash? = [] := by
  simp [itemsBeforeGeohash, dtcItems, List.filterMap_map, Function.comp_def, Item.geohash?]

theorem items_signals : (items data).filterMap Item.signal? = data.signals := by
  unfold items itemsBeforeGeohash dtcItems geohashItems
  split <;> simp [List.filterMap_map, Function.comp_def, Item.signal?]

theorem items_canFrames : (items data).filterMap Item.canFrame? = data.canFrames := by
  unfold items itemsBeforeGeohash dtcItems geohashItems
  split <;> simp [List.filterMap_map, Function.comp_def, Item.canFrame?]

theorem items_dtcs : (items data).filterMap Item.dtc? = data.mDTCInfo.mDTCCodes := by
  unfold items itemsBeforeGeohash dtcItems geohashItems
  split <;> simp [List.filterMap_map, Function.comp_def, Item.dtc?]

theorem items_geohash
    : (items data).filterMap Item.geohash?
        =
      if data.mGeohashInfo.hasItems then [data.mGeohashInfo] else [] := by
  unfold items itemsBeforeGeohash dtcItems geohashItems
  split <;> simp [List.filterMap_map, Function.comp_def, Item.geohash?]

end Items

structure Carries {V : Type} (translator : CANInterfaceIDTranslator)
    (data : TriggeredCollectionSchemeData V) (payload : VehicleData V) (chunk : List (Item V))
    : Prop where
  campaign : payload.campaign_arn = data.metaData.collectionSchemeID
  decoder : payload.decoder_arn = data.metaData.decoderID
  eventID : payload.collection_event_id = data.eventID
  triggerTime : payload.collection_event_time_ms_epoch = data.triggerTime
  signals
    : payload.captured_signals = (chunk.filterMap Item.signal?).map (capturedSignal data.triggerTime)
  canFrames
    : payload.can_frames
        =
      (chunk.filterMap Item.canFrame?).map (rawCanFrame translator data.triggerTime)
  dtcs : payload.activeDtcCodes = chunk.filterMap Item.dtc?
  geohash : payload.geohash.toList = (chunk.filterMap Item.geohash?).map geohashProto

structure Writes {V : Type} (translator : CANInterfaceIDTranslator)
    (data : TriggeredCollectionSchemeData V) (writer : DataCollectionProtoWriter V)
    (chunk : List (Item V))
    : Prop where
  payload : Carries translator data writer.mVehicleData chunk
  count : writer.mVehicleDataMsgCount = chunk.length
  triggerTime : writer.mTriggerTime = data.triggerTime
  translator : writer.mIDTranslator = translator

namespace Writes

variable {V : Type} {translator : CANInterfaceIDTranslator} {data : TriggeredCollectionSchemeData V}
variable {writer : DataCollectionProtoWriter V} {chunk : List (Item V)}

theorem setupVehicleData (h : writer.mIDTranslator = translator)
    : Writes translator data (writer.setupVehicleData data data.eventID) [] := by
  constructor
  . constructor <;> rfl
  . rfl
  . rfl
  . exact h

theorem setupDTCInfo (h : Writes translator data writer chunk) (info : DTCInfo)
    : Writes translator data (writer.setupDTCInfo info) chunk := by
  have hdtcs := h.payload.dtcs
  constructor
  . constructor
    . exact h.payload.campaign
    . exact h.payload.decoder
    . exact h.payload.eventID
    . exact h.payload.triggerTime
    . exact h.payload.signals
    . exact h.payload.canFrames
    . rw [← hdtcs]
      unfold DataCollectionProtoWriter.setupDTCInfo VehicleData.activeDtcCodes
      cases writer.mVehicleData.dtc_data <;> rfl
    . exact h.payload.geohash
  . exact h.count
  . exact h.triggerTime
  . exact h.translator

section Append

variable (hsmall : chunk.length < UINT_MAX)

include hsmall

theorem u32_count (h : Writes translator data writer chunk) (item : Item V)
    : u32 (writer.mVehicleDataMsgCount + 1) = (chunk ++ [item]).length := by
  rw [h.count, List.length_append, List.length_singleton]
  apply u32_of_lt
  unfold UINT_MAX at hsmall
  omega

theorem appendSignal (h : Writes translator data writer chunk) (signal : CollectedSignal V)
    : Writes translator data (writer.appendSignal signal) (chunk ++ [.signal signal]) := by
  constructor
  . constructor
    . exact h.payload.campaign
    . exact h.payload.decoder
    . exact h.payload.eventID
    . exact h.payload.triggerTime
    . simp [DataCollectionProtoWriter.appendSignal, h.payload.signals, h.triggerTime, Item.signal?]
    . simp [DataCollectionProtoWriter.appendSignal, h.payload.canFrames, Item.canFrame?]
    . rw [List.filterMap_append, ← h.payload.dtcs]
      simp [DataCollectionProtoWriter.appendSignal, VehicleData.activeDtcCodes, Item.dtc?]
    . simp [DataCollectionProtoWriter.appendSignal, h.payload.geohash, Item.geohash?]
  . apply h.u32_count hsmall
  . exact h.triggerTime
  . exact h.translator

theorem appendCanFrame (h : Writes translator data writer chunk) (canFrame : CollectedCanRawFrame)
    : Writes translator data (writer.appendCanFrame canFrame) (chunk ++ [.canFrame canFrame]) := by
  constructor
  . constructor
    . exact h.payload.campaign
    . exact h.payload.decoder
    . exact h.payload.eventID
    . exact h.payload.triggerTime
    . simp [DataCollectionProtoWriter.appendCanFrame, h.payload.signals, Item.signal?]
    . simp [DataCollectionProtoWriter.appendCanFrame, h.payload.canFrames, h.triggerTime, h.translator,
        Item.canFrame?]
    . rw [List.filterMap_append, ← h.payload.dtcs]
      simp [DataCollectionProtoWriter.appendCanFrame, VehicleData.activeDtcCodes, Item.dtc?]
    . simp [DataCollectionProtoWriter.appendCanFrame, h.payload.geohash, Item.geohash?]
  . apply h.u32_count hsmall
  . exact h.triggerTime
  . exact h.translator

theorem appendDTC (h : Writes translator data writer chunk) (dtc : String)
    : Writes translator data (writer.appendDTC dtc) (chunk ++ [.dtc dtc]) := by
  constructor
  . constructor
    . exact h.payload.campaign
    . exact h.payload.decoder
    . exact h.payload.eventID
    . exact h.payload.triggerTime
    . simp [DataCollectionProtoWriter.appendDTC, h.payload.signals, Item.signal?]
    . simp [DataCollectionProtoWriter.appendDTC, h.payload.canFrames, Item.canFrame?]
    . rw [List.filterMap_append, ← h.payload.dtcs]
      unfold DataCollectionProtoWriter.appendDTC VehicleData.activeDtcCodes
      cases writer.mVehicleData.dtc_data <;> simp [Item.dtc?]
    . simp [DataCollectionProtoWriter.appendDTC, h.payload.geohash, Item.geohash?]
  . apply h.u32_count hsmall
  . exact h.triggerTime
  . exact h.translator

theorem appendGeohash (h : Writes translator data writer chunk)
    (hnone : chunk.filterMap Item.geohash? = []) (geohashInfo : GeohashInfo)
    : Writes translator data (writer.appendGeohash geohashInfo) (chunk ++ [.geohash geohashInfo]) := by
  constructor
  . constructor
    . exact h.payload.campaign
    . exact h.payload.decoder
    . exact h.payload.eventID
    . exact h.payload.triggerTime
    . simp [DataCollectionProtoWriter.appendGeohash, h.payload.signals, Item.signal?]
    . simp [DataCollectionProtoWriter.appendGeohash, h.payload.canFrames, Item.canFrame?]
    . rw [List.filterMap_append, ← h.payload.dtcs]
      simp [DataCollectionProtoWriter.appendGeohash, VehicleData.activeDtcCodes, Item.dtc?]
    . simp [DataCollectionProtoWriter.appendGeohash, hnone, Item.geohash?]
  . apply h.u32_count hsmall
  . exact h.triggerTime
  . exact h.translator

end Append

end Writes

namespace DataCollectionSender

variable {V σ : Type} (libraries : Libraries V) (channel : ISender σ)

section Frame

variable (sender : DataCollectionSender V σ)

theorem transmitOutput_sender
    : (transmitOutput libraries channel sender).1
        =
      { sender with mSender := (transmitOutput libraries channel sender).1.mSender } := by
  unfold transmitOutput
  dsimp only
  split <;> rfl

theorem serializeAndTransmit_sender
    : ∃ mSender mProtoOutput result,
        sender.serializeAndTransmit libraries channel
          =
        { sender with
          mSender
          mProtoOutput
          transmissions :=
            sender.transmissions ++ [{ payload := sender.mProtoWriter.mVehicleData, result }] } := by
  unfold serializeAndTransmit
  dsimp only
  cases libraries.SerializeToString sender.mProtoWriter.mVehicleData with
  | none => exact ⟨sender.mSender, sender.mProtoOutput, none, rfl⟩
  | some mProtoOutput =>
    dsimp only
    rw [transmitOutput_sender]
    exact ⟨_, mProtoOutput, _, rfl⟩

end Frame

variable {sender : DataCollectionSender V σ} {data : TriggeredCollectionSchemeData V}

/--
Since it had sent `before`, the sender has sent the closed chunks, and it writes the open one.
-/
structure Cuts (translator : CANInterfaceIDTranslator) (data : TriggeredCollectionSchemeData V)
    (before : List (Transmission V)) (threshold : Nat) (sender : DataCollectionSender V σ)
    (chunks : Chunking (Item V))
    : Prop where
  writes : Writes translator data sender.mProtoWriter chunks.current
  sent : ∃ sent, sender.transmissions = before ++ sent
    ∧ List.Forall₂ (Carries translator data) (sent.map (·.payload)) chunks.closed
  limit : sender.mTransmitThreshold.val = threshold
  eventID : sender.mCollectionEventID = data.eventID
  bounded : chunks.Bounded threshold

section Cuts

variable {translator : CANInterfaceIDTranslator} {before : List (Transmission V)} {threshold : Nat}
variable {chunks : Chunking (Item V)}

theorem Cuts.small (h : Cuts translator data before threshold sender chunks)
    : chunks.current.length < UINT_MAX := by
  have hcurrent := h.bounded.current
  have hthreshold := sender.mTransmitThreshold.property.2
  rw [h.limit] at hthreshold
  omega

theorem Cuts.serializeAndTransmit_sent (sender : DataCollectionSender V σ)
    (hsent : ∃ sent, sender.transmissions = before ++ sent
      ∧ List.Forall₂ (Carries translator data) (sent.map (·.payload)) chunks.closed)
    {chunk : List (Item V)} (hwrites : Writes translator data sender.mProtoWriter chunk)
    : ∃ sent, (sender.serializeAndTransmit libraries channel).transmissions = before ++ sent
        ∧ List.Forall₂ (Carries translator data) (sent.map (·.payload)) (chunks.closed ++ [chunk]) := by
  have ⟨sent, htransmissions, hcarries⟩ := hsent
  have ⟨_, _, result, heq⟩ := sender.serializeAndTransmit_sender libraries channel
  exists sent ++ [{ payload := sender.mProtoWriter.mVehicleData, result }]
  constructor
  . rw [heq, htransmissions]
    simp
  . rw [List.map_append]
    apply List.rel_append hcarries
    apply List.Forall₂.cons hwrites.payload
    apply List.Forall₂.nil

theorem Cuts.flushIfFull (h : Cuts translator data before threshold sender chunks) {item : Item V}
    {writer : DataCollectionProtoWriter V}
    {setupNext : DataCollectionProtoWriter V → DataCollectionProtoWriter V}
    (happend : Writes translator data writer (chunks.current ++ [item]))
    (hnext : ∀ writer, Writes translator data writer [] → Writes translator data (setupNext writer) [])
    : Cuts translator data before threshold
        (flushIfFull libraries channel data { sender with mProtoWriter := writer } setupNext)
        (chunks.add threshold item) := by
  have hbounded := h.bounded.add item
  unfold DataCollectionSender.flushIfFull DataCollectionProtoWriter.getVehicleDataMsgCount
  simp only [happend.count, h.limit]
  by_cases hfull : (chunks.current ++ [item]).length ≥ threshold
  . rw [Chunking.add_full hfull] at hbounded ⊢
    rw [if_pos hfull]
    have hsent :=
      Cuts.serializeAndTransmit_sent libraries channel { sender with mProtoWriter := writer } h.sent
        happend
    have ⟨_, _, _, heq⟩ :=
      serializeAndTransmit_sender libraries channel { sender with mProtoWriter := writer }
    constructor
    . apply hnext
      rw [heq]
      simp only [DataCollectionSender.setupVehicleData, h.eventID]
      apply Writes.setupVehicleData
      exact happend.translator
    . exact hsent
    . rw [heq]
      exact h.limit
    . rw [heq]
      exact h.eventID
    . exact hbounded
  . rw [Chunking.add_open hfull] at hbounded ⊢
    rw [if_neg hfull]
    exact ⟨happend, h.sent, h.limit, h.eventID, hbounded⟩

theorem Cuts.appendSignal (h : Cuts translator data before threshold sender chunks)
    (signal : CollectedSignal V)
    : Cuts translator data before threshold (appendSignal libraries channel data sender signal)
        (chunks.add threshold (.signal signal)) := by
  apply h.flushIfFull
  . apply h.writes.appendSignal h.small
  . exact fun _ hwrites => hwrites

theorem Cuts.appendCanFrame (h : Cuts translator data before threshold sender chunks)
    (canFrame : CollectedCanRawFrame)
    : Cuts translator data before threshold (appendCanFrame libraries channel data sender canFrame)
        (chunks.add threshold (.canFrame canFrame)) := by
  apply h.flushIfFull
  . apply h.writes.appendCanFrame h.small
  . exact fun _ hwrites => hwrites

theorem Cuts.appendDTC (h : Cuts translator data before threshold sender chunks) (dtc : String)
    : Cuts translator data before threshold (appendDTC libraries channel data sender dtc)
        (chunks.add threshold (.dtc dtc)) := by
  apply h.flushIfFull
  . apply h.writes.appendDTC h.small
  . intro writer hwrites
    apply hwrites.setupDTCInfo

theorem Cuts.appendGeohash (h : Cuts translator data before threshold sender chunks)
    (hnone : chunks.items.filterMap Item.geohash? = []) (geohashInfo : GeohashInfo)
    : Cuts translator data before threshold (appendGeohash libraries channel data sender geohashInfo)
        (chunks.add threshold (.geohash geohashInfo)) := by
  apply h.flushIfFull
  . apply h.writes.appendGeohash h.small
    simp only [Chunking.items, List.filterMap_append, List.append_eq_nil_iff] at hnone
    exact hnone.2
  . exact fun _ hwrites => hwrites

theorem Cuts.foldl {α : Type} {append : DataCollectionSender V σ → α → DataCollectionSender V σ}
    {item : α → Item V}
    (happend : ∀ (sender : DataCollectionSender V σ) chunks a,
      Cuts translator data before threshold sender chunks →
      Cuts translator data before threshold (append sender a) (chunks.add threshold (item a)))
    (h : Cuts translator data before threshold sender chunks) (as : List α)
    : Cuts translator data before threshold (as.foldl append sender)
        ((as.map item).foldl (Chunking.add threshold) chunks) := by
  induction as generalizing sender chunks with
  | nil => exact h
  | cons a as ih =>
    rw [List.foldl_cons, List.map_cons, List.foldl_cons]
    apply ih
    apply happend sender chunks a h

theorem Cuts.appendDTCInfo (h : Cuts translator data before threshold sender chunks)
    : Cuts translator data before threshold (appendDTCInfo libraries channel data sender)
        ((dtcItems data).foldl (Chunking.add threshold) chunks) := by
  unfold DataCollectionSender.appendDTCInfo DTCInfo.hasItems dtcItems
  by_cases hempty : data.mDTCInfo.mDTCCodes.isEmpty
  . rw [List.isEmpty_iff.mp hempty]
    exact h
  . rw [if_pos (by simpa using hempty)]
    apply Cuts.foldl
    . intro sender chunks dtc h
      apply h.appendDTC
    . exact ⟨h.writes.setupDTCInfo data.mDTCInfo, h.sent, h.limit, h.eventID, h.bounded⟩

theorem Cuts.appendGeohashInfo (h : Cuts translator data before threshold sender chunks)
    (hnone : chunks.items.filterMap Item.geohash? = [])
    : Cuts translator data before threshold (appendGeohashInfo libraries channel data sender)
        ((geohashItems data).foldl (Chunking.add threshold) chunks) := by
  unfold DataCollectionSender.appendGeohashInfo geohashItems
  by_cases hitems : data.mGeohashInfo.hasItems
  . rw [if_pos hitems, if_pos hitems]
    apply h.appendGeohash libraries channel hnone
  . rw [if_neg hitems, if_neg hitems]
    exact h

end Cuts

theorem send_cuts (sender : DataCollectionSender V σ) (data : TriggeredCollectionSchemeData V)
    : ∃ sent, (sender.send libraries channel data).transmissions = sender.transmissions ++ sent
        ∧ List.Forall₂ (Carries sender.mProtoWriter.mIDTranslator data) (sent.map (·.payload))
            ((items data).foldl (Chunking.add sender.mTransmitThreshold) Chunking.empty).finish := by
  have hsetup
      : Cuts sender.mProtoWriter.mIDTranslator data sender.transmissions sender.mTransmitThreshold
          (({ sender with mCollectionEventID := data.eventID }.setCollectionSchemeParameters
            data).setupVehicleData data)
          Chunking.empty := by
    constructor
    . apply Writes.setupVehicleData
      rfl
    . exact ⟨[], by simp [setupVehicleData, setCollectionSchemeParameters], List.Forall₂.nil⟩
    . rfl
    . rfl
    . apply Chunking.bounded_empty
      exact sender.mTransmitThreshold.property.1
  have hsignals := hsetup.foldl
    (fun _ _ signal h => h.appendSignal libraries channel signal) data.signals
  have hcanFrames := hsignals.foldl
    (fun _ _ canFrame h => h.appendCanFrame libraries channel canFrame) data.canFrames
  have hdtcs := hcanFrames.appendDTCInfo libraries channel
  rw [← List.foldl_append, ← List.foldl_append] at hdtcs
  have hall := hdtcs.appendGeohashInfo libraries channel (by
    rw [Chunking.items_foldl]
    apply itemsBeforeGeohash_geohash)
  rw [← List.foldl_append] at hall
  have hcount := hall.writes.count
  unfold send Chunking.finish DataCollectionProtoWriter.getVehicleDataMsgCount items itemsBeforeGeohash
  dsimp only
  rw [hcount]
  split
  . apply Cuts.serializeAndTransmit_sent libraries channel _ hall.sent hall.writes
  . exact hall.sent

end DataCollectionSender

end DataManagement
