import FleetWiseEdge.Upload.Impl.ProtoWriter

/-!
This module contains `DataCollectionSender`, which cuts collected data into payloads and hands each of them
to the sender to the cloud. The debug output as JSON is left out.
-/

namespace DataManagement

open Cpp DataInspection VehicleDataMsg OffboardConnectivity

def UINT_MAX : Nat := 2 ^ 32 - 1

structure Libraries (V : Type) extends Snappy where
  SerializeToString : VehicleData V → Option Bytes

/--
What became of a payload: `none` if it could not be serialized, otherwise what `transmit` returned.
-/
structure Transmission (V : Type) where
  payload : VehicleData V
  result : Option ConnectivityError
  deriving DecidableEq, Repr

structure DataCollectionSender (V σ : Type) where
  mSender : σ
  mTransmitThreshold : { threshold : Nat // 0 < threshold ∧ threshold ≤ UINT_MAX }
  mProtoWriter : DataCollectionProtoWriter V
  mProtoOutput : Bytes := []
  mCollectionSchemeParams : CollectionSchemeParams := {}
  mCollectionEventID : Nat := 0
  transmissions : List (Transmission V) := []

def transmitThreshold (maxMessageCount : Nat)
    : { threshold : Nat // 0 < threshold ∧ threshold ≤ UINT_MAX } :=
  if h : u32 maxMessageCount > 0 then
    ⟨u32 maxMessageCount, h, by have := u32_lt maxMessageCount; unfold UINT_MAX; omega⟩
  else
    ⟨UINT_MAX, by decide⟩

namespace DataCollectionSender

variable {V σ : Type}

def new (mSender : σ) (maxMessageCount : Nat) (canIDTranslator : CANInterfaceIDTranslator)
    : DataCollectionSender V σ where
  mSender
  mTransmitThreshold := transmitThreshold maxMessageCount
  mProtoWriter := { mIDTranslator := canIDTranslator }

section Transmit

variable (libraries : Libraries V) (channel : ISender σ)

def payloadData (sender : DataCollectionSender V σ) : Bytes :=
  if sender.mCollectionSchemeParams.compression then
    libraries.Compress sender.mProtoOutput
  else
    sender.mProtoOutput

def transmitOutput (sender : DataCollectionSender V σ) : DataCollectionSender V σ × ConnectivityError :=
  let payloadData := payloadData libraries sender
  if sender.mCollectionSchemeParams.compression ∧ payloadData.length = 0 then
    (sender, .WrongInputData)
  else
    let (mSender, ret) := channel.send sender.mSender payloadData sender.mCollectionSchemeParams
    ({ sender with mSender }, ret)

def transmit (sender : DataCollectionSender V σ) (payload : Bytes)
    : DataCollectionSender V σ × ConnectivityError :=
  let (mSender, res) := channel.send sender.mSender payload {}
  ({ sender with mSender }, res)

def serializeAndTransmit (sender : DataCollectionSender V σ) : DataCollectionSender V σ :=
  let payload := sender.mProtoWriter.mVehicleData
  match libraries.SerializeToString payload with
  | none => { sender with transmissions := sender.transmissions ++ [{ payload, result := none }] }
  | some mProtoOutput =>
    let (sender, res) := transmitOutput libraries channel { sender with mProtoOutput }
    { sender with transmissions := sender.transmissions ++ [{ payload, result := some res }] }

end Transmit

def setCollectionSchemeParameters (sender : DataCollectionSender V σ)
    (data : TriggeredCollectionSchemeData V)
    : DataCollectionSender V σ :=
  { sender with
    mCollectionSchemeParams :=
      { persist := data.metaData.persist
        compression := data.metaData.compress
        priority := data.metaData.priority } }

def setupVehicleData (sender : DataCollectionSender V σ) (data : TriggeredCollectionSchemeData V)
    : DataCollectionSender V σ :=
  { sender with
    mProtoWriter := sender.mProtoWriter.setupVehicleData data sender.mCollectionEventID }

section Send

variable (libraries : Libraries V) (channel : ISender σ) (data : TriggeredCollectionSchemeData V)

/--
What `send` does after each `append`: a payload that reached the threshold is sent, and the next chunk is
set up.
-/
def flushIfFull (sender : DataCollectionSender V σ)
    (setupNext : DataCollectionProtoWriter V → DataCollectionProtoWriter V)
    : DataCollectionSender V σ :=
  if sender.mProtoWriter.getVehicleDataMsgCount ≥ sender.mTransmitThreshold then
    let sender := (sender.serializeAndTransmit libraries channel).setupVehicleData data
    { sender with mProtoWriter := setupNext sender.mProtoWriter }
  else
    sender

def appendSignal (sender : DataCollectionSender V σ) (signal : CollectedSignal V)
    : DataCollectionSender V σ :=
  flushIfFull libraries channel data
    { sender with mProtoWriter := sender.mProtoWriter.appendSignal signal } id

def appendCanFrame (sender : DataCollectionSender V σ) (canFrame : CollectedCanRawFrame)
    : DataCollectionSender V σ :=
  flushIfFull libraries channel data
    { sender with mProtoWriter := sender.mProtoWriter.appendCanFrame canFrame } id

def appendDTC (sender : DataCollectionSender V σ) (dtc : String) : DataCollectionSender V σ :=
  -- the next payload gets the DTC metadata again
  flushIfFull libraries channel data
    { sender with mProtoWriter := sender.mProtoWriter.appendDTC dtc }
    fun writer => writer.setupDTCInfo data.mDTCInfo

def appendGeohash (sender : DataCollectionSender V σ) (geohashInfo : GeohashInfo)
    : DataCollectionSender V σ :=
  flushIfFull libraries channel data
    { sender with mProtoWriter := sender.mProtoWriter.appendGeohash geohashInfo } id

def appendDTCInfo (sender : DataCollectionSender V σ) : DataCollectionSender V σ :=
  if data.mDTCInfo.hasItems then
    let sender := { sender with mProtoWriter := sender.mProtoWriter.setupDTCInfo data.mDTCInfo }
    data.mDTCInfo.mDTCCodes.foldl (appendDTC libraries channel data) sender
  else
    sender

def appendGeohashInfo (sender : DataCollectionSender V σ) : DataCollectionSender V σ :=
  if data.mGeohashInfo.hasItems then
    appendGeohash libraries channel data sender data.mGeohashInfo
  else
    sender

def send (sender : DataCollectionSender V σ) : DataCollectionSender V σ :=
  let sender := { sender with mCollectionEventID := data.eventID }
  let sender := sender.setCollectionSchemeParameters data
  let sender := sender.setupVehicleData data
  let sender := data.signals.foldl (appendSignal libraries channel data) sender
  let sender := data.canFrames.foldl (appendCanFrame libraries channel data) sender
  let sender := appendDTCInfo libraries channel data sender
  let sender := appendGeohashInfo libraries channel data sender
  if sender.mProtoWriter.getVehicleDataMsgCount ≥ 1 then
    sender.serializeAndTransmit libraries channel
  else
    sender

end Send

end DataCollectionSender

end DataManagement
