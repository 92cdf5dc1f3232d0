import FleetWiseEdge.Manager.Impl.Documents
import FleetWiseEdge.Types.Upload

namespace DataManagement

open Cpp DataInspection VehicleDataMsg

def relativeTime (receiveTime triggerTime : Nat) : Int := i64 (i64 receiveTime - i64 triggerTime)

def capturedSignal {V : Type} (triggerTime : Nat) (msg : CollectedSignal V) : CapturedSignal V where
  relative_time_ms := relativeTime msg.receiveTime triggerTime
  signal_id := msg.signalID
  double_value := msg.value

def rawCanFrame (translator : CANInterfaceIDTranslator) (triggerTime : Nat) (msg : CollectedCanRawFrame)
    : CanFrame where
  relative_time_ms := relativeTime msg.receiveTime triggerTime
  message_id := msg.frameID
  interface_id := translator.getInterfaceID msg.channelId
  byte_values := msg.data.toList.take msg.size

def geohashProto (geohashInfo : GeohashInfo) : Geohash where
  geohash_string := geohashInfo.mGeohashString
  prev_reported_geohash_string := geohashInfo.mPrevReportedGeohashString

structure DataCollectionProtoWriter (V : Type) where
  mTriggerTime : Nat := 0
  mVehicleDataMsgCount : Nat := 0
  mVehicleData : VehicleData V := {}
  mIDTranslator : CANInterfaceIDTranslator

namespace DataCollectionProtoWriter

variable {V : Type}

def setupVehicleData (writer : DataCollectionProtoWriter V) (data : TriggeredCollectionSchemeData V)
    (collectionEventID : Nat)
    : DataCollectionProtoWriter V :=
  { writer with
    mVehicleDataMsgCount := 0
    mVehicleData :=
      { campaign_arn := data.metaData.collectionSchemeID
        decoder_arn := data.metaData.decoderID
        collection_event_id := collectionEventID
        collection_event_time_ms_epoch := data.triggerTime }
    mTriggerTime := data.triggerTime }

def appendSignal (writer : DataCollectionProtoWriter V) (msg : CollectedSignal V)
    : DataCollectionProtoWriter V :=
  { writer with
    mVehicleDataMsgCount := u32 (writer.mVehicleDataMsgCount + 1)
    mVehicleData := { writer.mVehicleData with
      captured_signals :=
        writer.mVehicleData.captured_signals ++ [capturedSignal writer.mTriggerTime msg] } }

def appendCanFrame (writer : DataCollectionProtoWriter V) (msg : CollectedCanRawFrame)
    : DataCollectionProtoWriter V :=
  { writer with
    mVehicleDataMsgCount := u32 (writer.mVehicleDataMsgCount + 1)
    mVehicleData := { writer.mVehicleData with
      can_frames :=
        writer.mVehicleData.can_frames ++ [rawCanFrame writer.mIDTranslator writer.mTriggerTime msg] } }

def setupDTCInfo (writer : DataCollectionProtoWriter V) (msg : DTCInfo) : DataCollectionProtoWriter V :=
  -- `mutable_dtc_data` makes the message if there is none yet
  let dtcData := writer.mVehicleData.dtc_data.getD {}
  { writer with
    mVehicleData := { writer.mVehicleData with
      dtc_data :=
        some { dtcData with relative_time_ms := relativeTime msg.receiveTime writer.mTriggerTime } } }

def appendDTC (writer : DataCollectionProtoWriter V) (dtc : String) : DataCollectionProtoWriter V :=
  let dtcData := writer.mVehicleData.dtc_data.getD {}
  { writer with
    mVehicleDataMsgCount := u32 (writer.mVehicleDataMsgCount + 1)
    mVehicleData := { writer.mVehicleData with
      dtc_data := some { dtcData with active_dtc_codes := dtcData.active_dtc_codes ++ [dtc] } } }

def appendGeohash (writer : DataCollectionProtoWriter V) (geohashInfo : GeohashInfo)
    : DataCollectionProtoWriter V :=
  { writer with
    mVehicleDataMsgCount := u32 (writer.mVehicleDataMsgCount + 1)
    mVehicleData := { writer.mVehicleData with geohash := some (geohashProto geohashInfo) } }

def getVehicleDataMsgCount (writer : DataCollectionProtoWriter V) : Nat := writer.mVehicleDataMsgCount

end DataCollectionProtoWriter

end DataManagement
