import FleetWiseEdge.Types.Inspection

abbrev Bytes := List UInt8

namespace DataInspection

def DTCInfo.hasItems (info : DTCInfo) : Bool := !info.mDTCCodes.isEmpty

def GeohashInfo.hasItems (info : GeohashInfo) : Bool := info.mGeohashString.length > 0

end DataInspection

namespace VehicleDataMsg

structure CapturedSignal (V : Type) where
  relative_time_ms : Int
  signal_id : Nat
  double_value : V
  deriving DecidableEq, Repr

structure CanFrame where
  relative_time_ms : Int
  message_id : Nat
  interface_id : String
  byte_values : Bytes
  deriving DecidableEq, Repr

structure DtcData where
  relative_time_ms : Int := 0
  active_dtc_codes : List String := []
  deriving DecidableEq, Repr

structure Geohash where
  geohash_string : String
  prev_reported_geohash_string : String
  deriving DecidableEq, Repr

/--
An optional field is `none` as long as nothing asked for its `mutable_` accessor.
-/
structure VehicleData (V : Type) where
  campaign_arn : String := ""
  decoder_arn : String := ""
  collection_event_id : Nat := 0
  collection_event_time_ms_epoch : Nat := 0
  captured_signals : List (CapturedSignal V) := []
  dtc_data : Option DtcData := none
  can_frames : List CanFrame := []
  geohash : Option Geohash := none
  deriving DecidableEq, Repr

namespace VehicleData

variable {V : Type}

def activeDtcCodes (message : VehicleData V) : List String :=
  match message.dtc_data with
  | none => []
  | some dtcData => dtcData.active_dtc_codes

def messages (message : VehicleData V) : Nat :=
  message.captured_signals.length + message.can_frames.length + message.activeDtcCodes.length
    + message.geohash.toList.length

end VehicleData

end VehicleDataMsg

namespace OffboardConnectivity

structure CollectionSchemeParams where
  persist : Bool := false
  compression : Bool := false
  priority : Nat := 0
  deriving DecidableEq, Repr

inductive ConnectivityError where
  | Success
  | NoConnection
  | QuotaReached
  | NotConfigured
  | WrongInputData
  deriving DecidableEq, Repr

structure ISender (σ : Type) where
  send : σ → Bytes → CollectionSchemeParams → σ × ConnectivityError

structure Snappy where
  Compress : Bytes → Bytes
  Uncompress : Bytes → Option Bytes

end OffboardConnectivity

namespace PersistencyManagement

inductive ErrorCode where
  | SUCCESS
  | MEMORY_FULL
  | EMPTY
  | FILESYSTEM_ERROR
  | INVALID_DATATYPE
  | INVALID_DATA
  deriving DecidableEq, Repr

inductive DataType where
  | EDGE_TO_CLOUD_PAYLOAD
  | COLLECTION_SCHEME_LIST
  | DECODER_MANIFEST
  | DEFAULT_DATA_TYPE
  deriving DecidableEq, Repr

end PersistencyManagement
