import FleetWiseEdge.Types.Expression

namespace DataInspection

open DataManagement

def MAX_NUMBER_OF_ACTIVE_CONDITION : Nat := 256

def ALL_CONDITIONS : Nat := 0xFFFFFFFF

def MAX_EQUATION_DEPTH : Nat := 10

def MAX_DIFFERENT_SIGNAL_IDS : Nat := 50000

def MAX_CAN_FRAME_BYTE_SIZE : Nat := 8

def MESSAGE_ID_NA : Nat := 0xFFFFFFFE

structure PassThroughMetaData where
  compress : Bool := false
  persist : Bool := false
  priority : Nat := 0
  decoderID : String := ""
  collectionSchemeID : String := ""
  deriving DecidableEq, Repr

inductive InspectionMatrixImageCollectionType where
  | TIME_BASED
  | FRAME_BASED
  | NONE
  deriving DecidableEq, Repr

structure InspectionMatrixImageCollectionInfo where
  deviceID : Nat
  imageFormat : Nat
  collectionType : InspectionMatrixImageCollectionType
  beforeDurationMs : Nat
  deriving DecidableEq, Repr

structure InspectionMatrixSignalCollectionInfo where
  signalID : SignalID
  sampleBufferSize : Nat
  minimumSampleIntervalMs : Nat
  fixedWindowPeriod : Nat
  isConditionOnlySignal : Bool
  deriving DecidableEq, Repr

structure InspectionMatrixCanFrameCollectionInfo where
  frameID : Nat
  channelID : Nat
  sampleBufferSize : Nat
  minimumSampleIntervalMs : Nat
  deriving DecidableEq, Repr

structure ConditionWithCollectedData (V : Type) where
  condition : ExpressionNodePtr
  minimumPublishInterval : Nat
  afterDuration : Nat
  signals : List InspectionMatrixSignalCollectionInfo
  canFrames : List InspectionMatrixCanFrameCollectionInfo
  includeActiveDtcs : Bool
  triggerOnlyOnRisingEdge : Bool
  probabilityToSend : V
  metaData : PassThroughMetaData
  imageCollectionInfos : List InspectionMatrixImageCollectionInfo
  includeImageCapture : Bool
  deriving DecidableEq, Repr

structure InspectionMatrix (V : Type) where
  conditions : List (ConditionWithCollectedData V)
  expressionNodeStorage : List (ExpressionNode V)
  deriving DecidableEq, Repr

structure CollectedSignal (V : Type) where
  messageID : Nat := MESSAGE_ID_NA
  signalID : SignalID
  receiveTime : Nat
  value : V
  deriving DecidableEq, Repr

abbrev CanFrameBytes := Vector UInt8 MAX_CAN_FRAME_BYTE_SIZE

structure CollectedCanRawFrame where
  frameID : Nat
  channelId : Nat
  receiveTime : Nat
  data : CanFrameBytes
  size : Nat
  deriving DecidableEq, Repr

structure DTCInfo where
  mSID : Nat := 0
  receiveTime : Nat := 0
  mDTCCodes : List String := []
  deriving DecidableEq, Repr

structure GeohashInfo where
  mGeohashString : String := ""
  mPrevReportedGeohashString : String := ""
  deriving DecidableEq, Repr

structure TriggeredCollectionSchemeData (V : Type) where
  metaData : PassThroughMetaData
  triggerTime : Nat
  signals : List (CollectedSignal V)
  canFrames : List CollectedCanRawFrame
  mDTCInfo : DTCInfo
  mGeohashInfo : GeohashInfo
  eventID : Nat
  deriving DecidableEq, Repr

structure EventMetadata where
  eventID : Nat
  sourceID : Nat
  negativeOffsetMs : Nat
  positiveOffsetMs : Nat
  deriving DecidableEq, Repr

end DataInspection
