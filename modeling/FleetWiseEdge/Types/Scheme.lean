import FleetWiseEdge.Types.Expression

namespace DataManagement

abbrev CANInterfaceID := String

abbrev CANRawFrameID := Nat

abbrev CANChannelNumericID := Nat

def INVALID_CAN_SOURCE_NUMERIC_ID : CANChannelNumericID := 0xFFFFFFFF

def INVALID_CAN_INTERFACE_ID : CANInterfaceID := ""

def INVALID_CAN_FRAME_ID : CANRawFrameID := 0xFFFFFFFF

inductive ImageCollectionType where
  | TIME_BASED
  | FRAME_BASED
  | NONE
  deriving DecidableEq, Repr

structure ImageCollectionInfo where
  deviceID : Nat := 0
  imageFormat : Nat := 0
  collectionType : ImageCollectionType := .NONE
  beforeDurationMs : Nat := 0
  deriving DecidableEq, Repr

structure SignalCollectionInfo where
  signalID : SignalID := 0
  sampleBufferSize : Nat := 0
  minimumSampleIntervalMs : Nat := 0
  fixedWindowPeriod : Nat := 0
  isConditionOnlySignal : Bool := false
  deriving DecidableEq, Repr

structure CanFrameCollectionInfo where
  frameID : CANRawFrameID := 0
  interfaceID : CANInterfaceID := INVALID_CAN_INTERFACE_ID
  sampleBufferSize : Nat := 0
  minimumSampleIntervalMs : Nat := 0
  deriving DecidableEq, Repr

structure ExpressionNodeData (V : Type) where
  nodeType : ExpressionNodeType
  floatingValue : V
  booleanValue : Bool := false
  signalID : SignalID := 0
  function : ExpressionFunction := {}
  deriving DecidableEq, Repr

/--
An `ExpressionNode` with the nodes below it. `null` is the null pointer, `address` is the value of a
pointer to the node.
-/
inductive ExpressionTree (V : Type) where
  | null
  | node (address : Nat) (data : ExpressionNodeData V) (left right : ExpressionTree V)
  deriving DecidableEq, Repr

structure CollectionScheme (V : Type) where
  collectionSchemeID : String
  decoderManifestID : String
  startTime : Nat
  expiryTime : Nat
  minimumPublishIntervalMs : Nat := 0
  afterDurationMs : Nat := 0
  activeDTCsIncluded : Bool := false
  triggerOnlyOnRisingEdge : Bool := false
  probabilityToSend : V
  collectSignals : List SignalCollectionInfo := []
  collectRawCanFrames : List CanFrameCollectionInfo := []
  imageCaptureData : List ImageCollectionInfo := []
  persistNeeded : Bool := false
  compressionNeeded : Bool := false
  priority : Nat := 0
  condition : ExpressionTree V := .null
  deriving DecidableEq, Repr

end DataManagement
