import FleetWiseEdge.Ingestion.Impl.Condition
import FleetWiseEdge.Manager.Impl.Documents

/-!
This module contains the ingestion of collection schemes: `CollectionSchemeIngestion` reads one of them from its
message, `CollectionSchemeIngestionList` reads a document of them from the received bytes.
-/

namespace CollectionSchemesMsg

open DataManagement

structure SignalInformation where
  signal_id : Nat := 0
  sample_buffer_size : Nat := 0
  minimum_sample_period_ms : Nat := 0
  fixed_window_period_ms : Nat := 0
  condition_only_signal : Bool := false
  deriving DecidableEq, Repr

structure RawCanFrame where
  can_interface_id : String := ""
  can_message_id : Nat := 0
  sample_buffer_size : Nat := 0
  minimum_sample_period_ms : Nat := 0
  deriving DecidableEq, Repr

inductive ImageCollectionMethod where
  | notSet
  | timeBasedImageData (before_duration_ms : Nat)
  deriving DecidableEq, Repr

structure ImageData where
  image_source_node_id : Nat := 0
  image_type : Int := 0
  image_collection_method : ImageCollectionMethod := .notSet
  deriving DecidableEq, Repr

inductive ConditionTriggerMode where
  | TRIGGER_ALWAYS
  | TRIGGER_ONLY_ON_RISING_EDGE
  | unknown (value : Int)
  deriving DecidableEq, Repr

structure TimeBasedCollectionScheme where
  time_based_collection_scheme_period_ms : Nat := 0
  deriving DecidableEq, Repr

-- A condition tree that is missing in the message is read as one that is not set.
structure ConditionBasedCollectionScheme (V : Type) where
  condition_minimum_interval_ms : Nat := 0
  condition_tree : ConditionNode V := .notSet
  condition_trigger_mode : ConditionTriggerMode := .TRIGGER_ALWAYS

inductive CollectionSchemeType (V : Type) where
  | notSet
  | timeBasedCollectionScheme (scheme : TimeBasedCollectionScheme)
  | conditionBasedCollectionScheme (scheme : ConditionBasedCollectionScheme V)

structure CollectionScheme (V : Type) where
  campaign_arn : String := ""
  decoder_manifest_arn : String := ""
  start_time_ms_epoch : Nat := 0
  expiry_time_ms_epoch : Nat := 0
  collection_scheme_type : CollectionSchemeType V := .notSet
  after_duration_ms : Nat := 0
  include_active_dtcs : Bool := false
  signal_information : List SignalInformation := []
  raw_can_frames_to_collect : List RawCanFrame := []
  persist_all_collected_data : Bool := false
  compress_collected_data : Bool := false
  priority : Nat := 0
  probabilities : Option V := none
  image_data : List ImageData := []

structure CollectionSchemes (V : Type) where
  collection_schemes : List (CollectionScheme V) := []

end CollectionSchemesMsg

namespace DataManagement

open CollectionSchemesMsg DataInspection

variable {V : Type} [InspectionValue V]

def INVALID_COLLECTION_SCHEME_START_TIME : Nat := 2 ^ 64 - 1

def INVALID_COLLECTION_SCHEME_EXPIRY_TIME : Nat := 2 ^ 64 - 1

def INVALID_MINIMUM_PUBLISH_TIME : Nat := 2 ^ 32 - 1

def INVALID_AFTER_TRIGGER_DURATION : Nat := 2 ^ 32 - 1

def INVALID_PRIORITY_LEVEL : Nat := 2 ^ 32 - 1

def INVALID_PROBABILITY_TO_SEND : V := InspectionValue.ofNat 0

def DEFAULT_PROBABILITY_TO_SEND : V := InspectionValue.ofNat 1

/--
`mExpressionNode` is the pointer to the root of the condition, as an index of `mExpressionNodes`.
-/
structure CollectionSchemeIngestion (V : Type) where
  mProtoCollectionSchemeMessagePtr : CollectionSchemesMsg.CollectionScheme V
  mReady : Bool := false
  mCollectedSignals : List SignalCollectionInfo := []
  mCollectedRawCAN : List CanFrameCollectionInfo := []
  mImagesCaptureData : List ImageCollectionInfo := []
  mExpressionNode : ExpressionNodePtr := none
  mExpressionNodes : List (ExpressionNode V) := []

def readSignalInformation (signalInformation : SignalInformation) : SignalCollectionInfo where
  signalID := signalInformation.signal_id
  sampleBufferSize := signalInformation.sample_buffer_size
  minimumSampleIntervalMs := signalInformation.minimum_sample_period_ms
  fixedWindowPeriod := signalInformation.fixed_window_period_ms
  isConditionOnlySignal := signalInformation.condition_only_signal

def readRawCanFrame (rawCanFrame : RawCanFrame) : CanFrameCollectionInfo where
  frameID := rawCanFrame.can_message_id
  interfaceID := rawCanFrame.can_interface_id
  sampleBufferSize := rawCanFrame.sample_buffer_size
  minimumSampleIntervalMs := rawCanFrame.minimum_sample_period_ms

-- Only time based image capture is supported, any other type is skipped.
def readImageData (imageData : ImageData) : Option ImageCollectionInfo :=
  match imageData.image_collection_method with
  | .timeBasedImageData before_duration_ms =>
    some
      { deviceID := imageData.image_source_node_id
        imageFormat := (imageData.image_type % 2 ^ 32).toNat
        collectionType := .TIME_BASED
        beforeDurationMs := before_duration_ms }
  | .notSet => none

namespace CollectionSchemeIngestion

def copyData (protoCollectionSchemeMessagePtr : CollectionSchemesMsg.CollectionScheme V)
    : CollectionSchemeIngestion V where
  mProtoCollectionSchemeMessagePtr := protoCollectionSchemeMessagePtr

def buildExpression (collection_scheme_type : CollectionSchemeType V)
    : ExpressionNodePtr × List (ExpressionNode V) :=
  match collection_scheme_type with
  | .conditionBasedCollectionScheme scheme =>
    let (mExpressionNode, nodes) := buildCondition scheme.condition_tree
    (mExpressionNode, nodes.mExpressionNodes)
  -- the condition is always true
  | .timeBasedCollectionScheme _ =>
    (some 0,
      [{ nodeType := .BOOLEAN, booleanValue := true, floatingValue := InspectionValue.ofNat 0 }])
  | .notSet => (none, [])

-- `build` is called once, so the vectors it fills are empty.
def build (s : CollectionSchemeIngestion V) : CollectionSchemeIngestion V × Bool :=
  let message := s.mProtoCollectionSchemeMessagePtr
  if message.campaign_arn = "" ∨ message.decoder_manifest_arn = "" then
    (s, false)
  else if message.expiry_time_ms_epoch < message.start_time_ms_epoch then
    (s, false)
  else
    let (mExpressionNode, mExpressionNodes) := buildExpression message.collection_scheme_type
    ({ s with
        mReady := true
        mCollectedSignals := message.signal_information.map readSignalInformation
        mCollectedRawCAN := message.raw_can_frames_to_collect.map readRawCanFrame
        mImagesCaptureData := message.image_data.filterMap readImageData
        mExpressionNode
        mExpressionNodes },
      true)

def getCollectionSchemeID (s : CollectionSchemeIngestion V) : String :=
  if s.mReady then s.mProtoCollectionSchemeMessagePtr.campaign_arn else ""

def getDecoderManifestID (s : CollectionSchemeIngestion V) : String :=
  if s.mReady then s.mProtoCollectionSchemeMessagePtr.decoder_manifest_arn else ""

def getStartTime (s : CollectionSchemeIngestion V) : Nat :=
  if s.mReady then
    s.mProtoCollectionSchemeMessagePtr.start_time_ms_epoch
  else
    INVALID_COLLECTION_SCHEME_START_TIME

def getExpiryTime (s : CollectionSchemeIngestion V) : Nat :=
  if s.mReady then
    s.mProtoCollectionSchemeMessagePtr.expiry_time_ms_epoch
  else
    INVALID_COLLECTION_SCHEME_EXPIRY_TIME

def getAfterDurationMs (s : CollectionSchemeIngestion V) : Nat :=
  if s.mReady then
    s.mProtoCollectionSchemeMessagePtr.after_duration_ms
  else
    INVALID_AFTER_TRIGGER_DURATION

def isActiveDTCsIncluded (s : CollectionSchemeIngestion V) : Bool :=
  s.mReady && s.mProtoCollectionSchemeMessagePtr.include_active_dtcs

def getPriority (s : CollectionSchemeIngestion V) : Nat :=
  if s.mReady then s.mProtoCollectionSchemeMessagePtr.priority else INVALID_PRIORITY_LEVEL

def isPersistNeeded (s : CollectionSchemeIngestion V) : Bool :=
  s.mReady && s.mProtoCollectionSchemeMessagePtr.persist_all_collected_data

def isCompressionNeeded (s : CollectionSchemeIngestion V) : Bool :=
  s.mReady && s.mProtoCollectionSchemeMessagePtr.compress_collected_data

def getMinimumPublishIntervalMs (s : CollectionSchemeIngestion V) : Nat :=
  if s.mReady then
    match s.mProtoCollectionSchemeMessagePtr.collection_scheme_type with
    | .timeBasedCollectionScheme scheme => scheme.time_based_collection_scheme_period_ms
    | .conditionBasedCollectionScheme scheme => scheme.condition_minimum_interval_ms
    | .notSet => INVALID_MINIMUM_PUBLISH_TIME
  else
    INVALID_MINIMUM_PUBLISH_TIME

def getCollectSignals (s : CollectionSchemeIngestion V) : List SignalCollectionInfo :=
  if s.mReady then s.mCollectedSignals else []

def getCollectRawCanFrames (s : CollectionSchemeIngestion V) : List CanFrameCollectionInfo :=
  if s.mReady then s.mCollectedRawCAN else []

def getImageCaptureData (s : CollectionSchemeIngestion V) : List ImageCollectionInfo :=
  if s.mReady then s.mImagesCaptureData else []

def getCondition (s : CollectionSchemeIngestion V) : ExpressionNodePtr :=
  if s.mReady then s.mExpressionNode else none

def isTriggerOnlyOnRisingEdge (s : CollectionSchemeIngestion V) : Bool :=
  if s.mReady then
    match s.mProtoCollectionSchemeMessagePtr.collection_scheme_type with
    | .conditionBasedCollectionScheme scheme =>
      scheme.condition_trigger_mode = .TRIGGER_ONLY_ON_RISING_EDGE
    | _ => false
  else
    false

def getProbabilityToSend (s : CollectionSchemeIngestion V) : V :=
  if s.mReady then
    s.mProtoCollectionSchemeMessagePtr.probabilities.getD DEFAULT_PROBABILITY_TO_SEND
  else
    INVALID_PROBABILITY_TO_SEND

/--
The nodes that are reached from a pointer, `address i` is the address of the element `i` of the vector. At most
`depth` pointers are followed.
-/
def treeOf {V : Type} (address : Nat → Nat) (nodes : List (ExpressionNode V)) (depth : Nat)
    (ptr : ExpressionNodePtr)
    : ExpressionTree V :=
  match depth, ptr with
  | 0, _ => .null
  | _, none => .null
  | depth + 1, some i =>
    match nodes[i]? with
    | none => .null
    | some node =>
      .node (address i) ⟨node.nodeType, node.floatingValue, node.booleanValue, node.signalID, node.function⟩
        (treeOf address nodes depth node.left) (treeOf address nodes depth node.right)

def collectionScheme (address : Nat → Nat) (s : CollectionSchemeIngestion V) : CollectionScheme V where
  collectionSchemeID := s.getCollectionSchemeID
  decoderManifestID := s.getDecoderManifestID
  startTime := s.getStartTime
  expiryTime := s.getExpiryTime
  minimumPublishIntervalMs := s.getMinimumPublishIntervalMs
  afterDurationMs := s.getAfterDurationMs
  activeDTCsIncluded := s.isActiveDTCsIncluded
  triggerOnlyOnRisingEdge := s.isTriggerOnlyOnRisingEdge
  probabilityToSend := s.getProbabilityToSend
  collectSignals := s.getCollectSignals
  collectRawCanFrames := s.getCollectRawCanFrames
  imageCaptureData := s.getImageCaptureData
  persistNeeded := s.isPersistNeeded
  compressionNeeded := s.isCompressionNeeded
  priority := s.getPriority
  condition := treeOf address s.mExpressionNodes MAX_EQUATION_DEPTH s.getCondition

end CollectionSchemeIngestion

namespace CollectionSchemeIngestionList

def COLLECTION_SCHEME_LIST_BYTE_SIZE_LIMIT : Nat := 128000000

structure Members (V : Type) where
  mProtoBinaryData : List UInt8 := []
  mVectorCollectionSchemePtr : List (CollectionSchemeIngestion V) := []
  mReady : Bool := false

namespace Members

def copyData (s : Members V) (inputBuffer : Option (List UInt8)) : Members V × Bool :=
  let s := { s with mReady := false }
  match inputBuffer with
  | none => (s, false)
  | some data =>
    if data.length = 0 then
      (s, false)
    else if COLLECTION_SCHEME_LIST_BYTE_SIZE_LIMIT < data.length then
      (s, false)
    else
      ({ s with mProtoBinaryData := data }, true)

def buildAll (message : CollectionSchemes V) : List (CollectionSchemeIngestion V) :=
  message.collection_schemes.filterMap fun scheme =>
    let (pICPPtr, built) := (CollectionSchemeIngestion.copyData scheme).build
    if built then some pICPPtr else none

def build (parseFromArray : List UInt8 → Option (CollectionSchemes V)) (s : Members V)
    : Members V × Bool :=
  if s.mProtoBinaryData.isEmpty then
    (s, false)
  else
    match parseFromArray s.mProtoBinaryData with
    | none => (s, false)
    | some message =>
      ({ s with mVectorCollectionSchemePtr := buildAll message, mReady := true }, true)

def getCollectionSchemes (s : Members V) : List (CollectionSchemeIngestion V) :=
  if s.mReady then s.mVectorCollectionSchemePtr else []

end Members

end CollectionSchemeIngestionList

end DataManagement
