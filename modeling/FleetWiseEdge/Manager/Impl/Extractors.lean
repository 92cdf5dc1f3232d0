import FleetWiseEdge.Manager.Impl.Manager
import FleetWiseEdge.Types.Inspection
import Mathlib.Logic.Function.Basic

/-!
This module contains what the collection scheme manager extracts from its enabled collection schemes: the
inspection matrix and the decoder dictionaries.
-/

namespace DataManagement

open Cpp DataInspection

section InspectionMatrix

variable {V : Type} [InspectionValue V]

structure TreeNode (V : Type) where
  address : Nat
  data : ExpressionNodeData V
  left : ExpressionTree V
  right : ExpressionTree V

def ExpressionTree.ptr {V : Type} (tree : ExpressionTree V) : Option Nat :=
  match tree with
  | .null => none
  | .node address _ _ _ => some address

def ExpressionTree.size {V : Type} (tree : ExpressionTree V) : Nat :=
  match tree with
  | .null => 0
  | .node _ _ left right => left.size + 1 + right.size

structure FlattenedNodes (V : Type) where
  nodes : List (TreeNode V) := []
  nodeToIndexMap : Nat → Option Nat := fun _ => none

def FlattenedNodes.visit {V : Type} (f : FlattenedNodes V) (node : TreeNode V) : FlattenedNodes V where
  nodes := f.nodes ++ [node]
  nodeToIndexMap := Function.update f.nodeToIndexMap node.address (some f.nodes.length)

def pushLeft {V : Type} (currNode : ExpressionTree V) (nodeStack : List (TreeNode V))
    : List (TreeNode V) :=
  match currNode with
  | .null => nodeStack
  | .node address data left right => pushLeft left (⟨address, data, left, right⟩ :: nodeStack)

def visitNodes {V : Type} (remaining : Nat) (nodeStack : List (TreeNode V)) (f : FlattenedNodes V)
    : FlattenedNodes V :=
  match remaining, nodeStack with
  | 0, _ => f
  | _, [] => f
  | remaining + 1, node :: nodeStack =>
    visitNodes remaining (pushLeft node.right nodeStack) (f.visit node)

def flattenTree {V : Type} (f : FlattenedNodes V) (tree : ExpressionTree V) : FlattenedNodes V :=
  visitNodes tree.size (pushLeft tree []) f

-- `nodeToIndexMap[ptr]`, which inserts 0 for a pointer that is not in the map.
def FlattenedNodes.indexOf {V : Type} (f : FlattenedNodes V) (ptr : Option Nat) : Nat :=
  (ptr.bind f.nodeToIndexMap).getD 0

def FlattenedNodes.relink {V : Type} (f : FlattenedNodes V) (tree : ExpressionTree V)
    : ExpressionNodePtr :=
  if tree.ptr = none then none else some (f.indexOf tree.ptr)

def FlattenedNodes.copyNode {V : Type} (f : FlattenedNodes V) (node : TreeNode V) : ExpressionNode V where
  nodeType := node.data.nodeType
  left := f.relink node.left
  right := f.relink node.right
  floatingValue := node.data.floatingValue
  booleanValue := node.data.booleanValue
  signalID := node.data.signalID
  function := node.data.function

def SignalCollectionInfo.inspectionSignal (info : SignalCollectionInfo)
    : InspectionMatrixSignalCollectionInfo where
  signalID := info.signalID
  sampleBufferSize := info.sampleBufferSize
  minimumSampleIntervalMs := info.minimumSampleIntervalMs
  fixedWindowPeriod := info.fixedWindowPeriod
  isConditionOnlySignal := info.isConditionOnlySignal

def ImageCollectionInfo.imageSettings (info : ImageCollectionInfo)
    : InspectionMatrixImageCollectionInfo :=
  match info.collectionType with
  | .TIME_BASED => ⟨info.deviceID, info.imageFormat, .TIME_BASED, info.beforeDurationMs⟩
  | .FRAME_BASED => ⟨info.deviceID, info.imageFormat, .FRAME_BASED, 0⟩
  | .NONE => ⟨info.deviceID, info.imageFormat, .TIME_BASED, 0⟩

def CanFrameCollectionInfo.inspectionFrame (translator : CANInterfaceIDTranslator)
    (info : CanFrameCollectionInfo)
    : Option InspectionMatrixCanFrameCollectionInfo :=
  let channelID := translator.getChannelNumericID info.interfaceID
  if channelID = INVALID_CAN_SOURCE_NUMERIC_ID then
    none
  else
    some ⟨info.frameID, channelID, info.sampleBufferSize, info.minimumSampleIntervalMs⟩

def addConditionData {V : Type} (translator : CANInterfaceIDTranslator)
    (collectionScheme : CollectionScheme V)
    : ConditionWithCollectedData V where
  condition := none
  minimumPublishInterval := collectionScheme.minimumPublishIntervalMs
  afterDuration := collectionScheme.afterDurationMs
  includeActiveDtcs := collectionScheme.activeDTCsIncluded
  triggerOnlyOnRisingEdge := collectionScheme.triggerOnlyOnRisingEdge
  probabilityToSend := collectionScheme.probabilityToSend
  signals := collectionScheme.collectSignals.map SignalCollectionInfo.inspectionSignal
  canFrames := collectionScheme.collectRawCanFrames.filterMap
    (CanFrameCollectionInfo.inspectionFrame translator)
  imageCollectionInfos := collectionScheme.imageCaptureData.map ImageCollectionInfo.imageSettings
  includeImageCapture := !collectionScheme.imageCaptureData.isEmpty
  metaData :=
    { compress := collectionScheme.compressionNeeded
      persist := collectionScheme.persistNeeded
      priority := collectionScheme.priority
      decoderID := collectionScheme.decoderManifestID
      collectionSchemeID := collectionScheme.collectionSchemeID }

-- `&storage[index]`, which is null if the storage has no elements.
def elementPtr {α : Type} (storage : List α) (index : Nat) : ExpressionNodePtr :=
  if storage.isEmpty then none else some index

def extractMatrix {V : Type} (translator : CANInterfaceIDTranslator)
    (collectionSchemes : List (CollectionScheme V))
    : InspectionMatrix V :=
  let flattened := collectionSchemes.foldl (fun f c => flattenTree f c.condition) {}
  let expressionNodeStorage := flattened.nodes.map flattened.copyNode
  { conditions := collectionSchemes.map fun c =>
      { addConditionData translator c with
        condition := elementPtr expressionNodeStorage (flattened.indexOf c.condition.ptr) }
    expressionNodeStorage }

def CollectionSchemeManager.inspectionMatrixExtractor {V : Type} (s : CollectionSchemeManager V)
    : InspectionMatrix V :=
  extractMatrix s.mCANIDTranslator s.mEnabledCollectionSchemeMap.values

end InspectionMatrix

section DecoderDictionary

namespace CANDecoderDictionary

variable {V : Type}

def method (d : CANDecoderDictionary V) (canChannelID : CANChannelNumericID)
    (canRawFrameID : CANRawFrameID)
    : Option (CANMessageDecoderMethod V) :=
  (d.canMessageDecoderMethod canChannelID).bind fun methods => methods canRawFrameID

def collectSignal (d : CANDecoderDictionary V) (signalID : SignalID) : CANDecoderDictionary V :=
  { d with signalIDsToCollect := Function.update d.signalIDsToCollect signalID true }

def addChannel (d : CANDecoderDictionary V) (canChannelID : CANChannelNumericID)
    : CANDecoderDictionary V :=
  match d.canMessageDecoderMethod canChannelID with
  | some _ => d
  | none =>
    { d with
      canMessageDecoderMethod :=
        Function.update d.canMessageDecoderMethod canChannelID (some fun _ => none) }

def setMethod (d : CANDecoderDictionary V) (canChannelID : CANChannelNumericID)
    (canRawFrameID : CANRawFrameID) (method : CANMessageDecoderMethod V)
    : CANDecoderDictionary V :=
  let methods := (d.canMessageDecoderMethod canChannelID).getD fun _ => none
  { d with
    canMessageDecoderMethod :=
      Function.update d.canMessageDecoderMethod canChannelID
        (some (Function.update methods canRawFrameID (some method))) }

end CANDecoderDictionary

abbrev DecoderDictionaryMap (V : Type) := VehicleDataSourceProtocol → Option (CANDecoderDictionary V)

variable {V : Type} [InspectionValue V]

def updateDictionary {V : Type} (networkType : VehicleDataSourceProtocol)
    (f : CANDecoderDictionary V → CANDecoderDictionary V) (dictionaries : DecoderDictionaryMap V)
    : DecoderDictionaryMap V :=
  Function.update dictionaries networkType (some (f ((dictionaries networkType).getD .empty)))

def addCANSignal {V : Type} (manifest : DecoderManifestIngestion V)
    (translator : CANInterfaceIDTranslator) (signalID : SignalID) (d : CANDecoderDictionary V)
    : CANDecoderDictionary V :=
  let (canRawFrameID, interfaceId) := manifest.getCANFrameAndInterfaceID signalID
  let canChannelID := translator.getChannelNumericID interfaceId
  if canChannelID = INVALID_CAN_SOURCE_NUMERIC_ID then
    d
  else
    let d := (d.collectSignal signalID).addChannel canChannelID
    let format := manifest.getCANMessageFormat canRawFrameID interfaceId
    match d.method canChannelID canRawFrameID with
    | none => d.setMethod canChannelID canRawFrameID ⟨.DECODE, format⟩
    | some method =>
      if method.collectType = .RAW then
        d.setMethod canChannelID canRawFrameID ⟨.RAW_AND_DECODE, format⟩
      else
        d

def BYTE_SIZE : Nat := 8

def PIDSignalDecoderFormat.signalFormat {V : Type} (pidDecoderFormat : PIDSignalDecoderFormat V)
    (signalID : SignalID)
    : CANSignalFormat V where
  mSignalID := signalID
  mIsBigEndian := false
  mIsSigned := false
  mFirstBitPosition :=
    u16 (u64 (pidDecoderFormat.mStartByte * BYTE_SIZE + pidDecoderFormat.mBitRightShift))
  mSizeInBits :=
    u16 (u64 (subU64 pidDecoderFormat.mByteLength 1 * BYTE_SIZE + pidDecoderFormat.mBitMaskLength))
  mOffset := pidDecoderFormat.mOffset
  mFactor := pidDecoderFormat.mScaling
  mIsMultiplexorSignal := false
  mMultiplexorValue := 255

/--
The branch of a signal that is requested through OBD, its PIDs are the frames of channel 0.
-/
def addOBDSignal (manifest : DecoderManifestIngestion V) (signalID : SignalID)
    (d : CANDecoderDictionary V)
    : CANDecoderDictionary V :=
  let pidDecoderFormat := manifest.getPIDSignalDecoderFormat signalID
  let pid := pidDecoderFormat.mPID
  let d := (d.collectSignal signalID).addChannel 0
  let method := (d.method 0 pid).getD
    ⟨.DECODE, { mMessageID := pid, mSizeInBytes := pidDecoderFormat.mPidResponseLength % 2 ^ 8 }⟩
  d.setMethod 0 pid
    { method with
      format :=
        { method.format with
          mSignals := method.format.mSignals ++ [pidDecoderFormat.signalFormat signalID] } }

def addSignal (manifest : DecoderManifestIngestion V) (translator : CANInterfaceIDTranslator)
    (dictionaries : DecoderDictionaryMap V) (signalInfo : SignalCollectionInfo)
    : DecoderDictionaryMap V :=
  let networkType := manifest.getNetworkProtocol signalInfo.signalID
  match networkType with
  | .INVALID_PROTOCOL => dictionaries
  | .RAW_SOCKET =>
    updateDictionary networkType (addCANSignal manifest translator signalInfo.signalID) dictionaries
  | .OBD => updateDictionary networkType (addOBDSignal manifest signalInfo.signalID) dictionaries
  | _ => updateDictionary networkType id dictionaries

def addRawCanFrame {V : Type} (translator : CANInterfaceIDTranslator) (d : CANDecoderDictionary V)
    (canFrameInfo : CanFrameCollectionInfo)
    : CANDecoderDictionary V :=
  let canChannelID := translator.getChannelNumericID canFrameInfo.interfaceID
  if canChannelID = INVALID_CAN_SOURCE_NUMERIC_ID then
    d
  else
    let d := d.addChannel canChannelID
    match d.method canChannelID canFrameInfo.frameID with
    | none => d.setMethod canChannelID canFrameInfo.frameID ⟨.RAW, {}⟩
    | some method =>
      d.setMethod canChannelID canFrameInfo.frameID { method with collectType := .RAW_AND_DECODE }

def addRawCanFrames {V : Type} (translator : CANInterfaceIDTranslator)
    (dictionaries : DecoderDictionaryMap V) (canFrames : List CanFrameCollectionInfo)
    : DecoderDictionaryMap V :=
  if canFrames.isEmpty then
    dictionaries
  else
    updateDictionary .RAW_SOCKET (fun d => canFrames.foldl (addRawCanFrame translator) d) dictionaries

def addCollectionScheme (manifest : DecoderManifestIngestion V) (translator : CANInterfaceIDTranslator)
    (dictionaries : DecoderDictionaryMap V) (collectionScheme : CollectionScheme V)
    : DecoderDictionaryMap V :=
  addRawCanFrames translator
    (collectionScheme.collectSignals.foldl (addSignal manifest translator) dictionaries)
    collectionScheme.collectRawCanFrames

def SUPPORTED_NETWORK_PROTOCOL : List VehicleDataSourceProtocol := [.RAW_SOCKET, .OBD]

def extractDictionaries (manifest : DecoderManifestIngestion V) (translator : CANInterfaceIDTranslator)
    (collectionSchemes : List (CollectionScheme V))
    : DecoderDictionaryMap V :=
  SUPPORTED_NETWORK_PROTOCOL.foldl (fun dictionaries networkType =>
      updateDictionary networkType id dictionaries)
    (collectionSchemes.foldl (addCollectionScheme manifest translator) fun _ => none)

/--
`mDecoderManifest` is not null when a collection scheme is enabled, it came with its manifest.
-/
def CollectionSchemeManager.decoderDictionaryExtractor (s : CollectionSchemeManager V)
    : DecoderDictionaryMap V :=
  extractDictionaries (s.mDecoderManifest.getD ⟨none, false⟩) s.mCANIDTranslator
    s.mEnabledCollectionSchemeMap.values

end DecoderDictionary

end DataManagement
