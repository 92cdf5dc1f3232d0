import FleetWiseEdge.Types.Decoding
import Mathlib.Data.List.Nodup

/-!
This module contains the documents that the collection scheme manager works on. What their `build`
functions read from the received bytes is part of a document.
-/

namespace DataManagement

open DataInspection

structure CollectionSchemeIngestionList (V : Type) where
  content : Option (List (CollectionScheme V))
  mReady : Bool := false

namespace CollectionSchemeIngestionList

variable {V : Type}

def build (list : CollectionSchemeIngestionList V) : CollectionSchemeIngestionList V × Bool :=
  match list.content with
  | none => (list, false)
  | some _ => ({ list with mReady := true }, true)

def getCollectionSchemes (list : CollectionSchemeIngestionList V) : List (CollectionScheme V) :=
  if list.mReady then list.content.getD [] else []

end CollectionSchemeIngestionList

structure DecoderManifest (V : Type) where
  arn : String
  mSignalToVehicleDataSourceProtocol : SignalID → Option VehicleDataSourceProtocol
  mSignalToCANRawFrameIDAndInterfaceIDDictionary : SignalID → Option (CANRawFrameID × CANInterfaceID)
  mCANMessageFormatDictionary : CANInterfaceID → Option (CANRawFrameID → Option (CANMessageFormat V))
  mSignalToPIDDictionary : SignalID → Option (PIDSignalDecoderFormat V)

structure DecoderManifestIngestion (V : Type) where
  content : Option (DecoderManifest V)
  mReady : Bool := false

namespace DecoderManifestIngestion

variable {V : Type}

def build (manifest : DecoderManifestIngestion V) : DecoderManifestIngestion V × Bool :=
  match manifest.content with
  | none => (manifest, false)
  | some _ => ({ manifest with mReady := true }, true)

def ready (manifest : DecoderManifestIngestion V) : Option (DecoderManifest V) :=
  if manifest.mReady then manifest.content else none

def getID (manifest : DecoderManifestIngestion V) : String :=
  match manifest.ready with
  | none => ""
  | some content => content.arn

def getNetworkProtocol (manifest : DecoderManifestIngestion V) (signalID : SignalID)
    : VehicleDataSourceProtocol :=
  match manifest.ready with
  | none => .INVALID_PROTOCOL
  | some content => (content.mSignalToVehicleDataSourceProtocol signalID).getD .INVALID_PROTOCOL

def getCANFrameAndInterfaceID (manifest : DecoderManifestIngestion V) (signalID : SignalID)
    : CANRawFrameID × CANInterfaceID :=
  match manifest.ready with
  | none => (INVALID_CAN_FRAME_ID, INVALID_CAN_INTERFACE_ID)
  | some content =>
    (content.mSignalToCANRawFrameIDAndInterfaceIDDictionary signalID).getD
      (INVALID_CAN_FRAME_ID, INVALID_CAN_INTERFACE_ID)

def getCANMessageFormat (manifest : DecoderManifestIngestion V) (canID : CANRawFrameID)
    (interfaceID : CANInterfaceID)
    : CANMessageFormat V :=
  match manifest.ready with
  | none => INVALID_CAN_MESSAGE_FORMAT
  | some content =>
    match content.mCANMessageFormatDictionary interfaceID with
    | none => INVALID_CAN_MESSAGE_FORMAT
    | some formats => (formats canID).getD INVALID_CAN_MESSAGE_FORMAT

def getPIDSignalDecoderFormat [InspectionValue V] (manifest : DecoderManifestIngestion V)
    (signalID : SignalID)
    : PIDSignalDecoderFormat V :=
  match manifest.ready with
  | none => NOT_READY_PID_DECODER_FORMAT
  | some content => (content.mSignalToPIDDictionary signalID).getD NOT_FOUND_PID_DECODER_FORMAT

end DecoderManifestIngestion

/--
`mLookup` holds the pairs in the order in which `add` was called, `mCounter` is their number.
-/
structure CANInterfaceIDTranslator where
  mLookup : List (CANChannelNumericID × CANInterfaceID) := []
  channels : mLookup.map (·.1) = List.range mLookup.length := by rfl

namespace CANInterfaceIDTranslator

def empty : CANInterfaceIDTranslator := {}

def add (translator : CANInterfaceIDTranslator) (iid : CANInterfaceID) : CANInterfaceIDTranslator where
  mLookup := translator.mLookup ++ [(translator.mLookup.length, iid)]
  channels := by simp [translator.channels, List.range_succ]

def getChannelNumericID (translator : CANInterfaceIDTranslator) (iid : CANInterfaceID)
    : CANChannelNumericID :=
  match translator.mLookup.find? fun l => l.2 = iid with
  | some l => l.1
  | none => INVALID_CAN_SOURCE_NUMERIC_ID

def getInterfaceID (translator : CANInterfaceIDTranslator) (cid : CANChannelNumericID)
    : CANInterfaceID :=
  match translator.mLookup.find? fun l => l.1 = cid with
  | some l => l.2
  | none => INVALID_CAN_INTERFACE_ID

theorem getChannelNumericID_inj {translator : CANInterfaceIDTranslator} {iid iid' : CANInterfaceID}
    (h : translator.getChannelNumericID iid ≠ INVALID_CAN_SOURCE_NUMERIC_ID)
    (heq : translator.getChannelNumericID iid = translator.getChannelNumericID iid')
    : iid = iid' := by
  have hnodup : (translator.mLookup.map (·.1)).Nodup := by
    rw [translator.channels]
    apply List.nodup_range
  unfold getChannelNumericID at h heq
  cases hfind : translator.mLookup.find? fun l => l.2 = iid with
  | none => simp [hfind] at h
  | some l =>
    cases hfind' : translator.mLookup.find? fun l => l.2 = iid' with
    | none => simp_all
    | some l' =>
      simp only [hfind, hfind'] at heq
      have hl := List.find?_some hfind
      have hl' := List.find?_some hfind'
      have hsame := List.inj_on_of_nodup_map hnodup (List.mem_of_find?_eq_some hfind)
        (List.mem_of_find?_eq_some hfind') heq
      simp only [decide_eq_true_eq] at hl hl'
      rw [← hl, ← hl', hsame]

end CANInterfaceIDTranslator

end DataManagement
