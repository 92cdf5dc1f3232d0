import FleetWiseEdge.Lib.KeyedList
import FleetWiseEdge.Lib.SortedIntersection
import FleetWiseEdge.Decoding.Impl.OBDDataDecoder

namespace DataInspection

open Cpp DataManagement

instance : LinearOrder PID where
  le_refl := UInt8.le_refl
  le_trans := fun _ _ _ => UInt8.le_trans
  le_antisymm := fun _ _ => UInt8.le_antisymm
  le_total := UInt8.le_total
  lt_iff_le_not_ge := fun a b => by
    rw [UInt8.not_le, iff_and_self]
    exact UInt8.le_of_lt
  toDecidableLE := fun a b => inferInstanceAs (Decidable (a ≤ b))
  toDecidableEq := fun a b => inferInstanceAs (Decidable (a = b))
  toDecidableLT := fun a b => inferInstanceAs (Decidable (a < b))

/--
A decoder dictionary with the order in which its maps are iterated. `frames` are the keys of the map of the
first channel.
-/
structure IteratedDictionary (V : Type) where
  dictionary : CANDecoderDictionary V
  channels : List CANChannelNumericID
  frames : List CANRawFrameID
  channels_nodup : channels.Nodup
  mem_channels : ∀ ch, ch ∈ channels ↔ (dictionary.canMessageDecoderMethod ch).isSome = true
  frames_nodup : frames.Nodup
  mem_frames : ∀ frame, frame ∈ frames ↔ ∃ ch methods, channels.head? = some ch
    ∧ dictionary.canMessageDecoderMethod ch = some methods ∧ (methods frame).isSome = true

/--
The dictionary that the extractor makes for the OBD protocol has one channel at most, and its keys are PIDs.
-/
structure OBDDictionary (V : Type) extends IteratedDictionary V where
  channels_length : channels.length ≤ 1
  pids : ∀ frame ∈ frames, frame < 256

def OBDDictionary.formats {V : Type} (d : OBDDictionary V) : OBDDecoderDictionary V := fun pid =>
  match d.channels.head? with
  | none => none
  | some ch =>
    match d.dictionary.canMessageDecoderMethod ch with
    | none => none
    | some methods => (methods pid.toNat).map (·.format)

inductive ECUType where
  | ENGINE
  | TRANSMISSION
  deriving DecidableEq, Repr

abbrev PIDsPerService := List (SIDs × List PID)

namespace PIDsPerService

def find (map : PIDsPerService) (sid : SIDs) : Option (List PID) :=
  (KeyedList.lookup Prod.fst sid map).map (·.2)

def assign (map : PIDsPerService) (sid : SIDs) (pids : List PID) : PIDsPerService :=
  KeyedList.insert Prod.fst sid (fun entry => (entry.1, pids)) (sid, pids) map

end PIDsPerService

structure OBDOverCANModule (V : Type) where
  mHasTransmission : Bool
  mSupportedPIDsEngine : PIDsPerService := []
  mSupportedPIDsTransmission : PIDsPerService := []
  mPIDsRequestedByDecoderDict : PIDsPerService := []
  mPIDsToRequestEngine : PIDsPerService := []
  mPIDsToRequestTransmission : PIDsPerService := []
  mDecoderDictionaryPtr : Option (OBDDecoderDictionary V) := none
  mDecoderManifestAvailable : Bool := false

namespace OBDOverCANModule

open OBDDataDecoder

variable {V : Type}

def MAX_PID_RANGE : Nat := 6

section Lists

def updatePIDRequestList (s : OBDOverCANModule V) (sid : SIDs) (supportedPIDs : PIDsPerService)
    (pidsToRequestPerService : PIDsPerService)
    : PIDsPerService :=
  match supportedPIDs.find sid, s.mPIDsRequestedByDecoderDict.find sid with
  | some supported, some requested =>
    pidsToRequestPerService.assign sid (SortedIntersection.setIntersection supported requested)
  | _, _ => pidsToRequestPerService

def isRequested (d : IteratedDictionary V) (frame : CANRawFrameID) : Bool :=
  match d.channels.head? with
  | none => false
  | some ch =>
    match d.dictionary.canMessageDecoderMethod ch with
    | none => false
    | some methods =>
      match methods frame with
      | none => false
      | some method => method.format.mSignals.any fun signal => d.dictionary.signalIDsToCollect signal.mSignalID

def pidsRequestedByDecoderDict (d : IteratedDictionary V) : List PID :=
  if d.channels.length = 1 then (d.frames.filter (isRequested d)).map UInt8.ofNat else []

def onChangeOfActiveDictionary (s : OBDOverCANModule V) (dictionary : Option (OBDDictionary V))
    (networkProtocol : VehicleDataSourceProtocol)
    : OBDOverCANModule V :=
  if networkProtocol = .OBD then
    let s := { s with mDecoderDictionaryPtr := some fun _ => none }
    match dictionary with
    | none => s
    | some d =>
      let requested := (pidsRequestedByDecoderDict d.toIteratedDictionary).insertionSort (· ≤ ·)
      let s :=
        { s with
          mDecoderDictionaryPtr := some d.formats
          mPIDsRequestedByDecoderDict := s.mPIDsRequestedByDecoderDict.assign .CURRENT_STATS requested }
      let s :=
        { s with
          mPIDsToRequestEngine :=
            s.updatePIDRequestList .CURRENT_STATS s.mSupportedPIDsEngine s.mPIDsToRequestEngine
          mPIDsToRequestTransmission :=
            s.updatePIDRequestList .CURRENT_STATS s.mSupportedPIDsTransmission s.mPIDsToRequestTransmission }
      { s with mDecoderManifestAvailable := s.mDecoderManifestAvailable || !d.frames.isEmpty }
  else
    s

end Lists

section Discovery

/--
`ecuResponse` is `none` if no PDU was received. A table of PIDs is never left, so that there always is a
result.
-/
def receiveSupportedPIDs (sid : SIDs) (ecuResponse : Option (List UInt8)) (supportedPIDs : SupportedPIDs)
    : SupportedPIDs × Bool :=
  match ecuResponse with
  | none => (supportedPIDs, false)
  | some [] => (supportedPIDs, false)
  | some ecuResponse => (decodeSupportedPIDs sid ecuResponse supportedPIDs).getD (supportedPIDs, false)

def requestPIDs (sid : SIDs) (pids : List PID) : Option (List UInt8) :=
  if pids.length > MAX_PID_RANGE then none else some (UInt8.ofNat sid.toUType :: pids)

/--
`respond` gives the responses to the PDUs, `none` if a PDU cannot be sent or there is no response to it.
-/
def requestReceiveSupportedPIDs (sid : SIDs) (respond : List UInt8 → Option (List UInt8))
    : SupportedPIDs × Bool :=
  let exchange (pidList : List PID) (supportedPIDs : SupportedPIDs) :=
    match requestPIDs sid pidList with
    | none => (supportedPIDs, false)
    | some pdu => receiveSupportedPIDs sid (respond pdu) supportedPIDs
  let first := exchange (supportedPIDRange.take MAX_PID_RANGE) []
  if MAX_PID_RANGE < supportedPIDRange.length then
    let second := exchange (supportedPIDRange.drop MAX_PID_RANGE) first.1
    (second.1, first.2 || second.2)
  else
    first

def discoverSupportedPIDs (s : OBDOverCANModule V) (ecu : ECUType) (isAlive : Bool)
    (respond : List UInt8 → Option (List UInt8))
    : OBDOverCANModule V :=
  match ecu with
  | .ENGINE =>
    if isAlive && s.mSupportedPIDsEngine.isEmpty then
      let (enginePIDs, received) := requestReceiveSupportedPIDs .CURRENT_STATS respond
      if received then
        let s :=
          { s with
            mSupportedPIDsEngine :=
              s.mSupportedPIDsEngine ++ [(SIDs.CURRENT_STATS, enginePIDs.insertionSort (· ≤ ·))] }
        { s with
          mPIDsToRequestEngine :=
            s.updatePIDRequestList .CURRENT_STATS s.mSupportedPIDsEngine s.mPIDsToRequestEngine }
      else
        s
    else
      s
  | .TRANSMISSION =>
    if s.mHasTransmission && s.mSupportedPIDsTransmission.isEmpty then
      let (transmissionPIDs, received) := requestReceiveSupportedPIDs .CURRENT_STATS respond
      if received then
        let s :=
          { s with
            mSupportedPIDsTransmission :=
              s.mSupportedPIDsTransmission ++ [(SIDs.CURRENT_STATS, transmissionPIDs.insertionSort (· ≤ ·))] }
        { s with
          mPIDsToRequestTransmission :=
            s.updatePIDRequestList .CURRENT_STATS s.mSupportedPIDsTransmission s.mPIDsToRequestTransmission }
      else
        s
    else
      s

end Discovery

section Requests

structure EmissionRequests (V : Type) where
  requests : List (List PID) := []
  info : EmissionInfo V

variable [InspectionValue V]

/--
Request `pidList` and decode the response. `respond` gets all lists that were requested so far, it is `none`
if the PDU could not be sent or there is no response.
-/
def requestReceivePIDs (s : OBDOverCANModule V) (sid : SIDs)
    (respond : List (List PID) → Option (List UInt8)) (exchange : EmissionRequests V) (pidList : List PID)
    : EmissionRequests V :=
  match requestPIDs sid pidList with
  | none => exchange
  | some _ =>
    let requests := pidList :: exchange.requests
    match respond requests with
    | none => { exchange with requests := requests }
    | some [] => { exchange with requests := requests }
    | some ecuResponse =>
      ⟨requests, (decodeEmissionPIDs s.mDecoderDictionaryPtr sid.toUType pidList ecuResponse exchange.info).1⟩

/--
The loop over the full groups, from the tail. A group is a pair of iterators whose offsets are computed with
32 bits, `none` is a range whose end is before its begin.
-/
def requestRanges (s : OBDOverCANModule V) (sid : SIDs) (respond : List (List PID) → Option (List UInt8))
    (pids : SupportedPIDs) (rangeCount : Nat) (exchange : EmissionRequests V)
    : Option (EmissionRequests V) :=
  match rangeCount with
  | 0 => some exchange
  | rangeCount + 1 =>
    let first := u32 rangeCount * MAX_PID_RANGE
    let last := u32 (rangeCount + 1) * MAX_PID_RANGE
    if first ≤ last then
      let pidList := (pids.take last).drop first
      requestRanges s sid respond pids rangeCount (s.requestReceivePIDs sid respond exchange pidList)
    else
      none

def requestReceiveEmissionPIDs (s : OBDOverCANModule V) (sid : SIDs)
    (respond : List (List PID) → Option (List UInt8)) (pids : SupportedPIDs) (info : EmissionInfo V)
    : Option (EmissionRequests V × Bool) :=
  let rangeCount := pids.length / MAX_PID_RANGE
  let rangeLeft := pids.length % MAX_PID_RANGE
  match s.requestRanges sid respond pids rangeCount { info := info } with
  | none => none
  | some exchange =>
    let exchange :=
      if 0 < rangeLeft then
        s.requestReceivePIDs sid respond exchange (pids.drop (pids.length - u32 rangeLeft))
      else
        exchange
    some (exchange, !exchange.info.mPIDsToValues.isEmpty)

end Requests

def getPIDsToRequest (s : OBDOverCANModule V) (sid : SIDs) (type : ECUType) : Option SupportedPIDs :=
  match type with
  | .ENGINE => s.mPIDsToRequestEngine.find sid
  | .TRANSMISSION => s.mPIDsToRequestTransmission.find sid

end OBDOverCANModule

end DataInspection
