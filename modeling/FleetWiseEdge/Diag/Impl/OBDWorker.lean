import FleetWiseEdge.Decoding.Impl.OBDDiagnostics
import FleetWiseEdge.Diag.Impl.OBDOverCANModule

/-!
This module contains the worker thread of `OBDOverCANModule`: what a pass of its loop asks the two ECUs for
and what it offers the buffers of the inspection engine.
-/

namespace DataInspection

open Cpp DataManagement

/--
`decoderDictionary` is the one of `mOBDDataDecoder`. The timers hold the time of their last reset, in
milliseconds.
-/
structure OBDWorker (V : Type) extends OBDOverCANModule V where
  decoderDictionary : Option (OBDDecoderDictionary V) := none
  mVIN : List UInt8 := []
  mShouldRequestDTCs : Bool := false
  mPIDRequestIntervalSeconds : Nat
  mDTCRequestIntervalSeconds : Nat
  mPIDTimer : Nat := 0
  mDTCTimer : Nat := 0

structure OBDResponses where
  isAlive : Bool
  vin : Option (List UInt8)
  supportedPIDs : ECUType → List UInt8 → Option (List UInt8)
  emissionPIDs : ECUType → List (List PID) → Option (List UInt8)
  storedDTCs : ECUType → Option (List UInt8)

structure OBDOutput (V : Type) where
  signals : List (CollectedSignal V) := []
  activeDTCs : Option DTCInfo := none

namespace OBDWorker

open OBDDataDecoder

variable {V : Type}

def onChangeInspectionMatrix (s : OBDWorker V) (activeConditions : Option (InspectionMatrix V))
    : OBDWorker V :=
  match activeConditions with
  | none => s
  | some matrix => { s with mShouldRequestDTCs := matrix.conditions.any (·.includeActiveDtcs) }

def hasNoDictionary (s : OBDWorker V) : Bool :=
  match s.mDecoderDictionaryPtr with
  | none => true
  | some dictionary => (List.range 256).all fun pid => (dictionary (UInt8.ofNat pid)).isNone

def setDecoderDictionary (s : OBDWorker V) : OBDWorker V :=
  if s.mDecoderManifestAvailable then
    { s with decoderDictionary := s.mDecoderDictionaryPtr, mDecoderManifestAvailable := false }
  else
    s

def requestReceiveVIN (s : OBDWorker V) (ecuResponse : Option (List UInt8)) : OBDWorker V :=
  if s.mVIN.isEmpty then
    match ecuResponse with
    | none => s
    | some [] => s
    | some ecuResponse => { s with mVIN := (decodeVIN ecuResponse s.mVIN).1 }
  else
    s

def discover (s : OBDWorker V) (ecu : ECUType) (responses : OBDResponses) : OBDWorker V :=
  { s with
    toOBDOverCANModule :=
      s.toOBDOverCANModule.discoverSupportedPIDs ecu responses.isAlive (responses.supportedPIDs ecu) }

def receiver (s : OBDWorker V) : OBDOverCANModule V :=
  { s.toOBDOverCANModule with mDecoderDictionaryPtr := s.decoderDictionary }

/--
The part of a pass that requests the signals of an ECU. `none` is a range whose end is before its begin.
-/
def requestSignals [InspectionValue V] (s : OBDWorker V) (ecu : ECUType)
    (respond : List (List PID) → Option (List UInt8)) (receptionTime : Nat)
    : Option (List (CollectedSignal V)) :=
  if ecu = .TRANSMISSION && !s.mHasTransmission then
    some []
  else
    match s.getPIDsToRequest .CURRENT_STATS ecu with
    | none => some []
    | some pids =>
      if pids.isEmpty then
        some []
      else
        match s.receiver.requestReceiveEmissionPIDs .CURRENT_STATS respond pids {} with
        | none => none
        | some (exchange, received) =>
          if received then
            some (exchange.info.mPIDsToValues.toList.map fun it =>
              { signalID := it.1, receiveTime := receptionTime, value := it.2 })
          else
            some []

def receiveDTCs (sid : SIDs) (ecuResponse : Option (List UInt8)) (info : DTCInfo) : DTCInfo × Bool :=
  match ecuResponse with
  | none => (info, false)
  | some [] => (info, false)
  | some ecuResponse => decodeDTCs sid ecuResponse info

/--
The part of a pass that requests the stored DTCs. An info without any DTCs is pushed if a request was
successful.
-/
def requestStoredDTCs (mHasTransmission : Bool) (storedDTCs : ECUType → Option (List UInt8)) (receiveTime : Nat)
    : Option DTCInfo :=
  let (dtcInfo, engine) := receiveDTCs .STORED_DTC (storedDTCs .ENGINE) { receiveTime := receiveTime }
  let (dtcInfo, transmission) :=
    if mHasTransmission then
      receiveDTCs .STORED_DTC (storedDTCs .TRANSMISSION) dtcInfo
    else
      (dtcInfo, false)
  if engine || transmission then some dtcInfo else none

def isDue (intervalSeconds timer now : Nat) : Bool :=
  0 < intervalSeconds && 1000 * intervalSeconds ≤ now - timer

def requestPIDFlow [InspectionValue V] (s : OBDWorker V) (responses : OBDResponses) (now : Nat)
    : Option (OBDWorker V × List (CollectedSignal V)) :=
  if s.hasNoDictionary then
    some (s, [])
  else
    let s := s.requestReceiveVIN responses.vin
    if isDue s.mPIDRequestIntervalSeconds s.mPIDTimer now then do
      let s := (s.discover .ENGINE responses).discover .TRANSMISSION responses
      let engine ← s.requestSignals .ENGINE (responses.emissionPIDs .ENGINE) now
      let transmission ← s.requestSignals .TRANSMISSION (responses.emissionPIDs .TRANSMISSION) now
      return ({ s with mPIDTimer := now }, engine ++ transmission)
    else
      some (s, [])

def requestDTCFlow (s : OBDWorker V) (responses : OBDResponses) (now : Nat) : OBDWorker V × Option DTCInfo :=
  if s.mShouldRequestDTCs && isDue s.mDTCRequestIntervalSeconds s.mDTCTimer now then
    ({ s with mDTCTimer := now }, requestStoredDTCs s.mHasTransmission responses.storedDTCs now)
  else
    (s, none)

def doWork [InspectionValue V] (s : OBDWorker V) (responses : OBDResponses) (now : Nat)
    : Option (OBDWorker V × OBDOutput V) :=
  (s.setDecoderDictionary.requestPIDFlow responses now).map fun (s, signals) =>
    let (s, activeDTCs) := s.requestDTCFlow responses now
    (s, ⟨signals, activeDTCs⟩)

end OBDWorker

end DataInspection
