import Mathlib.Data.List.Sort
import Mathlib.Order.Defs.LinearOrder
import Std.Data.ExtTreeMap
import FleetWiseEdge.Manager.Impl.Extractors

/-!
This module contains the decoder of the responses to OBD PID requests and the dictionary that it gets.
-/

namespace DataManagement

open Cpp DataInspection

abbrev PID := UInt8

abbrev OBDDecoderDictionary (V : Type) := PID → Option (CANMessageFormat V)

/--
What `OBDOverCANModule` makes of the dictionary for the OBD protocol. Its only channel is 0, without a
signal there is none.
-/
def obdDecoderDictionary {V : Type} (dictionary : CANDecoderDictionary V) : OBDDecoderDictionary V :=
  fun pid =>
    match dictionary.canMessageDecoderMethod 0 with
    | none => none
    | some methods => (methods pid.toNat).map (·.format)

structure EmissionInfo (V : Type) where
  mSID : Nat := 0
  mPIDsToValues : Std.ExtTreeMap SignalID V := ∅

def POSITIVE_ECU_RESPONSE_BASE : Nat := 0x40

namespace OBDDataDecoder

variable {V : Type}

def isFormulaValid (dictionary : OBDDecoderDictionary V) (pid : PID) (formula : CANSignalFormat V)
    : Bool :=
  match dictionary pid with
  | none => false
  | some format =>
    formula.mFirstBitPosition < format.mSizeInBytes * BYTE_SIZE
      && formula.mSizeInBits + formula.mFirstBitPosition ≤ format.mSizeInBytes * BYTE_SIZE
      && (formula.mSizeInBits < 8
        || formula.mSizeInBits &&& 0x7 = 0 && formula.mFirstBitPosition &&& 0x7 = 0)

/--
The loop over the requested PIDs from `responseByteIndex` on. The result is the index behind the last
PID, `none` is an early `return false`.
-/
def checkPIDs (dictionary : OBDDecoderDictionary V) (ecuResponse : List UInt8)
    (responseByteIndex : Nat) (pids : List PID)
    : Option Nat :=
  match pids with
  | [] => some responseByteIndex
  | pid :: pids =>
    if ecuResponse[responseByteIndex]? ≠ some pid then
      none
    else
      match dictionary pid with
      | none => none
      | some format =>
        checkPIDs dictionary ecuResponse (responseByteIndex + (format.mSizeInBytes + 1)) pids

def isPIDResponseValid (dictionary : OBDDecoderDictionary V) (pids : List PID)
    (ecuResponse : List UInt8)
    : Bool :=
  match checkPIDs dictionary ecuResponse 1 pids with
  | none => false
  | some responseByteIndex => responseByteIndex = ecuResponse.length

/--
The loop that puts `numOfBytes` bytes behind each other. Bytes outside the data count as 0, a valid
formula reads none.
-/
def concatBytes (inputData : List UInt8) (byteIdx numOfBytes rawData : Nat) : Nat :=
  match numOfBytes with
  | 0 => rawData
  | numOfBytes + 1 =>
    concatBytes inputData (byteIdx + 1) numOfBytes
      (u64 (rawData <<< BYTE_SIZE) ||| (inputData[byteIdx]?.getD 0).toNat)

def rawValue (inputData : List UInt8) (byteCounter : Nat) (formula : CANSignalFormat V) : Nat :=
  let byteIdx := byteCounter + formula.mFirstBitPosition / BYTE_SIZE
  if formula.mSizeInBits < BYTE_SIZE then
    ((inputData[byteIdx]?.getD 0).toNat >>> (formula.mFirstBitPosition % BYTE_SIZE))
      &&& (0xFF >>> (BYTE_SIZE - formula.mSizeInBits))
  else
    concatBytes inputData byteIdx (formula.mSizeInBits / BYTE_SIZE) 0

variable [InspectionValue V]

def decodeFormula (dictionary : OBDDecoderDictionary V) (inputData : List UInt8) (pid : PID)
    (byteCounter : Nat) (info : EmissionInfo V) (formula : CANSignalFormat V)
    : EmissionInfo V :=
  if isFormulaValid dictionary pid formula then
    let rawData := rawValue inputData byteCounter formula
    let value := InspectionValue.add
      (InspectionValue.mul (InspectionValue.ofNat rawData) formula.mFactor) formula.mOffset
    { info with mPIDsToValues := info.mPIDsToValues.insertIfNew formula.mSignalID value }
  else
    info

def decodeLoop (dictionary : OBDDecoderDictionary V) (inputData : List UInt8) (byteCounter : Nat)
    (info : EmissionInfo V)
    : EmissionInfo V :=
  if h : byteCounter < inputData.length then
    let pid := inputData[byteCounter]
    match dictionary pid with
    -- the rest of the response might be misaligned
    | none => info
    | some format =>
      let expectedResponseLength := format.mSizeInBytes
      let info :=
        if byteCounter + 1 + expectedResponseLength ≤ inputData.length then
          format.mSignals.foldl (decodeFormula dictionary inputData pid (byteCounter + 1)) info
        else
          info
      decodeLoop dictionary inputData (byteCounter + 1 + expectedResponseLength) info
  else
    info
termination_by inputData.length - byteCounter

def decodeEmissionPIDs (dictionary : Option (OBDDecoderDictionary V)) (sid : Nat) (pids : List PID)
    (inputData : List UInt8) (info : EmissionInfo V)
    : EmissionInfo V × Bool :=
  if inputData.length < 3 || POSITIVE_ECU_RESPONSE_BASE + sid ≠ (inputData[0]?.getD 0).toNat then
    (info, false)
  else
    match dictionary with
    | none => (info, false)
    | some dictionary =>
      if isPIDResponseValid dictionary pids inputData then
        let info := decodeLoop dictionary inputData 1 { info with mSID := sid }
        (info, !info.mPIDsToValues.isEmpty)
      else
        (info, false)

end OBDDataDecoder

inductive SIDs where
  | INVALID_SERVICE_MODE
  | CURRENT_STATS
  | STATS_SINCE_FREEZE_FRAME
  | STORED_DTC
  | CLEAR_DTC
  | OXGEN_SENSOR_MODE_NON_CAN
  | OXGEN_SENSOR_MODE
  | PENDING_DTC
  | TESTING
  | VEHICLE_INFO
  deriving DecidableEq, Repr

def SIDs.toUType (sid : SIDs) : Nat :=
  match sid with
  | .INVALID_SERVICE_MODE => 0x00
  | .CURRENT_STATS => 0x01
  | .STATS_SINCE_FREEZE_FRAME => 0x02
  | .STORED_DTC => 0x03
  | .CLEAR_DTC => 0x04
  | .OXGEN_SENSOR_MODE_NON_CAN => 0x05
  | .OXGEN_SENSOR_MODE => 0x06
  | .PENDING_DTC => 0x07
  | .TESTING => 0x08
  | .VEHICLE_INFO => 0x09

abbrev SupportedPIDs := List PID

def INVALID_PID : PID := 0xFF

def SUPPORTED_PID_STEP : Nat := 0x20

def supportedPIDRange : List PID := [0x00, 0x20, 0x40, 0x60, 0x80, 0xA0, 0xC0, 0xE0]

def mode2PIDs : List PID := [0x02]

def mode9PIDs : List PID :=
  [0x00, 0x01, 0x02, 0x03, 0x04, 0x05, 0x06, 0x07, 0x08, 0x09, 0x0A, 0x0B]

/--
`none` is an access to a table behind its end.
-/
def getPID (sid : SIDs) (index : Nat) : Option PID :=
  match sid with
  | .CURRENT_STATS => do
    let last ← supportedPIDRange.getLast?
    return if index < last.toNat + SUPPORTED_PID_STEP then UInt8.ofNat index else INVALID_PID
  | .STATS_SINCE_FREEZE_FRAME =>
    if index < mode2PIDs.length then mode2PIDs[index]? else some INVALID_PID
  | .VEHICLE_INFO =>
    if index < mode9PIDs.length then mode9PIDs[index]? else some INVALID_PID
  | _ => some INVALID_PID

namespace OBDDataDecoder

def decodeMaskBit (sid : SIDs) (basePID : PID) (baseIdx i : Nat) (byte : UInt8)
    (supportedPIDs : SupportedPIDs) (j : Nat)
    : Option SupportedPIDs :=
  if byte.toNat &&& (1 <<< j) ≠ 0 then do
    let index := u64 (subU64 (u64 (subU64 i baseIdx * BYTE_SIZE)) j + basePID.toNat)
    let decodedID ← getPID sid index
    if decodedID ≠ INVALID_PID ∧ decodedID ∉ supportedPIDRange then
      return supportedPIDs ++ [decodedID]
    else
      return supportedPIDs
  else
    return supportedPIDs

def decodeMaskByte (sid : SIDs) (basePID : PID) (baseIdx i : Nat) (byte : UInt8)
    (supportedPIDs : SupportedPIDs)
    : Option SupportedPIDs :=
  (List.range BYTE_SIZE).foldlM (decodeMaskBit sid basePID baseIdx i byte) supportedPIDs

/--
The loop over the bytes from `i` on. Every fifth byte is the base of the PIDs whose mask bits follow, one
that is not the start of a range ends the loop.
-/
def decodeMasks (sid : SIDs) (bytes : List UInt8) (i : Nat) (basePID : PID) (baseIdx : Nat)
    (supportedPIDs : SupportedPIDs)
    : Option SupportedPIDs :=
  match bytes with
  | [] => some supportedPIDs
  | byte :: bytes =>
    if i % 5 = 1 then
      if byte.toNat % SUPPORTED_PID_STEP ≠ 0 then
        some supportedPIDs
      else
        decodeMasks sid bytes (i + 1) byte i supportedPIDs
    else do
      let supportedPIDs ← decodeMaskByte sid basePID baseIdx i byte supportedPIDs
      decodeMasks sid bytes (i + 1) basePID baseIdx supportedPIDs

def decodeSupportedPIDs (sid : SIDs) (inputData : List UInt8) (supportedPIDs : SupportedPIDs)
    : Option (SupportedPIDs × Bool) :=
  if inputData.length < 6
    ∨ POSITIVE_ECU_RESPONSE_BASE + sid.toUType ≠ (inputData[0]?.getD 0).toNat
    ∨ (inputData.length - 1) % 5 ≠ 0
  then
    some (supportedPIDs, false)
  else do
    let supportedPIDs ← decodeMasks sid (inputData.drop 1) 1 0 0 supportedPIDs
    let supportedPIDs := supportedPIDs.insertionSort (· ≤ ·)
    return (supportedPIDs, !supportedPIDs.isEmpty)

end OBDDataDecoder

end DataManagement
