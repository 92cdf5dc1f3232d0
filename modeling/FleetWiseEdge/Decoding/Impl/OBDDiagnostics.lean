import FleetWiseEdge.Decoding.Impl.OBDDataDecoder

namespace DataManagement

open DataInspection

inductive DTCDomains where
  | POWERTRAIN
  | CHASSIS
  | BODY
  | NETWORK
  deriving DecidableEq, Repr

def DTCDomains.toUType (domain : DTCDomains) : Nat :=
  match domain with
  | .POWERTRAIN => 0
  | .CHASSIS => 1
  | .BODY => 2
  | .NETWORK => 3

namespace OBDDataDecoder

def hex (value : Nat) : List Char := Nat.toDigits 16 value

def domainLetter (firstByte : UInt8) : List Char :=
  if firstByte.toNat >>> 6 = DTCDomains.POWERTRAIN.toUType then
    ['P']
  else if firstByte.toNat >>> 6 = DTCDomains.CHASSIS.toUType then
    ['C']
  else if firstByte.toNat >>> 6 = DTCDomains.BODY.toUType then
    ['B']
  else if firstByte.toNat >>> 6 = DTCDomains.NETWORK.toUType then
    ['U']
  else
    []

def extractDTCString (firstByte secondByte : UInt8) : String × Bool :=
  let stream :=
    domainLetter firstByte
      ++ hex ((firstByte.toNat &&& 0x30) >>> 4)
      ++ hex (firstByte.toNat &&& 0x0F)
      ++ hex (secondByte.toNat >>> 4)
      ++ hex (secondByte.toNat &&& 0x0F)
  let dtcString := String.ofList (stream.map Char.toUpper)
  (dtcString, !dtcString.isEmpty)

def decodeDTCCodes (bytes : List UInt8) (mDTCCodes : List String) : List String :=
  match bytes with
  | firstByte :: secondByte :: bytes =>
    let (dtcString, extracted) := extractDTCString firstByte secondByte
    decodeDTCCodes bytes (if extracted then mDTCCodes ++ [dtcString] else mDTCCodes)
  | _ => mDTCCodes

def decodeDTCs (sid : SIDs) (inputData : List UInt8) (info : DTCInfo) : DTCInfo × Bool :=
  if inputData.length < 2 || POSITIVE_ECU_RESPONSE_BASE + sid.toUType ≠ (inputData[0]?.getD 0).toNat then
    (info, false)
  else
    let info := { info with mSID := sid.toUType }
    let dtcCount := (inputData[1]?.getD 0).toNat
    if dtcCount = 0 then
      (info, true)
    else if dtcCount * 2 + 2 ≠ inputData.length then
      (info, false)
    else
      let info := { info with mDTCCodes := decodeDTCCodes (inputData.drop 2) info.mDTCCodes }
      (info, !info.mDTCCodes.isEmpty)

structure OBDRequest where
  mSID : SIDs
  mPID : PID
  deriving DecidableEq, Repr

def vehicleIdentificationNumberRequest : OBDRequest := ⟨.VEHICLE_INFO, 0x02⟩

def decodeVIN (inputData : List UInt8) (vin : List UInt8) : List UInt8 × Bool :=
  if inputData.length < 3
    ∨ POSITIVE_ECU_RESPONSE_BASE + vehicleIdentificationNumberRequest.mSID.toUType
      ≠ (inputData[0]?.getD 0).toNat
    ∨ some vehicleIdentificationNumberRequest.mPID ≠ inputData[1]?
  then
    (vin, false)
  else
    let vin := inputData.drop 3
    (vin, !vin.isEmpty)

end OBDDataDecoder

end DataManagement
