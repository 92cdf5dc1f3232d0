import FleetWiseEdge.Types.Decoding

namespace DataManagement

open Cpp DataInspection

/--
The conversions between integers and `double` that the decoder uses.
-/
class CANSignalValue (V : Type) extends InspectionValue V where
  ofInt : Int → V
  /-- `static_cast<uint8_t>` of a `double`, undefined in C++ for a value that does not fit -/
  toUInt8 : V → UInt8

instance : CANSignalValue Rat where
  ofInt i := i
  toUInt8 q := UInt8.ofInt (q.num.tdiv q.den)

structure CANDecodedSignal (V : Type) where
  mSignalID : SignalID
  mRawValue : Int64
  mPhysicalValue : V
  deriving DecidableEq

def CANSignalFormat.isMultiplexor {V : Type} (format : CANSignalFormat V) : Bool :=
  format.mIsMultiplexorSignal

def CANMessageFormat.isMultiplexed {V : Type} (format : CANMessageFormat V) : Bool :=
  format.mIsMultiplexed

def CANMessageFormat.isValid {V : Type} (format : CANMessageFormat V) : Bool :=
  !format.mSignals.isEmpty

namespace CANDecoder

variable {V : Type}

structure Extraction where
  result : BitVec 64
  resultLength : UInt8
  readBytes : List Nat
  deriving DecidableEq

/--
`MASK64`. Its shift is undefined in C++ for a size of 0 or above 64.
-/
def mask64 (nbits : Nat) : BitVec 64 := BitVec.allOnes 64 >>> (64 - nbits)

def orByte (frameData : Nat → UInt8) (e : Extraction) (count : Nat) : Extraction :=
  { result := e.result ||| (frameData count).toBitVec.setWidth 64 <<< e.resultLength.toNat
    resultLength := e.resultLength + 8
    readBytes := e.readBytes ++ [count] }

/--
The last byte of a signal. The arithmetic is that of `int`, its result is cast to `uint8_t`.
-/
def endByte (signalDescription : CANSignalFormat V) : UInt8 :=
  let startBit := UInt8.ofNat signalDescription.mFirstBitPosition
  let startByte := startBit / 8
  let startBitInByte := startBit % 8
  if signalDescription.mIsBigEndian then
    UInt8.ofInt
      (Int.tdiv (startByte.toNat * 8 + 8 - startBitInByte.toNat - signalDescription.mSizeInBits) 8)
  else
    UInt8.ofInt (Int.tdiv (startBit.toNat + signalDescription.mSizeInBits - 1) 8)

/--
The bytes in the order in which the loops read them: down to `endByte` for a big endian signal, up to
`endByte` for a little endian one.
-/
def residualBytes (signalDescription : CANSignalFormat V) : List Nat :=
  let startByte := (UInt8.ofNat signalDescription.mFirstBitPosition / 8).toNat
  let endByte := (endByte signalDescription).toNat
  if signalDescription.mIsBigEndian then
    (List.range' endByte (startByte - endByte)).reverse
  else
    List.range' (startByte + 1) (endByte - startByte)

def gatherBytes (frameData : Nat → UInt8) (signalDescription : CANSignalFormat V) : Extraction :=
  let startBit := UInt8.ofNat signalDescription.mFirstBitPosition
  let startByte := startBit / 8
  let startBitInByte := startBit % 8
  (residualBytes signalDescription).foldl (orByte frameData)
    { result := (frameData startByte.toNat).toBitVec.setWidth 64 >>> startBitInByte.toNat
      resultLength := 8 - startBitInByte
      readBytes := [startByte.toNat] }

def extractSignalFromFrame (frameData : Nat → UInt8) (signalDescription : CANSignalFormat V) : Int64 :=
  let result := (gatherBytes frameData signalDescription).result
    &&& mask64 signalDescription.mSizeInBits
  if signalDescription.mIsSigned then
    let msbSignMask := 1#64 <<< (signalDescription.mSizeInBits - 1)
    Int64.ofBitVec ((result ^^^ msbSignMask) - msbSignMask)
  else
    Int64.ofBitVec result

structure Decoding (V : Type) where
  errorCounter : UInt8 := 0
  mSignals : List (CANDecodedSignal V) := []
  -- for each of `mSignals` the index in `format.mSignals` that it is decoded with
  entries : List Nat := []
  readBytes : List Nat := []

variable [CANSignalValue V]

def physicalValue (signal : CANSignalFormat V) (rawValue : Int64) : V :=
  InspectionValue.add
    (InspectionValue.mul (CANSignalValue.ofInt rawValue.toInt) signal.mFactor) signal.mOffset

def Decoding.emit (d : Decoding V) (frameData : Nat → UInt8) (entry : CANSignalFormat V × Nat)
    (physicalValue : V)
    : Decoding V :=
  let (signal, idx) := entry
  { d with
    mSignals := d.mSignals ++ [⟨signal.mSignalID, extractSignalFromFrame frameData signal, physicalValue⟩]
    entries := d.entries ++ [idx]
    readBytes := d.readBytes ++ (gatherBytes frameData signal).readBytes }

def isSignalOutOfRange (frameSizeInBits : Nat) (signal : CANSignalFormat V) : Bool :=
  signal.mFirstBitPosition ≥ frameSizeInBits
    || signal.mSizeInBits < 1
    || signal.mSizeInBits > frameSizeInBits

def isLittleEndianOutOfRange (frameSizeInBits : Nat) (signal : CANSignalFormat V) : Bool :=
  !signal.mIsBigEndian
    && signal.mFirstBitPosition + signal.mSizeInBits > frameSizeInBits

def scaleMultiplexor (signal : CANSignalFormat V) (rawValue : Int64) : UInt8 :=
  CANSignalValue.toUInt8
    (InspectionValue.add
      (InspectionValue.mul (InspectionValue.ofNat rawValue.toUInt64.toUInt8.toNat) signal.mFactor)
      signal.mOffset)

def UINT8_MAX : UInt8 := 255

def decodeSignal (frameData : Nat → UInt8) (frameSizeInBits : Nat) (signalIDsToCollect : SignalID → Bool)
    (multiplexorValue : UInt8) (d : Decoding V) (entry : CANSignalFormat V × Nat)
    : Decoding V :=
  let (signal, _) := entry
  if signalIDsToCollect signal.mSignalID then
    if multiplexorValue ≠ UINT8_MAX ∧ signal.mMultiplexorValue ≠ multiplexorValue.toNat then
      d
    else if isSignalOutOfRange frameSizeInBits signal then
      { d with errorCounter := d.errorCounter + 1 }
    else if isLittleEndianOutOfRange frameSizeInBits signal then
      { d with errorCounter := d.errorCounter + 1 }
    else
      d.emit frameData entry (physicalValue signal (extractSignalFromFrame frameData signal))
  else
    d

def decodeSignals (frameData : Nat → UInt8) (frameSize : Nat) (format : CANMessageFormat V)
    (signalIDsToCollect : SignalID → Bool) (multiplexorValue : UInt8) (d : Decoding V)
    : Decoding V × Bool :=
  let frameSizeInBits := u32 (frameSize * 8)
  let d := format.mSignals.zipIdx.foldl
    (decodeSignal frameData frameSizeInBits signalIDsToCollect multiplexorValue) d
  (d, d.errorCounter == 0)

def decodeCANMessage (frameData : Nat → UInt8) (frameSize : Nat) (format : CANMessageFormat V)
    (signalIDsToCollect : SignalID → Bool)
    : Decoding V × Bool :=
  if format.isMultiplexed then
    match format.mSignals.zipIdx.find? (·.1.isMultiplexor) with
    | none => ({}, false)
    | some it =>
      if signalIDsToCollect it.1.mSignalID then
        let rawValue := extractSignalFromFrame frameData it.1
        let multiplexorValue := scaleMultiplexor it.1 rawValue
        let d := Decoding.emit {} frameData it (InspectionValue.ofNat multiplexorValue.toNat)
        decodeSignals frameData frameSize format signalIDsToCollect multiplexorValue d
      else
        decodeSignals frameData frameSize format signalIDsToCollect UINT8_MAX {}
  else
    decodeSignals frameData frameSize format signalIDsToCollect UINT8_MAX {}

end CANDecoder

end DataManagement
