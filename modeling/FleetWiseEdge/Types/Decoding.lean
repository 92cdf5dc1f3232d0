import FleetWiseEdge.Types.Basic
import FleetWiseEdge.Types.Scheme

namespace DataManagement

open DataInspection

inductive VehicleDataSourceProtocol where
  | INVALID_PROTOCOL
  | CAN_TP
  | SOMEIP
  | OBD
  | RAW_SOCKET
  | DOIP
  | AVB
  | DDS
  deriving DecidableEq, Repr

section Formats

variable (V : Type)

structure CANSignalFormat where
  mSignalID : SignalID
  mIsBigEndian : Bool
  mIsSigned : Bool
  mFirstBitPosition : Nat
  mSizeInBits : Nat
  mOffset : V
  mFactor : V
  mIsMultiplexorSignal : Bool
  mMultiplexorValue : Nat
  deriving DecidableEq, Repr

structure CANMessageFormat where
  mMessageID : Nat := 0
  mSizeInBytes : Nat := 0
  mIsMultiplexed : Bool := false
  mSignals : List (CANSignalFormat V) := []
  deriving DecidableEq, Repr

structure PIDSignalDecoderFormat where
  mPidResponseLength : Nat
  mServiceMode : Nat
  mPID : Nat
  mScaling : V
  mOffset : V
  mStartByte : Nat
  mByteLength : Nat
  mBitRightShift : Nat
  mBitMaskLength : Nat
  deriving DecidableEq, Repr

inductive CANMessageCollectType where
  | DECODE
  | RAW
  | RAW_AND_DECODE
  deriving DecidableEq, Repr

structure CANMessageDecoderMethod where
  collectType : CANMessageCollectType
  format : CANMessageFormat V
  deriving DecidableEq, Repr

end Formats

def INVALID_CAN_MESSAGE_FORMAT {V : Type} : CANMessageFormat V := {}

section Zero

variable {V : Type} [InspectionValue V]

def PIDSignalDecoderFormat.zero : PIDSignalDecoderFormat V :=
  ⟨0, 0, 0, InspectionValue.ofNat 0, InspectionValue.ofNat 0, 0, 0, 0, 0⟩

def NOT_READY_PID_DECODER_FORMAT : PIDSignalDecoderFormat V := .zero

def NOT_FOUND_PID_DECODER_FORMAT : PIDSignalDecoderFormat V := .zero

end Zero

structure CANDecoderDictionary (V : Type) where
  signalIDsToCollect : SignalID → Bool
  canMessageDecoderMethod : CANChannelNumericID → Option (CANRawFrameID → Option (CANMessageDecoderMethod V))

def CANDecoderDictionary.empty {V : Type} : CANDecoderDictionary V :=
  ⟨fun _ => false, fun _ => none⟩

end DataManagement
