import FleetWiseEdge.Types.Upload
import FleetWiseEdge.Manager.Impl.Documents
import Mathlib.Logic.Function.Basic

/-!
This module contains `DecoderManifestIngestion`: the bytes of a decoder manifest and the maps that its `build`
fills. `ParseFromArray` is a parameter.
-/

namespace DecoderManifestMsg

section Messages

variable (V : Type)

structure CANSignal where
  signal_id : Nat
  interface_id : String
  message_id : Nat
  is_big_endian : Bool
  is_signed : Bool
  start_bit : Nat
  offset : V
  factor : V
  length : Nat
  deriving DecidableEq, Repr

structure OBDPIDSignal where
  signal_id : Nat
  pid_response_length : Nat
  service_mode : Nat
  pid : Nat
  scaling : V
  offset : V
  start_byte : Nat
  byte_length : Nat
  bit_right_shift : Nat
  bit_mask_length : Nat
  deriving DecidableEq, Repr

structure DecoderManifest where
  arn : String := ""
  can_signals : List (CANSignal V) := []
  obd_pid_signals : List (OBDPIDSignal V) := []
  deriving DecidableEq, Repr

end Messages

end DecoderManifestMsg

namespace DataManagement

open Cpp DataInspection

def DECODER_MANIFEST_BYTE_SIZE_LIMIT : Nat := 128000000

structure ManifestIngestion (V : Type) where
  mProtoBinaryData : Bytes := []
  mReady : Bool := false
  dictionaries : DecoderManifest V := ⟨"", fun _ => none, fun _ => none, fun _ => none, fun _ => none⟩

namespace ManifestIngestion

variable {V : Type}

def document (manifest : ManifestIngestion V) : DecoderManifestIngestion V :=
  ⟨some manifest.dictionaries, manifest.mReady⟩

def copyData (manifest : ManifestIngestion V) (inputBuffer : Option Bytes) : ManifestIngestion V × Bool :=
  match inputBuffer with
  | none => (manifest, false)
  | some inputBuffer =>
    if inputBuffer.length = 0 then
      (manifest, false)
    else if inputBuffer.length > DECODER_MANIFEST_BYTE_SIZE_LIMIT then
      (manifest, false)
    else
      ({ manifest with mProtoBinaryData := inputBuffer, mReady := false }, true)

section Build

def canSignalFormat (canSignal : DecoderManifestMsg.CANSignal V) : CANSignalFormat V where
  mSignalID := canSignal.signal_id
  mIsBigEndian := canSignal.is_big_endian
  mIsSigned := canSignal.is_signed
  mFirstBitPosition := u16 canSignal.start_bit
  mSizeInBits := u16 canSignal.length
  mOffset := canSignal.offset
  mFactor := canSignal.factor
  mIsMultiplexorSignal := false
  mMultiplexorValue := 0

def newCANMessageFormat (messageID : Nat) (format : CANSignalFormat V) : CANMessageFormat V where
  mMessageID := messageID
  mSizeInBytes := MAX_CAN_FRAME_BYTE_SIZE
  mIsMultiplexed := false
  mSignals := [format]

/--
The body of the loop over the CAN signals. `insert` leaves an entry that is there already.
-/
def buildCANSignal (dictionaries : DecoderManifest V) (canSignal : DecoderManifestMsg.CANSignal V)
    : DecoderManifest V :=
  let format := canSignalFormat canSignal
  let formats := dictionaries.mCANMessageFormatDictionary canSignal.interface_id
  let frames := formats.getD fun _ => none
  let newFormat :=
    match frames canSignal.message_id with
    | some messageFormat => { messageFormat with mSignals := messageFormat.mSignals ++ [format] }
    | none => newCANMessageFormat canSignal.message_id format
  { dictionaries with
    mSignalToVehicleDataSourceProtocol :=
      Function.update dictionaries.mSignalToVehicleDataSourceProtocol canSignal.signal_id (some .RAW_SOCKET)
    mSignalToCANRawFrameIDAndInterfaceIDDictionary :=
      match dictionaries.mSignalToCANRawFrameIDAndInterfaceIDDictionary canSignal.signal_id with
      | some _ => dictionaries.mSignalToCANRawFrameIDAndInterfaceIDDictionary
      | none =>
        Function.update dictionaries.mSignalToCANRawFrameIDAndInterfaceIDDictionary canSignal.signal_id
          (some (canSignal.message_id, canSignal.interface_id))
    mCANMessageFormatDictionary :=
      Function.update dictionaries.mCANMessageFormatDictionary canSignal.interface_id
        (some (Function.update frames canSignal.message_id (some newFormat))) }

def obdPIDSignalDecoderFormat (pidSignal : DecoderManifestMsg.OBDPIDSignal V) : PIDSignalDecoderFormat V where
  mPidResponseLength := pidSignal.pid_response_length
  mServiceMode := pidSignal.service_mode
  mPID := pidSignal.pid % 2 ^ 8
  mScaling := pidSignal.scaling
  mOffset := pidSignal.offset
  mStartByte := pidSignal.start_byte
  mByteLength := pidSignal.byte_length
  mBitRightShift := pidSignal.bit_right_shift % 2 ^ 8
  mBitMaskLength := pidSignal.bit_mask_length % 2 ^ 8

def buildPIDSignal (dictionaries : DecoderManifest V) (pidSignal : DecoderManifestMsg.OBDPIDSignal V)
    : DecoderManifest V :=
  { dictionaries with
    mSignalToVehicleDataSourceProtocol :=
      Function.update dictionaries.mSignalToVehicleDataSourceProtocol pidSignal.signal_id (some .OBD)
    mSignalToPIDDictionary :=
      Function.update dictionaries.mSignalToPIDDictionary pidSignal.signal_id
        (some (obdPIDSignalDecoderFormat pidSignal)) }

def buildDictionaries (dictionaries : DecoderManifest V) (message : DecoderManifestMsg.DecoderManifest V)
    : DecoderManifest V :=
  message.obd_pid_signals.foldl buildPIDSignal
    (message.can_signals.foldl buildCANSignal { dictionaries with arn := message.arn })

def build (ParseFromArray : Bytes → Option (DecoderManifestMsg.DecoderManifest V))
    (manifest : ManifestIngestion V)
    : ManifestIngestion V × Bool :=
  if manifest.mProtoBinaryData.isEmpty then
    (manifest, false)
  else
    match ParseFromArray manifest.mProtoBinaryData with
    | none => (manifest, false)
    | some message =>
      if message.can_signals.length = 0 ∧ message.obd_pid_signals.length = 0 then
        (manifest, false)
      else
        ({ manifest with dictionaries := buildDictionaries manifest.dictionaries message, mReady := true }, true)

end Build

end ManifestIngestion

end DataManagement
