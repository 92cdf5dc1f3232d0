import FleetWiseEdge.Lib.BoundedQueue
import FleetWiseEdge.Types.Inspection
import FleetWiseEdge.Decoding.Impl.CANDecoder

namespace DataInspection

open Cpp DataManagement CANDecoder

structure VehicleDataMessage where
  mID : Nat
  mRawData : List UInt8
  mTimestamp : Nat

def VehicleDataMessage.frameData (message : VehicleDataMessage) (behind : Nat → UInt8) (i : Nat) : UInt8 :=
  message.mRawData[i]?.getD (behind i)

structure CANDataConsumerWorker (V : Type) where
  mDataSourceID : Nat
  mSignalBufferPtr : Option (BoundedQueue (CollectedSignal V))
  mCANBufferPtr : Option (BoundedQueue CollectedCanRawFrame)

namespace CANDataConsumerWorker

variable {V : Type}

def canRawFrame (consumer : CANDataConsumerWorker V) (message : VehicleDataMessage) : CollectedCanRawFrame :=
  let size := min (message.mRawData.length % 2 ^ 8) MAX_CAN_FRAME_BYTE_SIZE
  { frameID := u32 message.mID
    channelId := consumer.mDataSourceID
    receiveTime := message.mTimestamp
    data := Vector.ofFn fun i => if i < size then message.mRawData[i.val]?.getD 0 else 0
    size }

def collectRawFrame (consumer : CANDataConsumerWorker V) (collectType : CANMessageCollectType)
    (message : VehicleDataMessage)
    : CANDataConsumerWorker V :=
  match consumer.mCANBufferPtr, collectType with
  | none, _ => consumer
  | _, .DECODE => consumer
  | some buffer, _ =>
    { consumer with mCANBufferPtr := some (buffer.push (consumer.canRawFrame message)).1 }

variable [CANSignalValue V]

def collectedSignal (message : VehicleDataMessage) (signal : CANDecodedSignal V) : CollectedSignal V :=
  { signalID := signal.mSignalID
    receiveTime := message.mTimestamp
    value := signal.mPhysicalValue }

/--
The signals of a frame are only pushed if `decodeCANMessage` has found nothing wrong with any of them.
-/
def collectSignals (consumer : CANDataConsumerWorker V) (method : CANMessageDecoderMethod V)
    (signalIDsToCollect : SignalID → Bool) (message : VehicleDataMessage) (behind : Nat → UInt8)
    : CANDataConsumerWorker V :=
  match consumer.mSignalBufferPtr, method.collectType with
  | none, _ => consumer
  | _, .RAW => consumer
  | some buffer, _ =>
    if method.format.isValid then
      let (decodedMessage, success) := decodeCANMessage (message.frameData behind)
        message.mRawData.length method.format signalIDsToCollect
      if success then
        { consumer with
          mSignalBufferPtr := some (buffer.pushAll (decodedMessage.mSignals.map (collectedSignal message))) }
      else
        consumer
    else
      consumer

def consumeMessage (consumer : CANDataConsumerWorker V) (dictionary : CANDecoderDictionary V)
    (message : VehicleDataMessage) (behind : Nat → UInt8)
    : CANDataConsumerWorker V :=
  match dictionary.canMessageDecoderMethod consumer.mDataSourceID with
  | none => consumer
  | some methods =>
    match methods (u32 message.mID) with
    | none => consumer
    | some method =>
      collectSignals (consumer.collectRawFrame method.collectType message) method
        dictionary.signalIDsToCollect message behind

end CANDataConsumerWorker

end DataInspection
