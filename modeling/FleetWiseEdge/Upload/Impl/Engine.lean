import FleetWiseEdge.Upload.Impl.Channel
import FleetWiseEdge.Upload.Impl.Sender

namespace ExecutionManagement

open DataInspection DataManagement OffboardConnectivity PersistencyManagement

/--
What `checkAndSendRetrievedData` did: it retrieved the payloads that were stored from the `first` one on, and
`results` are those of the transmissions it made, in order.
-/
structure Attempt where
  first : Nat
  retrieved : List Bytes
  results : List ConnectivityError
  deriving DecidableEq, Repr

structure IoTFleetWiseEngine (V : Type) where
  mDataCollectionSender : DataCollectionSender V AwsIotChannel
  attempts : List Attempt := []

namespace IoTFleetWiseEngine

variable {V : Type}

def channel (engine : IoTFleetWiseEngine V) : AwsIotChannel := engine.mDataCollectionSender.mSender

def new (mTopicName : String) (mMaximumIotSDKHeapMemoryBytes : Nat)
    (mMaxPersistencePartitionSize : { size : Nat // size < 2 ^ 64 }) (maxMessageCount : Nat)
    (canIDTranslator : CANInterfaceIDTranslator)
    : IoTFleetWiseEngine V where
  mDataCollectionSender :=
    .new
      { mTopicName, mMaximumIotSDKHeapMemoryBytes, persistency := { mMaxPersistencePartitionSize } }
      maxMessageCount canIDTranslator

section Steps

variable (libraries : Libraries V) (connectivity : Nat → Connectivity)

/--
The loop over the retrieved payloads, which ends after the first transmission that fails.
-/
def transmitAll (sender : DataCollectionSender V AwsIotChannel) (payloads : List Bytes)
    : DataCollectionSender V AwsIotChannel × List ConnectivityError :=
  match payloads with
  | [] => (sender, [])
  | payload :: payloads =>
    let (sender, res) :=
      sender.transmit (AwsIotChannel.sender libraries.toSnappy .good connectivity) payload
    if res ≠ .Success then
      (sender, [res])
    else
      let (sender, results) := transmitAll sender payloads
      (sender, res :: results)

def withPersistency (engine : IoTFleetWiseEngine V) (persistency : CacheAndPersist)
    : IoTFleetWiseEngine V :=
  { engine with
    mDataCollectionSender := { engine.mDataCollectionSender with
      mSender := { engine.channel with persistency } } }

def checkAndSendRetrievedData (memory : Nat → UInt8) (engine : IoTFleetWiseEngine V)
    : IoTFleetWiseEngine V × Bool :=
  let (status, payloads) :=
    PayloadManager.retrieveData libraries.toSnappy engine.channel.persistency .good memory
  match status with
  | .SUCCESS =>
    let (mDataCollectionSender, results) :=
      transmitAll libraries connectivity engine.mDataCollectionSender payloads
    let attempt : Attempt :=
      { first := engine.channel.stored.length - payloads.length, retrieved := payloads, results }
    let engine := { mDataCollectionSender, attempts := engine.attempts ++ [attempt] }
    let res := results.getLast?.getD .Success
    if res = .Success then
      (engine.withPersistency (engine.channel.persistency.erase .good .EDGE_TO_CLOUD_PAYLOAD).1, true)
    else
      (engine, false)
  | .EMPTY => (engine, true)
  | _ => (engine, false)

inductive UploadEvent (V : Type) where
  | send (data : TriggeredCollectionSchemeData V)
  | checkAndSendRetrievedData (memory : Nat → UInt8)
  | storeDocument (buf : Bytes) (dataType : DataType) (h : dataType ≠ .EDGE_TO_CLOUD_PAYLOAD)
  | restart (maxMessageCount : Nat) (canIDTranslator : CANInterfaceIDTranslator)

def step (engine : IoTFleetWiseEngine V) (event : UploadEvent V) : IoTFleetWiseEngine V :=
  match event with
  | .send data =>
    { engine with
      mDataCollectionSender :=
        engine.mDataCollectionSender.send libraries
          (AwsIotChannel.sender libraries.toSnappy .good connectivity) data }
  | .checkAndSendRetrievedData memory =>
    (checkAndSendRetrievedData libraries connectivity memory engine).1
  | .storeDocument buf dataType _ =>
    engine.withPersistency (engine.channel.persistency.write .good buf dataType).1
  | .restart maxMessageCount canIDTranslator =>
    { engine with
      mDataCollectionSender := .new engine.channel maxMessageCount canIDTranslator }

def run (engine : IoTFleetWiseEngine V) (events : List (UploadEvent V)) : IoTFleetWiseEngine V :=
  events.foldl (step libraries connectivity) engine

end Steps

end IoTFleetWiseEngine

end ExecutionManagement
