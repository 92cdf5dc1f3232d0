import Std.Data.ExtTreeMap
import FleetWiseEdge.Types.Decoding
import FleetWiseEdge.Types.Threading

/-!
This module contains the `VehicleDataSourceBinder`: the events of the vehicle data sources, the worker
that passes them on to the consumers, and the dictionaries it hands to the consumers.
-/

namespace DataInspection

open DataManagement

abbrev VehicleDataSourceID := Nat

def INVALID_DATA_SOURCE_ID : VehicleDataSourceID := 0

inductive VehicleDataSourceState where
  | INVALID_STATE
  | CONNECTED
  | DISCONNECTED
deriving Repr, DecidableEq

structure CANDataConsumer (Dictionary : Type) where
  mDataSourceProtocol : VehicleDataSourceProtocol := .INVALID_PROTOCOL
  isAlive : Bool := false
  mShouldSleep : Bool := false
  mDecoderDictionaryConstPtr : Option Dictionary := none
deriving Repr, DecidableEq

namespace CANDataConsumer

variable {Dictionary : Type}

def suspendDataConsumption (consumer : CANDataConsumer Dictionary) : CANDataConsumer Dictionary :=
  { consumer with mShouldSleep := true }

def resumeDataConsumption (consumer : CANDataConsumer Dictionary) (dictionary : Option Dictionary)
    : CANDataConsumer Dictionary :=
  match dictionary with
  | none => consumer
  | some dictionary =>
    { consumer with mDecoderDictionaryConstPtr := some dictionary, mShouldSleep := false }

def start (consumer : CANDataConsumer Dictionary) : CANDataConsumer Dictionary :=
  { consumer with mShouldSleep := true, isAlive := true }

def stop (consumer : CANDataConsumer Dictionary) : CANDataConsumer Dictionary :=
  { consumer with isAlive := false }

def connect (consumer : CANDataConsumer Dictionary) : CANDataConsumer Dictionary × Bool :=
  (consumer.start, true)

def disconnect (consumer : CANDataConsumer Dictionary) : CANDataConsumer Dictionary × Bool :=
  (consumer.stop, true)

end CANDataConsumer

abbrev IdsToStates := Std.ExtTreeMap VehicleDataSourceID VehicleDataSourceState
abbrev SourcesToConsumers (Dictionary : Type) :=
  Std.ExtTreeMap VehicleDataSourceID (CANDataConsumer Dictionary)

structure VehicleDataSourceBinder (Dictionary : Type) where
  mDataSourceStates : IdsToStates := ∅
  mWait : Platform.Signal := {}
  mDataSourcesToConsumers : SourcesToConsumers Dictionary := ∅
  mIdsToDataSources : Std.ExtTreeMap VehicleDataSourceID VehicleDataSourceProtocol := ∅

namespace VehicleDataSourceBinder

variable {Dictionary : Type}

def addVehicleDataSource (binder : VehicleDataSourceBinder Dictionary) (id : VehicleDataSourceID)
    (protocol : VehicleDataSourceProtocol)
    : VehicleDataSourceBinder Dictionary × Bool :=
  if id = INVALID_DATA_SOURCE_ID then
    (binder, false)
  else if binder.mIdsToDataSources.contains id then
    (binder, false)
  else
    ({ binder with mIdsToDataSources := binder.mIdsToDataSources.insert id protocol }, true)

def removeVehicleDataSource (binder : VehicleDataSourceBinder Dictionary) (id : VehicleDataSourceID)
    : VehicleDataSourceBinder Dictionary × Bool :=
  if id = INVALID_DATA_SOURCE_ID then
    (binder, false)
  else if binder.mIdsToDataSources.contains id then
    ({ binder with mIdsToDataSources := binder.mIdsToDataSources.erase id }, true)
  else
    (binder, false)

def bindConsumerToVehicleDataSource (binder : VehicleDataSourceBinder Dictionary)
    (consumer : CANDataConsumer Dictionary) (id : VehicleDataSourceID)
    : VehicleDataSourceBinder Dictionary × Bool :=
  if id = INVALID_DATA_SOURCE_ID then
    (binder, false)
  else
    match binder.mIdsToDataSources[id]? with
    | none => (binder, false)
    | some protocol =>
      if binder.mDataSourcesToConsumers.contains id then
        (binder, false)
      else
        let consumer := { consumer with mDataSourceProtocol := protocol }
        let (consumer, connected) := consumer.connect
        ({ binder with
            mDataSourcesToConsumers := binder.mDataSourcesToConsumers.insert id consumer },
          connected)

def unBindConsumerFromVehicleDataSource (binder : VehicleDataSourceBinder Dictionary)
    (id : VehicleDataSourceID)
    : VehicleDataSourceBinder Dictionary × Bool :=
  if id = INVALID_DATA_SOURCE_ID then
    (binder, false)
  else
    match binder.mDataSourcesToConsumers[id]? with
    | none => (binder, false)
    | some consumer =>
      ({ binder with mDataSourcesToConsumers := binder.mDataSourcesToConsumers.erase id },
        consumer.disconnect.2)

def disconnectConsumer (binder : VehicleDataSourceBinder Dictionary) (id : VehicleDataSourceID)
    : VehicleDataSourceBinder Dictionary × Bool :=
  match binder.mDataSourcesToConsumers[id]? with
  | none => (binder, false)
  | some consumer =>
    let (consumer, disconnected) := consumer.disconnect
    ({ binder with
        mDataSourcesToConsumers := binder.mDataSourcesToConsumers.insert id consumer },
      disconnected)

def reConnectConsumer (binder : VehicleDataSourceBinder Dictionary) (id : VehicleDataSourceID)
    : VehicleDataSourceBinder Dictionary × Bool :=
  match binder.mDataSourcesToConsumers[id]? with
  | none => (binder, false)
  | some consumer =>
    if !consumer.isAlive then
      let (consumer, connected) := consumer.connect
      ({ binder with
          mDataSourcesToConsumers := binder.mDataSourcesToConsumers.insert id consumer },
        connected)
    else
      (binder, false)

def applyState (binder : VehicleDataSourceBinder Dictionary)
    (sourceID : VehicleDataSourceID × VehicleDataSourceState)
    : VehicleDataSourceBinder Dictionary :=
  match sourceID.2 with
  | .CONNECTED => (binder.reConnectConsumer sourceID.1).1
  | .DISCONNECTED => (binder.disconnectConsumer sourceID.1).1
  | .INVALID_STATE => binder

/--
One pass of `doWork`. Without a notification the worker stays in its wait.
-/
def wakeUp (binder : VehicleDataSourceBinder Dictionary) : VehicleDataSourceBinder Dictionary :=
  match binder.mWait.waitWithPredicate with
  | none => binder
  | some mWait =>
    let sourceStatesCopy := binder.mDataSourceStates
    sourceStatesCopy.toList.foldl applyState { binder with mWait, mDataSourceStates := ∅ }

-- `emplace` leaves a state that is there already.
def signalState (binder : VehicleDataSourceBinder Dictionary) (id : VehicleDataSourceID)
    (state : VehicleDataSourceState)
    : VehicleDataSourceBinder Dictionary :=
  if id = INVALID_DATA_SOURCE_ID then
    binder
  else
    { binder with
      mDataSourceStates := binder.mDataSourceStates.insertIfNew id state
      mWait := binder.mWait.notify }

def onVehicleDataSourceConnected (binder : VehicleDataSourceBinder Dictionary)
    (id : VehicleDataSourceID)
    : VehicleDataSourceBinder Dictionary :=
  binder.signalState id .CONNECTED

def onVehicleDataSourceDisconnected (binder : VehicleDataSourceBinder Dictionary)
    (id : VehicleDataSourceID)
    : VehicleDataSourceBinder Dictionary :=
  binder.signalState id .DISCONNECTED

def onChangeOfActiveDictionary (binder : VehicleDataSourceBinder Dictionary)
    (dictionary : Option Dictionary) (networkProtocol : VehicleDataSourceProtocol)
    : VehicleDataSourceBinder Dictionary :=
  { binder with
    mDataSourcesToConsumers :=
      binder.mDataSourcesToConsumers.map fun _ consumer =>
        if networkProtocol = consumer.mDataSourceProtocol then
          match dictionary with
          | some dictionary => consumer.resumeDataConsumption (some dictionary)
          | none => consumer.suspendDataConsumption
        else
          consumer }

end VehicleDataSourceBinder

inductive BinderEvent (Dictionary : Type) where
  | addVehicleDataSource (id : VehicleDataSourceID) (protocol : VehicleDataSourceProtocol)
  | removeVehicleDataSource (id : VehicleDataSourceID)
  | bindConsumerToVehicleDataSource (consumer : CANDataConsumer Dictionary) (id : VehicleDataSourceID)
  | unBindConsumerFromVehicleDataSource (id : VehicleDataSourceID)
  | onVehicleDataSourceConnected (id : VehicleDataSourceID)
  | onVehicleDataSourceDisconnected (id : VehicleDataSourceID)
  | onChangeOfActiveDictionary (dictionary : Option Dictionary)
      (networkProtocol : VehicleDataSourceProtocol)
  | wakeUp
deriving Repr, DecidableEq

def VehicleDataSourceBinder.step {Dictionary : Type} (binder : VehicleDataSourceBinder Dictionary)
    (event : BinderEvent Dictionary)
    : VehicleDataSourceBinder Dictionary :=
  match event with
  | .addVehicleDataSource id protocol => (binder.addVehicleDataSource id protocol).1
  | .removeVehicleDataSource id => (binder.removeVehicleDataSource id).1
  | .bindConsumerToVehicleDataSource consumer id =>
    (binder.bindConsumerToVehicleDataSource consumer id).1
  | .unBindConsumerFromVehicleDataSource id => (binder.unBindConsumerFromVehicleDataSource id).1
  | .onVehicleDataSourceConnected id => binder.onVehicleDataSourceConnected id
  | .onVehicleDataSourceDisconnected id => binder.onVehicleDataSourceDisconnected id
  | .onChangeOfActiveDictionary dictionary networkProtocol =>
    binder.onChangeOfActiveDictionary dictionary networkProtocol
  | .wakeUp => binder.wakeUp

end DataInspection
