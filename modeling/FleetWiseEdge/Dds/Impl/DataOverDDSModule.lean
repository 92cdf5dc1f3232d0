import FleetWiseEdge.Lib.Machine
import FleetWiseEdge.Types.Threading
import FleetWiseEdge.Types.Inspection

/-!
This module contains the worker of the `DataOverDDSModule` and the calls that hand it events, one step
for each critical section and each access to an atomic flag.
-/

namespace DataInspection

structure DDSDataRequest where
  eventID : Nat
  negativeOffsetMs : Nat
  positiveOffsetMs : Nat
deriving Repr, DecidableEq

inductive DDSWorker where
  | waiting
  | awake
  -- the block under `mPubSubMutex` and `mEventMetaMutex`
  | requesting
  | requested
deriving Repr, DecidableEq

inductive DDSCall where
  | copied
  -- `mWait.notify()` and the end of the lock
  | raised
deriving Repr, DecidableEq

structure DataOverDDSModule where
  mPublishers : List Nat
  mEventMetatdata : List EventMetadata := []
  mNewEventReceived : Bool := false
  mWait : Platform.Signal := {}
  call : Option DDSCall := none
  worker : DDSWorker := .waiting
deriving Repr, DecidableEq

inductive DDSAction where
  | onEventOfInterestDetected (eventMetadata : List EventMetadata)
  | call
  | worker
deriving Repr, DecidableEq

inductive DDSEntry where
  | delivered (eventMetadata : List EventMetadata)
  | published (sourceID : Nat) (request : DDSDataRequest)
deriving Repr, DecidableEq

namespace DataOverDDSModule

def request (eventItem : EventMetadata) : DDSDataRequest :=
  {
    eventID := eventItem.eventID
    negativeOffsetMs := eventItem.negativeOffsetMs
    positiveOffsetMs := eventItem.positiveOffsetMs
  }

/--
The loop over the items of the event, an item of a source that is not configured is skipped.
-/
def publishRequests (mPublishers : List Nat) (eventMetadata : List EventMetadata)
    : List (Nat × DDSDataRequest) :=
  match eventMetadata with
  | [] => []
  | eventItem :: rest =>
    if eventItem.sourceID ∈ mPublishers then
      (eventItem.sourceID, request eventItem) :: publishRequests mPublishers rest
    else
      publishRequests mPublishers rest

def enter (ddsModule : DataOverDDSModule) (eventMetadata : List EventMetadata)
    : DataOverDDSModule × List DDSEntry :=
  match ddsModule.call with
  | some _ => (ddsModule, [])
  | none =>
    ({ ddsModule with mEventMetatdata := eventMetadata, call := some .copied }, [.delivered eventMetadata])

def callStep (ddsModule : DataOverDDSModule) : DataOverDDSModule :=
  match ddsModule.call with
  | none => ddsModule
  | some .copied => { ddsModule with mNewEventReceived := true, call := some .raised }
  | some .raised => { ddsModule with mWait := ddsModule.mWait.notify, call := none }

def workerStep (ddsModule : DataOverDDSModule) : DataOverDDSModule × List DDSEntry :=
  match ddsModule.worker with
  | .waiting =>
    match ddsModule.mWait.waitWithPredicate with
    | none => (ddsModule, [])
    | some mWait => ({ ddsModule with mWait, worker := .awake }, [])
  | .awake =>
    if ddsModule.mNewEventReceived then
      ({ ddsModule with worker := .requesting }, [])
    else
      ({ ddsModule with worker := .waiting }, [])
  | .requesting =>
    match ddsModule.call with
    | some _ => (ddsModule, [])
    | none =>
      ({ ddsModule with worker := .requested },
        (publishRequests ddsModule.mPublishers ddsModule.mEventMetatdata).map
          fun published => .published published.1 published.2)
  | .requested => ({ ddsModule with mNewEventReceived := false, worker := .waiting }, [])

def step (ddsModule : DataOverDDSModule) (action : DDSAction) : DataOverDDSModule × List DDSEntry :=
  match action with
  | .onEventOfInterestDetected eventMetadata => ddsModule.enter eventMetadata
  | .call => (ddsModule.callStep, [])
  | .worker => ddsModule.workerStep

def Idle (ddsModule : DataOverDDSModule) : Prop :=
  ddsModule.worker = .waiting ∧ ddsModule.mWait.mNotify = false ∧ ddsModule.call = none

instance (ddsModule : DataOverDDSModule) : Decidable ddsModule.Idle :=
  inferInstanceAs (Decidable (_ ∧ _ ∧ _))

end DataOverDDSModule

end DataInspection
