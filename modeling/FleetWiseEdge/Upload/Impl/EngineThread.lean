import FleetWiseEdge.Lib.BoundedQueue
import FleetWiseEdge.Types.Threading
import FleetWiseEdge.Upload.Impl.Engine

/-!
This module contains `IoTFleetWiseEngine::doWork`, the thread that sends the collected data, one atomic
action after the other. The log lines are left out, and so is the way of the time to wait through a `double`
with seconds.
-/

namespace ExecutionManagement

open DataInspection DataManagement OffboardConnectivity

/--
Where the thread is in a pass of its loop. `waits` has the time in milliseconds after which the wait ends at
the latest, it is `none` for the wait without a timeout.
-/
inductive EnginePhase where
  | begins
  | waits (timeoutMs : Option Nat)
  | consumes
  | retries
  deriving DecidableEq, Repr

/--
`timeTrigger` and `uploadedPersistedDataOnce` are local variables of `doWork`. `uploads` records what the
thread made of its engine.
-/
structure EngineThread (V : Type) where
  engine : IoTFleetWiseEngine V
  mPersistencyUploadRetryIntervalMs : Nat
  mWait : Platform.Signal := {}
  timeTrigger : Nat := 0
  uploadedPersistedDataOnce : Bool := false
  phase : EnginePhase := .begins
  uploads : List (IoTFleetWiseEngine.UploadEvent V) := []

/--
The next action of the thread, with what it reads of `mRetrySendingPersistedDataTimer`, of the connection and
of the memory behind the file it retrieves.
-/
inductive EngineAction where
  | computeWait (elapsedMs : Nat)
  | wake
  | consume
  | retry (elapsedMs elapsedMs' : Nat) (isAlive : Bool) (memory : Nat → UInt8)

namespace EngineThread

def FAST_RETRY_UPLOAD_PERSISTED_INTERVAL_MS : Nat := 1000

variable {V : Type}

def computeWait (thread : EngineThread V) (elapsedMs : Nat) : EngineThread V :=
  let timeTrigger :=
    if !thread.uploadedPersistedDataOnce then
      max (FAST_RETRY_UPLOAD_PERSISTED_INTERVAL_MS / 10)
        (FAST_RETRY_UPLOAD_PERSISTED_INTERVAL_MS - min elapsedMs FAST_RETRY_UPLOAD_PERSISTED_INTERVAL_MS)
    else if thread.mPersistencyUploadRetryIntervalMs > 0 then
      max FAST_RETRY_UPLOAD_PERSISTED_INTERVAL_MS
        (thread.mPersistencyUploadRetryIntervalMs - min elapsedMs thread.mPersistencyUploadRetryIntervalMs)
    else
      thread.timeTrigger
  { thread with
    timeTrigger
    phase := .waits (if timeTrigger > 0 then some timeTrigger else none) }

def wake (thread : EngineThread V) (timeoutMs : Option Nat) : EngineThread V :=
  match timeoutMs with
  | some _ => { thread with mWait := thread.mWait.waitWithTimeout, phase := .consumes }
  | none =>
    match thread.mWait.waitWithPredicate with
    | none => thread
    | some mWait => { thread with mWait, phase := .consumes }

def retryIsDue (thread : EngineThread V) (elapsedMs elapsedMs' : Nat) : Bool :=
  thread.mPersistencyUploadRetryIntervalMs > 0 && elapsedMs ≥ thread.mPersistencyUploadRetryIntervalMs
    || !thread.uploadedPersistedDataOnce && elapsedMs' ≥ FAST_RETRY_UPLOAD_PERSISTED_INTERVAL_MS

section Actions

variable (libraries : Libraries V) (connectivity : Nat → Connectivity)

def consume (thread : EngineThread V) (queue : BoundedQueue (TriggeredCollectionSchemeData V))
    : EngineThread V × BoundedQueue (TriggeredCollectionSchemeData V) :=
  match queue.pop with
  | none => ({ thread with phase := .retries }, queue)
  | some (data, queue) =>
    ({ thread with
        engine := thread.engine.step libraries connectivity (.send data)
        uploads := thread.uploads ++ [.send data] },
      queue)

def retry (thread : EngineThread V) (elapsedMs elapsedMs' : Nat) (isAlive : Bool)
    (memory : Nat → UInt8)
    : EngineThread V :=
  if thread.retryIsDue elapsedMs elapsedMs' && isAlive then
    let (engine, sent) := thread.engine.checkAndSendRetrievedData libraries connectivity memory
    { thread with
      engine
      uploadedPersistedDataOnce := thread.uploadedPersistedDataOnce || sent
      phase := .begins
      uploads := thread.uploads ++ [.checkAndSendRetrievedData memory] }
  else
    { thread with phase := .begins }

def act (thread : EngineThread V) (queue : BoundedQueue (TriggeredCollectionSchemeData V))
    (action : EngineAction)
    : EngineThread V × BoundedQueue (TriggeredCollectionSchemeData V) :=
  match thread.phase, action with
  | .begins, .computeWait elapsedMs => (thread.computeWait elapsedMs, queue)
  | .waits timeoutMs, .wake => (thread.wake timeoutMs, queue)
  | .consumes, .consume => thread.consume libraries connectivity queue
  | .retries, .retry elapsedMs elapsedMs' isAlive memory =>
    (thread.retry libraries connectivity elapsedMs elapsedMs' isAlive memory, queue)
  | _, _ => (thread, queue)

def onDataReadyToPublish (thread : EngineThread V) : EngineThread V :=
  { thread with mWait := thread.mWait.notify }

end Actions

end EngineThread

end ExecutionManagement
