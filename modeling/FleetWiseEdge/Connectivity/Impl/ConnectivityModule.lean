import FleetWiseEdge.Types.Basic
import FleetWiseEdge.Types.Threading
import FleetWiseEdge.Types.Upload

/-!
This module contains `AwsIotConnectivityModule`, its `RetryThread` and the subscription of its channels: one step
for each access to an atomic member, to a promise, to the `Signal` and for each call of the SDK. The callbacks
of the SDK are steps of its event loop.
-/

namespace OffboardConnectivityAwsIot

open Cpp
open OffboardConnectivity (ConnectivityError)

def RETRY_FIRST_CONNECTION_START_BACKOFF_MS : Nat := 1000

def RETRY_FIRST_CONNECTION_MAX_BACKOFF_MS : Nat := 256000

def AWS_MQTT_CONNECT_ACCEPTED : Nat := 0

def AWS_MQTT_QOS_FAILURE : Nat := 0x80

/--
A `std::promise`. `retrieved` says whether its future has been taken.
-/
structure Promise (α : Type) where
  value : Option α := none
  retrieved : Bool := false

namespace Promise

variable {α : Type}

def setValue (promise : Promise α) (value : α) : Option (Promise α) :=
  if promise.value.isSome then none else some { promise with value := some value }

def getFuture (promise : Promise α) : Option (Promise α) :=
  if promise.retrieved then none else some { promise with retrieved := true }

end Promise

inductive RetryStatus where
  | SUCCESS
  | RETRY
  | ABORT
  deriving DecidableEq, Repr

inductive Progress (σ ρ : Type) where
  | running (step : σ)
  | returned (result : ρ)

inductive ResetStep where
  | renewCompleted
  | checkEstablished
  | disconnect
  | getFuture
  | wait
  | renewClosed
  | clear

inductive AttemptStep where
  | connect
  | establish
  | getFuture
  | wait
  | accept
  | reset (step : ResetStep)

inductive Session where
  | offline
  | online
  | interrupted
  deriving DecidableEq, Repr

/--
The members that `attempt`, `resetConnection` and the callbacks share. The SDK owes a callback after a
successful `Connect` and `Disconnect`: `connecting` and `disconnecting`. `overtaken` records that the
connection was interrupted before `attempt` has set `mConnected`.
-/
structure Connection where
  mConnectionCompletedPromise : Promise Bool := {}
  mConnectionClosedPromise : Promise Unit := {}
  mConnected : Bool := false
  mConnectionEstablished : Bool := false
  connecting : Bool := false
  disconnecting : Bool := false
  session : Session := .offline
  overtaken : Bool := false

namespace Connection

def resetConnection (connection : Connection) (step : ResetStep) (answer : Bool)
    : Option (Connection × Progress ResetStep Bool) :=
  match step with
  | .renewCompleted =>
    some ({ connection with mConnectionCompletedPromise := {} }, .running .checkEstablished)
  | .checkEstablished =>
    some (connection, if connection.mConnectionEstablished then .running .disconnect else .returned false)
  | .disconnect =>
    if answer then
      some ({ connection with disconnecting := true }, .running .getFuture)
    else
      some (connection, .returned false)
  | .getFuture =>
    connection.mConnectionClosedPromise.getFuture.map fun mConnectionClosedPromise =>
      ({ connection with mConnectionClosedPromise }, .running .wait)
  | .wait =>
    some (connection,
      .running (if connection.mConnectionClosedPromise.value.isSome then .renewClosed else .wait))
  | .renewClosed => some ({ connection with mConnectionClosedPromise := {} }, .running .clear)
  | .clear => some ({ connection with mConnectionEstablished := false }, .returned true)

/--
`answer` is what `Connect` and `Disconnect` return.
-/
def attempt (connection : Connection) (step : AttemptStep) (answer : Bool)
    : Option (Connection × Progress AttemptStep RetryStatus) :=
  match step with
  | .connect =>
    if answer then
      some ({ connection with connecting := true }, .running .establish)
    else
      some (connection, .returned .RETRY)
  | .establish => some ({ connection with mConnectionEstablished := true }, .running .getFuture)
  | .getFuture =>
    connection.mConnectionCompletedPromise.getFuture.map fun mConnectionCompletedPromise =>
      ({ connection with mConnectionCompletedPromise }, .running .wait)
  | .wait =>
    match connection.mConnectionCompletedPromise.value with
    | none => some (connection, .running .wait)
    | some true => some (connection, .running .accept)
    | some false => some (connection, .running (.reset .renewCompleted))
  | .accept =>
    some ({ connection with
        mConnected := true
        overtaken := connection.session = .interrupted },
      .returned .SUCCESS)
  | .reset step =>
    (connection.resetConnection step answer).map fun (connection, progress) =>
      (connection,
        match progress with
        | .running step => .running (.reset step)
        | .returned _ => .returned .RETRY)

section Callbacks

def onConnectionCompleted (connection : Connection) (errorCode returnCode : Nat) : Option Connection :=
  let accepted := errorCode = 0 && returnCode = AWS_MQTT_CONNECT_ACCEPTED
  (connection.mConnectionCompletedPromise.setValue accepted).map fun mConnectionCompletedPromise =>
    { connection with
      mConnectionCompletedPromise
      connecting := false
      session := if accepted then .online else connection.session }

def onInterrupted (connection : Connection) : Connection :=
  { connection with
    mConnected := false
    session := .interrupted
    overtaken := false }

def onResumed (connection : Connection) : Connection :=
  { connection with
    mConnected := true
    session := .online
    overtaken := false }

def onDisconnect (connection : Connection) : Option Connection :=
  (connection.mConnectionClosedPromise.setValue ()).map fun mConnectionClosedPromise =>
    { connection with
      mConnectionClosedPromise
      disconnecting := false
      session := .offline }

end Callbacks

end Connection

inductive SubscribeStep where
  | check (i : Nat)
  | request (i : Nat)
  | wait (i : Nat)

structure AwsIotChannel where
  mTopicName : String
  mSubscribeAsynchronously : Bool
  mSubscribed : Bool := false

/--
The channels of the module and the promise of the `subscribe` that is running. `subscribing` is the channel
whose `onSubAck` the SDK owes, `results` records what the calls of `subscribe` have returned.
-/
structure Subscriptions where
  mChannels : List AwsIotChannel
  subscribeFinishedPromise : Promise Unit := {}
  subscribing : Option Nat := none
  results : List (Nat × ConnectivityError) := []

namespace Subscriptions

def isSubscribed (subscriptions : Subscriptions) (i : Nat) : Bool :=
  (subscriptions.mChannels[i]?.map (·.mSubscribed)).getD false

/--
The loop over the channels. `isAlive` is what the load of `mConnected` finds, `answer` what `Subscribe` returns:
the SDK owes no callback where it fails at once.
-/
def onFinished (subscriptions : Subscriptions) (step : SubscribeStep) (isAlive answer : Bool)
    : Subscriptions × Progress SubscribeStep Unit :=
  match step with
  | .check i =>
    match subscriptions.mChannels[i]? with
    | none => (subscriptions, .returned ())
    | some channel =>
      if !channel.mSubscribeAsynchronously then
        (subscriptions, .running (.check (i + 1)))
      else if channel.mTopicName.isEmpty then
        ({ subscriptions with results := subscriptions.results ++ [(i, .NotConfigured)] },
          .running (.check (i + 1)))
      else if !isAlive then
        ({ subscriptions with results := subscriptions.results ++ [(i, .NoConnection)] },
          .running (.check (i + 1)))
      else
        (subscriptions, .running (.request i))
  | .request i =>
    ({ subscriptions with
        subscribeFinishedPromise := {}
        subscribing := if answer then some i else none },
      .running (.wait i))
  | .wait i =>
    if subscriptions.subscribeFinishedPromise.value.isSome then
      let result := if subscriptions.isSubscribed i then .Success else .NoConnection
      ({ subscriptions with results := subscriptions.results ++ [(i, result)] }, .running (.check (i + 1)))
    else
      (subscriptions, .running (.wait i))

/--
An acknowledgement with an error does not fulfil the promise.
-/
def onSubAck (subscriptions : Subscriptions) (i packetId qos errorCode : Nat) : Option Subscriptions :=
  let mSubscribed := errorCode = 0 && !(packetId = 0 || qos = AWS_MQTT_QOS_FAILURE)
  let mChannels := subscriptions.mChannels.modify i fun channel => { channel with mSubscribed }
  if errorCode ≠ 0 then
    some { subscriptions with
      mChannels
      subscribing := none }
  else
    (subscriptions.subscribeFinishedPromise.setValue ()).map fun subscribeFinishedPromise =>
      { subscriptions with
        mChannels
        subscribeFinishedPromise
        subscribing := none }

end Subscriptions

inductive RetryWorker where
  | absent
  -- the load of `mDone`
  | entry
  | start
  | checkStop
  | attempt (step : AttemptStep)
  | wait
  | backoff
  | subscribe (step : SubscribeStep)
  -- the store to `mDone`
  | exit
  -- `mTerminateSignal` was notified
  | ended

/--
`created` records that there is or was a thread, `attempts` what `attempt` has returned, `waits` how long the thread
was to wait and `finished` the codes that were given to `onFinished`.
-/
structure RetryThread where
  fCurrentWaitTime : Nat := 0
  fShouldStop : Bool := false
  fWait : Platform.Signal := {}
  mDone : Bool := false
  worker : RetryWorker := .absent
  created : Bool := false
  attempts : List RetryStatus := []
  waits : List Nat := []
  finished : List RetryStatus := []

inductive MainThread where
  | idle
  | attempt (step : AttemptStep)
  | subscribe (step : SubscribeStep)
  | stopStore
  | stopNotify
  -- `fThread.release()`: the store to `mDone`
  | release
  | join
  -- the store to `fShouldStop` behind it
  | stopped
  | reset (step : ResetStep)

inductive EventLoop where
  | idle
  -- `onDisconnect`: the store to `mConnected`
  | closing
  | closed
  deriving DecidableEq, Repr

structure AwsIotConnectivityModule where
  connection : Connection := {}
  subscriptions : Subscriptions
  mRetryThread : RetryThread := {}
  mainThread : MainThread := .idle
  eventLoop : EventLoop := .idle
  connected : Bool := false

inductive ConnectivityEvent where
  -- `created` is what `createMqttConnection` returns
  | connect (created asynchronous : Bool)
  | disconnect
  -- the next step of a thread, `answer` is what the SDK returns where it is called
  | main (answer : Bool)
  | retry (answer : Bool)
  | onConnectionCompleted (errorCode returnCode : Nat)
  | onInterrupted
  | onResumed
  | onDisconnect
  | onSubAck (packetId qos errorCode : Nat)
  | callback

namespace AwsIotConnectivityModule

def isAlive (module : AwsIotConnectivityModule) : Bool := module.connection.mConnected

section Threads

def setWorker (module : AwsIotConnectivityModule) (worker : RetryWorker) : AwsIotConnectivityModule :=
  { module with mRetryThread := { module.mRetryThread with worker } }

def afterAttempt (module : AwsIotConnectivityModule) (result : RetryStatus) : AwsIotConnectivityModule :=
  let attempts := module.mRetryThread.attempts ++ [result]
  match result with
  | .RETRY =>
    { module with
      mRetryThread := { module.mRetryThread with
        attempts
        worker := .wait } }
  | .SUCCESS =>
    { module with
      mRetryThread := { module.mRetryThread with
        attempts
        finished := module.mRetryThread.finished ++ [.SUCCESS]
        worker := .subscribe (.check 0) } }
  | .ABORT =>
    { module with
      mRetryThread := { module.mRetryThread with
        attempts
        finished := module.mRetryThread.finished ++ [.ABORT]
        worker := .exit } }

def retryStep (module : AwsIotConnectivityModule) (answer : Bool) : Option AwsIotConnectivityModule :=
  match module.mRetryThread.worker with
  | .absent | .ended => some module
  | .entry => some (module.setWorker (if module.mRetryThread.mDone then .exit else .start))
  | .start =>
    some { module with
      mRetryThread := { module.mRetryThread with
        fCurrentWaitTime := RETRY_FIRST_CONNECTION_START_BACKOFF_MS
        worker := .checkStop } }
  | .checkStop =>
    if module.mRetryThread.fShouldStop then
      some { module with
        mRetryThread := { module.mRetryThread with
          finished := module.mRetryThread.finished ++ [.ABORT]
          worker := .exit } }
    else
      some (module.setWorker (.attempt .connect))
  | .attempt step =>
    (module.connection.attempt step answer).map fun (connection, progress) =>
      let module := { module with connection }
      match progress with
      | .running step => module.setWorker (.attempt step)
      | .returned result => module.afterAttempt result
  | .wait =>
    some { module with
      mRetryThread := { module.mRetryThread with
        fWait := module.mRetryThread.fWait.waitWithTimeout
        waits := module.mRetryThread.waits ++ [module.mRetryThread.fCurrentWaitTime]
        worker := .backoff } }
  | .backoff =>
    some { module with
      mRetryThread := { module.mRetryThread with
        fCurrentWaitTime :=
          min (u32 (module.mRetryThread.fCurrentWaitTime * 2)) RETRY_FIRST_CONNECTION_MAX_BACKOFF_MS
        worker := .checkStop } }
  | .subscribe step =>
    let (subscriptions, progress) := module.subscriptions.onFinished step module.isAlive answer
    let module := { module with subscriptions }
    match progress with
    | .running step => some (module.setWorker (.subscribe step))
    | .returned () => some (module.setWorker .exit)
  | .exit =>
    some { module with
      mRetryThread := { module.mRetryThread with
        mDone := true
        worker := .ended } }

def mainStep (module : AwsIotConnectivityModule) (answer : Bool) : Option AwsIotConnectivityModule :=
  match module.mainThread with
  | .idle => some module
  | .attempt step =>
    (module.connection.attempt step answer).map fun (connection, progress) =>
      { module with
        connection
        mainThread :=
          match progress with
          | .running step => .attempt step
          | .returned .SUCCESS => .subscribe (.check 0)
          | .returned _ => .idle }
  | .subscribe step =>
    let (subscriptions, progress) := module.subscriptions.onFinished step module.isAlive answer
    some { module with
      subscriptions
      mainThread :=
        match progress with
        | .running step => .subscribe step
        | .returned () => .idle }
  | .stopStore =>
    some { module with
      mRetryThread := { module.mRetryThread with fShouldStop := true }
      mainThread := .stopNotify }
  | .stopNotify =>
    some { module with
      mRetryThread := { module.mRetryThread with fWait := module.mRetryThread.fWait.notify }
      mainThread := .release }
  | .release =>
    some { module with
      mRetryThread := { module.mRetryThread with mDone := true }
      mainThread := .join }
  | .join =>
    match module.mRetryThread.worker with
    | .ended => some { module.setWorker .absent with mainThread := .stopped }
    | _ => some module
  | .stopped =>
    some { module with
      mRetryThread := { module.mRetryThread with fShouldStop := false }
      mainThread := .reset .renewCompleted }
  | .reset step =>
    (module.connection.resetConnection step answer).map fun (connection, progress) =>
      { module with
        connection
        mainThread :=
          match progress with
          | .running step => .reset step
          | .returned _ => .idle }

end Threads

def connect (module : AwsIotConnectivityModule) (created asynchronous : Bool) : AwsIotConnectivityModule :=
  let module := { module with
    connection := { module.connection with mConnected := false }
    connected := true }
  if !created then
    module
  else if asynchronous then
    { module with mRetryThread := { module.mRetryThread with
        fShouldStop := false
        mDone := false
        worker := .entry
        created := true } }
  else
    { module with mainThread := .attempt .connect }

-- `RetryThread::stop` returns at once if the thread is not valid.
def disconnect (module : AwsIotConnectivityModule) : AwsIotConnectivityModule :=
  match module.mRetryThread.worker with
  | .absent => { module with mainThread := .reset .renewCompleted }
  | _ => { module with mainThread := .stopStore }

def callbackStep (module : AwsIotConnectivityModule) : AwsIotConnectivityModule :=
  match module.eventLoop with
  | .idle => module
  | .closing =>
    { module with
      connection := { module.connection with mConnected := false }
      eventLoop := .closed }
  | .closed =>
    { module with
      connection := { module.connection with mConnectionEstablished := false }
      eventLoop := .idle }

/--
A call that is not allowed and a callback that the SDK does not owe leave the module as it is, and the event
loop begins a callback when it is through with the last one. There is no result where a promise throws.
-/
def step (module : AwsIotConnectivityModule) (event : ConnectivityEvent) : Option AwsIotConnectivityModule :=
  match event with
  | .connect created asynchronous =>
    match module.mainThread with
    | .idle => some (if module.connected then module else module.connect created asynchronous)
    | _ => some module
  | .disconnect =>
    match module.mainThread with
    | .idle => some module.disconnect
    | _ => some module
  | .main answer => module.mainStep answer
  | .retry answer => module.retryStep answer
  | .onConnectionCompleted errorCode returnCode =>
    if module.eventLoop = .idle ∧ module.connection.connecting then
      (module.connection.onConnectionCompleted errorCode returnCode).map fun connection =>
        { module with connection }
    else
      some module
  | .onInterrupted =>
    if module.eventLoop = .idle ∧ module.connection.session = .online then
      some { module with connection := module.connection.onInterrupted }
    else
      some module
  | .onResumed =>
    if module.eventLoop = .idle ∧ module.connection.session = .interrupted then
      some { module with connection := module.connection.onResumed }
    else
      some module
  | .onDisconnect =>
    if module.eventLoop = .idle ∧ module.connection.disconnecting then
      module.connection.onDisconnect.map fun connection =>
        { module with
          connection
          eventLoop := .closing }
    else
      some module
  | .onSubAck packetId qos errorCode =>
    match module.eventLoop, module.subscriptions.subscribing with
    | .idle, some i =>
      (module.subscriptions.onSubAck i packetId qos errorCode).map fun subscriptions =>
        { module with subscriptions }
    | _, _ => some module
  | .callback => some module.callbackStep

def new (channels : List (String × Bool)) : AwsIotConnectivityModule where
  subscriptions := {
    mChannels := channels.map fun (mTopicName, mSubscribeAsynchronously) =>
      { mTopicName, mSubscribeAsynchronously } }

def run (module : AwsIotConnectivityModule) (events : List ConnectivityEvent)
    : Option AwsIotConnectivityModule :=
  events.foldlM step module

end AwsIotConnectivityModule

end OffboardConnectivityAwsIot
