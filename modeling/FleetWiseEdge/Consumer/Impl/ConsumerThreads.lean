import FleetWiseEdge.Lib.Machine
import FleetWiseEdge.Types.Threading

/-!
This module contains the threads around one `CANDataConsumer`: the calls that other threads make and the
worker loop, one step for each access to an atomic flag, to the dictionary under its mutex, to the
`Signal` and to the input buffer.
-/

namespace DataInspection

inductive ConsumerCall (Dictionary : Type) where
  | startLock
  | startSleep
  -- `Thread::create`: the store to `mDone`
  | startDone
  -- `pthread_create` and the end of the lock
  | startCreate
  | stopLock
  | stopNotify
  | stopDone
  -- the wait for the end of the thread, if there is one
  | stopJoin
  | stopUnlock
  | suspendSleep
  | resumeStore (dictionary : Dictionary)
  | resumeSleep
  | resumeNotify
deriving Repr, DecidableEq

inductive ConsumerWorker (Dictionary : Type) where
  -- the load of `mDone` before `doWork`
  | created
  | checkSleep
  | sleeping
  | readDictionary
  | pop (dictionary : Option Dictionary)
  | idle
  | checkStop
  | exiting
  | finished
  -- a null dictionary has been dereferenced
  | crashed
deriving Repr, DecidableEq

def ConsumerWorker.isFinished {Dictionary : Type} (worker : ConsumerWorker Dictionary) : Bool :=
  match worker with
  | .finished => true
  | _ => false

structure ConsumerThreads (Dictionary : Type) (Frame : Type) where
  mShouldStop : Bool := false
  mShouldSleep : Bool := false
  mThreadMutex : Bool := false
  mDone : Bool := false
  mThread : Option Nat := none
  mWait : Platform.Signal := {}
  mDecoderDictionaryConstPtr : Option Dictionary := none
  mInputBuffer : List Frame := []
  calls : List (ConsumerCall Dictionary) := []
  workers : List (ConsumerWorker Dictionary) := []
deriving Repr, DecidableEq

inductive ConsumerAction (Dictionary : Type) (Frame : Type) where
  | start
  | stop
  | suspendDataConsumption
  | resumeDataConsumption (dictionary : Dictionary)
  | call (i : Nat)
  | worker (w : Nat)
  | push (frame : Frame)
deriving Repr, DecidableEq

inductive ConsumerEntry (Dictionary : Type) (Frame : Type) where
  | resumed
  -- a pass of the loop begins with this value of `mShouldSleep`
  | pass (w : Nat) (shouldSleep : Bool)
  | popped (w : Nat) (frame : Frame) (dictionary : Option Dictionary)
deriving Repr, DecidableEq

namespace ConsumerThreads

variable {Dictionary Frame : Type}

def advance (threads : ConsumerThreads Dictionary Frame) (call : ConsumerCall Dictionary)
    : ConsumerThreads Dictionary Frame × Option (ConsumerCall Dictionary)
        × List (ConsumerEntry Dictionary Frame) :=
  match call with
  | .startLock =>
    if threads.mThreadMutex then
      (threads, some .startLock, [])
    else
      ({ threads with mThreadMutex := true, mShouldStop := false }, some .startSleep, [])
  | .startSleep => ({ threads with mShouldSleep := true }, some .startDone, [])
  | .startDone => ({ threads with mDone := false }, some .startCreate, [])
  | .startCreate =>
    ({ threads with
        mThread := some threads.workers.length
        workers := threads.workers ++ [.created]
        mThreadMutex := false },
      none, [])
  | .stopLock =>
    if threads.mThreadMutex then
      (threads, some .stopLock, [])
    else
      ({ threads with mThreadMutex := true, mShouldStop := true }, some .stopNotify, [])
  | .stopNotify => ({ threads with mWait := threads.mWait.notify }, some .stopDone, [])
  | .stopDone => ({ threads with mDone := true }, some .stopJoin, [])
  | .stopJoin =>
    match threads.mThread with
    | none => (threads, some .stopUnlock, [])
    | some w =>
      if threads.workers[w]?.any (·.isFinished) then
        ({ threads with mThread := none }, some .stopUnlock, [])
      else
        (threads, some .stopJoin, [])
  | .stopUnlock => ({ threads with mShouldStop := false, mThreadMutex := false }, none, [])
  | .suspendSleep => ({ threads with mShouldSleep := true }, none, [])
  | .resumeStore dictionary =>
    ({ threads with mDecoderDictionaryConstPtr := some dictionary }, some .resumeSleep, [])
  | .resumeSleep =>
    match threads.mDecoderDictionaryConstPtr with
    | none => (threads, none, [])
    | some _ => ({ threads with mShouldSleep := false }, some .resumeNotify, [.resumed])
  | .resumeNotify => ({ threads with mWait := threads.mWait.notify }, none, [])

theorem advance_calls (threads : ConsumerThreads Dictionary Frame) (call : ConsumerCall Dictionary)
    : (threads.advance call).1.calls = threads.calls := by
  unfold advance
  cases call with
  | startLock =>
    dsimp only
    split <;> rfl
  | stopLock =>
    dsimp only
    split <;> rfl
  | stopJoin =>
    dsimp only
    split
    . rfl
    . split <;> rfl
  | resumeSleep =>
    dsimp only
    split <;> rfl
  | _ => rfl

def work (threads : ConsumerThreads Dictionary Frame) (w : Nat) (worker : ConsumerWorker Dictionary)
    : ConsumerThreads Dictionary Frame × ConsumerWorker Dictionary
        × List (ConsumerEntry Dictionary Frame) :=
  match worker with
  | .created => (threads, if threads.mDone then .finished else .checkSleep, [])
  | .checkSleep =>
    (threads, if threads.mShouldSleep then .sleeping else .readDictionary,
      [.pass w threads.mShouldSleep])
  | .sleeping =>
    match threads.mWait.waitWithPredicate with
    | none => (threads, .sleeping, [])
    | some mWait => ({ threads with mWait }, .readDictionary, [])
  | .readDictionary => (threads, .pop threads.mDecoderDictionaryConstPtr, [])
  | .pop dictionary =>
    match threads.mInputBuffer with
    | [] => (threads, .idle, [])
    | frame :: rest =>
      ({ threads with mInputBuffer := rest },
        if dictionary.isSome then .checkStop else .crashed,
        [.popped w frame dictionary])
  | .idle => ({ threads with mWait := threads.mWait.waitWithTimeout }, .checkStop, [])
  | .checkStop => (threads, if threads.mShouldStop then .exiting else .checkSleep, [])
  | .exiting => ({ threads with mDone := true }, .finished, [])
  | .finished => (threads, .finished, [])
  | .crashed => (threads, .crashed, [])

def invoke (threads : ConsumerThreads Dictionary Frame) (call : ConsumerCall Dictionary)
    : ConsumerThreads Dictionary Frame :=
  { threads with calls := threads.calls ++ [call] }

def callStep (threads : ConsumerThreads Dictionary Frame) (i : Nat)
    : ConsumerThreads Dictionary Frame × List (ConsumerEntry Dictionary Frame) :=
  match threads.calls[i]? with
  | none => (threads, [])
  | some call =>
    let (threads, rest, log) := threads.advance call
    match rest with
    | none => ({ threads with calls := threads.calls.eraseIdx i }, log)
    | some call => ({ threads with calls := threads.calls.set i call }, log)

def workerStep (threads : ConsumerThreads Dictionary Frame) (w : Nat)
    : ConsumerThreads Dictionary Frame × List (ConsumerEntry Dictionary Frame) :=
  match threads.workers[w]? with
  | none => (threads, [])
  | some worker =>
    let (threads, worker, log) := threads.work w worker
    ({ threads with workers := threads.workers.set w worker }, log)

def step (threads : ConsumerThreads Dictionary Frame) (action : ConsumerAction Dictionary Frame)
    : ConsumerThreads Dictionary Frame × List (ConsumerEntry Dictionary Frame) :=
  match action with
  | .start => (threads.invoke .startLock, [])
  | .stop => (threads.invoke .stopLock, [])
  | .suspendDataConsumption => (threads.invoke .suspendSleep, [])
  | .resumeDataConsumption dictionary => (threads.invoke (.resumeStore dictionary), [])
  | .call i => threads.callStep i
  | .worker w => threads.workerStep w
  | .push frame => ({ threads with mInputBuffer := threads.mInputBuffer ++ [frame] }, [])

end ConsumerThreads

end DataInspection
