import FleetWiseEdge.Inspection.Impl.Run
import FleetWiseEdge.Inspection.Impl.Setup

/-!
This module contains `CollectionInspectionWorkerThread::doWork`, one step for each pass of its loop.
-/

namespace DataInspection

open Cpp DataManagement

/--
`lastInputTimeEvaluated`, `lastTimeEvaluated` and `inputCounterSinceLastEvaluate` are the local variables
of `doWork` that live from one pass to the next, `done` says that it has returned.
-/
structure CollectionInspectionWorkerThread (V : Type) where
  fCollectionInspectionEngine : CollectionInspectionEngine V
  fUpdatedInspectionMatrixAvailable : Bool := false
  fUpdatedInspectionMatrix : Option (InspectionMatrix V) := none
  fIdleTimeMs : Nat := 1000
  lastInputTimeEvaluated : Nat := 0
  lastTimeEvaluated : Nat := 0
  inputCounterSinceLastEvaluate : Nat := 0
  done : Bool := false

/--
What the other threads and the clock do to one pass: the matrices that are handed over before it and
between its two looks at them, what the input buffers hold for it, the times that it reads and the values
of `fShouldStop`. `order` is the order in which a new matrix visits the buffers.
-/
structure WorkerPass (V : Type) where
  order : IterationOrder V
  matrix : Option (InspectionMatrix V) := none
  laterMatrix : Option (InspectionMatrix V) := none
  inputSignal : Option (CollectedSignal V) := none
  inputCANFrame : Option CollectedCanRawFrame := none
  activeDTCs : Option DTCInfo := none
  evaluationTime : Nat := 0
  sleepCheckTime : Nat := 0
  sleepEvaluationTime : Nat := 0
  collectTime : Nat → Nat := fun _ => 0
  shouldStopCollecting : Nat → Bool := fun _ => false
  shouldStop : Bool := false

inductive WorkerEntry (V : Type) where
  | popped (receiveTime : Nat)
  | evaluated (currentTime : Nat)
  | collected (data : TriggeredCollectionSchemeData V)
  | waits (timeToWait : Nat)
  -- the wait without a timeout, there is no matrix
  | waitsForMatrix

namespace CollectionInspectionWorkerThread

def EVALUATE_INTERVAL_MS : Nat := 1

variable {V : Type} [InspectionValue V]

def onChangeInspectionMatrix (worker : CollectionInspectionWorkerThread V)
    (matrix : Option (InspectionMatrix V))
    : CollectionInspectionWorkerThread V :=
  match matrix with
  | none => worker
  | some activeConditions =>
    { worker with
      fUpdatedInspectionMatrix := some activeConditions
      fUpdatedInspectionMatrixAvailable := true }

def takeMatrix (worker : CollectionInspectionWorkerThread V) (order : IterationOrder V)
    : CollectionInspectionWorkerThread V :=
  match worker.fUpdatedInspectionMatrixAvailable, worker.fUpdatedInspectionMatrix with
  | true, some newInspectionMatrix =>
    { worker with
      fUpdatedInspectionMatrixAvailable := false
      fCollectionInspectionEngine :=
        worker.fCollectionInspectionEngine.onChangeInspectionMatrix order newInspectionMatrix }
  | _, _ => worker

structure Pass (V : Type) where
  worker : CollectionInspectionWorkerThread V
  readyToSleep : Bool := true
  latestSignalTime : Nat := 0
  log : List (WorkerEntry V) := []

def Pass.popped (p : Pass V) (engine : CollectionInspectionEngine V) (receiveTime : Nat) : Pass V :=
  { worker := { p.worker with
      fCollectionInspectionEngine := engine
      inputCounterSinceLastEvaluate := u64 (p.worker.inputCounterSinceLastEvaluate + 1) }
    readyToSleep := false
    latestSignalTime := max p.latestSignalTime receiveTime
    log := p.log ++ [.popped receiveTime] }

def Pass.popSignal (p : Pass V) (inputSignal : Option (CollectedSignal V)) : Pass V :=
  match inputSignal with
  | none => p
  | some inputSignal =>
    p.popped (p.worker.fCollectionInspectionEngine.addNewSignal inputSignal.signalID
      inputSignal.receiveTime inputSignal.value) inputSignal.receiveTime

def Pass.popCANFrame (p : Pass V) (inputCANFrame : Option CollectedCanRawFrame) : Pass V :=
  match inputCANFrame with
  | none => p
  | some inputCANFrame =>
    p.popped (p.worker.fCollectionInspectionEngine.addNewRawCanFrame inputCANFrame.frameID
      inputCANFrame.channelId inputCANFrame.receiveTime inputCANFrame.data inputCANFrame.size)
      inputCANFrame.receiveTime

def Pass.popActiveDTCs (p : Pass V) (activeDTCs : Option DTCInfo) : Pass V :=
  match activeDTCs with
  | none => p
  | some activeDTCs =>
    { p with
      worker := { p.worker with
        fCollectionInspectionEngine := p.worker.fCollectionInspectionEngine.setActiveDTCs activeDTCs } }

def Pass.evaluate (p : Pass V) (currentTime : Nat) : Pass V :=
  { p with
    worker := { p.worker with
      lastInputTimeEvaluated := p.latestSignalTime
      lastTimeEvaluated := currentTime
      fCollectionInspectionEngine :=
        (p.worker.fCollectionInspectionEngine.evaluateConditions currentTime).1
      inputCounterSinceLastEvaluate := 0 }
    log := p.log ++ [.evaluated currentTime] }

def Pass.evaluateInput (p : Pass V) (evaluationTime : Nat) : Pass V :=
  if subU64 p.latestSignalTime p.worker.lastInputTimeEvaluated ≥ EVALUATE_INTERVAL_MS
      ∨ p.worker.inputCounterSinceLastEvaluate ≥ 256 then
    p.evaluate evaluationTime
  else
    p

def Pass.evaluateBeforeSleep (p : Pass V) (sleepCheckTime sleepEvaluationTime : Nat) : Pass V :=
  if p.readyToSleep
      ∧ subU64 sleepCheckTime p.worker.lastTimeEvaluated ≥ EVALUATE_INTERVAL_MS then
    p.evaluate sleepEvaluationTime
  else
    p

/--
The loop over `collectNextDataToSend` with at most `calls` calls, `k` have been made before.
-/
def collectAll (collectTime : Nat → Nat) (shouldStop : Nat → Bool) (calls k waitTimeMs : Nat)
    (engine : CollectionInspectionEngine V)
    : CollectionInspectionEngine V × Nat × List (WorkerEntry V) :=
  match calls with
  | 0 => (engine, waitTimeMs, [])
  | calls + 1 =>
    let next := engine.collectNextDataToSend (collectTime k)
    let waitTimeMs := next.waitTimeMs.getD waitTimeMs
    match next.data with
    | none => (next.engine, waitTimeMs, [])
    | some (_, collectedData) =>
      if shouldStop k then
        (next.engine, waitTimeMs, [])
      else
        let (engine, waitTimeMs, log) :=
          collectAll collectTime shouldStop calls (k + 1) waitTimeMs next.engine
        (engine, waitTimeMs, .collected collectedData :: log)

/--
The rest of a pass behind the evaluations. There are enough calls for every condition and the one that
returns null.
-/
def Pass.collectAndSleep (p : Pass V) (collectTime : Nat → Nat) (shouldStop : Nat → Bool) : Pass V :=
  let engine := p.worker.fCollectionInspectionEngine
  let (engine, waitTimeMs, log) := collectAll collectTime shouldStop (engine.mConditions.length + 1) 0
    p.worker.fIdleTimeMs engine
  let sleeps := if p.readyToSleep then [WorkerEntry.waits (min waitTimeMs p.worker.fIdleTimeMs)] else []
  { p with
    worker := { p.worker with fCollectionInspectionEngine := engine }
    log := p.log ++ log ++ sleeps }

def runPass (worker : CollectionInspectionWorkerThread V) (pass : WorkerPass V) : Pass V :=
  let p := Pass.popSignal { worker } pass.inputSignal
  let p := p.popCANFrame pass.inputCANFrame
  let p := p.popActiveDTCs pass.activeDTCs
  let p := p.evaluateInput pass.evaluationTime
  let p := p.evaluateBeforeSleep pass.sleepCheckTime pass.sleepEvaluationTime
  p.collectAndSleep pass.collectTime pass.shouldStopCollecting

def doWork (worker : CollectionInspectionWorkerThread V) (pass : WorkerPass V)
    : CollectionInspectionWorkerThread V × List (WorkerEntry V) :=
  if worker.done then
    (worker, [])
  else
    let worker := (worker.onChangeInspectionMatrix pass.matrix).takeMatrix pass.order
    let worker := worker.onChangeInspectionMatrix pass.laterMatrix
    match worker.fUpdatedInspectionMatrix with
    | none => ({ worker with done := pass.shouldStop }, [.waitsForMatrix])
    | some _ =>
      let p := worker.runPass pass
      ({ p.worker with done := pass.shouldStop }, p.log)

end CollectionInspectionWorkerThread

end DataInspection
