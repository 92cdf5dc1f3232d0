import FleetWiseEdge.Inspection.Impl.Collect
import FleetWiseEdge.Lib.Machine

/-!
This module contains the inspection engine as a machine: its events are the calls of its interface and
its log holds what these calls do to the conditions.
-/

namespace DataInspection

open Cpp DataManagement

inductive EngineEvent (V : Type) where
  | addNewSignal (id : SignalID) (receiveTime : Nat) (value : V)
  | addNewRawCanFrame (canID channelID receiveTime : Nat) (buffer : CanFrameBytes) (size : Nat)
  | setActiveDTCs (activeDTCs : DTCInfo)
  | evaluateConditions (currentTime : Nat)
  | collectNextDataToSend (currentTime : Nat)
  deriving DecidableEq, Repr

inductive Observation (V : Type) where
  | evaluated (currentTime i : Nat) (isTrue triggered : Bool)
  -- `shallSendData` was false for the condition
  | refused (currentTime i : Nat)
  | published (currentTime i : Nat) (data : TriggeredCollectionSchemeData V)
  deriving DecidableEq, Repr

structure InspectionInput (V : Type) where
  signals : List (CollectedSignal V)
  currentTime : Nat
  deriving DecidableEq, Repr

namespace Observation

variable {V : Type}

def ofEvaluation (currentTime : Nat) (e : Evaluation) : Observation V :=
  .evaluated currentTime e.index e.isTrue e.triggered

def ofNextData (currentTime : Nat) (next : NextDataToSend V) : List (Observation V) :=
  next.refused.map (.refused currentTime)
    ++ (next.data.map fun (i, data) => published currentTime i data).toList

end Observation

namespace CollectionInspectionEngine

variable {V : Type} [InspectionValue V]

def step (s : CollectionInspectionEngine V) (event : EngineEvent V)
    : CollectionInspectionEngine V × List (Observation V) :=
  match event with
  | .addNewSignal id receiveTime value => (s.addNewSignal id receiveTime value, [])
  | .addNewRawCanFrame canID channelID receiveTime buffer size =>
    (s.addNewRawCanFrame canID channelID receiveTime buffer size, [])
  | .setActiveDTCs activeDTCs => (s.setActiveDTCs activeDTCs, [])
  | .evaluateConditions currentTime =>
    let (s, evaluations) := s.evaluateConditions currentTime
    (s, evaluations.map (.ofEvaluation currentTime))
  | .collectNextDataToSend currentTime =>
    let next := s.collectNextDataToSend currentTime
    (next.engine, Observation.ofNextData currentTime next)

/--
The last loop of `CollectionInspectionWorkerThread::doWork`, which calls `collectNextDataToSend` until it
returns null, here at most `calls` times.
-/
def collectUntilNull (calls currentTime : Nat) (s : CollectionInspectionEngine V)
    : CollectionInspectionEngine V × List (Observation V) :=
  match calls with
  | 0 => (s, [])
  | calls + 1 =>
    let next := s.collectNextDataToSend currentTime
    let log := Observation.ofNextData currentTime next
    match next.data with
    | none => (next.engine, log)
    | some _ =>
      let (s, later) := collectUntilNull calls currentTime next.engine
      (s, log ++ later)

def addNewSignals (s : CollectionInspectionEngine V) (signals : List (CollectedSignal V))
    : CollectionInspectionEngine V :=
  signals.foldl (fun s signal => s.addNewSignal signal.signalID signal.receiveTime signal.value) s

def inspect (s : CollectionInspectionEngine V) (input : InspectionInput V)
    : CollectionInspectionEngine V × List (Observation V) :=
  let (s, evaluations) := (s.addNewSignals input.signals).evaluateConditions input.currentTime
  let (s, log) := s.collectUntilNull (s.mConditions.length + 1) input.currentTime
  (s, evaluations.map (.ofEvaluation input.currentTime) ++ log)

def inspectAll (s : CollectionInspectionEngine V) (inputs : List (InspectionInput V))
    : CollectionInspectionEngine V × List (Observation V) :=
  Machine.run inspect s inputs

def run (s : CollectionInspectionEngine V) (events : List (EngineEvent V))
    : CollectionInspectionEngine V × List (Observation V) :=
  Machine.run step s events

end CollectionInspectionEngine

def emptyEngine : CollectionInspectionEngine Rat := { mRandomNumbers := fun _ => 0 }

end DataInspection
