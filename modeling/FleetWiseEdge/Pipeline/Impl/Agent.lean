import FleetWiseEdge.Manager.DecoderDictionary
import FleetWiseEdge.Manager.Impl.Machine
import FleetWiseEdge.Pipeline.Impl.Pipeline

/-!
This module contains the whole process: the thread of the collection scheme manager beside the threads of the
pipeline, which work with what the manager extracts.
-/

namespace Pipeline

open Cpp DataInspection DataManagement ExecutionManagement OffboardConnectivity

def Event.alone {V : Type} (event : Event V) : Bool :=
  match event with
  | .consume .. | .onChangeInspectionMatrix .. => false
  | _ => true

/--
`extractions` is what the manager has handed to its listeners.
-/
structure Agent (V : Type) where
  worker : Worker V
  pipeline : Pipeline V
  extractions : List (CollectionSchemeManager.Extraction V) := []

/--
A consumer decodes with the dictionary of one of the extractions, and the inspection thread is given the matrix
of one, not always of the newest: the threads run while the manager notifies its listeners.
-/
inductive AgentEvent (V : Type) where
  | onCollectionSchemeUpdate (content : Option (List (CollectionScheme V)))
  | onDecoderManifestUpdate (content : Option (DecoderManifest V))
  | process (manifestTime listTime : Nat)
  | checkTimeLine (fuel currTime : Nat)
  | consume (dictionary k : Nat) (message : VehicleDataMessage) (behind : Nat → UInt8)
  | onChangeInspectionMatrix (matrix : Nat)
  | other (event : Event V) (h : event.alone = true)

namespace Agent

variable {V : Type} [CANSignalValue V] (libraries : Libraries V) (connectivity : Nat → Connectivity)

def matrixAt (a : Agent V) (i : Nat) : Option (InspectionMatrix V) :=
  a.extractions[i]?.map (·.inspectionMatrix)

def dictionaryAt (a : Agent V) (i : Nat) : Option (CANDecoderDictionary V) :=
  (a.extractions[i]?.bind (·.decoderDictionaries)).map (·.can)

def handOver (a : Agent V) (event : AgentEvent V) : Option (Event V) :=
  match event with
  | .consume dictionary k message behind =>
    (a.dictionaryAt dictionary).map fun dictionary => .consume k dictionary message behind
  | .onChangeInspectionMatrix matrix => (a.matrixAt matrix).map .onChangeInspectionMatrix
  | .other event _ => some event
  | _ => none

-- A timeline check that has not ended leaves the state as it is.
def manage (a : Agent V) (event : AgentEvent V) : Agent V :=
  match event with
  | .onCollectionSchemeUpdate content =>
    { a with worker := { a.worker with
        manager := a.worker.manager.onCollectionSchemeUpdate (some { content }) } }
  | .onDecoderManifestUpdate content =>
    { a with worker := { a.worker with
        manager := a.worker.manager.onDecoderManifestUpdate (some { content }) } }
  | .process manifestTime listTime => { a with worker := a.worker.process manifestTime listTime }
  | .checkTimeLine fuel currTime =>
    match a.worker.checkTimeLine fuel currTime with
    | none => a
    | some (worker, extraction) =>
      { a with
        worker
        extractions := a.extractions ++ extraction.toList }
  | _ => a

def step (a : Agent V) (event : AgentEvent V) : Agent V :=
  match a.handOver event with
  | some event => { a with pipeline := a.pipeline.step libraries connectivity event }
  | none => a.manage event

def run (a : Agent V) (events : List (AgentEvent V)) : Agent V :=
  events.foldl (step libraries connectivity) a

omit [CANSignalValue V] in
def start (config : ManagerConfig V) (startTime manifestTime listTime : Nat) (pipeline : Pipeline V)
    : Agent V where
  worker := .start config startTime manifestTime listTime
  pipeline

end Agent

end Pipeline
