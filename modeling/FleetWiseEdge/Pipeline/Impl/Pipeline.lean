import FleetWiseEdge.Consumer.Impl.CANFrames
import FleetWiseEdge.Inspection.Impl.WorkerThread
import FleetWiseEdge.Lib.TracedQueue
import FleetWiseEdge.Upload.Impl.EngineThread

/-!
This module contains the threads of the edge agent and the queues between them: the consumers of CAN frames
and the OBD thread push into the buffers of the inspection thread, which pushes what it collects into the
queue of the engine thread. Each step is one access of one thread to what the threads share, with what the
thread computes on its own before the next one.
-/

namespace Pipeline

open Cpp DataInspection DataManagement CANDecoder ExecutionManagement OffboardConnectivity

/--
A message that the consumer with the ID `mDataSourceID` has popped, with the dictionary it found.
-/
structure ConsumedFrame (V : Type) where
  mDataSourceID : Nat
  dictionary : CANDecoderDictionary V
  message : VehicleDataMessage
  behind : Nat → UInt8

namespace ConsumedFrame

variable {V : Type}

def method (frame : ConsumedFrame V) : Option (CANMessageDecoderMethod V) :=
  (frame.dictionary.canMessageDecoderMethod frame.mDataSourceID).bind (· (u32 frame.message.mID))

def canRawFrame (frame : ConsumedFrame V) : CollectedCanRawFrame :=
  CANDataConsumerWorker.canRawFrame (V := V) ⟨frame.mDataSourceID, none, none⟩ frame.message

def rawFrames (frame : ConsumedFrame V) : List CollectedCanRawFrame :=
  match frame.method with
  | none => []
  | some method =>
    match method.collectType with
    | .DECODE => []
    | _ => [frame.canRawFrame]

variable [CANSignalValue V]

def signals (frame : ConsumedFrame V) : List (CollectedSignal V) :=
  match frame.method with
  | none => []
  | some method =>
    match method.collectType with
    | .RAW => []
    | _ =>
      if method.format.isValid then
        let (decodedMessage, success) := decodeCANMessage (frame.message.frameData frame.behind)
          frame.message.mRawData.length method.format frame.dictionary.signalIDsToCollect
        if success then
          decodedMessage.mSignals.map (CANDataConsumerWorker.collectedSignal frame.message)
        else
          []
      else
        []

end ConsumedFrame

structure Source (V : Type) where
  mDataSourceID : Nat
  rawFrames : Producer CollectedCanRawFrame := {}
  signals : Producer (CollectedSignal V) := {}

def Source.idle {V : Type} (source : Source V) : Bool := source.rawFrames.idle && source.signals.idle

inductive InspectionPhase (V : Type) where
  | begins
  | takesMatrix
  -- the load of `fUpdatedInspectionMatrix`
  | checksMatrix
  | popsSignal
  | uncountsSignal (inputSignal : CollectedSignal V)
  | popsCANFrame
  | uncountsCANFrame (inputCANFrame : CollectedCanRawFrame)
  | popsActiveDTCs
  | evaluates
  | collects
  | pushes (collectedData : TriggeredCollectionSchemeData V)
  | notifies
  | sleeps
  | checksStop
  | ended

/--
The times that the inspection thread reads and the value of `fShouldStop`. `order` is the order in which a new
matrix visits the buffers.
-/
structure PassInput (V : Type) where
  order : IterationOrder V
  evaluationTime : Nat := 0
  sleepCheckTime : Nat := 0
  sleepEvaluationTime : Nat := 0
  collectTime : Nat := 0
  shouldStop : Bool := false

end Pipeline

/--
The last components record what came in from outside, what the inspection thread has offered to the engine
thread and what of it has been accepted.
-/
structure Pipeline (V : Type) where
  mSignalBuffer : TracedQueue (DataInspection.CollectedSignal V)
  mCANBuffer : TracedQueue DataInspection.CollectedCanRawFrame
  mActiveDTCBuffer : BoundedQueue DataInspection.DTCInfo
  sources : List (Pipeline.Source V)
  inspection : DataInspection.CollectionInspectionWorkerThread.Pass V
  phase : Pipeline.InspectionPhase V := .begins
  mCollectedDataReadyToPublish : BoundedQueue (DataInspection.TriggeredCollectionSchemeData V)
  thread : ExecutionManagement.EngineThread V
  frames : List (Pipeline.ConsumedFrame V) := []
  responses : List (DataInspection.CollectedSignal V) := []
  reports : List DataInspection.DTCInfo := []
  matrices : List (DataInspection.InspectionMatrix V) := []
  offered : List (DataInspection.TriggeredCollectionSchemeData V) := []
  accepted : List (DataInspection.TriggeredCollectionSchemeData V) := []

namespace Pipeline

open Cpp DataInspection DataManagement CANDecoder ExecutionManagement OffboardConnectivity

variable {V : Type}

inductive Event (V : Type) where
  | consume (k : Nat) (dictionary : CANDecoderDictionary V) (message : VehicleDataMessage)
    (behind : Nat → UInt8)
  | respond (k : Nat) (signals : List (CollectedSignal V))
  | produce (k : Nat)
  | report (activeDTCs : DTCInfo)
  | onChangeInspectionMatrix (activeConditions : InspectionMatrix V)
  | inspect (input : PassInput V)
  | upload (action : EngineAction)

section Steps

variable [CANSignalValue V]

def consume (s : Pipeline V) (k : Nat) (dictionary : CANDecoderDictionary V)
    (message : VehicleDataMessage) (behind : Nat → UInt8)
    : Pipeline V :=
  match s.sources[k]? with
  | none => s
  | some source =>
    if source.idle then
      let frame : ConsumedFrame V := ⟨source.mDataSourceID, dictionary, message, behind⟩
      { s with
        sources := s.sources.set k
          { source with rawFrames := { pending := frame.rawFrames }, signals := { pending := frame.signals } }
        frames := s.frames ++ [frame] }
    else
      s

def respond (s : Pipeline V) (k : Nat) (signals : List (CollectedSignal V)) : Pipeline V :=
  match s.sources[k]? with
  | none => s
  | some source =>
    if source.idle then
      { s with
        sources := s.sources.set k { source with signals := { pending := signals } }
        responses := s.responses ++ signals }
    else
      s

def produce (s : Pipeline V) (k : Nat) : Pipeline V :=
  match s.sources[k]? with
  | none => s
  | some source =>
    if source.rawFrames.idle then
      let offered := s.mSignalBuffer.offer source.signals
      { s with
        mSignalBuffer := offered.1
        sources := s.sources.set k { source with signals := offered.2 } }
    else
      let offered := s.mCANBuffer.offer source.rawFrames
      { s with
        mCANBuffer := offered.1
        sources := s.sources.set k { source with rawFrames := offered.2 } }

def onChangeInspectionMatrix (s : Pipeline V) (activeConditions : InspectionMatrix V) : Pipeline V :=
  { s with
    inspection := { s.inspection with
      worker := s.inspection.worker.onChangeInspectionMatrix (some activeConditions) }
    matrices := s.matrices ++ [activeConditions] }

/--
A wait of the thread may end at any time.
-/
def inspect (s : Pipeline V) (input : PassInput V) : Pipeline V :=
  match s.phase with
  | .begins =>
    { s with
      phase := if s.inspection.worker.fUpdatedInspectionMatrixAvailable then .takesMatrix else .checksMatrix }
  | .takesMatrix =>
    { s with
      inspection := { s.inspection with worker := s.inspection.worker.takeMatrix input.order }
      phase := .checksMatrix }
  | .checksMatrix =>
    match s.inspection.worker.fUpdatedInspectionMatrix with
    | none => { s with phase := .sleeps }
    | some _ =>
      { s with
        inspection := { worker := s.inspection.worker }
        phase := .popsSignal }
  | .popsSignal =>
    match s.mSignalBuffer.pop with
    | none => { s with phase := .popsCANFrame }
    | some (inputSignal, mSignalBuffer) => { s with mSignalBuffer, phase := .uncountsSignal inputSignal }
  | .uncountsSignal inputSignal =>
    { s with
      mSignalBuffer := s.mSignalBuffer.uncount
      inspection := s.inspection.popSignal (some inputSignal)
      phase := .popsCANFrame }
  | .popsCANFrame =>
    match s.mCANBuffer.pop with
    | none => { s with phase := .popsActiveDTCs }
    | some (inputCANFrame, mCANBuffer) => { s with mCANBuffer, phase := .uncountsCANFrame inputCANFrame }
  | .uncountsCANFrame inputCANFrame =>
    { s with
      mCANBuffer := s.mCANBuffer.uncount
      inspection := s.inspection.popCANFrame (some inputCANFrame)
      phase := .popsActiveDTCs }
  | .popsActiveDTCs =>
    match s.mActiveDTCBuffer.pop with
    | none => { s with phase := .evaluates }
    | some (activeDTCs, mActiveDTCBuffer) =>
      { s with
        mActiveDTCBuffer
        inspection := s.inspection.popActiveDTCs (some activeDTCs)
        phase := .evaluates }
  | .evaluates =>
    { s with
      inspection := (s.inspection.evaluateInput input.evaluationTime).evaluateBeforeSleep input.sleepCheckTime
        input.sleepEvaluationTime
      phase := .collects }
  | .collects =>
    let next := s.inspection.worker.fCollectionInspectionEngine.collectNextDataToSend input.collectTime
    let readyToSleep := if s.inspection.readyToSleep then .sleeps else .checksStop
    { s with
      inspection := { s.inspection with
        worker := { s.inspection.worker with fCollectionInspectionEngine := next.engine } }
      phase :=
        match next.data with
        | none => readyToSleep
        | some (_, collectedData) => if input.shouldStop then readyToSleep else .pushes collectedData }
  | .pushes collectedData =>
    let pushed := s.mCollectedDataReadyToPublish.push collectedData
    { s with
      mCollectedDataReadyToPublish := pushed.1
      offered := s.offered ++ [collectedData]
      accepted := if pushed.2 then s.accepted ++ [collectedData] else s.accepted
      phase := if pushed.2 then .notifies else .collects }
  | .notifies =>
    { s with
      thread := s.thread.onDataReadyToPublish
      phase := .collects }
  | .sleeps => { s with phase := .checksStop }
  | .checksStop =>
    { s with
      inspection := { s.inspection with worker := { s.inspection.worker with done := input.shouldStop } }
      phase := if input.shouldStop then .ended else .begins }
  | .ended => s

variable (libraries : Libraries V) (connectivity : Nat → Connectivity)

def step (s : Pipeline V) (event : Event V) : Pipeline V :=
  match event with
  | .consume k dictionary message behind => s.consume k dictionary message behind
  | .respond k signals => s.respond k signals
  | .produce k => s.produce k
  | .report activeDTCs =>
    { s with
      mActiveDTCBuffer := (s.mActiveDTCBuffer.push activeDTCs).1
      reports := s.reports ++ [activeDTCs] }
  | .onChangeInspectionMatrix activeConditions => s.onChangeInspectionMatrix activeConditions
  | .inspect input => s.inspect input
  | .upload action =>
    let acted := s.thread.act libraries connectivity s.mCollectedDataReadyToPublish action
    { s with thread := acted.1, mCollectedDataReadyToPublish := acted.2 }

def run (s : Pipeline V) (events : List (Event V)) : Pipeline V :=
  events.foldl (step libraries connectivity) s

end Steps

structure Config where
  decodedSignalsBufferSize : Nat
  rawCANFrameBufferSize : Nat
  dtcBufferSize : Nat
  readyToPublishDataBufferSize : Nat
  inspectionThreadIdleTimeMs : Nat
  dataReductionProbabilityDisabled : Bool
  persistencyUploadRetryIntervalMs : Nat
  dataSourceIDs : List Nat

def init (idleTimeMs : Nat) (dataReductionProbabilityDisabled : Bool) (mRandomNumbers : Nat → V)
    : CollectionInspectionWorkerThread V :=
  let inspection : CollectionInspectionWorkerThread V :=
    { fCollectionInspectionEngine :=
        { mRandomNumbers, mDisableProbability := dataReductionProbabilityDisabled } }
  if idleTimeMs ≠ 0 then
    { inspection with fIdleTimeMs := idleTimeMs }
  else
    inspection

def start (config : Config) (mRandomNumbers : Nat → V) (engine : IoTFleetWiseEngine V) : Pipeline V where
  mSignalBuffer := .new config.decodedSignalsBufferSize
  mCANBuffer := .new config.rawCANFrameBufferSize
  mActiveDTCBuffer := .empty config.dtcBufferSize
  sources := config.dataSourceIDs.map fun mDataSourceID => { mDataSourceID }
  inspection :=
    { worker := init config.inspectionThreadIdleTimeMs config.dataReductionProbabilityDisabled mRandomNumbers }
  mCollectedDataReadyToPublish := .empty config.readyToPublishDataBufferSize
  thread :=
    { engine
      mPersistencyUploadRetryIntervalMs := config.persistencyUploadRetryIntervalMs }

end Pipeline
