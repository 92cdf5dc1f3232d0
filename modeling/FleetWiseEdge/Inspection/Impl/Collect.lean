import FleetWiseEdge.Inspection.Impl.Evaluate

namespace DataInspection

open Cpp DataManagement

structure Collecting (V : Type) where
  engine : CollectionInspectionEngine V
  newestSignalTimestamp : Nat
  signals : List (CollectedSignal V)
  canFrames : List CollectedCanRawFrame

/--
The result of `collectNextDataToSend`: the data with the index of its condition, `waitTimeMs` if it
was set, the conditions that `shallSendData` refused and what the event listeners received.
-/
structure NextDataToSend (V : Type) where
  engine : CollectionInspectionEngine V
  data : Option (Nat × TriggeredCollectionSchemeData V) := none
  waitTimeMs : Option Nat := none
  refused : List Nat := []
  eventMetadata : Option (List EventMetadata) := none

namespace Collecting

variable {V : Type} [InspectionValue V]

def collectLastSignals (conditionId : Nat) (c : Collecting V)
    (s : InspectionMatrixSignalCollectionInfo)
    : Collecting V :=
  -- a signal has one buffer for each sample interval
  match KeyedList.lookup SignalHistoryBuffer.ptr s.ptr c.engine.mSignalBuffers with
  | none => c
  | some buf =>
    if buf.mSize > 0 then
      let collected :=
        buf.collectLastSamples s.sampleBufferSize conditionId
          c.engine.mSendDataOnlyOncePerCondition c.newestSignalTimestamp
      { c with
        engine := { c.engine with
          mSignalBuffers :=
            KeyedList.update SignalHistoryBuffer.ptr s.ptr
              (fun buf => { buf with mBuffer := collected.mBuffer }) c.engine.mSignalBuffers }
        newestSignalTimestamp := collected.newestSignalTimestamp
        signals := c.signals ++ collected.output.map fun (value, timestamp) =>
          { signalID := s.signalID, receiveTime := timestamp, value } }
    else
      c

def collectLastCanFrames (conditionId : Nat) (c : Collecting V)
    (f : InspectionMatrixCanFrameCollectionInfo)
    : Collecting V :=
  match KeyedList.lookup CanFrameHistoryBuffer.ptr f.ptr c.engine.mCanFrameBuffers with
  | none => c
  | some buf =>
    let collected :=
      buf.collectLastSamples f.sampleBufferSize conditionId c.engine.mSendDataOnlyOncePerCondition
        c.newestSignalTimestamp
    { c with
      engine := { c.engine with
        mCanFrameBuffers :=
          KeyedList.update CanFrameHistoryBuffer.ptr f.ptr
            (fun buf => { buf with mBuffer := collected.mBuffer }) c.engine.mCanFrameBuffers }
      newestSignalTimestamp := collected.newestSignalTimestamp
      canFrames := c.canFrames ++ collected.output.map fun (frame, timestamp) =>
        { frameID := f.frameID
          channelId := f.channelID
          receiveTime := timestamp
          data := frame.mBuffer
          size := frame.mSize } }

end Collecting

namespace CollectionInspectionEngine

variable {V : Type} [InspectionValue V]

def collectSamples (s : CollectionInspectionEngine V) (condition : ActiveCondition V)
    (conditionId : Nat)
    : Collecting V :=
  let c : Collecting V := ⟨s, 0, [], []⟩
  let signals := condition.mCondition.signals.filter fun s => !s.isConditionOnlySignal
  let c := signals.foldl (Collecting.collectLastSignals conditionId) c
  condition.mCondition.canFrames.foldl (Collecting.collectLastCanFrames conditionId) c

-- The second component is the `newestSignalTimestamp` that the caller passed by reference.
def collectData (s : CollectionInspectionEngine V) (condition : ActiveCondition V)
    (conditionId : Nat)
    : CollectionInspectionEngine V × Nat × TriggeredCollectionSchemeData V :=
  let c := s.collectSamples condition conditionId
  let s := c.engine
  let packsDTCs :=
    condition.mCondition.includeActiveDtcs
      && (!s.isActiveDTCsConsumed conditionId || s.mSendDataOnlyOncePerCondition)
  let mDTCInfo := if packsDTCs then s.mActiveDTCs else {}
  let s :=
    if packsDTCs then
      { s with mActiveDTCsConsumed := setAlreadyConsumed s.mActiveDTCsConsumed conditionId true }
    else
      s
  let hasNewGeohash := s.mGeohashFunctionNode.hasNewGeohash
  let mGeohashInfo := if hasNewGeohash then s.mGeohashFunctionNode.mGeohashInfo else {}
  let s :=
    if hasNewGeohash then
      { s with mGeohashFunctionNode := s.mGeohashFunctionNode.consumeGeohash }
    else
      s
  (s, c.newestSignalTimestamp,
    { metaData := condition.mCondition.metaData
      triggerTime := condition.mLastTrigger
      signals := c.signals
      canFrames := c.canFrames
      mDTCInfo
      mGeohashInfo
      eventID := condition.mEventID })

def shallSendData (s : CollectionInspectionEngine V) (collectionSchemeProbability : V)
    : CollectionInspectionEngine V × Bool :=
  if s.mDisableProbability then
    (s, true)
  else if InspectionValue.lt (InspectionValue.ofNat 0) collectionSchemeProbability then
    ({ s with mRandomNumbers := fun n => s.mRandomNumbers (n + 1) },
      InspectionValue.le (s.mRandomNumbers 0) collectionSchemeProbability)
  else
    (s, false)

def generateEventID (s : CollectionInspectionEngine V) (timestamp : Nat)
    : CollectionInspectionEngine V × Nat :=
  let eventCounter := (s.eventCounter + 1) % 2 ^ 8
  -- the lower three bytes of the timestamp and the counter, without the most significant bit
  let eventId := u32 ((eventCounter &&& 0xFF) ||| u64 (timestamp <<< 8)) &&& 0x7FFFFFFF
  ({ s with eventCounter }, eventId)

def evaluateAndTriggerRichSensorCapture (condition : ActiveCondition V)
    : Option (List EventMetadata) :=
  if condition.mCondition.includeImageCapture then
    some (condition.mCondition.imageCollectionInfos.map fun imageCollectionInfo =>
      { eventID := condition.mEventID
        sourceID := imageCollectionInfo.deviceID
        negativeOffsetMs := u32 (imageCollectionInfo.beforeDurationMs + condition.mCondition.afterDuration)
        positiveOffsetMs := 0 })
  else
    none

def publish (s : CollectionInspectionEngine V) (condition : ActiveCondition V) (i currentTime : Nat)
    : CollectionInspectionEngine V × TriggeredCollectionSchemeData V × Option (List EventMetadata) :=
  let (s, mEventID) := s.generateEventID currentTime
  let condition := { condition with mEventID }
  let eventMetadata := evaluateAndTriggerRichSensorCapture condition
  let (s, newestSignalTimestamp, data) := s.collectData condition i
  ({ s with
      mConditions := s.mConditions.modify i fun condition =>
        { condition with
          mEventID
          mLastDataTimestampPublished := min newestSignalTimestamp currentTime } },
    data, eventMetadata)

def collectLoop (currentTime remaining minimumWaitTimeMs : Nat) (s : CollectionInspectionEngine V)
    : NextDataToSend V :=
  match remaining with
  | 0 => { engine := s, waitTimeMs := some minimumWaitTimeMs }
  | remaining + 1 =>
    let i :=
      if s.mNextConditionToCollectedIndex ≥ s.mConditions.length then
        0
      else
        s.mNextConditionToCollectedIndex
    let s := { s with mNextConditionToCollectedIndex := i }
    match s.mConditions[i]? with
    | none => { engine := s, waitTimeMs := some minimumWaitTimeMs }
    | some condition =>
      let next (s : CollectionInspectionEngine V) := { s with mNextConditionToCollectedIndex := i + 1 }
      if s.mConditionsNotTriggeredWaitingPublished.test i then
        collectLoop currentTime remaining minimumWaitTimeMs (next s)
      else
        let readyTime := u64 (condition.mLastTrigger + condition.mCondition.afterDuration)
        if currentTime ≥ readyTime then
          let s :=
            { s with
              mConditionsNotTriggeredWaitingPublished :=
                s.mConditionsNotTriggeredWaitingPublished.set i true }
          match s.shallSendData condition.mCondition.probabilityToSend with
          | (s, true) =>
            let (s, data, eventMetadata) := s.publish condition i currentTime
            { engine := s, data := some (i, data), eventMetadata }
          | (s, false) =>
            let result := collectLoop currentTime remaining minimumWaitTimeMs (next s)
            { result with refused := i :: result.refused }
        else
          let minimumWaitTimeMs := min minimumWaitTimeMs (u32 (readyTime - currentTime))
          collectLoop currentTime remaining minimumWaitTimeMs (next s)

def collectNextDataToSend (s : CollectionInspectionEngine V) (currentTime : Nat)
    : NextDataToSend V :=
  let minimumWaitTimeMs := 2 ^ 32 - 1
  if s.mConditionsNotTriggeredWaitingPublished.all MAX_NUMBER_OF_ACTIVE_CONDITION then
    { engine := s, waitTimeMs := some minimumWaitTimeMs }
  else
    collectLoop currentTime s.mConditions.length minimumWaitTimeMs s

end CollectionInspectionEngine

end DataInspection
