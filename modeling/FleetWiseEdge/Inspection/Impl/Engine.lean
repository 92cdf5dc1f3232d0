import FleetWiseEdge.Inspection.Impl.History
import FleetWiseEdge.Inspection.Impl.Geohash
import FleetWiseEdge.Lib.KeyedList

namespace DataInspection

open Cpp DataManagement

def MAX_SAMPLE_MEMORY : Nat := 20 * 1024 * 1024

/--
`sizeof( struct SignalSample )`: a bit set of 256 bits, a double and a timestamp.
-/
def SIZEOF_SIGNAL_SAMPLE : Nat := 48

/--
`sizeof( struct CanFrameSample )`: a bit set of 256 bits, a size, 8 bytes, padding and a timestamp.
-/
def SIZEOF_CAN_FRAME_SAMPLE : Nat := 56

inductive ExpressionErrorCode where
  | SUCCESSFUL
  | SIGNAL_NOT_FOUND
  | FUNCTION_DATA_NOT_AVAILABLE
  | STACK_DEPTH_REACHED
  | NOT_IMPLEMENTED_TYPE
  | NOT_IMPLEMENTED_FUNCTION
  deriving DecidableEq, Repr

structure SignalBufferPtr where
  signalID : SignalID
  minimumSampleIntervalMs : Nat
  deriving DecidableEq, Repr

structure FixedWindowPtr where
  buffer : SignalBufferPtr
  windowSizeMs : Nat
  deriving DecidableEq, Repr

structure ActiveCondition (V : Type) where
  mCondition : ConditionWithCollectedData V
  mLastDataTimestampPublished : Nat := 0
  mLastTrigger : Nat := 0
  mEvaluationSignals : SignalID → Option SignalBufferPtr := fun _ => none
  mEvaluationFunctions : SignalID → Option FixedWindowPtr := fun _ => none
  mEventID : Nat := 0

/--
`mSignalBuffers` maps a signal ID to the buffers of this signal, one for each sample interval. Here it
is the list of all these buffers. `mDisableProbability` and `mRandomNumbers`, the numbers that the random
generator is going to produce, are the members of `mDataReduction`, and `eventCounter` is the static
counter of `generateEventCounter`.
-/
structure CollectionInspectionEngine (V : Type) where
  mSignalBuffers : List (SignalHistoryBuffer V) := []
  mCanFrameBuffers : List CanFrameHistoryBuffer := []
  mActiveDTCs : DTCInfo := {}
  mActiveDTCsConsumed : Bitset := Bitset.ofBool false
  mGeohashFunctionNode : GeohashFunctionNode := {}
  mConditionsWithInputSignalChanged : Bitset := Bitset.ofBool false
  mConditionsWithConditionCurrentlyTrue : Bitset := Bitset.ofBool false
  mConditionsNotTriggeredWaitingPublished : Bitset := Bitset.ofBool false
  mConditions : List (ActiveCondition V) := []
  mActiveInspectionMatrix : InspectionMatrix V := ⟨[], []⟩
  mNextConditionToCollectedIndex : Nat := 0
  mNextWindowFunctionTimesOut : Nat := 0
  mDisableProbability : Bool := false
  mRandomNumbers : Nat → V
  mSendDataOnlyOncePerCondition : Bool := true
  eventCounter : Nat := 0

structure CanFrameBufferPtr where
  frameID : Nat
  channelID : Nat
  minimumSampleIntervalMs : Nat
  deriving DecidableEq, Repr

def SignalHistoryBuffer.ptr {V : Type} (b : SignalHistoryBuffer V) : SignalBufferPtr :=
  ⟨b.signalID, b.mMinimumSampleIntervalMs⟩

def CanFrameHistoryBuffer.ptr (b : CanFrameHistoryBuffer) : CanFrameBufferPtr :=
  ⟨b.mFrameID, b.mChannelID, b.mMinimumSampleIntervalMs⟩

def InspectionMatrixSignalCollectionInfo.ptr (s : InspectionMatrixSignalCollectionInfo)
    : SignalBufferPtr :=
  ⟨s.signalID, s.minimumSampleIntervalMs⟩

def InspectionMatrixCanFrameCollectionInfo.ptr (c : InspectionMatrixCanFrameCollectionInfo)
    : CanFrameBufferPtr :=
  ⟨c.frameID, c.channelID, c.minimumSampleIntervalMs⟩

/--
The members that both `addNewSignal` and `updateAllFixedWindowFunctions` change while they go through
the signal buffers.
-/
structure ChangeMarks where
  mNextWindowFunctionTimesOut : Nat
  mConditionsWithInputSignalChanged : Bitset

def visitBuffers {V : Type}
    (f : SignalHistoryBuffer V → ChangeMarks → SignalHistoryBuffer V × ChangeMarks)
    (buffers : List (SignalHistoryBuffer V)) (marks : ChangeMarks)
    : List (SignalHistoryBuffer V) × ChangeMarks :=
  match buffers with
  | [] => ([], marks)
  | b :: bs =>
    let (b, marks) := f b marks
    let (bs, marks) := visitBuffers f bs marks
    (b :: bs, marks)

namespace CollectionInspectionEngine

variable {V : Type} [InspectionValue V]

def changeMarks (s : CollectionInspectionEngine V) : ChangeMarks :=
  ⟨s.mNextWindowFunctionTimesOut, s.mConditionsWithInputSignalChanged⟩

def visitSignalBuffers (s : CollectionInspectionEngine V) (marks : ChangeMarks)
    (f : SignalHistoryBuffer V → ChangeMarks → SignalHistoryBuffer V × ChangeMarks)
    : CollectionInspectionEngine V :=
  let (buffers, marks) := visitBuffers f s.mSignalBuffers marks
  { s with
    mSignalBuffers := buffers
    mNextWindowFunctionTimesOut := marks.mNextWindowFunctionTimesOut
    mConditionsWithInputSignalChanged := marks.mConditionsWithInputSignalChanged }

end CollectionInspectionEngine

def addValues {V : Type} [InspectionValue V] (value : V) (receiveTime : Nat)
    (windows : List (FixedTimeWindowFunctionData V)) (nextWindowFunctionTimesOut : Nat)
    : List (FixedTimeWindowFunctionData V) × Nat :=
  match windows with
  | [] => ([], nextWindowFunctionTimesOut)
  | w :: ws =>
    let (w, next) := w.addValue value receiveTime nextWindowFunctionTimesOut
    let (ws, next) := addValues value receiveTime ws next
    (w :: ws, next)

/--
The loop over the windows of one signal in `updateAllFixedWindowFunctions`. The last component tells
whether `updateWindow` returned true for one of them.
-/
def updateWindows {V : Type} [InspectionValue V] (timestamp : Nat)
    (windows : List (FixedTimeWindowFunctionData V)) (nextWindowFunctionTimesOut : Nat)
    : List (FixedTimeWindowFunctionData V) × Nat × Bool :=
  match windows with
  | [] => ([], nextWindowFunctionTimesOut, false)
  | w :: ws =>
    let update := w.updateWindow timestamp nextWindowFunctionTimesOut
    let (ws, next, changed) := updateWindows timestamp ws update.nextWindowFunctionTimesOut
    (update.window :: ws, next, update.changed || changed)

namespace CollectionInspectionEngine

variable {V : Type} [InspectionValue V]

def addNewSignal (s : CollectionInspectionEngine V) (id : SignalID) (receiveTime : Nat) (value : V)
    : CollectionInspectionEngine V :=
  s.visitSignalBuffers s.changeMarks fun buf marks =>
    if buf.signalID = id && buf.acceptsSample receiveTime then
      let (windows, next) :=
        addValues value receiveTime buf.mWindowFunctionData marks.mNextWindowFunctionTimesOut
      ({ buf with
          toHistoryBuffer := buf.storeSample receiveTime fun _ => value
          mWindowFunctionData := windows },
        ⟨next, marks.mConditionsWithInputSignalChanged.or buf.mConditionsThatEvaluateOnThisSignal⟩)
    else
      (buf, marks)

def updateAllFixedWindowFunctions (s : CollectionInspectionEngine V) (timestamp : Nat)
    : CollectionInspectionEngine V :=
  s.visitSignalBuffers ⟨2 ^ 64 - 1, s.mConditionsWithInputSignalChanged⟩ fun signal marks =>
    let (windows, next, changed) :=
      updateWindows timestamp signal.mWindowFunctionData marks.mNextWindowFunctionTimesOut
    ({ signal with mWindowFunctionData := windows },
      ⟨next,
        if changed then
          marks.mConditionsWithInputSignalChanged.or signal.mConditionsThatEvaluateOnThisSignal
        else
          marks.mConditionsWithInputSignalChanged⟩)

/--
The content of a slot after a frame was written to it. Note that `min` is taken with `capacity`, the
size of the ring, and that the bytes from `mSize` on keep what the slot had before.
-/
def writeFrame (capacity : Nat) (buffer : CanFrameBytes) (size : Nat) (old : CanFrameContent)
    : CanFrameContent :=
  -- the size of the ring is cast to uint8_t
  let mSize := min size (capacity % 2 ^ 8)
  { mSize
    mBuffer := Vector.ofFn fun i => if i.val < mSize then buffer[i] else old.mBuffer[i] }

def addNewRawCanFrame (s : CollectionInspectionEngine V) (canID channelID receiveTime : Nat)
    (buffer : CanFrameBytes) (size : Nat)
    : CollectionInspectionEngine V :=
  { s with
    mCanFrameBuffers := s.mCanFrameBuffers.map fun buf =>
      if buf.mFrameID = canID && buf.mChannelID = channelID && buf.acceptsSample receiveTime then
        { buf with
          toHistoryBuffer :=
            buf.storeSample receiveTime (writeFrame buf.mBuffer.length buffer size) }
      else
        buf }

def isActiveDTCsConsumed (s : CollectionInspectionEngine V) (conditionId : Nat) : Bool :=
  s.mActiveDTCsConsumed.test conditionId

def setActiveDTCs (s : CollectionInspectionEngine V) (activeDTCs : DTCInfo)
    : CollectionInspectionEngine V :=
  { s with
    mActiveDTCsConsumed := setAlreadyConsumed s.mActiveDTCsConsumed ALL_CONDITIONS false
    mActiveDTCs := activeDTCs }

end CollectionInspectionEngine

end DataInspection
