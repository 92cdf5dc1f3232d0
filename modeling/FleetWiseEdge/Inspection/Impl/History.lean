import FleetWiseEdge.Inspection.Impl.Window

/-!
This module contains the ring buffers of the inspection engine. `SignalHistoryBuffer` and
`CanFrameHistoryBuffer` share the ring itself, a `HistoryBuffer`, and differ in the content of its
slots.
-/

namespace DataInspection

open Cpp DataManagement

structure Sample (α : Type) where
  content : α
  mTimestamp : Nat
  mAlreadyConsumed : Bitset

namespace Sample

variable {α : Type}

def isAlreadyConsumed (s : Sample α) (conditionId : Nat) : Bool :=
  s.mAlreadyConsumed.test conditionId

end Sample

def setAlreadyConsumed (mAlreadyConsumed : Bitset) (conditionId : Nat) (value : Bool) : Bitset :=
  if conditionId = ALL_CONDITIONS then
    Bitset.ofBool value
  else
    mAlreadyConsumed.set conditionId value

structure HistoryBuffer (α : Type) where
  mMinimumSampleIntervalMs : Nat
  mBuffer : List (Sample α)
  mSize : Nat
  mCurrentPosition : Nat
  mCounter : Nat
  mLastSample : Nat

structure CollectedSamples (α : Type) where
  mBuffer : List (Sample α)
  newestSignalTimestamp : Nat
  output : List (α × Nat)

namespace HistoryBuffer

variable {α : Type}

def ofRequest (sizeIn sampleInterval : Nat) : HistoryBuffer α where
  mMinimumSampleIntervalMs := sampleInterval
  mBuffer := []
  mSize := sizeIn
  -- `mSize - 1` in uint32_t
  mCurrentPosition := u32 (sizeIn + (2 ^ 32 - 1))
  mCounter := 0
  mLastSample := 0

def acceptsSample (b : HistoryBuffer α) (receiveTime : Nat) : Bool :=
  b.mSize > 0 && b.mSize ≤ b.mBuffer.length
    && (b.mMinimumSampleIntervalMs = 0
      || receiveTime ≥ u64 (b.mLastSample + b.mMinimumSampleIntervalMs))

/--
Write a sample to the next slot. `write` computes the new content from the one the slot had.
-/
def storeSample (b : HistoryBuffer α) (receiveTime : Nat) (write : α → α) : HistoryBuffer α :=
  let position := u32 (b.mCurrentPosition + 1)
  let position := if position ≥ b.mSize then 0 else position
  { b with
    mCurrentPosition := position
    mBuffer := b.mBuffer.modify position fun sample =>
      { content := write sample.content
        mTimestamp := receiveTime
        mAlreadyConsumed := setAlreadyConsumed sample.mAlreadyConsumed ALL_CONDITIONS false }
    mCounter := u32 (b.mCounter + 1)
    mLastSample := receiveTime }

/--
The loop of `collectLastSignals` and of `collectLastCanFrames`, which walks back from `pos` over
`count` samples.
-/
def collectSamples (size conditionId : Nat) (sendDataOnlyOncePerCondition : Bool)
    (count : Nat) (pos : Int) (acc : CollectedSamples α)
    : CollectedSamples α :=
  match count with
  | 0 => acc
  | count + 1 =>
    -- Ensure access is in bounds
    let pos := if pos < 0 then (size : Int) - 1 else pos
    let pos := if pos ≥ size then 0 else pos
    match acc.mBuffer[pos.toNat]? with
    | none => acc
    | some sample =>
      let fresh := !sample.isAlreadyConsumed conditionId || !sendDataOnlyOncePerCondition
      let acc :=
        if fresh then
          { acc with
            output := acc.output ++ [(sample.content, sample.mTimestamp)]
            mBuffer := acc.mBuffer.modify pos.toNat fun sample =>
              { sample with
                mAlreadyConsumed := setAlreadyConsumed sample.mAlreadyConsumed conditionId true } }
        else
          acc
      let acc :=
        { acc with newestSignalTimestamp := max acc.newestSignalTimestamp sample.mTimestamp }
      collectSamples size conditionId sendDataOnlyOncePerCondition count (pos - 1) acc

def collectLastSamples (b : HistoryBuffer α) (maxNumberOfSignalsToCollect conditionId : Nat)
    (sendDataOnlyOncePerCondition : Bool) (newestSignalTimestamp : Nat)
    : CollectedSamples α :=
  collectSamples b.mSize conditionId sendDataOnlyOncePerCondition
    (min maxNumberOfSignalsToCollect b.mCounter) b.mCurrentPosition
    ⟨b.mBuffer, newestSignalTimestamp, []⟩

end HistoryBuffer

structure SignalHistoryBuffer (V : Type) extends HistoryBuffer V where
  signalID : SignalID
  mWindowFunctionData : List (FixedTimeWindowFunctionData V)
  mConditionsThatEvaluateOnThisSignal : Bitset

namespace SignalHistoryBuffer

variable {V : Type} [InspectionValue V]

def ofRequest (signalID sizeIn sampleInterval : Nat) : SignalHistoryBuffer V where
  toHistoryBuffer := .ofRequest sizeIn sampleInterval
  signalID := signalID
  mWindowFunctionData := []
  mConditionsThatEvaluateOnThisSignal := Bitset.ofBool false

def getFixedWindow (b : SignalHistoryBuffer V) (windowSizeMs : Nat)
    : Option (FixedTimeWindowFunctionData V) :=
  if windowSizeMs = 0 then
    none
  else
    b.mWindowFunctionData.find? fun window => window.mWindowSizeMs = windowSizeMs

def addFixedWindow (b : SignalHistoryBuffer V) (windowSizeMs : Nat) : SignalHistoryBuffer V :=
  if windowSizeMs = 0 then
    b
  else if (b.getFixedWindow windowSizeMs).isSome then
    b
  else
    { b with mWindowFunctionData := b.mWindowFunctionData ++ [.ofSize windowSizeMs] }

end SignalHistoryBuffer

structure CanFrameContent where
  mSize : Nat
  mBuffer : CanFrameBytes
  deriving DecidableEq, Repr

structure CanFrameHistoryBuffer extends HistoryBuffer CanFrameContent where
  mFrameID : Nat
  mChannelID : Nat

namespace CanFrameHistoryBuffer

def ofRequest (frameID channelID sizeIn sampleInterval : Nat) : CanFrameHistoryBuffer where
  toHistoryBuffer := .ofRequest sizeIn sampleInterval
  mFrameID := frameID
  mChannelID := channelID

end CanFrameHistoryBuffer

end DataInspection
