import FleetWiseEdge.Types.Inspection

/-!
This module contains `CollectionInspectionEngine::FixedTimeWindowFunctionData`, the values of one
signal over fixed time windows.
-/

namespace DataInspection

open Cpp

structure FixedTimeWindowFunctionData (V : Type) where
  mWindowSizeMs : Nat
  mLastTimeCalculated : Nat
  mLastMin : V
  mLastMax : V
  mLastAvg : V
  mLastAvailable : Bool
  mPreviousLastMin : V
  mPreviousLastMax : V
  mPreviousLastAvg : V
  mPreviousLastAvailable : Bool
  mCollectingMin : V
  mCollectingMax : V
  mCollectingSum : V
  mCollectedSignals : Nat
  deriving DecidableEq, Repr

structure WindowUpdate (V : Type) where
  window : FixedTimeWindowFunctionData V
  nextWindowFunctionTimesOut : Nat
  changed : Bool

namespace FixedTimeWindowFunctionData

variable {V : Type} [InspectionValue V]

def ofSize (size : Nat) : FixedTimeWindowFunctionData V where
  mWindowSizeMs := size
  mLastTimeCalculated := 0
  mLastMin := InspectionValue.limitMin
  mLastMax := InspectionValue.limitMax
  mLastAvg := InspectionValue.ofNat 0
  mLastAvailable := false
  mPreviousLastMin := InspectionValue.limitMin
  mPreviousLastMax := InspectionValue.limitMax
  mPreviousLastAvg := InspectionValue.ofNat 0
  mPreviousLastAvailable := false
  mCollectingMin := InspectionValue.limitMin
  mCollectingMax := InspectionValue.limitMax
  mCollectingSum := InspectionValue.ofNat 0
  mCollectedSignals := 0

def windowEnd (w : FixedTimeWindowFunctionData V) : Nat :=
  u64 (w.mLastTimeCalculated + w.mWindowSizeMs)

def updateInternalVariables (w : FixedTimeWindowFunctionData V) (value : V)
    : FixedTimeWindowFunctionData V :=
  { w with
    mCollectingMin := InspectionValue.min w.mCollectingMin value
    mCollectingMax := InspectionValue.max w.mCollectingMax value
    mCollectingSum := InspectionValue.add w.mCollectingSum value
    mCollectedSignals := u32 (w.mCollectedSignals + 1) }

def initNewWindow (w : FixedTimeWindowFunctionData V) (timestamp : Nat)
    : FixedTimeWindowFunctionData V :=
  { w with
    mCollectingMin := InspectionValue.limitMax
    mCollectingMax := InspectionValue.limitMin
    mCollectingSum := InspectionValue.ofNat 0
    mCollectedSignals := 0
    -- the number of windows that passed is cast to uint32_t before it is multiplied
    mLastTimeCalculated :=
      u64 (w.mLastTimeCalculated
        + u64 (u32 (subU64 timestamp w.mLastTimeCalculated / w.mWindowSizeMs) * w.mWindowSizeMs)) }

def collectingAvg (w : FixedTimeWindowFunctionData V) : V :=
  InspectionValue.div w.mCollectingSum (InspectionValue.ofNat w.mCollectedSignals)

def startNewWindow (w : FixedTimeWindowFunctionData V) (timestamp : Nat)
    (nextWindowFunctionTimesOut : Nat)
    : WindowUpdate V :=
  let w := w.initNewWindow timestamp
  ⟨w, min nextWindowFunctionTimesOut w.windowEnd, true⟩

def updateWindow (w : FixedTimeWindowFunctionData V) (timestamp : Nat)
    (nextWindowFunctionTimesOut : Nat)
    : WindowUpdate V :=
  if w.mLastTimeCalculated = 0 then
    startNewWindow { w with mLastTimeCalculated := timestamp } timestamp nextWindowFunctionTimesOut
  else if timestamp ≥ u64 (w.mLastTimeCalculated + u64 (w.mWindowSizeMs * 2)) then
    -- in the last window not a single sample arrived
    let w := { w with mLastAvailable := false }
    let w :=
      if w.mCollectedSignals = 0 then
        { w with mPreviousLastAvailable := false }
      else
        { w with
          mPreviousLastAvailable := true
          mPreviousLastMin := w.mCollectingMin
          mPreviousLastMax := w.mCollectingMax
          mPreviousLastAvg := w.collectingAvg }
    startNewWindow w timestamp nextWindowFunctionTimesOut
  else if timestamp ≥ w.windowEnd then
    let w :=
      { w with
        mPreviousLastMin := w.mLastMin
        mPreviousLastMax := w.mLastMax
        mPreviousLastAvg := w.mLastAvg
        mPreviousLastAvailable := w.mLastAvailable }
    let w :=
      if w.mCollectedSignals = 0 then
        { w with mLastAvailable := false }
      else
        { w with
          mLastAvailable := true
          mLastMin := w.mCollectingMin
          mLastMax := w.mCollectingMax
          mLastAvg := w.collectingAvg }
    startNewWindow w timestamp nextWindowFunctionTimesOut
  else
    ⟨w, min nextWindowFunctionTimesOut w.windowEnd, false⟩

def addValue (w : FixedTimeWindowFunctionData V) (value : V) (timestamp : Nat)
    (nextWindowFunctionTimesOut : Nat)
    : FixedTimeWindowFunctionData V × Nat :=
  let update := w.updateWindow timestamp nextWindowFunctionTimesOut
  (update.window.updateInternalVariables value, update.nextWindowFunctionTimesOut)

end FixedTimeWindowFunctionData

end DataInspection
