import FleetWiseEdge.Inspection.Lemmas.Eval
import FleetWiseEdge.Inspection.Lemmas.Ledger
import FleetWiseEdge.Lib.Windows
import Mathlib.Data.List.Induction

namespace DataInspection

open Cpp DataManagement

inductive WindowOp (V : Type) where
  | sample (timestamp : Nat) (value : V)
  | update (timestamp : Nat)
  deriving DecidableEq, Repr

namespace WindowOp

variable {V : Type}

def timestamp (op : WindowOp V) : Nat :=
  match op with
  | .sample timestamp _ => timestamp
  | .update timestamp => timestamp

def value? (op : WindowOp V) : Option V :=
  match op with
  | .sample _ value => some value
  | .update _ => none

def apply [InspectionValue V] (w : FixedTimeWindowFunctionData V) (op : WindowOp V)
    : FixedTimeWindowFunctionData V :=
  match op with
  | .sample timestamp value => w.sampled value timestamp
  | .update timestamp => w.ticked timestamp

end WindowOp

/--
The branches of `updateWindow`: the first call, a gap of two periods or more, the end of the period and a
call before it.
-/
inductive WindowBranch where
  | first
  | gap
  | next
  | same
  deriving DecidableEq, Repr

namespace FixedTimeWindowFunctionData

variable {V : Type}

def branch (w : FixedTimeWindowFunctionData V) (timestamp : Nat) : WindowBranch :=
  if w.mLastTimeCalculated = 0 then
    .first
  else if timestamp ≥ u64 (w.mLastTimeCalculated + u64 (w.mWindowSizeMs * 2)) then
    .gap
  else if timestamp ≥ w.windowEnd then
    .next
  else
    .same

end FixedTimeWindowFunctionData

/--
The samples that were aggregated in the window that is being collected and in those whose values are
kept as the last and as the previous last window.
-/
structure WindowHistory (V : Type) where
  collecting : List V := []
  last : List V := []
  previousLast : List V := []
  deriving DecidableEq, Repr

namespace WindowHistory

variable {V : Type}

def updateWindow (h : WindowHistory V) (branch : WindowBranch) : WindowHistory V :=
  match branch with
  | .first => { h with collecting := [] }
  | .gap => { collecting := [], last := [], previousLast := h.collecting }
  | .next => { collecting := [], last := h.collecting, previousLast := h.last }
  | .same => h

def next (h : WindowHistory V) (w : FixedTimeWindowFunctionData V) (op : WindowOp V)
    : WindowHistory V :=
  let h := h.updateWindow (w.branch op.timestamp)
  { h with collecting := h.collecting ++ op.value?.toList }

end WindowHistory

structure WindowRun (V : Type) where
  window : FixedTimeWindowFunctionData V
  history : WindowHistory V := {}
  deriving DecidableEq, Repr

namespace WindowRun

variable {V : Type} [InspectionValue V]

def step (r : WindowRun V) (op : WindowOp V) : WindowRun V :=
  ⟨op.apply r.window, r.history.next r.window op⟩

def run (windowSizeMs : Nat) (ops : List (WindowOp V)) : WindowRun V :=
  ops.foldl step ⟨.ofSize windowSizeMs, {}⟩

end WindowRun

section Aggregates

variable {V : Type} [InspectionValue V]

def aggregateMin (xs : List V) : V := xs.foldl InspectionValue.min InspectionValue.limitMax

def aggregateMax (xs : List V) : V := xs.foldl InspectionValue.max InspectionValue.limitMin

def aggregateSum (xs : List V) : V := xs.foldl InspectionValue.add (InspectionValue.ofNat 0)

def aggregateAvg (xs : List V) : V :=
  InspectionValue.div (aggregateSum xs) (InspectionValue.ofNat (u32 xs.length))

structure Collects (w : FixedTimeWindowFunctionData V) (xs : List V) : Prop where
  min : w.mCollectingMin = aggregateMin xs
  max : w.mCollectingMax = aggregateMax xs
  sum : w.mCollectingSum = aggregateSum xs
  count : w.mCollectedSignals = u32 xs.length

structure Recorded (available : Bool) (min max avg : V) (xs : List V) : Prop where
  available_eq : available = decide (u32 xs.length ≠ 0)
  min_eq : available = true → min = aggregateMin xs
  max_eq : available = true → max = aggregateMax xs
  avg_eq : available = true → avg = aggregateAvg xs

theorem Recorded.unavailable (min max avg : V) : Recorded false min max avg [] where
  available_eq := rfl
  min_eq := nofun
  max_eq := nofun
  avg_eq := nofun

variable {w : FixedTimeWindowFunctionData V} {xs : List V}

theorem Collects.initNewWindow (w : FixedTimeWindowFunctionData V) (timestamp : Nat)
    : Collects (w.initNewWindow timestamp) [] where
  min := rfl
  max := rfl
  sum := rfl
  count := rfl

theorem Collects.updateInternalVariables (h : Collects w xs) (value : V)
    : Collects (w.updateInternalVariables value) (xs ++ [value]) := by
  unfold FixedTimeWindowFunctionData.updateInternalVariables
  constructor
  . dsimp only
    rw [h.min]
    unfold aggregateMin
    rw [List.foldl_concat]
  . dsimp only
    rw [h.max]
    unfold aggregateMax
    rw [List.foldl_concat]
  . dsimp only
    rw [h.sum]
    unfold aggregateSum
    rw [List.foldl_concat]
  . dsimp only
    rw [h.count, List.length_append]
    unfold u32
    rw [Nat.mod_add_mod]
    rfl

theorem Collects.recorded_of_zero (h : Collects w xs) (hzero : w.mCollectedSignals = 0)
    (min max avg : V)
    : Recorded false min max avg xs := by
  rw [h.count] at hzero
  constructor
  . simp [hzero]
  . nofun
  . nofun
  . nofun

theorem Collects.recorded (h : Collects w xs) (hcount : w.mCollectedSignals ≠ 0)
    : Recorded true w.mCollectingMin w.mCollectingMax w.collectingAvg xs := by
  have havg : w.collectingAvg = aggregateAvg xs := by
    unfold FixedTimeWindowFunctionData.collectingAvg aggregateAvg
    rw [h.sum, h.count]
  rw [h.count] at hcount
  constructor
  . simp [hcount]
  . intro _
    exact h.min
  . intro _
    exact h.max
  . intro _
    exact havg

end Aggregates

namespace WindowRun

variable {V : Type} [InspectionValue V] {r : WindowRun V}

structure Faithful (r : WindowRun V) : Prop where
  collecting : r.window.mLastTimeCalculated ≠ 0 → Collects r.window r.history.collecting
  last :
    Recorded r.window.mLastAvailable r.window.mLastMin r.window.mLastMax r.window.mLastAvg
      r.history.last
  previousLast :
    Recorded r.window.mPreviousLastAvailable r.window.mPreviousLastMin r.window.mPreviousLastMax
      r.window.mPreviousLastAvg r.history.previousLast

theorem Faithful.ofSize (windowSizeMs : Nat)
    : Faithful (⟨.ofSize windowSizeMs, {}⟩ : WindowRun V) where
  collecting := by
    intro hstarted
    exact absurd rfl hstarted
  last := Recorded.unavailable _ _ _
  previousLast := Recorded.unavailable _ _ _

theorem Faithful.updateWindow (h : r.Faithful) (timestamp : Nat)
    : Faithful
        ⟨r.window.ticked timestamp, r.history.updateWindow (r.window.branch timestamp)⟩
        ∧
      Collects (r.window.ticked timestamp)
        (r.history.updateWindow (r.window.branch timestamp)).collecting := by
  unfold FixedTimeWindowFunctionData.ticked FixedTimeWindowFunctionData.updateWindow
  unfold FixedTimeWindowFunctionData.branch FixedTimeWindowFunctionData.startNewWindow
  dsimp only
  split
  . have hcollects :=
      Collects.initNewWindow { r.window with mLastTimeCalculated := timestamp } timestamp
    exact ⟨⟨fun _ => hcollects, h.last, h.previousLast⟩, hcollects⟩
  . rename_i hstarted
    have hcollecting := h.collecting hstarted
    split
    . split
      . rename_i hzero
        refine ⟨⟨fun _ => Collects.initNewWindow _ timestamp, Recorded.unavailable _ _ _, ?_⟩, ?_⟩
        . exact hcollecting.recorded_of_zero hzero _ _ _
        . exact Collects.initNewWindow _ timestamp
      . rename_i hcount
        refine ⟨⟨fun _ => Collects.initNewWindow _ timestamp, Recorded.unavailable _ _ _, ?_⟩, ?_⟩
        . exact hcollecting.recorded hcount
        . exact Collects.initNewWindow _ timestamp
    . split
      . split
        . rename_i hzero
          refine ⟨⟨fun _ => Collects.initNewWindow _ timestamp, ?_, h.last⟩, ?_⟩
          . exact hcollecting.recorded_of_zero hzero _ _ _
          . exact Collects.initNewWindow _ timestamp
        . rename_i hcount
          refine ⟨⟨fun _ => Collects.initNewWindow _ timestamp, ?_, h.last⟩, ?_⟩
          . exact hcollecting.recorded hcount
          . exact Collects.initNewWindow _ timestamp
      . exact ⟨h, hcollecting⟩

theorem Faithful.step (h : r.Faithful) (op : WindowOp V) : (r.step op).Faithful := by
  have ⟨hupdate, hcollects⟩ := h.updateWindow op.timestamp
  cases op with
  | sample timestamp value =>
    have hadd := hcollects.updateInternalVariables value
    exact ⟨fun _ => hadd, hupdate.last, hupdate.previousLast⟩
  | update timestamp =>
    unfold WindowRun.step WindowHistory.next
    dsimp only [WindowOp.value?, Option.toList]
    rw [List.append_nil]
    exact hupdate

@[simp]
theorem run_concat (windowSizeMs : Nat) (ops : List (WindowOp V)) (op : WindowOp V)
    : run windowSizeMs (ops ++ [op]) = (run windowSizeMs ops).step op := by
  unfold run
  rw [List.foldl_concat]

theorem run_faithful (windowSizeMs : Nat) (ops : List (WindowOp V))
    : (run windowSizeMs ops).Faithful := by
  unfold run
  apply List.foldlRecOn
  . exact Faithful.ofSize windowSizeMs
  . intro r h op _
    exact h.step op

end WindowRun

namespace CollectionInspectionEngine

open SignalHistoryBuffer

variable {V : Type} [InspectionValue V] {s : CollectionInspectionEngine V}

def windowOps (s : CollectionInspectionEngine V) (ptr : FixedWindowPtr) (event : EngineEvent V)
    : List (WindowOp V) :=
  match event with
  | .addNewSignal id receiveTime value =>
    match bufferAt s.mSignalBuffers ptr.buffer with
    | none => []
    | some buf =>
      if buf.signalID = id && buf.acceptsSample receiveTime then [.sample receiveTime value] else []
  | .evaluateConditions currentTime =>
    if currentTime ≥ s.mNextWindowFunctionTimesOut then [.update currentTime] else []
  | _ => []

def runWindowOps (s : CollectionInspectionEngine V) (ptr : FixedWindowPtr)
    (events : List (EngineEvent V))
    : List (WindowOp V) :=
  match events with
  | [] => []
  | event :: events => s.windowOps ptr event ++ runWindowOps (s.step event).1 ptr events

theorem addNewSignal_windowAt (ptr : FixedWindowPtr) (id : SignalID) (receiveTime : Nat) (value : V)
    : windowAt (s.addNewSignal id receiveTime value).mSignalBuffers ptr
        =
      (windowAt s.mSignalBuffers ptr).map fun w =>
        (s.windowOps ptr (.addNewSignal id receiveTime value)).foldl WindowOp.apply w := by
  have hlookup : bufferAt (s.addNewSignal id receiveTime value).mSignalBuffers ptr.buffer
      = (bufferAt s.mSignalBuffers ptr.buffer).map (addSample id receiveTime value) := by
    rw [addNewSignal_buffers]
    exact KeyedList.lookup_map fun b => addSample_ptr
  unfold windowAt windowOps
  rw [hlookup]
  cases bufferAt s.mSignalBuffers ptr.buffer with
  | none => rfl
  | some buf =>
    dsimp only [Option.map_some, Option.bind_some]
    rw [getFixedWindow_addSample]
    congr
    funext w
    split <;> rfl

theorem updateAllFixedWindowFunctions_windowAt (ptr : FixedWindowPtr) (timestamp : Nat)
    : windowAt (s.updateAllFixedWindowFunctions timestamp).mSignalBuffers ptr
        =
      (windowAt s.mSignalBuffers ptr).map (FixedTimeWindowFunctionData.ticked timestamp) := by
  have hlookup : bufferAt (s.updateAllFixedWindowFunctions timestamp).mSignalBuffers ptr.buffer
      = (bufferAt s.mSignalBuffers ptr.buffer).map (tick timestamp) := by
    rw [updateAllFixedWindowFunctions_buffers]
    exact KeyedList.lookup_map fun b => tick_ptr
  unfold windowAt
  rw [hlookup]
  cases bufferAt s.mSignalBuffers ptr.buffer with
  | none => rfl
  | some buf =>
    dsimp only [Option.map_some, Option.bind_some]
    rw [getFixedWindow_tick]

theorem collectNextDataToSend_forall₂ (s : CollectionInspectionEngine V) (currentTime : Nat)
    : List.Forall₂ SameReadings s.mSignalBuffers
        (s.collectNextDataToSend currentTime).engine.mSignalBuffers := by
  have ⟨s', ⟨_, _, _, hskimmed⟩, hcases⟩ := collectNextDataToSend_spec s currentTime
  have hbuffers : s'.mSignalBuffers = s.mSignalBuffers := by rw [hskimmed]
  rcases hcases with ⟨_, hengine⟩ | ⟨i, condition, _, _, hengine⟩
  . rw [hengine, hbuffers]
    exact List.forall₂_same.mpr fun b _ => SameReadings.refl b
  . rw [hengine, ← hbuffers]
    apply publish_forall₂

theorem step_windowAt (s : CollectionInspectionEngine V) (ptr : FixedWindowPtr) (event : EngineEvent V)
    : windowAt (s.step event).1.mSignalBuffers ptr
        =
      (windowAt s.mSignalBuffers ptr).map fun w =>
        (s.windowOps ptr event).foldl WindowOp.apply w := by
  cases event with
  | addNewSignal id receiveTime value => exact addNewSignal_windowAt ptr id receiveTime value
  | addNewRawCanFrame canID channelID receiveTime buffer size => exact Option.map_id'.symm
  | setActiveDTCs activeDTCs => exact Option.map_id'.symm
  | evaluateConditions currentTime =>
    have hbuffers := evaluateConditions_mSignalBuffers s currentTime
    unfold step windowOps
    dsimp only
    rw [hbuffers]
    unfold beforeEvaluation
    split
    . exact updateAllFixedWindowFunctions_windowAt ptr currentTime
    . exact Option.map_id'.symm
  | collectNextDataToSend currentTime =>
    unfold step
    dsimp only
    rw [windowAt_sameReadings (collectNextDataToSend_forall₂ s currentTime)]
    exact Option.map_id'.symm

theorem run_windowAt (s : CollectionInspectionEngine V) (ptr : FixedWindowPtr)
    (events : List (EngineEvent V))
    : windowAt (s.run events).1.mSignalBuffers ptr
        =
      (windowAt s.mSignalBuffers ptr).map fun w =>
        (s.runWindowOps ptr events).foldl WindowOp.apply w := by
  induction events generalizing s with
  | nil => exact Option.map_id'.symm
  | cons event events ih =>
    unfold run at ih ⊢
    rw [Machine.run_cons]
    dsimp only
    rw [ih, step_windowAt, Option.map_map]
    congr
    funext w
    rw [Function.comp_apply]
    rw [← List.foldl_append]
    rfl

end CollectionInspectionEngine

theorem WindowRun.run_window {V : Type} [InspectionValue V] (windowSizeMs : Nat)
    (ops : List (WindowOp V))
    : (WindowRun.run windowSizeMs ops).window
        =
      ops.foldl WindowOp.apply (.ofSize windowSizeMs) := by
  induction ops using List.reverseRecOn with
  | nil => rfl
  | append_singleton ops op ih =>
    rw [WindowRun.run_concat, List.foldl_concat, ← ih]
    rfl

end DataInspection
