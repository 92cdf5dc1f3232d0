import FleetWiseEdge.Inspection.Lemmas.WindowAlignment
import FleetWiseEdge.Inspection.Lemmas.Ledger
import FleetWiseEdge.Inspection.Lemmas.Eval
import Mathlib.Order.Nat

namespace DataInspection

open Cpp DataManagement Windows WindowOp

section Reported

variable {V : Type} [InspectionValue V] {w : FixedTimeWindowFunctionData V}

def reported (w : FixedTimeWindowFunctionData V) (function : WindowFunction) : Option V :=
  match (windowFunctionValue w function).code with
  | .SUCCESSFUL => some (windowFunctionValue w function).resultValueDouble
  | _ => none

theorem reported_lastAvg
    : reported w .LAST_FIXED_WINDOW_AVG = if w.mLastAvailable then some w.mLastAvg else none := by
  unfold reported windowFunctionValue
  cases w.mLastAvailable <;> rfl

theorem reported_lastMin
    : reported w .LAST_FIXED_WINDOW_MIN = if w.mLastAvailable then some w.mLastMin else none := by
  unfold reported windowFunctionValue
  cases w.mLastAvailable <;> rfl

theorem reported_previousLastAvg
    : reported w .PREV_LAST_FIXED_WINDOW_AVG
        =
      if w.mPreviousLastAvailable then some w.mPreviousLastAvg else none := by
  unfold reported windowFunctionValue
  cases w.mPreviousLastAvailable <;> rfl

theorem reported_previousLastMin
    : reported w .PREV_LAST_FIXED_WINDOW_MIN
        =
      if w.mPreviousLastAvailable then some w.mPreviousLastMin else none := by
  unfold reported windowFunctionValue
  cases w.mPreviousLastAvailable <;> rfl

end Reported

section Exact

variable {xs : List Rat}

def average (xs : List Rat) : Option Rat := if xs = [] then none else some (xs.sum / xs.length)

theorem aggregateAvg_eq (hlength : xs.length < 2 ^ 32) : aggregateAvg xs = xs.sum / xs.length := by
  unfold aggregateAvg
  rw [u32_of_lt hlength]
  have hsum : aggregateSum xs = xs.sum := List.sum_eq_foldl.symm
  rw [hsum]
  rfl

@[simp]
theorem inspectionLt_eq (a b : Rat) : InspectionValue.lt a b = decide (a < b) := rfl

theorem inspectionMin_eq (a b : Rat) : InspectionValue.min a b = min a b := by
  unfold InspectionValue.min
  by_cases hlt : b < a
  . rw [inspectionLt_eq, if_pos (decide_eq_true hlt), min_eq_right hlt.le]
  . rw [inspectionLt_eq, if_neg (by simpa using hlt), min_eq_left (not_lt.mp hlt)]

theorem inspectionMax_eq (a b : Rat) : InspectionValue.max a b = max a b := by
  unfold InspectionValue.max
  by_cases hlt : a < b
  . rw [inspectionLt_eq, if_pos (decide_eq_true hlt), max_eq_right hlt.le]
  . rw [inspectionLt_eq, if_neg (by simpa using hlt), max_eq_left (not_lt.mp hlt)]

theorem min?_eq_aggregateMin (hne : xs ≠ []) (hvalues : ∀ x ∈ xs, x ≤ InspectionValue.limitMax)
    : xs.min? = some (aggregateMin xs) := by
  have hfold : aggregateMin xs = xs.foldl min InspectionValue.limitMax := by
    unfold aggregateMin
    congr
    funext a b
    exact inspectionMin_eq a b
  cases xs with
  | nil => exact absurd rfl hne
  | cons x xs =>
    rw [List.min?_cons', hfold, List.foldl_cons, min_eq_right (hvalues x (by simp))]

end Exact

section Report

variable {available : Bool} {lowest highest avg : Rat} {xs : List Rat}

theorem Recorded.average_eq (h : Recorded available lowest highest avg xs)
    (hlength : xs.length < 2 ^ 32)
    : (if available then some avg else none) = average xs := by
  have havailable := h.available_eq
  rw [u32_of_lt hlength] at havailable
  unfold average
  cases hav : available with
  | false =>
    rw [hav] at havailable
    have hnil : xs = [] := by simpa using havailable
    simp [hnil]
  | true =>
    rw [hav] at havailable
    have hne : xs ≠ [] := by simpa using havailable
    rw [if_pos rfl, if_neg hne]
    rw [h.avg_eq hav, aggregateAvg_eq hlength]

theorem Recorded.min?_eq (h : Recorded available lowest highest avg xs)
    (hlength : xs.length < 2 ^ 32) (hvalues : ∀ x ∈ xs, x ≤ InspectionValue.limitMax)
    : (if available then some lowest else none) = xs.min? := by
  have havailable := h.available_eq
  rw [u32_of_lt hlength] at havailable
  cases hav : available with
  | false =>
    rw [hav] at havailable
    have hnil : xs = [] := by simpa using havailable
    simp [hnil]
  | true =>
    rw [hav] at havailable
    have hne : xs ≠ [] := by simpa using havailable
    rw [if_pos rfl, h.min_eq hav, min?_eq_aggregateMin hne hvalues]

end Report

section Samples

variable {period k back : Nat} {ops : List (WindowOp Rat)} {op : WindowOp Rat}

theorem Scheduled.length_samplesBefore (h : Scheduled period ops)
    : (samplesBefore (firstTimestamp ops) period k back ops).length < 2 ^ 32 := by
  unfold samplesBefore
  split
  . exact h.samples _
  . decide

def InRange (ops : List (WindowOp Rat)) : Prop :=
  ∀ op ∈ ops, ∀ v ∈ op.value?, v ≤ InspectionValue.limitMax

theorem InRange.samplesIn (h : InRange ops) {origin : Nat}
    : ∀ x ∈ samplesIn origin period k ops, x ≤ InspectionValue.limitMax := by
  intro x hx
  have ⟨op, hop, _, hvalue⟩ := mem_content.mp hx
  exact h op hop x hvalue

theorem InRange.samplesBefore (h : InRange ops) {origin : Nat}
    : ∀ x ∈ samplesBefore origin period k back ops, x ≤ InspectionValue.limitMax := by
  unfold WindowOp.samplesBefore
  split
  . exact h.samplesIn
  . simp

end Samples

section Windows

variable {V : Type}

def lastIndex (period : Nat) (ops : List (WindowOp V)) (op : WindowOp V) : Nat :=
  index (firstTimestamp (ops ++ [op])) period op.timestamp

def samplesOf (period back : Nat) (ops : List (WindowOp V)) (op : WindowOp V) : List V :=
  samplesBefore (firstTimestamp (ops ++ [op])) period (lastIndex period ops op) back (ops ++ [op])

def LastWindowExact (period : Nat) (ops : List (WindowOp Rat)) (op : WindowOp Rat) : Prop :=
  let w := (WindowRun.run period (ops ++ [op])).window
  w.mLastTimeCalculated = firstTimestamp (ops ++ [op]) + lastIndex period ops op * period
    ∧
  reported w .LAST_FIXED_WINDOW_AVG = average (samplesOf period 1 ops op)
    ∧
  reported w .LAST_FIXED_WINDOW_MIN = (samplesOf period 1 ops op).min?

def PreviousLastWindowExact (period : Nat) (ops : List (WindowOp Rat)) (op : WindowOp Rat) : Prop :=
  let w := (WindowRun.run period (ops ++ [op])).window
  reported w .PREV_LAST_FIXED_WINDOW_AVG = average (samplesOf period 2 ops op)
    ∧
  reported w .PREV_LAST_FIXED_WINDOW_MIN = (samplesOf period 2 ops op).min?

/--
The last timestamp, or an earlier one in its window, came three windows or more after the timestamp before
it, whose window has a sample.
-/
def StaleAfterGap (period : Nat) (ops : List (WindowOp V)) (op : WindowOp V) : Prop :=
  ∃ m, m + 3 ≤ lastIndex period ops op
    ∧ samplesIn (firstTimestamp (ops ++ [op])) period m (ops ++ [op]) ≠ []
    ∧ ∀ j, m < j → j < lastIndex period ops op →
        ¬Occupied (firstTimestamp (ops ++ [op])) period j (ops ++ [op])

end Windows

theorem last_fixed_window {period : Nat} (hperiod : 0 < period) (ops : List (WindowOp Rat))
    (op : WindowOp Rat) (h : Scheduled period (ops ++ [op])) (hrange : InRange (ops ++ [op]))
    (hbounded : ∀ op' ∈ ops ++ [op], op'.timestamp + 2 * period < 2 ^ 64)
    : LastWindowExact period ops op := by
  have haligned := run_aligned hperiod ops op h hbounded
  have hlast := (WindowRun.run_faithful period (ops ++ [op])).last
  rw [haligned.last] at hlast
  refine ⟨haligned.start, ?_, ?_⟩
  . rw [reported_lastAvg]
    exact hlast.average_eq h.length_samplesBefore
  . rw [reported_lastMin]
    exact hlast.min?_eq h.length_samplesBefore hrange.samplesBefore

theorem Scheduled.of_short {V : Type} {period : Nat} {ops : List (WindowOp V)}
    (hpositive : ∀ op ∈ ops, 0 < op.timestamp)
    (hsorted : ops.Pairwise fun op op' => op.timestamp ≤ op'.timestamp)
    (hlength : ops.length < 2 ^ 32)
    (hwindows : ops.IsChain fun op op' =>
      index (firstTimestamp ops) period op'.timestamp
        < index (firstTimestamp ops) period op.timestamp + 2 ^ 32)
    : Scheduled period ops where
  positive := hpositive
  sorted := hsorted
  samples := by
    intro k
    exact Nat.lt_of_le_of_lt (length_samplesIn_le _ _ k ops) hlength
  windows := hwindows

theorem last_fixed_window_twoSamples
    : LastWindowExact 10 [.sample 1 4, .sample 5 (-2)] (.update 12) := by
  apply last_fixed_window
  . decide
  . apply Scheduled.of_short
    . decide
    . decide
    . decide
    . decide
  . unfold InRange
    decide +kernel
  . decide

def lateSamples : List (WindowOp Rat) := [.sample (2 ^ 64 - 15) 4, .sample (2 ^ 64 - 14) 4]

theorem last_fixed_window_overflow
    : Scheduled 10 (lateSamples ++ [.update (2 ^ 64 - 5)])
        ∧
      InRange (lateSamples ++ [.update (2 ^ 64 - 5)])
        ∧
      ¬LastWindowExact 10 lateSamples (.update (2 ^ 64 - 5)) := by
  refine ⟨?_, ?_, ?_⟩
  . apply Scheduled.of_short
    . decide
    . decide
    . decide
    . decide
  . unfold InRange
    decide +kernel
  . unfold LastWindowExact
    decide +kernel

section PreviousLast

variable {period : Nat} {ops : List (WindowOp Rat)} {op : WindowOp Rat}

theorem average_eq_none_iff {xs : List Rat} : average xs = none ↔ xs = [] := by
  unfold average
  split
  . rename_i hnil
    simp [hnil]
  . rename_i hne
    simp [hne]

theorem previousLastWindowExact_iff {xs : List Rat} (hlength : xs.length < 2 ^ 32)
    (hvalues : ∀ x ∈ xs, x ≤ InspectionValue.limitMax)
    (hhistory : (WindowRun.run period (ops ++ [op])).history.previousLast = xs)
    : PreviousLastWindowExact period ops op
        ↔
      average xs = average (samplesOf period 2 ops op) ∧ xs.min? = (samplesOf period 2 ops op).min? := by
  have hprevious := (WindowRun.run_faithful period (ops ++ [op])).previousLast
  rw [hhistory] at hprevious
  unfold PreviousLastWindowExact
  dsimp only
  rw [reported_previousLastAvg, reported_previousLastMin]
  rw [hprevious.average_eq hlength, hprevious.min?_eq hlength hvalues]

theorem exists_latest_occupied {V : Type} {origin k : Nat} {ops : List (WindowOp V)}
    (hfirst : Occupied origin period 0 ops)
    : (k = 0 ∨ Occupied origin period (k - 1) ops)
        ∨
      ∃ m, m + 2 ≤ k ∧ Occupied origin period m ops
        ∧ ∀ j, m < j → j < k → ¬Occupied origin period j ops := by
  by_cases hprevious : k = 0 ∨ Occupied origin period (k - 1) ops
  . exact Or.inl hprevious
  . apply Or.inr
    rw [not_or] at hprevious
    have ⟨hk, hnot⟩ := hprevious
    have hle := Nat.findGreatest_le (P := fun j => Occupied origin period j ops) (k - 1)
    have hspec := Nat.findGreatest_spec (P := fun j => Occupied origin period j ops)
      (Nat.zero_le (k - 1)) hfirst
    generalize hm : Nat.findGreatest (fun j => Occupied origin period j ops) (k - 1) = m at hle hspec
    have hne : m ≠ k - 1 := by
      intro heq
      rw [heq] at hspec
      exact hnot hspec
    refine ⟨m, by omega, hspec, ?_⟩
    intro j hmj hjk
    apply Nat.findGreatest_is_greatest (P := fun j => Occupied origin period j ops) (n := k - 1)
    . rw [hm]
      exact hmj
    . omega

theorem previous_last_fixed_window (hperiod : 0 < period) (h : Scheduled period (ops ++ [op]))
    (hrange : InRange (ops ++ [op]))
    (hbounded : ∀ op' ∈ ops ++ [op], op'.timestamp + 2 * period < 2 ^ 64)
    : PreviousLastWindowExact period ops op ↔ ¬StaleAfterGap period ops op := by
  have haligned := run_aligned hperiod ops op h hbounded
  have hfirst : Occupied (firstTimestamp (ops ++ [op])) period 0 (ops ++ [op]) := by
    have ⟨o, ho, heq⟩ := exists_firstTimestamp ops op
    refine ⟨o, ho, ?_⟩
    rw [heq, index_origin]
  cases exists_latest_occupied (k := lastIndex period ops op) hfirst with
  | inl hprevious =>
    rw [previousLastWindowExact_iff h.length_samplesBefore hrange.samplesBefore
      (haligned.previousLast hprevious)]
    apply iff_of_true
    . exact ⟨rfl, rfl⟩
    . intro ⟨m, hm, _, hnone⟩
      cases hprevious with
      | inl hzero => omega
      | inr hoccupied => exact hnone _ (by omega) (by omega) hoccupied
  | inr hgap =>
    have ⟨m, hm, hoccupied, hnone⟩ := hgap
    rw [previousLastWindowExact_iff (h.samples m) hrange.samplesIn
      (haligned.afterGap m hm hoccupied hnone)]
    by_cases htwo : lastIndex period ops op = m + 2
    . have hsamples : samplesOf period 2 ops op
          = samplesIn (firstTimestamp (ops ++ [op])) period m (ops ++ [op]) := by
        unfold samplesOf samplesBefore
        rw [htwo, if_pos (by omega), Nat.add_sub_cancel]
      rw [hsamples]
      apply iff_of_true
      . exact ⟨rfl, rfl⟩
      . intro ⟨m', hm', _, hnone'⟩
        exact hnone' m (by omega) (by omega) hoccupied
    . have hsamples : samplesOf period 2 ops op = [] := by
        unfold samplesOf samplesBefore
        rw [if_pos (by omega)]
        apply content_eq_nil
        intro o ho hindex
        exact hnone _ (by omega) (by omega) ⟨o, ho, hindex⟩
      rw [hsamples]
      constructor
      . intro ⟨havg, _⟩ ⟨m', hm', hne, hnone'⟩
        have hnil := average_eq_none_iff.mp havg
        apply hne
        apply content_eq_nil
        intro o ho hindex
        rcases Nat.lt_trichotomy m' m with hlt | heq | hgt
        . exact hnone' m hlt (by omega) hoccupied
        . rw [heq] at hne
          exact hne hnil
        . exact hnone m' hgt (by omega) ⟨o, ho, hindex⟩
      . intro hfresh
        have hnil : samplesIn (firstTimestamp (ops ++ [op])) period m (ops ++ [op]) = [] := by
          by_contra hne
          exact hfresh ⟨m, by omega, hne, hnone⟩
        rw [hnil]
        exact ⟨rfl, rfl⟩

end PreviousLast

theorem previous_last_fixed_window_gap
    : PreviousLastWindowExact 10 [.sample 1 4, .update 21] (.update 25)
        ↔
      ¬StaleAfterGap 10 ([.sample 1 4, .update 21] : List (WindowOp Rat)) (.update 25) := by
  apply previous_last_fixed_window
  . decide
  . apply Scheduled.of_short
    . decide
    . decide
    . decide
    . decide
  . unfold InRange
    decide +kernel
  . decide

theorem previous_last_fixed_window_stale
    : ¬PreviousLastWindowExact 10 [.sample 1 4] (.update 31) := by
  unfold PreviousLastWindowExact
  decide +kernel

section Maximum

def IsMaximum (xs : List Rat) (x : Rat) : Prop := x ∈ xs ∧ ∀ y ∈ xs, y ≤ x

instance (xs : List Rat) (x : Rat) : Decidable (IsMaximum xs x) :=
  inferInstanceAs (Decidable (x ∈ xs ∧ ∀ y ∈ xs, y ≤ x))

theorem isMaximum_aggregateMax_iff (xs : List Rat)
    : IsMaximum xs (aggregateMax xs) ↔ ∃ x ∈ xs, InspectionValue.limitMin ≤ x := by
  have hfold : (InspectionValue.limitMin :: xs).max? = some (aggregateMax xs) := by
    unfold aggregateMax
    rw [List.max?_cons']
    congr
    funext a b
    exact (inspectionMax_eq a b).symm
  rw [List.max?_eq_some_iff] at hfold
  have ⟨hmem, hle⟩ := hfold
  constructor
  . intro ⟨hin, _⟩
    exact ⟨_, hin, hle _ (by simp)⟩
  . intro ⟨x, hx, hlimit⟩
    refine ⟨?_, fun y hy => hle y (by simp [hy])⟩
    rw [List.mem_cons] at hmem
    cases hmem with
    | inl hstart =>
      have hxle := hle x (by simp [hx])
      rw [hstart] at hxle ⊢
      rw [le_antisymm hlimit hxle]
      exact hx
    | inr hin => exact hin

def ReportsMaximum (result : EvalResult Rat) (xs : List Rat) : Prop :=
  result.code = .SUCCESSFUL → IsMaximum xs result.resultValueDouble

theorem reportsMaximum_iff {result : EvalResult Rat} {xs : List Rat}
    (h : result.code = .SUCCESSFUL → result.resultValueDouble = aggregateMax xs)
    : ReportsMaximum result xs
        ↔
      (result.code = .SUCCESSFUL → ∃ x ∈ xs, InspectionValue.limitMin ≤ x) := by
  unfold ReportsMaximum
  apply imp_congr_right
  intro hcode
  rw [h hcode, isMaximum_aggregateMax_iff]

theorem lastMax_value {r : WindowRun Rat} (h : r.Faithful)
    (hcode : (windowFunctionValue r.window .LAST_FIXED_WINDOW_MAX).code = .SUCCESSFUL)
    : (windowFunctionValue r.window .LAST_FIXED_WINDOW_MAX).resultValueDouble
        =
      aggregateMax r.history.last := by
  unfold windowFunctionValue at hcode ⊢
  dsimp only at hcode ⊢
  split
  . rename_i havailable
    exact h.last.max_eq havailable
  . rename_i hnot
    rw [if_neg hnot] at hcode
    cases hcode

theorem previousLastMax_value {r : WindowRun Rat} (h : r.Faithful)
    (hcode : (windowFunctionValue r.window .PREV_LAST_FIXED_WINDOW_MAX).code = .SUCCESSFUL)
    : (windowFunctionValue r.window .PREV_LAST_FIXED_WINDOW_MAX).resultValueDouble
        =
      aggregateMax r.history.previousLast := by
  unfold windowFunctionValue at hcode ⊢
  dsimp only at hcode ⊢
  split
  . rename_i havailable
    exact h.previousLast.max_eq havailable
  . rename_i hnot
    rw [if_neg hnot] at hcode
    cases hcode

end Maximum

/--
In every run of the engine, a window that was new at its start reports the maximum of the samples that
were aggregated exactly if one of them is at least the smallest positive double.
-/
theorem fixed_window_maximum (s : CollectionInspectionEngine Rat) (events : List (EngineEvent Rat))
    (condition : ActiveCondition Rat) (signalID : SignalID) (ptr : FixedWindowPtr)
    (hptr : condition.mEvaluationFunctions signalID = some ptr)
    (hnew : windowAt s.mSignalBuffers ptr = some (.ofSize ptr.windowSizeMs))
    : let mSignalBuffers := (s.run events).1.mSignalBuffers
      let last := getSampleWindowFunction mSignalBuffers .LAST_FIXED_WINDOW_MAX signalID condition
      let previousLast :=
        getSampleWindowFunction mSignalBuffers .PREV_LAST_FIXED_WINDOW_MAX signalID condition
      let history := (WindowRun.run ptr.windowSizeMs (s.runWindowOps ptr events)).history
      (ReportsMaximum last history.last
          ↔ (last.code = .SUCCESSFUL → ∃ x ∈ history.last, InspectionValue.limitMin ≤ x))
        ∧
      (ReportsMaximum previousLast history.previousLast
          ↔ (previousLast.code = .SUCCESSFUL →
            ∃ x ∈ history.previousLast, InspectionValue.limitMin ≤ x)) := by
  have hfaithful := WindowRun.run_faithful ptr.windowSizeMs (s.runWindowOps ptr events)
  have hwindow := CollectionInspectionEngine.run_windowAt s ptr events
  rw [hnew, Option.map_some, ← WindowRun.run_window] at hwindow
  have hread : ∀ function, getSampleWindowFunction (s.run events).1.mSignalBuffers function signalID
      condition = windowFunctionValue (WindowRun.run ptr.windowSizeMs (s.runWindowOps ptr events)).window
        function := by
    intro function
    unfold getSampleWindowFunction
    rw [hptr, Option.bind_some, hwindow]
  dsimp only
  rw [hread, hread]
  constructor
  . apply reportsMaximum_iff
    exact lastMax_value hfaithful
  . apply reportsMaximum_iff
    exact previousLastMax_value hfaithful

section Negative

def maximumCondition : ConditionWithCollectedData Rat where
  condition := some 0
  minimumPublishInterval := 0
  afterDuration := 0
  signals := [⟨7, 10, 0, 10, false⟩]
  canFrames := []
  includeActiveDtcs := false
  triggerOnlyOnRisingEdge := false
  probabilityToSend := 1
  metaData := {}
  imageCollectionInfos := []
  includeImageCapture := false

def maximumEngine : CollectionInspectionEngine Rat :=
  emptyEngine.onChangeInspectionMatrix (.inserted Rat)
    ⟨[maximumCondition],
      [{ nodeType := .OPERATOR_BIGGER, left := some 1, right := some 2, floatingValue := 0 },
       { nodeType := .WINDOWFUNCTION, floatingValue := 0, signalID := 7,
         function := { windowFunction := .LAST_FIXED_WINDOW_MAX } },
       { nodeType := .FLOAT, floatingValue := 5 }]⟩

def maximumReader : ActiveCondition Rat :=
  { mCondition := maximumCondition
    mEvaluationFunctions := fun id => if id = 7 then some ⟨⟨7, 0⟩, 10⟩ else none }

theorem fixed_window_maximum_positive
    : let events := [.addNewSignal 7 1 (-5), .addNewSignal 7 2 3, .evaluateConditions 11]
      let last := getSampleWindowFunction (maximumEngine.run events).1.mSignalBuffers
        .LAST_FIXED_WINDOW_MAX 7 maximumReader
      ReportsMaximum last [-5, 3] := by
  have hmaximum := (fixed_window_maximum maximumEngine
    [.addNewSignal 7 1 (-5), .addNewSignal 7 2 3, .evaluateConditions 11] maximumReader 7 ⟨⟨7, 0⟩, 10⟩
    rfl (by decide +kernel)).1
  apply hmaximum.mpr
  intro _
  exact ⟨3, by decide +kernel, by decide +kernel⟩

theorem fixed_window_maximum_negative
    : let events := [.addNewSignal 7 1 (-5), .evaluateConditions 11]
      let last := getSampleWindowFunction (maximumEngine.run events).1.mSignalBuffers
        .LAST_FIXED_WINDOW_MAX 7 maximumReader
      (WindowRun.run 10 (maximumEngine.runWindowOps ⟨⟨7, 0⟩, 10⟩ events)).history.last = [-5]
        ∧
      ¬ReportsMaximum last [-5] := by
  unfold ReportsMaximum
  decide +kernel

end Negative

end DataInspection
