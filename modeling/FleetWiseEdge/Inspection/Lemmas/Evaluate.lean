import FleetWiseEdge.Inspection.Impl.Evaluate

namespace DataInspection

open Cpp DataManagement

namespace CollectionInspectionEngine

variable {V : Type} [InspectionValue V]

def isTrueNow (s : CollectionInspectionEngine V) (condition : ActiveCondition V) : Bool :=
  (s.evalCondition condition).1.isTrue

def triggersNow (s : CollectionInspectionEngine V) (condition : ActiveCondition V) (i : Nat) : Bool :=
  s.isTrueNow condition
    && (!condition.mCondition.triggerOnlyOnRisingEdge
      || !s.mConditionsWithConditionCurrentlyTrue.test i)

def isDue (condition : ActiveCondition V) (currentTime : Nat) : Prop :=
  currentTime ≥ u64 (condition.mLastTrigger + condition.mCondition.minimumPublishInterval)

instance (condition : ActiveCondition V) (currentTime : Nat)
    : Decidable (isDue condition currentTime) :=
  inferInstanceAs (Decidable (_ ≥ _))

def afterEvaluation (s : CollectionInspectionEngine V) (condition : ActiveCondition V)
    (currentTime i : Nat)
    : CollectionInspectionEngine V :=
  { s with
    mGeohashFunctionNode := (s.evalCondition condition).2
    mConditionsWithInputSignalChanged := s.mConditionsWithInputSignalChanged.set i false
    mConditionsWithConditionCurrentlyTrue :=
      s.mConditionsWithConditionCurrentlyTrue.set i (s.isTrueNow condition)
    mConditionsNotTriggeredWaitingPublished :=
      if s.triggersNow condition i then
        s.mConditionsNotTriggeredWaitingPublished.set i false
      else
        s.mConditionsNotTriggeredWaitingPublished
    mConditions :=
      if s.triggersNow condition i then
        s.mConditions.modify i fun condition => { condition with mLastTrigger := currentTime }
      else
        s.mConditions }

variable {s : CollectionInspectionEngine V} {condition : ActiveCondition V} {currentTime i : Nat}

theorem evaluateCondition_due (hcond : s.mConditions[i]? = some condition)
    (hdue : isDue condition currentTime)
    : s.evaluateCondition currentTime i
        =
      (s.afterEvaluation condition currentTime i,
        [⟨i, s.isTrueNow condition, s.triggersNow condition i⟩]) := by
  unfold evaluateCondition afterEvaluation triggersNow
  unfold isDue at hdue
  rw [hcond]
  dsimp only
  rw [if_pos hdue]
  cases htrue : s.isTrueNow condition with
  | false =>
    unfold isTrueNow at htrue
    simp [htrue]
  | true =>
    unfold isTrueNow at htrue
    rw [htrue]
    simp only [Bool.true_and]
    generalize (!condition.mCondition.triggerOnlyOnRisingEdge
      || !s.mConditionsWithConditionCurrentlyTrue.test i) = triggered
    cases triggered <;> rfl

theorem evaluateCondition_not_due (hcond : s.mConditions[i]? = some condition)
    (hdue : ¬isDue condition currentTime)
    : s.evaluateCondition currentTime i = (s, []) := by
  unfold evaluateCondition
  rw [hcond]
  dsimp only
  exact if_neg hdue

theorem evaluateCondition_none (hcond : s.mConditions[i]? = none)
    : s.evaluateCondition currentTime i = (s, []) := by
  unfold evaluateCondition
  rw [hcond]

section AfterEvaluation

variable {j : Nat}

theorem afterEvaluation_getElem_ne (hne : j ≠ i)
    : (s.afterEvaluation condition currentTime i).mConditions[j]? = s.mConditions[j]? := by
  unfold afterEvaluation
  dsimp only
  split
  . rw [List.getElem?_modify]
    simp [Ne.symm hne]
  . rfl

theorem afterEvaluation_getElem_self (hcond : s.mConditions[i]? = some condition)
    : (s.afterEvaluation condition currentTime i).mConditions[i]?
        =
      some { condition with
        mLastTrigger := if s.triggersNow condition i then currentTime else condition.mLastTrigger } := by
  unfold afterEvaluation
  dsimp only
  split
  . rw [List.getElem?_modify]
    simp [hcond]
  . rw [hcond]

theorem afterEvaluation_waiting_ne (hne : j ≠ i)
    : (s.afterEvaluation condition currentTime i).mConditionsNotTriggeredWaitingPublished.test j
        =
      s.mConditionsNotTriggeredWaitingPublished.test j := by
  unfold afterEvaluation
  dsimp only
  split
  . rw [Bitset.test_set_ne _ _ hne]
  . rfl

theorem afterEvaluation_waiting_self
    : (s.afterEvaluation condition currentTime i).mConditionsNotTriggeredWaitingPublished.test i
        =
      (s.mConditionsNotTriggeredWaitingPublished.test i && !s.triggersNow condition i) := by
  unfold afterEvaluation
  dsimp only
  split <;> simp [*]

@[simp]
theorem afterEvaluation_length
    : (s.afterEvaluation condition currentTime i).mConditions.length = s.mConditions.length := by
  unfold afterEvaluation
  dsimp only
  split <;> simp

end AfterEvaluation

theorem evaluateLoop_succ {toEvaluate : Bitset} {remaining : Nat}
    : s.evaluateLoop currentTime toEvaluate (remaining + 1) i
        =
      let first := if toEvaluate.test i then s.evaluateCondition currentTime i else (s, [])
      let rest := first.1.evaluateLoop currentTime toEvaluate remaining (i + 1)
      (rest.1, first.2 ++ rest.2) :=
  rfl

theorem evaluateLoop_induction {toEvaluate : Bitset}
    {motive : Nat → CollectionInspectionEngine V → CollectionInspectionEngine V → List Evaluation → Prop}
    (done : ∀ i s, motive i s s [])
    (skip : ∀ i s s' log, motive (i + 1) s s' log → motive i s s' log)
    (evaluate : ∀ i s s' log condition, s.mConditions[i]? = some condition →
      isDue condition currentTime → s.mConditionsNotTriggeredWaitingPublished.test i = true →
      toEvaluate.test i = true →
      motive (i + 1) (s.afterEvaluation condition currentTime i) s' log →
      motive i s s' (⟨i, s.isTrueNow condition, s.triggersNow condition i⟩ :: log))
    (remaining i : Nat) (s : CollectionInspectionEngine V)
    (hwaiting : ∀ j ≥ i, toEvaluate.test j = true →
      s.mConditionsNotTriggeredWaitingPublished.test j = true)
    : motive i s (s.evaluateLoop currentTime toEvaluate remaining i).1
        (s.evaluateLoop currentTime toEvaluate remaining i).2 := by
  induction remaining generalizing i s with
  | zero => exact done i s
  | succ remaining ih =>
    rw [evaluateLoop_succ]
    have hskip : motive i s (s.evaluateLoop currentTime toEvaluate remaining (i + 1)).1
        (s.evaluateLoop currentTime toEvaluate remaining (i + 1)).2 := by
      apply skip
      apply ih
      intro j hj
      exact hwaiting j (by omega)
    cases htest : toEvaluate.test i with
    | false => simpa using hskip
    | true =>
      simp only [if_true]
      cases hcond : s.mConditions[i]? with
      | none =>
        rw [evaluateCondition_none hcond]
        simpa using hskip
      | some condition =>
        by_cases hdue : isDue condition currentTime
        . rw [evaluateCondition_due hcond hdue]
          apply evaluate i s _ _ condition hcond hdue
          . exact hwaiting i (by omega) htest
          . exact htest
          . apply ih
            intro j hj hjtest
            rw [afterEvaluation_waiting_ne (by omega)]
            exact hwaiting j (by omega) hjtest
        . rw [evaluateCondition_not_due hcond hdue]
          simpa using hskip

theorem evaluateLoop_rel (R : CollectionInspectionEngine V → CollectionInspectionEngine V → Prop)
    (hrefl : ∀ s, R s s) (htrans : ∀ s s' s'', R s s' → R s' s'' → R s s'')
    (hafter : ∀ s (condition : ActiveCondition V) i, R s (s.afterEvaluation condition currentTime i))
    (toEvaluate : Bitset) (remaining i : Nat) (s : CollectionInspectionEngine V)
    : R s (s.evaluateLoop currentTime toEvaluate remaining i).1 := by
  induction remaining generalizing i s with
  | zero => exact hrefl s
  | succ remaining ih =>
    rw [evaluateLoop_succ]
    apply htrans _ _ _ _ (ih (i + 1) _)
    split
    . cases hcond : s.mConditions[i]? with
      | none =>
        rw [evaluateCondition_none hcond]
        exact hrefl s
      | some condition =>
        by_cases hdue : isDue condition currentTime
        . rw [evaluateCondition_due hcond hdue]
          exact hafter s condition i
        . rw [evaluateCondition_not_due hcond hdue]
          exact hrefl s
    . exact hrefl s

def beforeEvaluation (s : CollectionInspectionEngine V) (currentTime : Nat)
    : CollectionInspectionEngine V :=
  if currentTime ≥ s.mNextWindowFunctionTimesOut then
    s.updateAllFixedWindowFunctions currentTime
  else
    s

def evaluateMarked (s : CollectionInspectionEngine V) (currentTime : Nat)
    : CollectionInspectionEngine V × List Evaluation :=
  if s.conditionsToEvaluate.none MAX_NUMBER_OF_ACTIVE_CONDITION then
    (s, [])
  else
    s.evaluateLoop currentTime s.conditionsToEvaluate s.mConditions.length 0

theorem evaluateConditions_split (s : CollectionInspectionEngine V) (currentTime : Nat)
    : s.evaluateConditions currentTime = (s.beforeEvaluation currentTime).evaluateMarked currentTime :=
  rfl

theorem evaluateConditions_rel (R : CollectionInspectionEngine V → CollectionInspectionEngine V → Prop)
    (hrefl : ∀ s, R s s) (htrans : ∀ s s' s'', R s s' → R s' s'' → R s s'')
    (hafter : ∀ s (condition : ActiveCondition V) i, R s (s.afterEvaluation condition currentTime i))
    (s : CollectionInspectionEngine V)
    : R (s.beforeEvaluation currentTime) (s.evaluateConditions currentTime).1 := by
  rw [evaluateConditions_split]
  unfold evaluateMarked
  split
  . exact hrefl _
  . exact evaluateLoop_rel R hrefl htrans hafter _ _ _ _

end CollectionInspectionEngine

end DataInspection
