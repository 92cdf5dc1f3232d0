import FleetWiseEdge.Inspection.Lemmas.Configuration
import FleetWiseEdge.Inspection.Lemmas.Engine
import FleetWiseEdge.Inspection.Lemmas.Evaluate

/-!
This module contains that the marks, the timeout of the windows and the bits of the conditions whose
inputs changed, only decide when a condition is evaluated. All other calls do the same to engines that
differ in their marks.
-/

namespace DataInspection

open Cpp DataManagement

namespace CollectionInspectionEngine

variable {V : Type}

@[simp]
theorem withMarks_changeMarks (s : CollectionInspectionEngine V) : s.withMarks s.changeMarks = s := rfl

end CollectionInspectionEngine

structure Uncollected (V : Type) where
  marks : ChangeMarks
  mActiveInspectionMatrix : InspectionMatrix V

def CollectionInspectionEngine.withUncollected {V : Type} (s : CollectionInspectionEngine V)
    (u : Uncollected V)
    : CollectionInspectionEngine V :=
  { s with
    mNextWindowFunctionTimesOut := u.marks.mNextWindowFunctionTimesOut
    mConditionsWithInputSignalChanged := u.marks.mConditionsWithInputSignalChanged
    mActiveInspectionMatrix := u.mActiveInspectionMatrix }

namespace Collecting

variable {V : Type} {c : Collecting V} {u : Uncollected V} {conditionId : Nat}

def withUncollected (c : Collecting V) (u : Uncollected V) : Collecting V :=
  { c with engine := c.engine.withUncollected u }

theorem collectLastSignals_withUncollected (s : InspectionMatrixSignalCollectionInfo)
    : (c.withUncollected u).collectLastSignals conditionId s
        =
      (c.collectLastSignals conditionId s).withUncollected u := by
  unfold collectLastSignals withUncollected CollectionInspectionEngine.withUncollected
  dsimp only
  split
  . rfl
  . split <;> rfl

theorem collectLastCanFrames_withUncollected (f : InspectionMatrixCanFrameCollectionInfo)
    : (c.withUncollected u).collectLastCanFrames conditionId f
        =
      (c.collectLastCanFrames conditionId f).withUncollected u := by
  unfold collectLastCanFrames withUncollected CollectionInspectionEngine.withUncollected
  dsimp only
  split <;> rfl

theorem foldl_collectLastSignals_withUncollected (signals : List InspectionMatrixSignalCollectionInfo)
    : signals.foldl (collectLastSignals conditionId) (c.withUncollected u)
        =
      (signals.foldl (collectLastSignals conditionId) c).withUncollected u := by
  induction signals generalizing c with
  | nil => rfl
  | cons s signals ih =>
    rw [List.foldl_cons, List.foldl_cons]
    rw [collectLastSignals_withUncollected]
    rw [ih]

theorem foldl_collectLastCanFrames_withUncollected
    (canFrames : List InspectionMatrixCanFrameCollectionInfo)
    : canFrames.foldl (collectLastCanFrames conditionId) (c.withUncollected u)
        =
      (canFrames.foldl (collectLastCanFrames conditionId) c).withUncollected u := by
  induction canFrames generalizing c with
  | nil => rfl
  | cons f canFrames ih =>
    rw [List.foldl_cons, List.foldl_cons]
    rw [collectLastCanFrames_withUncollected]
    rw [ih]

end Collecting

namespace CollectionInspectionEngine

section Publish

variable {V : Type} {s : CollectionInspectionEngine V} {u : Uncollected V}
variable {condition : ActiveCondition V} {i currentTime : Nat}

theorem collectSamples_withUncollected
    : (s.withUncollected u).collectSamples condition i
        =
      (s.collectSamples condition i).withUncollected u := by
  unfold collectSamples
  rw [← Collecting.foldl_collectLastCanFrames_withUncollected]
  rw [← Collecting.foldl_collectLastSignals_withUncollected]
  rfl

theorem collectData_withUncollected
    : (s.withUncollected u).collectData condition i
        =
      ((s.collectData condition i).1.withUncollected u, (s.collectData condition i).2) := by
  unfold collectData
  rw [collectSamples_withUncollected]
  generalize s.collectSamples condition i = c
  unfold Collecting.withUncollected withUncollected isActiveDTCsConsumed
  dsimp only
  cases hdtcs : condition.mCondition.includeActiveDtcs
      && (!c.engine.mActiveDTCsConsumed.test i || c.engine.mSendDataOnlyOncePerCondition) with
  | false => cases hgeohash : c.engine.mGeohashFunctionNode.hasNewGeohash <;> simp [hgeohash]
  | true => cases hgeohash : c.engine.mGeohashFunctionNode.hasNewGeohash <;> simp [hgeohash]

theorem publish_withUncollected
    : (s.withUncollected u).publish condition i currentTime
        =
      ((s.publish condition i currentTime).1.withUncollected u,
        (s.publish condition i currentTime).2) := by
  have hevent : (s.withUncollected u).generateEventID currentTime
      = ((s.generateEventID currentTime).1.withUncollected u, (s.generateEventID currentTime).2) :=
    rfl
  unfold publish
  rw [hevent]
  dsimp only
  rw [collectData_withUncollected]
  rfl

theorem setCursor_withUncollected (i : Nat)
    : (s.withUncollected u).setCursor i = (s.setCursor i).withUncollected u :=
  rfl

theorem stopWaiting_withUncollected (i : Nat)
    : (s.withUncollected u).stopWaiting i = (s.stopWaiting i).withUncollected u :=
  rfl

theorem current_withUncollected : (s.withUncollected u).current = s.current := rfl

end Publish

section Calls

variable {V : Type} [InspectionValue V] {s : CollectionInspectionEngine V} {u : Uncollected V}
variable {currentTime : Nat}

theorem shallSendData_withUncollected (p : V)
    : (s.withUncollected u).shallSendData p
        =
      ((s.shallSendData p).1.withUncollected u, (s.shallSendData p).2) := by
  unfold shallSendData withUncollected
  dsimp only
  split
  . rfl
  . split <;> rfl

theorem collectLoop_withUncollected (remaining minimumWaitTimeMs : Nat)
    : (s.withUncollected u).collectLoop currentTime remaining minimumWaitTimeMs
        =
      let next := s.collectLoop currentTime remaining minimumWaitTimeMs
      { next with engine := next.engine.withUncollected u } := by
  induction remaining generalizing s minimumWaitTimeMs with
  | zero => rfl
  | succ remaining ih =>
    cases hcond : s.mConditions[s.current]? with
    | none =>
      rw [collectLoop_none hcond]
      rw [collectLoop_none (by exact hcond)]
      rfl
    | some condition =>
      have hcond' : (s.withUncollected u).mConditions[(s.withUncollected u).current]? = some condition :=
        hcond
      cases hwait : s.mConditionsNotTriggeredWaitingPublished.test s.current with
      | true =>
        rw [collectLoop_not_waiting hcond hwait]
        rw [collectLoop_not_waiting hcond' hwait]
        rw [setCursor_withUncollected, ih]
        rfl
      | false =>
        by_cases hready : isReady condition currentTime
        . cases hsend : (((s.setCursor s.current).stopWaiting s.current).shallSendData
              condition.mCondition.probabilityToSend).2 with
          | false =>
            rw [collectLoop_refuse hcond hwait hready hsend]
            rw [collectLoop_refuse hcond' hwait hready]
            . rw [current_withUncollected, setCursor_withUncollected, stopWaiting_withUncollected]
              rw [shallSendData_withUncollected]
              dsimp only
              rw [setCursor_withUncollected, ih]
            . rw [current_withUncollected, setCursor_withUncollected, stopWaiting_withUncollected]
              rw [shallSendData_withUncollected]
              exact hsend
          | true =>
            rw [collectLoop_publish hcond hwait hready hsend]
            rw [collectLoop_publish hcond' hwait hready]
            . rw [current_withUncollected, setCursor_withUncollected, stopWaiting_withUncollected]
              rw [shallSendData_withUncollected]
              dsimp only
              rw [publish_withUncollected]
            . rw [current_withUncollected, setCursor_withUncollected, stopWaiting_withUncollected]
              rw [shallSendData_withUncollected]
              exact hsend
        . rw [collectLoop_not_ready hcond hwait hready]
          rw [collectLoop_not_ready hcond' hwait hready]
          rw [current_withUncollected, setCursor_withUncollected, ih]

theorem collectNextDataToSend_withUncollected
    : (s.withUncollected u).collectNextDataToSend currentTime
        =
      let next := s.collectNextDataToSend currentTime
      { next with engine := next.engine.withUncollected u } := by
  unfold collectNextDataToSend
  dsimp only
  split
  . rename_i hall
    rw [if_pos (by exact hall)]
  . rename_i hall
    rw [if_neg (by exact hall)]
    exact collectLoop_withUncollected _ _

theorem collectNextDataToSend_withMarks (s : CollectionInspectionEngine V) (marks : ChangeMarks)
    (currentTime : Nat)
    : (s.withMarks marks).collectNextDataToSend currentTime
        =
      let next := s.collectNextDataToSend currentTime
      { next with engine := next.engine.withMarks marks } := by
  have hmatrix := (collectNextDataToSend_sameConfiguration s currentTime).matrix
  have hmarks : s.withMarks marks = s.withUncollected ⟨marks, s.mActiveInspectionMatrix⟩ := rfl
  rw [hmarks, collectNextDataToSend_withUncollected, ← hmatrix]
  rfl

section Evaluation

variable {condition : ActiveCondition V} {i : Nat}

end Evaluation

section Samples

variable {id : SignalID} {receiveTime : Nat} {value : V}

theorem addNewSignal_withMarks (s : CollectionInspectionEngine V) (marks : ChangeMarks)
    : ∃ marks',
        (s.withMarks marks).addNewSignal id receiveTime value
          =
        (s.addNewSignal id receiveTime value).withMarks marks' := by
  rw [addNewSignal_eq (s.withMarks marks), addNewSignal_eq s]
  exact ⟨_, rfl⟩

theorem updateAllFixedWindowFunctions_withMarks (s : CollectionInspectionEngine V)
    (marks : ChangeMarks) (timestamp : Nat)
    : ∃ marks',
        (s.withMarks marks).updateAllFixedWindowFunctions timestamp
          =
        (s.updateAllFixedWindowFunctions timestamp).withMarks marks' := by
  rw [updateAllFixedWindowFunctions_eq (s.withMarks marks), updateAllFixedWindowFunctions_eq s]
  exact ⟨_, rfl⟩

end Samples

end Calls

end CollectionInspectionEngine

end DataInspection
