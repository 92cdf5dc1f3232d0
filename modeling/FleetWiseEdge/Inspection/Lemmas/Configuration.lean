import FleetWiseEdge.Inspection.Lemmas.Accepted
import FleetWiseEdge.Inspection.Lemmas.Collect
import FleetWiseEdge.Inspection.Lemmas.Evaluate

namespace DataInspection

open Cpp DataManagement

variable {V : Type}

def ActiveCondition.configuration (ac : ActiveCondition V) : ActiveCondition V :=
  { ac with mLastDataTimestampPublished := 0, mLastTrigger := 0, mEventID := 0 }

structure SameConfiguration (s s' : CollectionInspectionEngine V) : Prop where
  matrix : s'.mActiveInspectionMatrix = s.mActiveInspectionMatrix
  conditions : s'.mConditions.map ActiveCondition.configuration
    = s.mConditions.map ActiveCondition.configuration
  once : s'.mSendDataOnlyOncePerCondition = s.mSendDataOnlyOncePerCondition
  disableProbability : s'.mDisableProbability = s.mDisableProbability

namespace SameConfiguration

theorem refl (s : CollectionInspectionEngine V) : SameConfiguration s s := ⟨rfl, rfl, rfl, rfl⟩

theorem trans {s s' s'' : CollectionInspectionEngine V} (h : SameConfiguration s s')
    (h' : SameConfiguration s' s'')
    : SameConfiguration s s'' where
  matrix := h'.matrix.trans h.matrix
  conditions := h'.conditions.trans h.conditions
  once := h'.once.trans h.once
  disableProbability := h'.disableProbability.trans h.disableProbability

theorem length {s s' : CollectionInspectionEngine V} (h : SameConfiguration s s')
    : s'.mConditions.length = s.mConditions.length := by
  have := congrArg List.length h.conditions
  simpa using this

theorem getElem? {s s' : CollectionInspectionEngine V} (h : SameConfiguration s s') {i : Nat}
    {ac' : ActiveCondition V} (hac' : s'.mConditions[i]? = some ac')
    : ∃ ac, s.mConditions[i]? = some ac ∧ ac.configuration = ac'.configuration := by
  have hget := congrArg (fun l => l[i]?) h.conditions
  simp only [List.getElem?_map, hac', Option.map_some] at hget
  rw [eq_comm, Option.map_eq_some_iff] at hget
  exact hget

end SameConfiguration

theorem configuration_mCondition {ac ac' : ActiveCondition V} (h : ac.configuration = ac'.configuration)
    : ac.mCondition = ac'.mCondition :=
  (ActiveCondition.mk.inj h).1

theorem configuration_mEvaluationSignals {ac ac' : ActiveCondition V}
    (h : ac.configuration = ac'.configuration)
    : ac.mEvaluationSignals = ac'.mEvaluationSignals :=
  (ActiveCondition.mk.inj h).2.2.2.1

theorem configuration_mEvaluationFunctions {ac ac' : ActiveCondition V}
    (h : ac.configuration = ac'.configuration)
    : ac.mEvaluationFunctions = ac'.mEvaluationFunctions :=
  (ActiveCondition.mk.inj h).2.2.2.2.1

variable [InspectionValue V] {s : CollectionInspectionEngine V}

open CollectionInspectionEngine

theorem afterEvaluation_sameConfiguration (s : CollectionInspectionEngine V) (ac : ActiveCondition V)
    (currentTime i : Nat)
    : SameConfiguration s (s.afterEvaluation ac currentTime i) := by
  constructor
  . rfl
  . unfold afterEvaluation
    dsimp only
    split
    . apply HistoryBuffer.map_modify
      intro ac
      rfl
    . rfl
  . rfl
  . rfl

theorem evaluateLoop_sameConfiguration (currentTime : Nat) (toEvaluate : Bitset) (remaining i : Nat)
    (s : CollectionInspectionEngine V)
    : SameConfiguration s (s.evaluateLoop currentTime toEvaluate remaining i).1 := by
  apply evaluateLoop_rel SameConfiguration SameConfiguration.refl
  . intro s s' s''
    exact SameConfiguration.trans
  . intro s ac i
    exact afterEvaluation_sameConfiguration s ac currentTime i

theorem updateAllFixedWindowFunctions_sameConfiguration (s : CollectionInspectionEngine V)
    (currentTime : Nat)
    : SameConfiguration s (s.updateAllFixedWindowFunctions currentTime) :=
  ⟨rfl, rfl, rfl, rfl⟩

theorem evaluateConditions_sameConfiguration (s : CollectionInspectionEngine V) (currentTime : Nat)
    : SameConfiguration s (s.evaluateConditions currentTime).1 := by
  have hupdate : SameConfiguration s (s.beforeEvaluation currentTime) := by
    unfold beforeEvaluation
    split
    . exact updateAllFixedWindowFunctions_sameConfiguration s currentTime
    . exact SameConfiguration.refl s
  apply hupdate.trans
  apply evaluateConditions_rel SameConfiguration SameConfiguration.refl
  . intro s s' s''
    exact SameConfiguration.trans
  . intro s ac i
    exact afterEvaluation_sameConfiguration s ac currentTime i

omit [InspectionValue V] in
theorem publish_sameConfiguration (s : CollectionInspectionEngine V) (ac : ActiveCondition V)
    (i currentTime : Nat)
    : SameConfiguration s (s.publish ac i currentTime).1 := by
  have ⟨_, _, _, _, _, mEventID, mLastDataTimestampPublished, hframe⟩ :=
    publish_frame s ac i currentTime
  rw [hframe]
  constructor
  . rfl
  . apply HistoryBuffer.map_modify
    intro ac
    rfl
  . rfl
  . rfl

theorem collectNextDataToSend_sameConfiguration (s : CollectionInspectionEngine V) (currentTime : Nat)
    : SameConfiguration s (s.collectNextDataToSend currentTime).engine := by
  unfold collectNextDataToSend
  dsimp only
  split
  . exact SameConfiguration.refl s
  . apply collectLoop_induction (motive := fun s s' _ => SameConfiguration s s')
    . exact SameConfiguration.refl
    . intro s s' i _ hrest
      apply SameConfiguration.trans _ hrest
      exact ⟨rfl, rfl, rfl, rfl⟩
    . intro s s' i _ _ _ _ _ _ _ hrest
      apply SameConfiguration.trans _ hrest
      exact ⟨rfl, rfl, rfl, rfl⟩
    . intro s i mRandomNumbers ac _ _ _
      apply SameConfiguration.trans _ (publish_sameConfiguration _ ac i currentTime)
      exact ⟨rfl, rfl, rfl, rfl⟩

theorem step_sameConfiguration (s : CollectionInspectionEngine V) (event : EngineEvent V)
    : SameConfiguration s (s.step event).1 := by
  cases event with
  | addNewSignal id receiveTime value => exact ⟨rfl, rfl, rfl, rfl⟩
  | addNewRawCanFrame canID channelID receiveTime buffer size => exact ⟨rfl, rfl, rfl, rfl⟩
  | setActiveDTCs activeDTCs => exact ⟨rfl, rfl, rfl, rfl⟩
  | evaluateConditions currentTime => exact evaluateConditions_sameConfiguration s currentTime
  | collectNextDataToSend currentTime => exact collectNextDataToSend_sameConfiguration s currentTime

section Accepted

variable {m : InspectionMatrix V} (order : IterationOrder V) (hm : m.Accepted)

include hm

theorem onChangeInspectionMatrix_conditions
    : (s.onChangeInspectionMatrix order m).mConditions
        =
      (activeConditions m).map (activate m.expressionNodeStorage) := by
  rw [onChangeInspectionMatrix_accepted s order hm]
  have ⟨_, _, hframe⟩ := preAllocateBuffers_frame (linkedEngine s m) order
  rw [hframe]
  rfl

theorem onChangeInspectionMatrix_length
    : (s.onChangeInspectionMatrix order m).mConditions.length ≤ MAX_NUMBER_OF_ACTIVE_CONDITION := by
  rw [onChangeInspectionMatrix_conditions order hm, List.length_map]
  exact List.length_take_le _ _

theorem onChangeInspectionMatrix_settings
    : (s.onChangeInspectionMatrix order m).mSendDataOnlyOncePerCondition
          = s.mSendDataOnlyOncePerCondition
        ∧
      (s.onChangeInspectionMatrix order m).mDisableProbability = s.mDisableProbability
        ∧
      (s.onChangeInspectionMatrix order m).mActiveInspectionMatrix = m := by
  rw [onChangeInspectionMatrix_accepted s order hm]
  have ⟨_, _, hframe⟩ := preAllocateBuffers_frame (linkedEngine s m) order
  rw [hframe]
  exact ⟨rfl, rfl, rfl⟩

theorem activeCondition_of_sameConfiguration {s' : CollectionInspectionEngine V}
    (h : SameConfiguration (s.onChangeInspectionMatrix order m) s') {i : Nat} {ac : ActiveCondition V}
    (hac : s'.mConditions[i]? = some ac)
    : (activeConditions m)[i]? = some ac.mCondition
        ∧
      (activate m.expressionNodeStorage ac.mCondition).configuration = ac.configuration := by
  have ⟨ac', hac', hconf⟩ := h.getElem? hac
  rw [onChangeInspectionMatrix_conditions order hm, List.getElem?_map, Option.map_eq_some_iff] at hac'
  have ⟨p, hp, heq⟩ := hac'
  have hcondition : ac.mCondition = p := by
    rw [← configuration_mCondition hconf, ← heq]
    exact foldl_linkEntry_mCondition _
  rw [hcondition]
  exact ⟨hp, heq ▸ hconf⟩

end Accepted

theorem onChangeInspectionMatrix_length_le (s : CollectionInspectionEngine V) (order : IterationOrder V)
    (m : InspectionMatrix V)
    : (s.onChangeInspectionMatrix order m).mConditions.length ≤ MAX_NUMBER_OF_ACTIVE_CONDITION := by
  by_cases hm : m.Accepted
  . exact onChangeInspectionMatrix_length order hm
  . rw [onChangeInspectionMatrix_returns s order hm]
    exact setupConditions_length m.conditions (Nat.zero_le _)

end DataInspection
