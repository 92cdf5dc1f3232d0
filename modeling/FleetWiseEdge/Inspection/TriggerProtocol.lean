import FleetWiseEdge.Inspection.Lemmas.Collect
import FleetWiseEdge.Inspection.Lemmas.Evaluate
import FleetWiseEdge.Inspection.Lemmas.Setup

/-!
This module contains the trigger protocol of the inspection engine. A monitor reads the log of a run for
one condition: the trigger that waits for its payload, the time of the last trigger and the result of the
last evaluation. The bits of the engine agree with it, so every entry of the log follows the protocol.
-/

namespace DataInspection

open Cpp DataManagement

structure ConditionRecord where
  lastTrigger : Nat := 0
  pending : Option Nat := none
  lastEvaluation : Option Bool := none
  deriving DecidableEq, Repr

namespace ConditionRecord

variable {V : Type}

def observe (i : Nat) (r : ConditionRecord) (observation : Observation V) : ConditionRecord :=
  match observation with
  | .evaluated currentTime j result triggered =>
    if j = i then
      { lastTrigger := if triggered then currentTime else r.lastTrigger
        pending := if triggered then some currentTime else r.pending
        lastEvaluation := some result }
    else
      r
  | .refused _ j => if j = i then { r with pending := none } else r
  | .published _ j _ => if j = i then { r with pending := none } else r

def ofLog (i : Nat) (log : List (Observation V)) : ConditionRecord :=
  log.foldl (observe i) {}

def Allows (i : Nat) (p : ConditionWithCollectedData V) (r : ConditionRecord)
    (observation : Observation V)
    : Prop :=
  match observation with
  | .evaluated currentTime j result triggered =>
    j = i → triggered = true →
      result = true ∧ r.pending = none
        ∧ r.lastTrigger + p.minimumPublishInterval ≤ currentTime
        ∧ (p.triggerOnlyOnRisingEdge = true → r.lastEvaluation = some false)
  | .refused currentTime j =>
    j = i → ∃ triggerTime, r.pending = some triggerTime ∧ triggerTime + p.afterDuration ≤ currentTime
  | .published currentTime j data =>
    j = i → r.pending = some data.triggerTime ∧ data.triggerTime + p.afterDuration ≤ currentTime

end ConditionRecord

section Log

variable {V : Type}

def triggerTimes (i : Nat) (log : List (Observation V)) : List Nat :=
  log.filterMap fun
    | .evaluated currentTime j _ triggered => if j = i ∧ triggered then some currentTime else none
    | _ => none

def payloadTriggerTimes (i : Nat) (log : List (Observation V)) : List Nat :=
  log.filterMap fun
    | .published _ j data => if j = i then some data.triggerTime else none
    | _ => none

end Log

/--
The bits of the engine say what the log says. No trigger was later than `bound`.
-/
structure Agrees {V : Type} (bound i : Nat) (p : ConditionWithCollectedData V)
    (s : CollectionInspectionEngine V) (r : ConditionRecord)
    : Prop where
  condition : ∃ ac, s.mConditions[i]? = some ac ∧ ac.mCondition = p ∧ ac.mLastTrigger = r.lastTrigger
  waiting : s.mConditionsNotTriggeredWaitingPublished.test i = r.pending.isNone
  pending : ∀ triggerTime, r.pending = some triggerTime → triggerTime = r.lastTrigger
  currentlyTrue : s.mConditionsWithConditionCurrentlyTrue.test i = r.lastEvaluation.getD true
  bounded : r.lastTrigger ≤ bound

namespace Agrees

variable {V : Type} [InspectionValue V] {bound i j : Nat} {p : ConditionWithCollectedData V}
variable {s s' : CollectionInspectionEngine V} {r : ConditionRecord} {ac : ActiveCondition V}
variable {currentTime : Nat}

open CollectionInspectionEngine

omit [InspectionValue V] in
theorem frame (h : Agrees bound i p s r) (hconds : s'.mConditions = s.mConditions)
    (hwaiting : s'.mConditionsNotTriggeredWaitingPublished = s.mConditionsNotTriggeredWaitingPublished)
    (htrue : s'.mConditionsWithConditionCurrentlyTrue = s.mConditionsWithConditionCurrentlyTrue)
    : Agrees bound i p s' r where
  condition := by rw [hconds]; exact h.condition
  waiting := by rw [hwaiting]; exact h.waiting
  pending := h.pending
  currentlyTrue := by rw [htrue]; exact h.currentlyTrue
  bounded := h.bounded

theorem afterEvaluation_allows (h : Agrees bound i p s r) (hbound : bound + p.minimumPublishInterval < 2 ^ 64)
    (hac : s.mConditions[j]? = some ac) (hdue : isDue ac currentTime)
    (hwaiting : s.mConditionsNotTriggeredWaitingPublished.test j = true)
    : r.Allows i p (.evaluated currentTime j (s.isTrueNow ac) (s.triggersNow ac j)) := by
  unfold ConditionRecord.Allows
  intro hj htriggers
  subst hj
  obtain ⟨ac', hac', hp, hlast⟩ := h.condition
  have heq : ac' = ac := Option.some_inj.mp (hac'.symm.trans hac)
  subst heq
  unfold triggersNow at htriggers
  rw [Bool.and_eq_true] at htriggers
  refine ⟨htriggers.1, ?_, ?_, ?_⟩
  . rw [h.waiting] at hwaiting
    simpa using hwaiting
  . unfold isDue at hdue
    have := h.bounded
    rw [hlast, hp] at hdue
    rwa [u64_of_lt (by omega)] at hdue
  . intro hedge
    have hnot := htriggers.2
    rw [hp, hedge, h.currentlyTrue] at hnot
    cases hlast : r.lastEvaluation with
    | none => simp [hlast] at hnot
    | some isTrue => simpa [hlast] using hnot

theorem afterEvaluation (h : Agrees bound i p s r) (htime : currentTime ≤ bound)
    (hac : s.mConditions[j]? = some ac)
    : Agrees bound i p (s.afterEvaluation ac currentTime j)
        (r.observe i
          (Observation.evaluated (V := V) currentTime j (s.isTrueNow ac) (s.triggersNow ac j))) := by
  unfold ConditionRecord.observe
  dsimp only
  by_cases hj : j = i
  . subst hj
    rw [if_pos rfl]
    obtain ⟨ac', hac', hp, hlast⟩ := h.condition
    have heq : ac' = ac := Option.some_inj.mp (hac'.symm.trans hac)
    subst heq
    constructor
    . refine ⟨_, afterEvaluation_getElem_self hac, hp, ?_⟩
      dsimp only
      rw [hlast]
    . rw [afterEvaluation_waiting_self]
      cases s.triggersNow ac' j with
      | true => simp
      | false => simpa using h.waiting
    . intro triggerTime
      dsimp only
      split
      . intro heq
        exact (Option.some_inj.mp heq).symm
      . exact h.pending triggerTime
    . exact Bitset.test_set_self _ _ _
    . dsimp only
      split
      . exact htime
      . exact h.bounded
  . rw [if_neg hj]
    constructor
    . rw [afterEvaluation_getElem_ne (Ne.symm hj)]
      exact h.condition
    . rw [afterEvaluation_waiting_ne (Ne.symm hj)]
      exact h.waiting
    . exact h.pending
    . rw [← h.currentlyTrue]
      exact Bitset.test_set_ne _ _ (Ne.symm hj)
    . exact h.bounded

omit [InspectionValue V] in
theorem pending_of_waiting (h : Agrees bound i p s r) (hac : s.mConditions[i]? = some ac)
    (hwaiting : s.mConditionsNotTriggeredWaitingPublished.test i = false)
    : r.pending = some ac.mLastTrigger ∧ ac.mCondition = p := by
  obtain ⟨ac', hac', hp, hlast⟩ := h.condition
  have heq : ac' = ac := Option.some_inj.mp (hac'.symm.trans hac)
  subst heq
  rw [h.waiting] at hwaiting
  cases hpending : r.pending with
  | none => simp [hpending] at hwaiting
  | some triggerTime =>
    have := h.pending triggerTime hpending
    exact ⟨by rw [this, hlast], hp⟩

omit [InspectionValue V] in
theorem ready_le (h : Agrees bound i p s r) (hbound : bound + p.afterDuration < 2 ^ 64)
    (hac : s.mConditions[i]? = some ac) (hready : isReady ac currentTime)
    : ac.mLastTrigger + p.afterDuration ≤ currentTime := by
  obtain ⟨ac', hac', hp, hlast⟩ := h.condition
  have heq : ac' = ac := Option.some_inj.mp (hac'.symm.trans hac)
  subst heq
  unfold isReady at hready
  have := h.bounded
  rw [hp] at hready
  rwa [u64_of_lt (by omega)] at hready

omit [InspectionValue V] in
theorem stopWaiting (h : Agrees bound i p s r) (mRandomNumbers : Nat → V)
    : Agrees bound i p ((s.stopWaiting j).setRandomNumbers mRandomNumbers)
        (if j = i then { r with pending := none } else r) := by
  split
  . rename_i hj
    constructor
    . exact h.condition
    . rw [hj]
      exact Bitset.test_set_self _ _ _
    . intro triggerTime hpending
      simp at hpending
    . exact h.currentlyTrue
    . exact h.bounded
  . rename_i hj
    constructor
    . exact h.condition
    . rw [← h.waiting]
      exact Bitset.test_set_ne _ _ (Ne.symm hj)
    . exact h.pending
    . exact h.currentlyTrue
    . exact h.bounded

omit [InspectionValue V] in
theorem publish (h : Agrees bound i p s r) : Agrees bound i p (s.publish ac j currentTime).1 r := by
  obtain ⟨_, _, _, _, _, mEventID, mLastDataTimestampPublished, hframe⟩ :=
    publish_frame s ac j currentTime
  rw [hframe]
  constructor
  . obtain ⟨ac', hac', hp, hlast⟩ := h.condition
    dsimp only
    rw [List.getElem?_modify]
    rw [hac']
    by_cases hj : j = i
    . simp [hj, hp, hlast]
    . simp [hj, hp, hlast]
  . exact h.waiting
  . exact h.pending
  . exact h.currentlyTrue
  . exact h.bounded

section Loops

variable (hbound : bound + p.minimumPublishInterval < 2 ^ 64 ∧ bound + p.afterDuration < 2 ^ 64)

include hbound

theorem evaluateConditions (h : Agrees bound i p s r) (htime : currentTime ≤ bound)
    : Machine.Always (ConditionRecord.Allows i p) (ConditionRecord.observe i) r
          ((s.evaluateConditions currentTime).2.map (.ofEvaluation currentTime))
        ∧
      Agrees bound i p (s.evaluateConditions currentTime).1
        (((s.evaluateConditions currentTime).2.map
          (Observation.ofEvaluation (V := V) currentTime)).foldl (ConditionRecord.observe i) r) := by
  unfold CollectionInspectionEngine.evaluateConditions
  dsimp only
  generalize hs' : (if currentTime ≥ s.mNextWindowFunctionTimesOut then
    s.updateAllFixedWindowFunctions currentTime else s) = s'
  have h' : Agrees bound i p s' r := by
    rw [← hs']
    split
    . exact h.frame rfl rfl rfl
    . exact h
  split
  . exact ⟨trivial, h'⟩
  . -- the motive speaks of every record that agrees with the state the loop is in
    apply evaluateLoop_induction (motive := fun _ s s' log => ∀ r, Agrees bound i p s r →
      Machine.Always (ConditionRecord.Allows i p) (ConditionRecord.observe i) r
          (log.map (Observation.ofEvaluation (V := V) currentTime))
        ∧
      Agrees bound i p s' ((log.map (Observation.ofEvaluation (V := V) currentTime)).foldl
        (ConditionRecord.observe i) r))
    . intro _ s r h
      exact ⟨trivial, h⟩
    . intro _ s s' log hrest r h
      exact hrest r h
    . intro j s s' log ac hac hdue hwaiting _ hrest r h
      have hnext := hrest _ (h.afterEvaluation htime hac)
      exact ⟨⟨h.afterEvaluation_allows hbound.1 hac hdue hwaiting, hnext.1⟩, hnext.2⟩
    . intro j _ htest
      unfold conditionsToEvaluate at htest
      rw [Bitset.test_and, Bool.and_eq_true] at htest
      exact htest.2
    . exact h'

theorem collectNextDataToSend (h : Agrees bound i p s r)
    : Machine.Always (ConditionRecord.Allows i p) (ConditionRecord.observe i) r
          (Observation.ofNextData currentTime (s.collectNextDataToSend currentTime))
        ∧
      Agrees bound i p (s.collectNextDataToSend currentTime).engine
        ((Observation.ofNextData currentTime (s.collectNextDataToSend currentTime)).foldl
          (ConditionRecord.observe i) r) := by
  unfold CollectionInspectionEngine.collectNextDataToSend
  dsimp only
  split
  . exact ⟨trivial, h⟩
  . apply collectLoop_induction (motive := fun s s' log => ∀ r, Agrees bound i p s r →
      Machine.Always (ConditionRecord.Allows i p) (ConditionRecord.observe i) r log
        ∧
      Agrees bound i p s' (log.foldl (ConditionRecord.observe i) r))
    . intro s r h
      exact ⟨trivial, h⟩
    . intro s s' _ log hrest r h
      exact hrest r (h.frame rfl rfl rfl)
    . intro s s' j mRandomNumbers log ac hac hwaiting hready _ hrest r h
      have hnext := hrest _ (h.stopWaiting mRandomNumbers)
      refine ⟨⟨?_, hnext.1⟩, hnext.2⟩
      intro hj
      rw [hj] at hac hwaiting
      exact ⟨_, (h.pending_of_waiting hac hwaiting).1, h.ready_le hbound.2 hac hready⟩
    . intro s j mRandomNumbers ac hac hwaiting hready r h
      refine ⟨⟨?_, trivial⟩, ?_⟩
      . intro hj
        rw [hj] at hac hwaiting
        rw [publish_triggerTime]
        exact ⟨(h.pending_of_waiting hac hwaiting).1, h.ready_le hbound.2 hac hready⟩
      . exact (h.stopWaiting mRandomNumbers).publish
    . exact h

theorem step (h : Agrees bound i p s r) (event : EngineEvent V)
    (htime : ∀ currentTime, event = .evaluateConditions currentTime → currentTime ≤ bound)
    : Machine.Always (ConditionRecord.Allows i p) (ConditionRecord.observe i) r (s.step event).2
        ∧
      Agrees bound i p (s.step event).1 ((s.step event).2.foldl (ConditionRecord.observe i) r) := by
  cases event with
  | addNewSignal id receiveTime value => exact ⟨trivial, h.frame rfl rfl rfl⟩
  | addNewRawCanFrame canID channelID receiveTime buffer size => exact ⟨trivial, h.frame rfl rfl rfl⟩
  | setActiveDTCs activeDTCs => exact ⟨trivial, h.frame rfl rfl rfl⟩
  | evaluateConditions currentTime => exact h.evaluateConditions hbound (htime currentTime rfl)
  | collectNextDataToSend currentTime => exact h.collectNextDataToSend hbound

end Loops

end Agrees

section Protocol

variable {V : Type}

theorem payloadTriggerTimes_sublist {i : Nat} {p : ConditionWithCollectedData V}
    {r : ConditionRecord} {log : List (Observation V)}
    (h : Machine.Always (ConditionRecord.Allows i p) (ConditionRecord.observe i) r log)
    : (payloadTriggerTimes i log).Sublist (r.pending.toList ++ triggerTimes i log) := by
  induction log generalizing r with
  | nil => simp [payloadTriggerTimes]
  | cons observation log ih =>
    obtain ⟨hallows, hrest⟩ := h
    have ih := ih hrest
    unfold payloadTriggerTimes triggerTimes at ih ⊢
    cases observation with
    | evaluated currentTime j result triggered =>
      by_cases hj : j = i
      . cases triggered with
        | true =>
          have hnone := (hallows hj rfl).2.1
          simpa [hj, hnone, ConditionRecord.observe] using ih
        | false => simpa [hj, ConditionRecord.observe] using ih
      . simpa [hj, ConditionRecord.observe] using ih
    | refused currentTime j =>
      by_cases hj : j = i
      . apply List.Sublist.trans _ (List.sublist_append_right _ _)
        simpa [hj, ConditionRecord.observe] using ih
      . simpa [hj, ConditionRecord.observe] using ih
    | published currentTime j data =>
      by_cases hj : j = i
      . have hpending := (hallows hj).1
        simpa [hj, hpending, ConditionRecord.observe] using ih
      . simpa [hj, ConditionRecord.observe] using ih

variable [InspectionValue V]

open CollectionInspectionEngine

theorem agrees_onChangeInspectionMatrix (s : CollectionInspectionEngine V) (order : IterationOrder V)
    {m : InspectionMatrix V} (hm : m.Accepted) {i : Nat} {p : ConditionWithCollectedData V}
    (hp : (activeConditions m)[i]? = some p) (bound : Nat)
    : Agrees bound i p (s.onChangeInspectionMatrix order m) {} := by
  rw [onChangeInspectionMatrix_accepted s order hm]
  obtain ⟨_, _, hframe⟩ := preAllocateBuffers_frame (linkedEngine s m) order
  rw [hframe]
  constructor
  . refine ⟨activate m.expressionNodeStorage p, ?_, ?_, ?_⟩
    . simp [linkedEngine, hp]
    . exact foldl_linkEntry_mCondition _
    . exact foldl_linkEntry_mLastTrigger _
  . rfl
  . intro triggerTime hpending
    simp at hpending
  . rfl
  . exact Nat.zero_le _

/--
The trigger protocol of a condition `p` with the index `i`, for every run after its matrix was accepted.
The record before an entry of the log is what the log says about the condition up to there.
-/
theorem trigger_protocol (s : CollectionInspectionEngine V) (order : IterationOrder V)
    (m : InspectionMatrix V) (hm : m.Accepted) (i : Nat) (p : ConditionWithCollectedData V)
    (hp : (activeConditions m)[i]? = some p) (events : List (EngineEvent V)) (bound : Nat)
    (htimes : ∀ currentTime, .evaluateConditions currentTime ∈ events → currentTime ≤ bound)
    (hbound : bound + p.minimumPublishInterval < 2 ^ 64 ∧ bound + p.afterDuration < 2 ^ 64)
    : let log := ((s.onChangeInspectionMatrix order m).run events).2
      (∀ pre post currentTime result,
        log = pre ++ .evaluated currentTime i result true :: post →
        let r := ConditionRecord.ofLog i pre
        r.pending = none
          ∧ r.lastTrigger + p.minimumPublishInterval ≤ currentTime
          ∧ (p.triggerOnlyOnRisingEdge = true → r.lastEvaluation = some false))
        ∧
      (∀ pre post currentTime data,
        log = pre ++ .published currentTime i data :: post →
        (ConditionRecord.ofLog i pre).pending = some data.triggerTime
          ∧ data.triggerTime + p.afterDuration ≤ currentTime)
        ∧
      (payloadTriggerTimes i log).Sublist (triggerTimes i log) := by
  intro log
  have hlegal : Machine.Always (ConditionRecord.Allows i p) (ConditionRecord.observe i) {} log := by
    apply (Machine.run_monitored (Agrees bound i p)
      (fun _ event => ∀ currentTime, event = .evaluateConditions currentTime → currentTime ≤ bound)
      (fun s r event htime h => Agrees.step hbound h event htime)
      (agrees_onChangeInspectionMatrix s order hm hp bound) _).1
    apply Machine.always_of_forall
      (fun event => ∀ currentTime, event = .evaluateConditions currentTime → currentTime ≤ bound)
    . intro _ event hgood
      exact hgood
    . intro event hevent currentTime heq
      exact htimes currentTime (heq ▸ hevent)
  refine ⟨?_, ?_, ?_⟩
  . intro pre post currentTime result hlog r
    rw [hlog] at hlegal
    exact (Machine.always_split hlegal rfl rfl).2
  . intro pre post currentTime data hlog
    rw [hlog] at hlegal
    exact Machine.always_split hlegal rfl
  . simpa using payloadTriggerTimes_sublist hlegal

def speedMatrix : InspectionMatrix Rat where
  conditions :=
    [{ condition := some 0
       minimumPublishInterval := 10
       afterDuration := 3
       signals := [⟨7, 2, 0, 0, false⟩]
       canFrames := []
       includeActiveDtcs := false
       triggerOnlyOnRisingEdge := false
       probabilityToSend := 1
       metaData := {}
       imageCollectionInfos := []
       includeImageCapture := false }]
  expressionNodeStorage :=
    [{ nodeType := .OPERATOR_BIGGER, left := some 1, right := some 2, floatingValue := 0 },
     { nodeType := .SIGNAL, signalID := 7, floatingValue := 0 },
     { nodeType := .FLOAT, floatingValue := 5 }]

def speedEngine : CollectionInspectionEngine Rat :=
  emptyEngine.onChangeInspectionMatrix (.inserted Rat) speedMatrix

def speedEvents : List (EngineEvent Rat) :=
  [.addNewSignal 7 1 6, .evaluateConditions 9, .evaluateConditions 12, .collectNextDataToSend 14,
   .collectNextDataToSend 15, .evaluateConditions 22, .collectNextDataToSend 25]

theorem trigger_protocol_speed
    : triggerTimes 0 (speedEngine.run speedEvents).2 = [12, 22]
        ∧
      (payloadTriggerTimes 0 (speedEngine.run speedEvents).2).Sublist
        (triggerTimes 0 (speedEngine.run speedEvents).2) := by
  constructor
  . decide +kernel
  . exact (trigger_protocol emptyEngine (.inserted Rat) speedMatrix
      (by decide) 0 _ rfl speedEvents 22 (by simp [speedEvents]) (by decide)).2.2

end Protocol

end DataInspection
