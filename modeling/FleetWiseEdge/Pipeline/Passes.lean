import Mathlib.Data.List.Infix
import FleetWiseEdge.Inspection.Lemmas.WorkerPass
import FleetWiseEdge.Pipeline.Impl.Pipeline

namespace Pipeline

open Cpp DataInspection DataManagement ExecutionManagement OffboardConnectivity CollectionInspectionWorkerThread

variable {V : Type}

section Within

variable [CANSignalValue V] (worker : CollectionInspectionWorkerThread V)
variable (offered : List (TriggeredCollectionSchemeData V)) (s : Pipeline V)

def Begins : Prop :=
  (∃ matrix, s.inspection.worker = worker.onChangeInspectionMatrix matrix) ∧ s.offered = offered

def Checks : Prop := (∃ pass, s.inspection.worker = worker.begun pass) ∧ s.offered = offered

/--
A pass of `worker` has come as far as `upTo` says, the matrix `later` has been handed over in the meantime.
-/
def InPass (upTo : WorkerPass V → CollectionInspectionWorkerThread.Pass V) : Prop :=
  (∃ pass later, (worker.begun pass).fUpdatedInspectionMatrix.isSome
    ∧ s.inspection = (upTo pass).onChangeInspectionMatrix later)
    ∧
  s.offered = offered

def Collecting (collected : List (TriggeredCollectionSchemeData V)) : Prop :=
  ∃ pass later times last, (worker.begun pass).fUpdatedInspectionMatrix.isSome
    ∧ (worker.evaluated pass).worker.Bounded
    ∧ collectsAt (worker.evaluated pass).worker.fCollectionInspectionEngine times = some (last, collected)
    ∧ s.inspection = ((worker.evaluated pass).withEngine last).onChangeInspectionMatrix later

def Passed : Prop :=
  ∃ (pass : WorkerPass V) (later : Option (InspectionMatrix V)) (passed : CollectionInspectionWorkerThread V)
      (log : List (WorkerEntry V)),
    (∀ shouldStop, worker.doWork { pass with shouldStop } = ({ passed with done := shouldStop }, log))
      ∧ s.inspection.worker = passed.onChangeInspectionMatrix later
      ∧ s.offered = offered ++ log.filterMap WorkerEntry.collectedData

def Within : Prop :=
  match s.phase with
  | .begins | .takesMatrix | .ended => s.Begins worker offered
  | .checksMatrix => s.Checks worker offered
  | .popsSignal | .uncountsSignal _ => s.InPass worker offered fun pass => { worker := worker.begun pass }
  | .popsCANFrame | .uncountsCANFrame _ => s.InPass worker offered worker.signalled
  | .popsActiveDTCs => s.InPass worker offered worker.framed
  | .evaluates => s.InPass worker offered worker.informed
  | .collects | .notifies =>
    ∃ collected, s.Collecting worker collected ∧ s.offered = offered ++ collected
  | .pushes collectedData =>
    ∃ collected, s.Collecting worker (collected ++ [collectedData]) ∧ s.offered = offered ++ collected
  | .sleeps | .checksStop => s.Passed worker offered

end Within

structure Follows [CANSignalValue V] (worker : CollectionInspectionWorkerThread V)
    (offered : List (TriggeredCollectionSchemeData V)) (s : Pipeline V)
    : Prop where
  running : s.phase ≠ .ended → worker.done = false
  bounded : s.inspection.worker.Bounded
  within : s.Within worker offered

def Continues [CANSignalValue V] (worker : CollectionInspectionWorkerThread V)
    (offered : List (TriggeredCollectionSchemeData V)) (s : Pipeline V)
    : Prop :=
  ∃ passes, let r := Machine.run doWork worker passes
    s.Follows r.1 (offered ++ r.2.filterMap WorkerEntry.collectedData)

section Steps

variable [CANSignalValue V] {worker : CollectionInspectionWorkerThread V}
variable {offered : List (TriggeredCollectionSchemeData V)} {s s' : Pipeline V}

section Matrix

variable {collected : List (TriggeredCollectionSchemeData V)}
variable {upTo : WorkerPass V → CollectionInspectionWorkerThread.Pass V}

omit [CANSignalValue V] in
theorem Begins.onChangeInspectionMatrix (h : s.Begins worker offered) (activeConditions : InspectionMatrix V)
    : (s.onChangeInspectionMatrix activeConditions).Begins worker offered := by
  obtain ⟨⟨matrix, hworker⟩, hoffered⟩ := h
  refine ⟨⟨some activeConditions, ?_⟩, hoffered⟩
  unfold Pipeline.onChangeInspectionMatrix
  dsimp only
  rw [hworker, onChangeInspectionMatrix_twice]

theorem Checks.onChangeInspectionMatrix (h : s.Checks worker offered) (activeConditions : InspectionMatrix V)
    : (s.onChangeInspectionMatrix activeConditions).Checks worker offered := by
  obtain ⟨⟨pass, hworker⟩, hoffered⟩ := h
  refine ⟨⟨{ pass with laterMatrix := some activeConditions }, ?_⟩, hoffered⟩
  unfold Pipeline.onChangeInspectionMatrix
  dsimp only
  rw [hworker]
  exact onChangeInspectionMatrix_twice _ pass.laterMatrix activeConditions

theorem InPass.onChangeInspectionMatrix (h : s.InPass worker offered upTo) (activeConditions : InspectionMatrix V)
    : (s.onChangeInspectionMatrix activeConditions).InPass worker offered upTo := by
  obtain ⟨⟨pass, later, hmatrix, hinspection⟩, hoffered⟩ := h
  refine ⟨⟨pass, some activeConditions, hmatrix, ?_⟩, hoffered⟩
  rw [← Pass.onChangeInspectionMatrix_twice _ later, ← hinspection]
  rfl

theorem Collecting.onChangeInspectionMatrix (h : s.Collecting worker collected)
    (activeConditions : InspectionMatrix V)
    : (s.onChangeInspectionMatrix activeConditions).Collecting worker collected := by
  obtain ⟨pass, later, times, last, hmatrix, hbounded, hcollects, hinspection⟩ := h
  refine ⟨pass, some activeConditions, times, last, hmatrix, hbounded, hcollects, ?_⟩
  rw [← Pass.onChangeInspectionMatrix_twice _ later, ← hinspection]
  rfl

theorem Passed.onChangeInspectionMatrix (h : s.Passed worker offered) (activeConditions : InspectionMatrix V)
    : (s.onChangeInspectionMatrix activeConditions).Passed worker offered := by
  obtain ⟨pass, later, passed, log, hdoWork, hworker, hoffered⟩ := h
  refine ⟨pass, some activeConditions, passed, log, hdoWork, ?_, hoffered⟩
  unfold Pipeline.onChangeInspectionMatrix
  dsimp only
  rw [hworker, onChangeInspectionMatrix_twice]

theorem Within.onChangeInspectionMatrix (h : s.Within worker offered) (activeConditions : InspectionMatrix V)
    : (s.onChangeInspectionMatrix activeConditions).Within worker offered := by
  unfold Within at h ⊢
  rw [show (s.onChangeInspectionMatrix activeConditions).phase = s.phase from rfl]
  cases hphase : s.phase with
  | begins | takesMatrix | ended =>
    rw [hphase] at h
    exact Begins.onChangeInspectionMatrix h activeConditions
  | checksMatrix =>
    rw [hphase] at h
    exact Checks.onChangeInspectionMatrix h activeConditions
  | popsSignal | popsCANFrame | popsActiveDTCs | evaluates =>
    rw [hphase] at h
    exact InPass.onChangeInspectionMatrix h activeConditions
  | uncountsSignal inputSignal =>
    rw [hphase] at h
    exact InPass.onChangeInspectionMatrix h activeConditions
  | uncountsCANFrame inputCANFrame =>
    rw [hphase] at h
    exact InPass.onChangeInspectionMatrix h activeConditions
  | collects | notifies =>
    rw [hphase] at h
    obtain ⟨collected, hcollecting, hoffered⟩ := h
    exact ⟨collected, hcollecting.onChangeInspectionMatrix activeConditions, hoffered⟩
  | pushes collectedData =>
    rw [hphase] at h
    obtain ⟨collected, hcollecting, hoffered⟩ := h
    exact ⟨collected, hcollecting.onChangeInspectionMatrix activeConditions, hoffered⟩
  | sleeps | checksStop =>
    rw [hphase] at h
    exact Passed.onChangeInspectionMatrix h activeConditions

end Matrix

theorem Within.congr (h : s.Within worker offered)
    (hsame : s'.phase = s.phase ∧ s'.inspection = s.inspection ∧ s'.offered = s.offered)
    : s'.Within worker offered := by
  obtain ⟨hphase, hinspection, hoffered⟩ := hsame
  unfold Within Begins Checks InPass Collecting Passed at h ⊢
  rw [hphase, hinspection, hoffered]
  exact h

section Inspect

variable {collected : List (TriggeredCollectionSchemeData V)}
variable {upTo upTo' : WorkerPass V → CollectionInspectionWorkerThread.Pass V}

theorem Begins.checks (h : s.Begins worker offered) (order : IterationOrder V)
    (havailable : s.inspection.worker.fUpdatedInspectionMatrixAvailable = false)
    : s.Checks worker offered := by
  obtain ⟨⟨matrix, hworker⟩, hoffered⟩ := h
  cases matrix with
  | some activeConditions =>
    rw [hworker] at havailable
    cases havailable
  | none =>
    refine ⟨⟨{ order }, ?_⟩, hoffered⟩
    rw [hworker] at havailable ⊢
    unfold CollectionInspectionWorkerThread.onChangeInspectionMatrix at havailable ⊢
    unfold begun takeMatrix CollectionInspectionWorkerThread.onChangeInspectionMatrix
    dsimp only at havailable ⊢
    rw [havailable]

theorem Begins.takeMatrix (h : s.Begins worker offered) (order : IterationOrder V)
    (hinspection : s'.inspection.worker = s.inspection.worker.takeMatrix order) (hoffered : s'.offered = s.offered)
    : s'.Checks worker offered := by
  obtain ⟨⟨matrix, hworker⟩, hbefore⟩ := h
  refine ⟨⟨{ order, matrix }, hinspection.trans ?_⟩, hoffered.trans hbefore⟩
  exact congrArg (CollectionInspectionWorkerThread.takeMatrix · order) hworker

theorem Checks.begin (h : s.Checks worker offered) {activeConditions : InspectionMatrix V}
    (hmatrix : s.inspection.worker.fUpdatedInspectionMatrix = some activeConditions)
    (hinspection : s'.inspection = { worker := s.inspection.worker }) (hoffered : s'.offered = s.offered)
    : s'.InPass worker offered fun pass => { worker := worker.begun pass } := by
  obtain ⟨⟨pass, hworker⟩, hbefore⟩ := h
  refine ⟨⟨pass, none, ?_, ?_⟩, hoffered.trans hbefore⟩
  . rw [← hworker, hmatrix]
    rfl
  . rw [hinspection, hworker]
    rfl

theorem Checks.passed (h : s.Checks worker offered) (hdone : worker.done = false)
    (hmatrix : s.inspection.worker.fUpdatedInspectionMatrix = none) (hinspection : s'.inspection = s.inspection)
    (hoffered : s'.offered = s.offered)
    : s'.Passed worker offered := by
  obtain ⟨⟨pass, hworker⟩, hbefore⟩ := h
  rw [hworker] at hmatrix
  refine ⟨pass, none, worker.begun pass, [.waitsForMatrix], ?_, ?_, ?_⟩
  . intro shouldStop
    exact worker.doWork_none { pass with shouldStop } hdone hmatrix
  . rw [hinspection, hworker]
    rfl
  . rw [hoffered, hbefore]
    exact (List.append_nil _).symm

theorem InPass.next (h : s.InPass worker offered upTo)
    (step : CollectionInspectionWorkerThread.Pass V → CollectionInspectionWorkerThread.Pass V)
    (input : WorkerPass V → WorkerPass V) (hbegun : ∀ pass, worker.begun (input pass) = worker.begun pass)
    (hmatrix : ∀ p matrix, step (p.onChangeInspectionMatrix matrix) = (step p).onChangeInspectionMatrix matrix)
    (hupTo : ∀ pass, step (upTo pass) = upTo' (input pass)) (hinspection : s'.inspection = step s.inspection)
    (hoffered : s'.offered = s.offered)
    : s'.InPass worker offered upTo' := by
  obtain ⟨⟨pass, later, hsome, hbefore⟩, hoffered'⟩ := h
  refine ⟨⟨input pass, later, ?_, ?_⟩, hoffered.trans hoffered'⟩
  . rw [hbegun]
    exact hsome
  . rw [hinspection, hbefore, hmatrix, hupTo]

theorem InPass.collecting (h : s.InPass worker offered worker.evaluated) (hbounded : s.inspection.worker.Bounded)
    : ∃ collected, s.Collecting worker collected ∧ s.offered = offered ++ collected := by
  obtain ⟨⟨pass, later, hsome, hinspection⟩, hoffered⟩ := h
  refine ⟨[], ⟨pass, later, [], (worker.evaluated pass).worker.fCollectionInspectionEngine, hsome, ?_, rfl,
    hinspection⟩, hoffered.trans (List.append_nil _).symm⟩
  unfold Bounded at hbounded ⊢
  rw [hinspection, Pass.engine_onChangeInspectionMatrix] at hbounded
  exact hbounded

theorem Collecting.collects (h : s.Collecting worker collected) {time i : Nat}
    {collectedData : TriggeredCollectionSchemeData V}
    (hdata : (s.inspection.worker.fCollectionInspectionEngine.collectNextDataToSend time).data
      = some (i, collectedData))
    (hinspection : s'.inspection = s.inspection.withEngine
      (s.inspection.worker.fCollectionInspectionEngine.collectNextDataToSend time).engine)
    : s'.Collecting worker (collected ++ [collectedData]) := by
  obtain ⟨pass, later, times, last, hsome, hbounded, hcollects, hbefore⟩ := h
  rw [hbefore, Pass.engine_onChangeInspectionMatrix] at hdata hinspection
  refine ⟨pass, later, times ++ [time], _, hsome, hbounded, collectsAt_append hcollects hdata, ?_⟩
  rw [hinspection, Pass.withEngine_onChangeInspectionMatrix]
  rfl

theorem Collecting.passed (h : s.Collecting worker collected) (hoffered : s.offered = offered ++ collected)
    (hdone : worker.done = false) {time : Nat} (stop : Bool)
    (hends : (s.inspection.worker.fCollectionInspectionEngine.collectNextDataToSend time).data = none
      ∨ stop = true)
    (hinspection : s'.inspection = s.inspection.withEngine
      (s.inspection.worker.fCollectionInspectionEngine.collectNextDataToSend time).engine)
    (hsame : s'.offered = s.offered)
    : s'.Passed worker offered := by
  obtain ⟨pass, later, times, last, hsome, hbounded, hcollects, hbefore⟩ := h
  rw [hbefore, Pass.engine_onChangeInspectionMatrix] at hends hinspection
  obtain ⟨activeConditions, hmatrix⟩ := Option.isSome_iff_exists.mp hsome
  obtain ⟨collectTime, shouldStopCollecting, hworker, hlog⟩ := collectAndSleep_eq hbounded hcollects hends
  refine ⟨{ pass with collectTime, shouldStopCollecting }, later,
    ((worker.evaluated pass).collectAndSleep collectTime shouldStopCollecting).worker,
    ((worker.evaluated pass).collectAndSleep collectTime shouldStopCollecting).log, ?_, ?_, ?_⟩
  . intro shouldStop
    exact worker.doWork_eq { pass with collectTime, shouldStopCollecting, shouldStop } hdone hmatrix
  . rw [hinspection, Pass.withEngine_onChangeInspectionMatrix]
    exact congrArg (CollectionInspectionWorkerThread.onChangeInspectionMatrix · later) hworker.symm
  . rw [hsame, hoffered]
    apply congrArg (offered ++ ·)
    rw [unsent_evaluated worker pass, List.nil_append] at hlog
    exact hlog.symm

theorem Passed.within (h : s.Passed worker offered) {readyToSleep : Bool}
    (hphase : s.phase = if readyToSleep then .sleeps else .checksStop)
    : s.Within worker offered := by
  unfold Within
  rw [hphase]
  cases readyToSleep <;> exact h

theorem Passed.checksStop (h : s.Passed worker offered) (hphase : s.phase = .checksStop) (input : PassInput V)
    : ∃ pass, (s.inspect input).Within (worker.doWork pass).1
          (offered ++ (worker.doWork pass).2.filterMap WorkerEntry.collectedData)
        ∧
      ((s.inspect input).phase ≠ .ended → (worker.doWork pass).1.done = false) := by
  obtain ⟨pass, later, passed, log, hdoWork, hworker, hoffered⟩ := h
  refine ⟨{ pass with shouldStop := input.shouldStop }, ?_⟩
  rw [hdoWork]
  have hbegins : (s.inspect input).Begins { passed with done := input.shouldStop }
      (offered ++ log.filterMap WorkerEntry.collectedData) := by
    refine ⟨⟨later, ?_⟩, ?_⟩
    . unfold Pipeline.inspect
      rw [hphase]
      dsimp only
      rw [hworker]
      cases later <;> rfl
    . unfold Pipeline.inspect
      rw [hphase]
      exact hoffered
  have hnext : (s.inspect input).phase = if input.shouldStop then .ended else .begins := by
    unfold Pipeline.inspect
    rw [hphase]
  unfold Within
  rw [hnext]
  cases hstop : input.shouldStop with
  | false =>
    rw [hstop] at hbegins
    exact ⟨hbegins, fun _ => rfl⟩
  | true =>
    rw [hstop] at hbegins
    exact ⟨hbegins, fun hrunning => absurd rfl hrunning⟩

theorem Within.inspect (h : s.Within worker offered) (hdone : s.phase ≠ .ended → worker.done = false)
    (hbounded : s.inspection.worker.Bounded) (hrunning : s.phase ≠ .checksStop) (input : PassInput V)
    : (s.inspect input).Within worker offered := by
  unfold Within at h
  unfold Pipeline.inspect
  cases hphase : s.phase with
  | begins =>
    rw [hphase] at h
    dsimp only
    cases havailable : s.inspection.worker.fUpdatedInspectionMatrixAvailable with
    | false => exact h.checks input.order havailable
    | true => exact h
  | takesMatrix =>
    rw [hphase] at h
    exact h.takeMatrix input.order rfl rfl
  | checksMatrix =>
    rw [hphase] at h hdone
    dsimp only
    cases hmatrix : s.inspection.worker.fUpdatedInspectionMatrix with
    | none => exact Checks.passed h (hdone (by simp)) hmatrix rfl rfl
    | some activeConditions => exact Checks.begin h hmatrix rfl rfl
  | popsSignal =>
    rw [hphase] at h
    dsimp only
    cases hpop : s.mSignalBuffer.pop with
    | none =>
      exact InPass.next h id (fun pass => { pass with inputSignal := none }) (fun _ => rfl) (fun _ _ => rfl)
        (fun _ => rfl) rfl rfl
    | some popped => exact h
  | uncountsSignal inputSignal =>
    rw [hphase] at h
    exact InPass.next h (·.popSignal (some inputSignal))
      (fun pass => { pass with inputSignal := some inputSignal }) (fun _ => rfl)
      (fun p matrix => p.popSignal_onChangeInspectionMatrix matrix _) (fun _ => rfl) rfl rfl
  | popsCANFrame =>
    rw [hphase] at h
    dsimp only
    cases hpop : s.mCANBuffer.pop with
    | none =>
      exact InPass.next h id (fun pass => { pass with inputCANFrame := none }) (fun _ => rfl) (fun _ _ => rfl)
        (fun _ => rfl) rfl rfl
    | some popped => exact h
  | uncountsCANFrame inputCANFrame =>
    rw [hphase] at h
    exact InPass.next h (·.popCANFrame (some inputCANFrame))
      (fun pass => { pass with inputCANFrame := some inputCANFrame }) (fun _ => rfl)
      (fun p matrix => p.popCANFrame_onChangeInspectionMatrix matrix _) (fun _ => rfl) rfl rfl
  | popsActiveDTCs =>
    rw [hphase] at h
    dsimp only
    cases hpop : s.mActiveDTCBuffer.pop with
    | none =>
      exact InPass.next h id (fun pass => { pass with activeDTCs := none }) (fun _ => rfl) (fun _ _ => rfl)
        (fun _ => rfl) rfl rfl
    | some popped =>
      exact InPass.next h (·.popActiveDTCs (some popped.1))
        (fun pass => { pass with activeDTCs := some popped.1 }) (fun _ => rfl)
        (fun p matrix => p.popActiveDTCs_onChangeInspectionMatrix matrix _) (fun _ => rfl) rfl rfl
  | evaluates =>
    rw [hphase] at h
    refine InPass.collecting (InPass.next h
      (fun p => (p.evaluateInput input.evaluationTime).evaluateBeforeSleep input.sleepCheckTime
        input.sleepEvaluationTime)
      (fun pass => { pass with
        evaluationTime := input.evaluationTime
        sleepCheckTime := input.sleepCheckTime
        sleepEvaluationTime := input.sleepEvaluationTime })
      (fun _ => rfl) ?_ (fun _ => rfl) rfl rfl) ?_
    . intro p matrix
      rw [Pass.evaluateInput_onChangeInspectionMatrix, Pass.evaluateBeforeSleep_onChangeInspectionMatrix]
    . exact (hbounded.evaluateInput _).evaluateBeforeSleep _ _
  | collects =>
    rw [hphase] at h hdone
    obtain ⟨collected, hcollecting, hoffered⟩ := h
    dsimp only
    cases hdata :
        (s.inspection.worker.fCollectionInspectionEngine.collectNextDataToSend input.collectTime).data with
    | none => exact Passed.within (hcollecting.passed hoffered (hdone (by simp)) false (Or.inl hdata) rfl rfl) rfl
    | some data =>
      cases hstop : input.shouldStop with
      | true => exact Passed.within (hcollecting.passed hoffered (hdone (by simp)) true (Or.inr rfl) rfl rfl) rfl
      | false => exact ⟨collected, hcollecting.collects hdata rfl, hoffered⟩
  | pushes collectedData =>
    rw [hphase] at h
    obtain ⟨collected, hcollecting, hoffered⟩ := h
    have hpushed : s.offered ++ [collectedData] = offered ++ (collected ++ [collectedData]) := by
      rw [hoffered, List.append_assoc]
    dsimp only
    cases haccepted : (s.mCollectedDataReadyToPublish.push collectedData).2 <;>
      exact ⟨_, hcollecting, hpushed⟩
  | notifies =>
    rw [hphase] at h
    exact h
  | sleeps =>
    rw [hphase] at h
    exact h
  | checksStop => exact absurd hphase hrunning
  | ended =>
    dsimp only
    unfold Within
    rw [hphase] at h ⊢
    exact h

theorem bounded_inspect (h : s.inspection.worker.Bounded) (input : PassInput V)
    : (s.inspect input).inspection.worker.Bounded := by
  unfold Pipeline.inspect
  cases hphase : s.phase with
  | takesMatrix => exact h.takeMatrix input.order
  | checksMatrix =>
    dsimp only
    split <;> exact h
  | popsSignal =>
    dsimp only
    split <;> exact h
  | uncountsSignal inputSignal => exact h.popSignal (some inputSignal)
  | popsCANFrame =>
    dsimp only
    split <;> exact h
  | uncountsCANFrame inputCANFrame => exact h.popCANFrame (some inputCANFrame)
  | popsActiveDTCs =>
    dsimp only
    split
    . exact h
    . exact h.popActiveDTCs _
  | evaluates => exact (h.evaluateInput _).evaluateBeforeSleep _ _
  | collects =>
    have hlength := (collectNextDataToSend_sameConfiguration s.inspection.worker.fCollectionInspectionEngine
      input.collectTime).length
    exact Nat.le_trans (Nat.le_of_eq hlength) h
  | _ => exact h

end Inspect

namespace Follows

theorem continues (h : s.Follows worker offered) : s.Continues worker offered := by
  refine ⟨[], ?_⟩
  dsimp only
  rw [Machine.run_nil, List.filterMap_nil, List.append_nil]
  exact h

theorem inspect (h : s.Follows worker offered) (input : PassInput V)
    : (s.inspect input).Continues worker offered := by
  have hbounded := bounded_inspect h.bounded input
  by_cases hchecks : s.phase = .checksStop
  . have hpassed : s.Passed worker offered := by
      have hwithin := h.within
      unfold Within at hwithin
      rw [hchecks] at hwithin
      exact hwithin
    obtain ⟨pass, hwithin, hrunning⟩ := hpassed.checksStop hchecks input
    refine ⟨[pass], ?_⟩
    dsimp only
    rw [Machine.run_cons, Machine.run_nil, List.append_nil]
    exact ⟨hrunning, hbounded, hwithin⟩
  . apply continues
    refine ⟨?_, hbounded, h.within.inspect h.running h.bounded hchecks input⟩
    intro hphase
    apply h.running
    intro hended
    apply hphase
    unfold Pipeline.inspect
    rw [hended]
    exact hended

theorem congr (h : s.Follows worker offered)
    (hsame : s'.phase = s.phase ∧ s'.inspection = s.inspection ∧ s'.offered = s.offered)
    : s'.Follows worker offered := by
  constructor
  . rw [hsame.1]
    exact h.running
  . rw [hsame.2.1]
    exact h.bounded
  . exact h.within.congr hsame

theorem onChangeInspectionMatrix (h : s.Follows worker offered) (activeConditions : InspectionMatrix V)
    : (s.onChangeInspectionMatrix activeConditions).Follows worker offered :=
  ⟨h.running, h.bounded.onChangeInspectionMatrix (some activeConditions),
    h.within.onChangeInspectionMatrix activeConditions⟩

theorem step (h : s.Follows worker offered) (libraries : Libraries V) (connectivity : Nat → Connectivity)
    (event : Event V)
    : (s.step libraries connectivity event).Continues worker offered := by
  cases event with
  | consume k dictionary message behind =>
    apply continues
    dsimp only [Pipeline.step]
    unfold Pipeline.consume
    split
    . exact h
    . split
      . exact h.congr ⟨rfl, rfl, rfl⟩
      . exact h
  | respond k signals =>
    apply continues
    dsimp only [Pipeline.step]
    unfold Pipeline.respond
    split
    . exact h
    . split
      . exact h.congr ⟨rfl, rfl, rfl⟩
      . exact h
  | produce k =>
    apply continues
    dsimp only [Pipeline.step]
    unfold Pipeline.produce
    split
    . exact h
    . split <;> exact h.congr ⟨rfl, rfl, rfl⟩
  | report activeDTCs => exact continues (h.congr ⟨rfl, rfl, rfl⟩)
  | onChangeInspectionMatrix activeConditions => exact continues (h.onChangeInspectionMatrix activeConditions)
  | inspect input => exact h.inspect input
  | upload action => exact continues (h.congr ⟨rfl, rfl, rfl⟩)

end Follows

end Steps

theorem follows_start [CANSignalValue V] (config : Config) (mRandomNumbers : Nat → V)
    (engine : IoTFleetWiseEngine V)
    : (start config mRandomNumbers engine).Follows
        (init config.inspectionThreadIdleTimeMs config.dataReductionProbabilityDisabled mRandomNumbers) [] := by
  constructor
  . intro _
    unfold init
    dsimp only
    split <;> rfl
  . unfold start init Bounded
    dsimp only
    split <;> exact Nat.zero_le _
  . exact ⟨⟨none, rfl⟩, rfl⟩

theorem continues_run [CANSignalValue V] (libraries : Libraries V) (connectivity : Nat → Connectivity)
    (config : Config) (mRandomNumbers : Nat → V) (engine : IoTFleetWiseEngine V) (events : List (Event V))
    : ((start config mRandomNumbers engine).run libraries connectivity events).Continues
        (init config.inspectionThreadIdleTimeMs config.dataReductionProbabilityDisabled mRandomNumbers) [] := by
  induction events using List.reverseRecOn with
  | nil => exact (follows_start config mRandomNumbers engine).continues
  | append_singleton events event ih =>
    obtain ⟨before, hbefore⟩ := ih
    obtain ⟨passes, hpasses⟩ := hbefore.step libraries connectivity event
    refine ⟨before ++ passes, ?_⟩
    dsimp only at hpasses ⊢
    rw [Machine.run_append, List.filterMap_append, ← List.append_assoc]
    unfold run
    rw [List.foldl_append]
    exact hpasses

theorem Within.offered_prefix [CANSignalValue V] {worker : CollectionInspectionWorkerThread V}
    {offered : List (TriggeredCollectionSchemeData V)} {s : Pipeline V} (h : s.Within worker offered)
    : offered <+: s.offered := by
  have hsame : s.offered = offered → offered <+: s.offered := fun hoffered => hoffered ▸ List.prefix_refl _
  unfold Within at h
  cases hphase : s.phase with
  | collects | notifies =>
    rw [hphase] at h
    obtain ⟨collected, _, hoffered⟩ := h
    exact ⟨collected, hoffered.symm⟩
  | pushes collectedData =>
    rw [hphase] at h
    obtain ⟨collected, _, hoffered⟩ := h
    exact ⟨collected, hoffered.symm⟩
  | sleeps | checksStop =>
    rw [hphase] at h
    obtain ⟨_, _, _, log, _, _, hoffered⟩ := h
    exact ⟨_, hoffered.symm⟩
  | _ =>
    rw [hphase] at h
    exact hsame h.2

/--
What the inspection thread does while the other threads work at the same time is what some passes of `doWork` do,
each in one piece: after every pass the thread and what it has offered are the same.
-/
theorem passes [CANSignalValue V] (libraries : Libraries V) (connectivity : Nat → Connectivity) (config : Config)
    (mRandomNumbers : Nat → V) (engine : IoTFleetWiseEngine V) (events : List (Event V))
    : let s := (start config mRandomNumbers engine).run libraries connectivity events
      let worker := init config.inspectionThreadIdleTimeMs config.dataReductionProbabilityDisabled mRandomNumbers
      ∃ passes, let r := Machine.run doWork worker passes
        r.2.filterMap WorkerEntry.collectedData <+: s.offered
          ∧
        (s.phase = .begins ∨ s.phase = .ended →
          (∃ matrix, s.inspection.worker = r.1.onChangeInspectionMatrix matrix)
            ∧ s.offered = r.2.filterMap WorkerEntry.collectedData) := by
  intro s worker
  have ⟨passes, h⟩ : s.Continues worker [] :=
    continues_run libraries connectivity config mRandomNumbers engine events
  dsimp only at h
  rw [List.nil_append] at h
  refine ⟨passes, h.within.offered_prefix, ?_⟩
  intro hphase
  have hwithin := h.within
  unfold Within at hwithin
  rcases hphase with hbegins | hended
  . rw [hbegins] at hwithin
    exact hwithin
  . rw [hended] at hwithin
    exact hwithin

end Pipeline
