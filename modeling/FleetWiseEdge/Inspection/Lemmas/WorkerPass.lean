import FleetWiseEdge.Inspection.FairDrain
import FleetWiseEdge.Inspection.Impl.WorkerThread
import FleetWiseEdge.Inspection.Lemmas.Configuration

/-!
This module contains how far a pass of the inspection thread has come, and that it does not matter when during the
pass the next matrix is handed over.
-/

namespace DataInspection

open Cpp DataManagement

def WorkerEntry.collectedData {V : Type} (entry : WorkerEntry V) : Option (TriggeredCollectionSchemeData V) :=
  match entry with
  | .collected data => some data
  | _ => none

namespace CollectionInspectionWorkerThread

variable {V : Type} [InspectionValue V]

section Progress

variable (worker : CollectionInspectionWorkerThread V) (pass : WorkerPass V)

def begun : CollectionInspectionWorkerThread V :=
  ((worker.onChangeInspectionMatrix pass.matrix).takeMatrix pass.order).onChangeInspectionMatrix pass.laterMatrix

-- The pass behind the three buffers and behind the evaluations.

def signalled : Pass V := Pass.popSignal { worker := worker.begun pass } pass.inputSignal

def framed : Pass V := (worker.signalled pass).popCANFrame pass.inputCANFrame

def informed : Pass V := (worker.framed pass).popActiveDTCs pass.activeDTCs

def evaluated : Pass V :=
  ((worker.informed pass).evaluateInput pass.evaluationTime).evaluateBeforeSleep pass.sleepCheckTime
    pass.sleepEvaluationTime

theorem doWork_eq (hdone : worker.done = false) {m : InspectionMatrix V}
    (hmatrix : (worker.begun pass).fUpdatedInspectionMatrix = some m)
    : worker.doWork pass
        =
      let p := (worker.evaluated pass).collectAndSleep pass.collectTime pass.shouldStopCollecting
      ({ p.worker with done := pass.shouldStop }, p.log) := by
  unfold begun at hmatrix
  unfold doWork
  rw [hdone]
  dsimp only
  rw [if_neg Bool.false_ne_true, hmatrix]
  rfl

theorem doWork_none (hdone : worker.done = false) (hmatrix : (worker.begun pass).fUpdatedInspectionMatrix = none)
    : worker.doWork pass = ({ worker.begun pass with done := pass.shouldStop }, [.waitsForMatrix]) := by
  unfold begun at hmatrix ⊢
  unfold doWork
  rw [hdone]
  dsimp only
  rw [if_neg Bool.false_ne_true, hmatrix]

end Progress

section Matrix

omit [InspectionValue V]

theorem onChangeInspectionMatrix_twice (worker : CollectionInspectionWorkerThread V)
    (matrix : Option (InspectionMatrix V)) (activeConditions : InspectionMatrix V)
    : (worker.onChangeInspectionMatrix matrix).onChangeInspectionMatrix (some activeConditions)
        = worker.onChangeInspectionMatrix (some activeConditions) := by
  cases matrix <;> rfl

def Pass.onChangeInspectionMatrix (p : Pass V) (matrix : Option (InspectionMatrix V)) : Pass V :=
  { p with worker := p.worker.onChangeInspectionMatrix matrix }

def Pass.withEngine (p : Pass V) (engine : CollectionInspectionEngine V) : Pass V :=
  { p with worker := { p.worker with fCollectionInspectionEngine := engine } }

namespace Pass

variable (p : Pass V) (matrix : Option (InspectionMatrix V))

theorem onChangeInspectionMatrix_twice (activeConditions : InspectionMatrix V)
    : (p.onChangeInspectionMatrix matrix).onChangeInspectionMatrix (some activeConditions)
        = p.onChangeInspectionMatrix (some activeConditions) := by
  cases matrix <;> rfl

theorem engine_onChangeInspectionMatrix
    : (p.onChangeInspectionMatrix matrix).worker.fCollectionInspectionEngine
        = p.worker.fCollectionInspectionEngine := by
  cases matrix <;> rfl

theorem withEngine_onChangeInspectionMatrix (engine : CollectionInspectionEngine V)
    : (p.onChangeInspectionMatrix matrix).withEngine engine
        = (p.withEngine engine).onChangeInspectionMatrix matrix := by
  cases matrix <;> rfl

theorem popSignal_onChangeInspectionMatrix [InspectionValue V] (inputSignal : Option (CollectedSignal V))
    : (p.onChangeInspectionMatrix matrix).popSignal inputSignal
        = (p.popSignal inputSignal).onChangeInspectionMatrix matrix := by
  cases matrix <;> cases inputSignal <;> rfl

theorem popCANFrame_onChangeInspectionMatrix [InspectionValue V] (inputCANFrame : Option CollectedCanRawFrame)
    : (p.onChangeInspectionMatrix matrix).popCANFrame inputCANFrame
        = (p.popCANFrame inputCANFrame).onChangeInspectionMatrix matrix := by
  cases matrix <;> cases inputCANFrame <;> rfl

theorem popActiveDTCs_onChangeInspectionMatrix [InspectionValue V] (activeDTCs : Option DTCInfo)
    : (p.onChangeInspectionMatrix matrix).popActiveDTCs activeDTCs
        = (p.popActiveDTCs activeDTCs).onChangeInspectionMatrix matrix := by
  cases matrix <;> cases activeDTCs <;> rfl

theorem evaluateInput_onChangeInspectionMatrix [InspectionValue V] (evaluationTime : Nat)
    : (p.onChangeInspectionMatrix matrix).evaluateInput evaluationTime
        = (p.evaluateInput evaluationTime).onChangeInspectionMatrix matrix := by
  unfold evaluateInput
  cases matrix with
  | none => rfl
  | some m =>
    rw [apply_ite (onChangeInspectionMatrix · (some m))]
    rfl

theorem evaluateBeforeSleep_onChangeInspectionMatrix [InspectionValue V]
    (sleepCheckTime sleepEvaluationTime : Nat)
    : (p.onChangeInspectionMatrix matrix).evaluateBeforeSleep sleepCheckTime sleepEvaluationTime
        = (p.evaluateBeforeSleep sleepCheckTime sleepEvaluationTime).onChangeInspectionMatrix matrix := by
  unfold evaluateBeforeSleep
  cases matrix with
  | none => rfl
  | some m =>
    rw [apply_ite (onChangeInspectionMatrix · (some m))]
    rfl

end Pass

end Matrix

section Bounded

def Bounded (worker : CollectionInspectionWorkerThread V) : Prop :=
  worker.fCollectionInspectionEngine.mConditions.length ≤ MAX_NUMBER_OF_ACTIVE_CONDITION

variable {worker : CollectionInspectionWorkerThread V} {p : Pass V}

omit [InspectionValue V] in
theorem Bounded.onChangeInspectionMatrix (h : worker.Bounded) (matrix : Option (InspectionMatrix V))
    : (worker.onChangeInspectionMatrix matrix).Bounded := by
  cases matrix <;> exact h

theorem Bounded.takeMatrix (h : worker.Bounded) (order : IterationOrder V) : (worker.takeMatrix order).Bounded := by
  unfold CollectionInspectionWorkerThread.takeMatrix
  split
  . exact onChangeInspectionMatrix_length_le _ order _
  . exact h

theorem Bounded.popSignal (h : p.worker.Bounded) (inputSignal : Option (CollectedSignal V))
    : (p.popSignal inputSignal).worker.Bounded := by
  cases inputSignal with
  | none => exact h
  | some signal =>
    have hsame := step_sameConfiguration p.worker.fCollectionInspectionEngine
      (.addNewSignal signal.signalID signal.receiveTime signal.value)
    exact Nat.le_trans (Nat.le_of_eq hsame.length) h

theorem Bounded.popCANFrame (h : p.worker.Bounded) (inputCANFrame : Option CollectedCanRawFrame)
    : (p.popCANFrame inputCANFrame).worker.Bounded := by
  cases inputCANFrame with
  | none => exact h
  | some frame =>
    have hsame := step_sameConfiguration p.worker.fCollectionInspectionEngine
      (.addNewRawCanFrame frame.frameID frame.channelId frame.receiveTime frame.data frame.size)
    exact Nat.le_trans (Nat.le_of_eq hsame.length) h

omit [InspectionValue V] in
theorem Bounded.popActiveDTCs (h : p.worker.Bounded) (activeDTCs : Option DTCInfo)
    : (p.popActiveDTCs activeDTCs).worker.Bounded := by
  cases activeDTCs <;> exact h

theorem Bounded.evaluate (h : p.worker.Bounded) (currentTime : Nat) : (p.evaluate currentTime).worker.Bounded :=
  Nat.le_trans (Nat.le_of_eq (evaluateConditions_sameConfiguration _ currentTime).length) h

theorem Bounded.evaluateInput (h : p.worker.Bounded) (evaluationTime : Nat)
    : (p.evaluateInput evaluationTime).worker.Bounded := by
  unfold Pass.evaluateInput
  split
  . exact Bounded.evaluate h evaluationTime
  . exact h

theorem Bounded.evaluateBeforeSleep (h : p.worker.Bounded) (sleepCheckTime sleepEvaluationTime : Nat)
    : (p.evaluateBeforeSleep sleepCheckTime sleepEvaluationTime).worker.Bounded := by
  unfold Pass.evaluateBeforeSleep
  split
  . exact Bounded.evaluate h sleepEvaluationTime
  . exact h

end Bounded

section Unsent

def Pass.Unsent (p : Pass V) : Prop := p.log.filterMap WorkerEntry.collectedData = []

variable {p : Pass V}

omit [InspectionValue V] in
theorem Pass.Unsent.append (h : p.Unsent) {entry : WorkerEntry V} (hentry : entry.collectedData = none)
    : (p.log ++ [entry]).filterMap WorkerEntry.collectedData = [] := by
  rw [List.filterMap_append, h, List.filterMap_cons, hentry]
  rfl

theorem Pass.Unsent.evaluate (h : p.Unsent) (currentTime : Nat) : (p.evaluate currentTime).Unsent :=
  h.append rfl

theorem unsent_evaluated (worker : CollectionInspectionWorkerThread V) (pass : WorkerPass V)
    : (worker.evaluated pass).Unsent := by
  have hsignalled : (worker.signalled pass).Unsent := by
    unfold signalled Pass.popSignal
    split <;> rfl
  have hframed : (worker.framed pass).Unsent := by
    unfold framed Pass.popCANFrame
    split
    . exact hsignalled
    . exact hsignalled.append rfl
  have hinformed : (worker.informed pass).Unsent := by
    unfold informed Pass.popActiveDTCs
    split
    . exact hframed
    . exact hframed
  have hinput : ((worker.informed pass).evaluateInput pass.evaluationTime).Unsent := by
    unfold Pass.evaluateInput
    split
    . exact hinformed.evaluate _
    . exact hinformed
  unfold evaluated Pass.evaluateBeforeSleep
  split
  . exact hinput.evaluate _
  . exact hinput

end Unsent

section Collect

def collectsAt (engine : CollectionInspectionEngine V) (times : List Nat)
    : Option (CollectionInspectionEngine V × List (TriggeredCollectionSchemeData V)) :=
  match times with
  | [] => some (engine, [])
  | time :: times =>
    let next := engine.collectNextDataToSend time
    match next.data with
    | none => none
    | some (_, data) => (collectsAt next.engine times).map fun (engine, later) => (engine, data :: later)

variable {engine last : CollectionInspectionEngine V} {times : List Nat}
variable {collected : List (TriggeredCollectionSchemeData V)}

theorem collectsAt_cons {time : Nat} (h : collectsAt engine (time :: times) = some (last, collected))
    : ∃ i data later, (engine.collectNextDataToSend time).data = some (i, data)
        ∧ collectsAt (engine.collectNextDataToSend time).engine times = some (last, later)
        ∧ collected = data :: later := by
  unfold collectsAt at h
  dsimp only at h
  split at h
  . cases h
  . next i data hdata =>
    obtain ⟨⟨last', later⟩, hlater, heq⟩ := Option.map_eq_some_iff.mp h
    cases heq
    exact ⟨i, data, later, hdata, hlater, rfl⟩

theorem collectsAt_append {time i : Nat} {data : TriggeredCollectionSchemeData V}
    (h : collectsAt engine times = some (last, collected))
    (hdata : (last.collectNextDataToSend time).data = some (i, data))
    : collectsAt engine (times ++ [time])
        = some ((last.collectNextDataToSend time).engine, collected ++ [data]) := by
  induction times generalizing engine collected with
  | nil =>
    cases h
    unfold collectsAt
    dsimp only [List.nil_append]
    rw [hdata]
    rfl
  | cons first times ih =>
    obtain ⟨j, data', later, hfirst, hlater, heq⟩ := collectsAt_cons h
    rw [List.cons_append, heq]
    unfold collectsAt
    dsimp only
    rw [hfirst]
    dsimp only
    rw [ih hlater]
    rfl

theorem collectsAt_card (hsize : engine.mConditions.length ≤ MAX_NUMBER_OF_ACTIVE_CONDITION)
    (h : collectsAt engine times = some (last, collected))
    : times.length ≤ engine.waitingConditions.card := by
  induction times generalizing engine collected with
  | nil => exact Nat.zero_le _
  | cons time times ih =>
    obtain ⟨i, data, later, hdata, hlater, _⟩ := collectsAt_cons h
    have hless := CollectionInspectionEngine.card_collectNextDataToSend_lt hsize hdata
    have hlength := (collectNextDataToSend_sameConfiguration engine time).length
    have hrest := ih (Nat.le_trans (Nat.le_of_eq hlength) hsize) hlater
    rw [List.length_cons]
    omega

theorem collectAll_of_collectsAt (h : collectsAt engine times = some (last, collected)) {time : Nat} {stop : Bool}
    (hends : (last.collectNextDataToSend time).data = none ∨ stop = true) (before : List Nat)
    (calls waitTimeMs : Nat)
    : ∃ waitTimeMs',
        collectAll (fun k => (before ++ times ++ [time]).getD k 0)
            (fun k => stop && decide (k = (before ++ times).length)) (times.length + calls + 1) before.length
            waitTimeMs engine
          =
        ((last.collectNextDataToSend time).engine, waitTimeMs', collected.map .collected) := by
  induction times generalizing engine collected before waitTimeMs with
  | nil =>
    cases h
    have htime : (before ++ [] ++ [time]).getD before.length 0 = time := by simp
    unfold collectAll
    dsimp only
    rw [htime]
    cases hdata : (last.collectNextDataToSend time).data with
    | none => exact ⟨_, rfl⟩
    | some data =>
      have hstop : stop = true := by
        rw [hdata] at hends
        exact hends.resolve_left (Option.some_ne_none data)
      rw [hstop]
      simp
  | cons first times ih =>
    obtain ⟨i, data, later, hdata, hlater, heq⟩ := collectsAt_cons h
    have htime : (before ++ first :: times ++ [time]).getD before.length 0 = first := by simp
    have hstop : (stop && decide (before.length = (before ++ first :: times).length)) = false := by simp
    have hassoc : before ++ first :: times = before ++ [first] ++ times := by simp
    have hcalls : (first :: times).length + calls + 1 = times.length + calls + 1 + 1 := by
      rw [List.length_cons]
      omega
    obtain ⟨waitTimeMs', hrest⟩ := ih hlater (before ++ [first])
      ((engine.collectNextDataToSend first).waitTimeMs.getD waitTimeMs)
    rw [show (before ++ [first]).length = before.length + 1 from List.length_append] at hrest
    refine ⟨waitTimeMs', ?_⟩
    rw [hcalls]
    unfold collectAll
    dsimp only
    rw [htime, hdata, hstop, hassoc]
    dsimp only
    rw [if_neg Bool.false_ne_true, hrest, heq]
    rfl

theorem collectAndSleep_eq {p : Pass V} (hbounded : p.worker.Bounded)
    (h : collectsAt p.worker.fCollectionInspectionEngine times = some (last, collected)) {time : Nat} {stop : Bool}
    (hends : (last.collectNextDataToSend time).data = none ∨ stop = true)
    : ∃ collectTime shouldStop,
        let p' := p.collectAndSleep collectTime shouldStop
        p'.worker = (p.withEngine (last.collectNextDataToSend time).engine).worker
          ∧ p'.log.filterMap WorkerEntry.collectedData
            = p.log.filterMap WorkerEntry.collectedData ++ collected := by
  have hcard := Nat.le_trans (collectsAt_card hbounded h) (CollectionInspectionEngine.waitingConditions_le _)
  obtain ⟨waitTimeMs, hall⟩ := collectAll_of_collectsAt h hends []
    (p.worker.fCollectionInspectionEngine.mConditions.length - times.length) p.worker.fIdleTimeMs
  rw [Nat.add_sub_cancel' hcard, List.length_nil, List.nil_append] at hall
  refine ⟨fun k => (times ++ [time]).getD k 0, fun k => stop && decide (k = times.length), ?_⟩
  unfold Pass.collectAndSleep
  dsimp only
  rw [hall]
  refine ⟨rfl, ?_⟩
  dsimp only
  rw [List.filterMap_append, List.filterMap_append, List.filterMap_map]
  split <;> simp [Function.comp_def, WorkerEntry.collectedData]

end Collect

end CollectionInspectionWorkerThread

end DataInspection
