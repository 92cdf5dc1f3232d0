import FleetWiseEdge.Inspection.Impl.WorkerThread
import FleetWiseEdge.Inspection.Lemmas.Provenance

namespace DataInspection

open Cpp DataManagement

variable {V : Type} [InspectionValue V] {origin : SampleOrigin V}

def SampleOrigin.Collects (origin : SampleOrigin V) (data : TriggeredCollectionSchemeData V) : Prop :=
  ∃ m condition, origin.matrix m ∧ condition ∈ m.conditions ∧ data.From origin condition

omit [InspectionValue V] in
theorem SampleOrigin.Collects.mono {origin origin' : SampleOrigin V} {data : TriggeredCollectionSchemeData V}
    (h : origin.Collects data) (hle : origin.Le origin')
    : origin'.Collects data := by
  have ⟨m, condition, hm, hcondition, hdata⟩ := h
  exact ⟨m, condition, hle.matrix m hm, hcondition, hdata.mono hle⟩

namespace CollectionInspectionWorkerThread

structure Serves (origin : SampleOrigin V) (worker : CollectionInspectionWorkerThread V) : Prop where
  engine : worker.fCollectionInspectionEngine.Serves origin
  matrix : ∀ m, worker.fUpdatedInspectionMatrix = some m → origin.matrix m

namespace Serves

variable {worker : CollectionInspectionWorkerThread V}

theorem onChangeInspectionMatrix (h : worker.Serves origin) {matrix : Option (InspectionMatrix V)}
    (hmatrix : ∀ m, matrix = some m → origin.matrix m)
    : (worker.onChangeInspectionMatrix matrix).Serves origin := by
  cases matrix with
  | none => exact h
  | some m =>
    constructor
    . exact h.engine
    . intro m' hm'
      rw [← Option.some_inj.mp hm']
      exact hmatrix m rfl

theorem takeMatrix (h : worker.Serves origin) (order : IterationOrder V)
    : (worker.takeMatrix order).Serves origin := by
  unfold CollectionInspectionWorkerThread.takeMatrix
  split
  . rename_i m _ hm
    exact ⟨h.engine.onChangeInspectionMatrix order (h.matrix m hm), h.matrix⟩
  . exact h

end Serves

def LogFrom (origin : SampleOrigin V) (log : List (WorkerEntry V)) : Prop :=
  ∀ data, .collected data ∈ log → origin.Collects data

omit [InspectionValue V] in
theorem LogFrom.append {log log' : List (WorkerEntry V)} (h : LogFrom origin log) (h' : LogFrom origin log')
    : LogFrom origin (log ++ log') := by
  intro data hdata
  rw [List.mem_append] at hdata
  cases hdata with
  | inl hleft => exact h data hleft
  | inr hright => exact h' data hright

omit [InspectionValue V] in
theorem LogFrom.of_none {log : List (WorkerEntry V)} (h : ∀ data, .collected data ∉ log) : LogFrom origin log :=
  fun data hdata => absurd hdata (h data)

omit [InspectionValue V] in
theorem LogFrom.mono {origin' : SampleOrigin V} {log : List (WorkerEntry V)} (h : LogFrom origin log)
    (hle : origin.Le origin')
    : LogFrom origin' log :=
  fun data hdata => (h data hdata).mono hle

structure Pass.From (origin : SampleOrigin V) (p : Pass V) : Prop where
  worker : p.worker.Serves origin
  log : LogFrom origin p.log

namespace Pass.From

variable {p : Pass V}

theorem mono {origin' : SampleOrigin V} (h : p.From origin) (hle : origin.Le origin') : p.From origin' :=
  ⟨⟨h.worker.engine.mono hle, fun m hm => hle.matrix m (h.worker.matrix m hm)⟩, h.log.mono hle⟩

theorem popped (h : p.From origin) {engine : CollectionInspectionEngine V} (hengine : engine.Serves origin)
    (receiveTime : Nat)
    : (p.popped engine receiveTime).From origin := by
  constructor
  . exact ⟨hengine, h.worker.matrix⟩
  . exact h.log.append (LogFrom.of_none (by simp))

theorem popSignal (h : p.From origin) {inputSignal : Option (CollectedSignal V)}
    (hsignal : ∀ signal, inputSignal = some signal →
      origin.signal signal.signalID signal.value signal.receiveTime)
    : (p.popSignal inputSignal).From origin := by
  cases inputSignal with
  | none => exact h
  | some signal => exact h.popped (h.worker.engine.addNewSignal (hsignal signal rfl)) _

theorem popCANFrame (h : p.From origin) {inputCANFrame : Option CollectedCanRawFrame}
    (hframe : ∀ frame, inputCANFrame = some frame → ∀ size ≤ frame.size,
      origin.canFrame frame.frameID frame.channelId (frameBytes frame.data size) frame.receiveTime)
    : (p.popCANFrame inputCANFrame).From origin := by
  cases inputCANFrame with
  | none => exact h
  | some frame => exact h.popped (h.worker.engine.addNewRawCanFrame (hframe frame rfl)) _

theorem popActiveDTCs (h : p.From origin) {activeDTCs : Option DTCInfo}
    (hactive : ∀ dtcs, activeDTCs = some dtcs → origin.activeDTCs dtcs)
    : (p.popActiveDTCs activeDTCs).From origin := by
  cases activeDTCs with
  | none => exact h
  | some dtcs => exact ⟨⟨h.worker.engine.setActiveDTCs (hactive dtcs rfl), h.worker.matrix⟩, h.log⟩

theorem evaluate (h : p.From origin) (currentTime : Nat) : (p.evaluate currentTime).From origin := by
  constructor
  . exact ⟨h.worker.engine.evaluateConditions currentTime, h.worker.matrix⟩
  . exact h.log.append (LogFrom.of_none (by simp))

theorem evaluateInput (h : p.From origin) (evaluationTime : Nat)
    : (p.evaluateInput evaluationTime).From origin := by
  unfold Pass.evaluateInput
  split
  . exact h.evaluate evaluationTime
  . exact h

theorem evaluateBeforeSleep (h : p.From origin) (sleepCheckTime sleepEvaluationTime : Nat)
    : (p.evaluateBeforeSleep sleepCheckTime sleepEvaluationTime).From origin := by
  unfold Pass.evaluateBeforeSleep
  split
  . exact h.evaluate sleepEvaluationTime
  . exact h

end Pass.From

end CollectionInspectionWorkerThread

end DataInspection
