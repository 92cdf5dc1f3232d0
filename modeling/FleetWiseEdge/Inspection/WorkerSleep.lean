import FleetWiseEdge.Inspection.Impl.WorkerThread
import FleetWiseEdge.Inspection.FairDrain

namespace DataInspection

open Cpp DataManagement

structure WorkerPass.Timed {V : Type} (pass : WorkerPass V) : Prop where
  signal : ∀ signal, pass.inputSignal = some signal → 1 ≤ signal.receiveTime ∧ signal.receiveTime < 2 ^ 64
  canFrame : ∀ frame, pass.inputCANFrame = some frame →
    1 ≤ frame.receiveTime ∧ frame.receiveTime < 2 ^ 64

namespace CollectionInspectionWorkerThread

variable {V : Type}

def observe (unevaluated : Bool) (entry : WorkerEntry V) : Bool :=
  match entry with
  | .popped _ => true
  | .evaluated _ => false
  | _ => unevaluated

def MayHappen (unevaluated : Bool) (entry : WorkerEntry V) : Prop :=
  match entry with
  | .waits _ => unevaluated = false
  | _ => True

-- Unevaluated input has been passed over only because its time was the one of the last evaluation.
def Remembers (worker : CollectionInspectionWorkerThread V) (unevaluated : Bool) : Prop :=
  unevaluated = true → u64 worker.lastInputTimeEvaluated ≠ 0

def Pass.unevaluated (p : Pass V) (before : Bool) : Bool := p.log.foldl observe before

structure Consuming (worker : CollectionInspectionWorkerThread V) (before : Bool) (p : Pass V)
    : Prop where
  legal : Machine.Always MayHappen observe before p.log
  remembered : p.worker.lastInputTimeEvaluated = worker.lastInputTimeEvaluated
  asleep : p.readyToSleep = true → p.latestSignalTime = 0 ∧ p.log = []
  awake : p.readyToSleep = false → 1 ≤ p.latestSignalTime ∧ p.latestSignalTime < 2 ^ 64

structure Evaluated (before : Bool) (p : Pass V) : Prop where
  legal : Machine.Always MayHappen observe before p.log
  awake : p.unevaluated before = true → p.readyToSleep = false
  remembers : p.worker.Remembers (p.unevaluated before)

theorem subU64_lt_one_iff {a b : Nat} : subU64 a b < 1 ↔ u64 a = u64 b := by
  unfold subU64 u64
  omega

variable {worker : CollectionInspectionWorkerThread V} {before : Bool} {p : Pass V}

theorem always_append_single {entry : WorkerEntry V}
    (hlegal : Machine.Always MayHappen observe before p.log)
    (hentry : MayHappen (p.unevaluated before) entry)
    : Machine.Always MayHappen observe before (p.log ++ [entry]) := by
  rw [Machine.always_append]
  exact ⟨hlegal, hentry, trivial⟩

section Steps

variable [InspectionValue V]

omit [InspectionValue V] in
theorem Consuming.popped (h : Consuming worker before p) (engine : CollectionInspectionEngine V)
    {receiveTime : Nat} (htime : 1 ≤ receiveTime ∧ receiveTime < 2 ^ 64)
    : Consuming worker before (p.popped engine receiveTime) where
  legal := always_append_single h.legal trivial
  remembered := h.remembered
  asleep := by
    intro hready
    contradiction
  awake := by
    intro _
    show 1 ≤ max p.latestSignalTime receiveTime ∧ max p.latestSignalTime receiveTime < 2 ^ 64
    cases hready : p.readyToSleep with
    | true =>
      have hzero := (h.asleep hready).1
      omega
    | false =>
      have hawake := h.awake hready
      omega

theorem Consuming.popSignal (h : Consuming worker before p) {inputSignal : Option (CollectedSignal V)}
    (htime : ∀ signal, inputSignal = some signal →
      1 ≤ signal.receiveTime ∧ signal.receiveTime < 2 ^ 64)
    : Consuming worker before (p.popSignal inputSignal) := by
  unfold Pass.popSignal
  split
  . exact h
  . next signal => exact h.popped _ (htime signal rfl)

omit [InspectionValue V] in
theorem Consuming.popCANFrame (h : Consuming worker before p)
    {inputCANFrame : Option CollectedCanRawFrame}
    (htime : ∀ frame, inputCANFrame = some frame → 1 ≤ frame.receiveTime ∧ frame.receiveTime < 2 ^ 64)
    : Consuming worker before (p.popCANFrame inputCANFrame) := by
  unfold Pass.popCANFrame
  split
  . exact h
  . next frame => exact h.popped _ (htime frame rfl)

omit [InspectionValue V] in
theorem Consuming.popActiveDTCs (h : Consuming worker before p) (activeDTCs : Option DTCInfo)
    : Consuming worker before (p.popActiveDTCs activeDTCs) := by
  unfold Pass.popActiveDTCs
  split
  . exact h
  . exact ⟨h.legal, h.remembered, h.asleep, h.awake⟩

theorem evaluated_evaluate (hlegal : Machine.Always MayHappen observe before p.log)
    (currentTime : Nat)
    : Evaluated before (p.evaluate currentTime) := by
  have hevaluated : (p.evaluate currentTime).unevaluated before = false := by
    unfold Pass.unevaluated Pass.evaluate
    rw [List.foldl_append]
    rfl
  constructor
  . exact always_append_single hlegal trivial
  . rw [hevaluated]
    intro h
    contradiction
  . rw [hevaluated]
    intro h
    contradiction

theorem Consuming.evaluateInput (h : Consuming worker before p) (hremembers : worker.Remembers before)
    (evaluationTime : Nat)
    : Evaluated before (p.evaluateInput evaluationTime) := by
  unfold Pass.evaluateInput
  split
  . exact evaluated_evaluate h.legal evaluationTime
  . next hskip =>
    rw [not_or] at hskip
    have hsame : u64 p.latestSignalTime = u64 p.worker.lastInputTimeEvaluated := by
      rw [← subU64_lt_one_iff]
      exact Nat.lt_of_not_ge hskip.1
    cases hready : p.readyToSleep with
    | true =>
      have ⟨hzero, hlog⟩ := h.asleep hready
      have hbefore : p.unevaluated before = before := by
        unfold Pass.unevaluated
        rw [hlog]
        rfl
      have hevaluated : before = false := by
        by_contra hpending
        rw [Bool.not_eq_false] at hpending
        apply hremembers hpending
        rw [← h.remembered, ← hsame, hzero]
        rfl
      constructor
      . exact h.legal
      . rw [hbefore, hevaluated]
        intro hpending
        contradiction
      . rw [hbefore, hevaluated]
        intro hpending
        contradiction
    | false =>
      have hawake := h.awake hready
      constructor
      . exact h.legal
      . intro _
        exact hready
      . intro _
        rw [← hsame, u64_of_lt hawake.2]
        omega

theorem Evaluated.evaluateBeforeSleep (h : Evaluated before p) (sleepCheckTime sleepEvaluationTime : Nat)
    : Evaluated before (p.evaluateBeforeSleep sleepCheckTime sleepEvaluationTime) := by
  unfold Pass.evaluateBeforeSleep
  split
  . exact evaluated_evaluate h.legal sleepEvaluationTime
  . exact h

theorem collectAll_log (collectTime : Nat → Nat) (shouldStop : Nat → Bool) (calls k waitTimeMs : Nat)
    (engine : CollectionInspectionEngine V) (unevaluated : Bool)
    : let log := (collectAll collectTime shouldStop calls k waitTimeMs engine).2.2
      Machine.Always MayHappen observe unevaluated log ∧ log.foldl observe unevaluated = unevaluated := by
  induction calls generalizing k waitTimeMs engine with
  | zero => exact ⟨trivial, rfl⟩
  | succ calls ih =>
    unfold collectAll
    dsimp only
    split
    . exact ⟨trivial, rfl⟩
    . split
      . exact ⟨trivial, rfl⟩
      . have ⟨hlegal, hrest⟩ := ih (k + 1) ((engine.collectNextDataToSend (collectTime k)).waitTimeMs.getD
          waitTimeMs) (engine.collectNextDataToSend (collectTime k)).engine
        exact ⟨⟨trivial, hlegal⟩, hrest⟩

theorem Evaluated.collectAndSleep (h : Evaluated before p) (collectTime : Nat → Nat)
    (shouldStop : Nat → Bool)
    : let p' := p.collectAndSleep collectTime shouldStop
      Machine.Always MayHappen observe before p'.log ∧ p'.worker.Remembers (p'.unevaluated before) := by
  have ⟨hlegal, hlog⟩ := collectAll_log collectTime shouldStop
    (p.worker.fCollectionInspectionEngine.mConditions.length + 1) 0 p.worker.fIdleTimeMs
    p.worker.fCollectionInspectionEngine (p.unevaluated before)
  have hremembers := h.remembers
  have hawake := h.awake
  unfold Pass.unevaluated at hlegal hlog hremembers hawake
  unfold Pass.collectAndSleep Pass.unevaluated
  dsimp only
  rw [Machine.always_append, Machine.always_append]
  simp only [List.foldl_append, hlog]
  split
  . next hready =>
    have hevaluated : p.log.foldl observe before = false := by
      by_contra hpending
      rw [Bool.not_eq_false] at hpending
      have hnot := hawake hpending
      rw [hready] at hnot
      contradiction
    exact ⟨⟨⟨h.legal, hlegal⟩, hevaluated, trivial⟩, hremembers⟩
  . exact ⟨⟨⟨h.legal, hlegal⟩, trivial⟩, hremembers⟩

end Steps

theorem onChangeInspectionMatrix_lastInputTimeEvaluated (matrix : Option (InspectionMatrix V))
    : (worker.onChangeInspectionMatrix matrix).lastInputTimeEvaluated = worker.lastInputTimeEvaluated := by
  unfold onChangeInspectionMatrix
  split <;> rfl

variable [InspectionValue V]

theorem takeMatrix_lastInputTimeEvaluated (order : IterationOrder V)
    : (worker.takeMatrix order).lastInputTimeEvaluated = worker.lastInputTimeEvaluated := by
  unfold takeMatrix
  split <;> rfl

theorem runPass_spec (hremembers : worker.Remembers before) {pass : WorkerPass V} (htimed : pass.Timed)
    : let p := worker.runPass pass
      Machine.Always MayHappen observe before p.log ∧ p.worker.Remembers (p.unevaluated before) := by
  have hstart : Consuming worker before { worker } := by
    refine ⟨trivial, rfl, fun _ => ⟨rfl, rfl⟩, ?_⟩
    intro hready
    contradiction
  have hconsumed := ((hstart.popSignal htimed.signal).popCANFrame htimed.canFrame).popActiveDTCs
    pass.activeDTCs
  have hevaluated := (hconsumed.evaluateInput hremembers pass.evaluationTime).evaluateBeforeSleep
    pass.sleepCheckTime pass.sleepEvaluationTime
  exact hevaluated.collectAndSleep pass.collectTime pass.shouldStopCollecting

theorem doWork_spec (hremembers : worker.Remembers before) {pass : WorkerPass V} (htimed : pass.Timed)
    : Machine.Always MayHappen observe before (worker.doWork pass).2
        ∧ (worker.doWork pass).1.Remembers ((worker.doWork pass).2.foldl observe before) := by
  have hready : ((((worker.onChangeInspectionMatrix pass.matrix).takeMatrix
      pass.order).onChangeInspectionMatrix pass.laterMatrix)).Remembers before := by
    unfold Remembers
    rw [onChangeInspectionMatrix_lastInputTimeEvaluated, takeMatrix_lastInputTimeEvaluated]
    rw [onChangeInspectionMatrix_lastInputTimeEvaluated]
    exact hremembers
  unfold doWork
  split
  . exact ⟨trivial, hremembers⟩
  . dsimp only
    split
    . exact ⟨⟨trivial, trivial⟩, hready⟩
    . exact runPass_spec hready htimed

theorem not_evaluated_mem_collectAll (collectTime : Nat → Nat) (shouldStop : Nat → Bool)
    (calls k waitTimeMs : Nat) (engine : CollectionInspectionEngine V) (currentTime : Nat)
    : .evaluated currentTime ∉ (collectAll collectTime shouldStop calls k waitTimeMs engine).2.2 := by
  induction calls generalizing k waitTimeMs engine with
  | zero => exact List.not_mem_nil
  | succ calls ih =>
    unfold collectAll
    dsimp only
    split
    . exact List.not_mem_nil
    . split
      . exact List.not_mem_nil
      . rw [List.mem_cons, not_or]
        exact ⟨by simp, ih _ _ _⟩

-- Input in the interval of the last evaluation is not evaluated in its own pass.
theorem runPass_skips (worker : CollectionInspectionWorkerThread V) {pass : WorkerPass V}
    {signal : CollectedSignal V} (hsignal : pass.inputSignal = some signal)
    (hframe : pass.inputCANFrame = none)
    (htime : u64 signal.receiveTime = u64 worker.lastInputTimeEvaluated)
    (hcounter : worker.inputCounterSinceLastEvaluate < 255) (currentTime : Nat)
    : .evaluated currentTime ∉ (worker.runPass pass).log := by
  have hskip
      : ¬(subU64 (max 0 signal.receiveTime) worker.lastInputTimeEvaluated ≥ EVALUATE_INTERVAL_MS
          ∨ u64 (worker.inputCounterSinceLastEvaluate + 1) ≥ 256) := by
    rw [Nat.zero_max, not_or, u64_of_lt (by omega)]
    constructor
    . rw [← subU64_lt_one_iff] at htime
      unfold EVALUATE_INTERVAL_MS
      omega
    . omega
  have hpopped
      : ∃ p : Pass V,
          ((Pass.popSignal { worker } pass.inputSignal).popCANFrame
            pass.inputCANFrame).popActiveDTCs pass.activeDTCs = p
          ∧ p.log = [.popped signal.receiveTime] ∧ p.readyToSleep = false
          ∧ p.evaluateInput pass.evaluationTime = p := by
    rw [hsignal, hframe]
    refine ⟨_, rfl, ?_, ?_, ?_⟩
    . cases pass.activeDTCs <;> rfl
    . cases pass.activeDTCs <;> rfl
    . cases pass.activeDTCs <;> exact if_neg hskip
  obtain ⟨p, hp, hlog, hready, hinput⟩ := hpopped
  have hsleep : p.evaluateBeforeSleep pass.sleepCheckTime pass.sleepEvaluationTime = p := by
    unfold Pass.evaluateBeforeSleep
    rw [hready]
    simp
  unfold runPass
  dsimp only
  rw [hp, hinput, hsleep]
  unfold Pass.collectAndSleep
  dsimp only
  rw [hlog, hready, List.mem_append, List.mem_append, not_or, not_or]
  refine ⟨⟨by simp, ?_⟩, by simp⟩
  apply not_evaluated_mem_collectAll

-- The calls of a pass are enough: with more of them it collects the same.
theorem collectAll_more (collectTime : Nat → Nat) (shouldStop : Nat → Bool) (calls k waitTimeMs : Nat)
    (engine : CollectionInspectionEngine V) (hcalls : engine.waitingConditions.card < calls)
    (hsize : engine.mConditions.length ≤ MAX_NUMBER_OF_ACTIVE_CONDITION) {more : Nat}
    (hmore : calls ≤ more)
    : collectAll collectTime shouldStop more k waitTimeMs engine
        =
      collectAll collectTime shouldStop calls k waitTimeMs engine := by
  induction calls generalizing k waitTimeMs engine more with
  | zero => omega
  | succ calls ih =>
    obtain ⟨more, rfl⟩ : ∃ rest, more = rest + 1 := ⟨more - 1, by omega⟩
    unfold collectAll
    dsimp only
    cases hdata : (engine.collectNextDataToSend (collectTime k)).data with
    | none => rfl
    | some published =>
      have hless := CollectionInspectionEngine.card_collectNextDataToSend_lt hsize hdata
      have hlength := (CollectionInspectionEngine.collectNextDataToSend_scanned engine (collectTime k)
        hsize).took.length
      dsimp only
      split
      . rfl
      . rw [ih _ _ _ (by omega) (by omega) (by omega)]

/--
From the start of the thread on, nothing that has been popped is unevaluated when the thread sleeps, also
though not every pass with input evaluates it.
-/
theorem never_sleeps_on_unevaluated_input (engine : CollectionInspectionEngine V) (fIdleTimeMs : Nat)
    (passes : List (WorkerPass V)) (htimed : ∀ pass ∈ passes, pass.Timed)
    : Machine.Always MayHappen observe false
        (Machine.run doWork { fCollectionInspectionEngine := engine, fIdleTimeMs } passes).2
      ∧
      ∀ (worker : CollectionInspectionWorkerThread V) (pass : WorkerPass V) (signal : CollectedSignal V),
        pass.inputSignal = some signal → pass.inputCANFrame = none →
          u64 signal.receiveTime = u64 worker.lastInputTimeEvaluated →
            worker.inputCounterSinceLastEvaluate < 255 →
              ∀ currentTime, .evaluated currentTime ∉ (worker.runPass pass).log := by
  have hinit : ({ fCollectionInspectionEngine := engine, fIdleTimeMs
      : CollectionInspectionWorkerThread V }).Remembers false := by
    intro h
    contradiction
  have hok : Machine.Always (fun _ (pass : WorkerPass V) => pass.Timed)
      (fun worker pass => (worker.doWork pass).1)
      ({ fCollectionInspectionEngine := engine, fIdleTimeMs } : CollectionInspectionWorkerThread V)
      passes :=
    Machine.always_of_forall WorkerPass.Timed (fun _ _ h => h) htimed
  constructor
  . exact (Machine.run_monitored Remembers (fun _ (pass : WorkerPass V) => pass.Timed)
      (fun _ _ _ htimed hremembers => doWork_spec hremembers htimed) hinit hok).1
  . intro worker pass signal hsignal hframe htime hcounter currentTime
    exact runPass_skips worker hsignal hframe htime hcounter currentTime

def examplePasses : List (WorkerPass Rat) :=
  let pass (inputSignal : Option (CollectedSignal Rat)) : WorkerPass Rat :=
    { order := .inserted Rat
      matrix := some ⟨[], []⟩
      inputSignal }
  let signal : CollectedSignal Rat := { signalID := 7, receiveTime := 50, value := 1 }
  [pass (some signal), pass (some signal), pass none]

theorem timed_examplePasses : ∀ pass ∈ examplePasses, pass.Timed := by
  have hsignal : ∀ pass ∈ examplePasses, ∀ signal ∈ pass.inputSignal,
      1 ≤ signal.receiveTime ∧ signal.receiveTime < 2 ^ 64 := by decide
  have hframe : ∀ pass ∈ examplePasses, pass.inputCANFrame = none := by
    simp [examplePasses]
  intro pass hpass
  constructor
  . exact hsignal pass hpass
  . intro frame hsome
    rw [hframe pass hpass] at hsome
    contradiction

theorem never_sleeps_on_unevaluated_input_example
    : Machine.Always MayHappen observe false
        (Machine.run doWork { fCollectionInspectionEngine := emptyEngine, fIdleTimeMs := 1000 }
          examplePasses).2 := by
  have hsafe := never_sleeps_on_unevaluated_input emptyEngine 1000 examplePasses timed_examplePasses
  -- the run itself is not to be evaluated here
  generalize Machine.run doWork _ examplePasses = run at hsafe ⊢
  exact hsafe.1

end CollectionInspectionWorkerThread

end DataInspection
