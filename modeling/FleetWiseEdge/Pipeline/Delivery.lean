import FleetWiseEdge.Pipeline.Impl.Pipeline
import FleetWiseEdge.Upload.Lemmas.EngineThread

/-!
This module contains what every interleaving of the threads keeps of the collected data on its way to the
sender: it is sent in order and once, the engine thread never sleeps on it unless somebody is about to wake
it, and the counters of the buffers are right.
-/

namespace Pipeline

open DataInspection DataManagement ExecutionManagement OffboardConnectivity

variable {V : Type} {libraries : Libraries V} {connectivity : Nat → Connectivity}
variable {engine : IoTFleetWiseEngine V} {interval : Nat} {s : Pipeline V}

def InspectionPhase.poppedSignals (phase : InspectionPhase V) : Nat :=
  match phase with
  | .uncountsSignal _ => 1
  | _ => 0

def InspectionPhase.poppedCANFrames (phase : InspectionPhase V) : Nat :=
  match phase with
  | .uncountsCANFrame _ => 1
  | _ => 0

-- How many elements have been counted and are not in the buffer.

def signalsInFlight (s : Pipeline V) : Nat :=
  (s.sources.map (·.signals.inFlight)).sum + s.phase.poppedSignals

def rawFramesInFlight (s : Pipeline V) : Nat :=
  (s.sources.map (·.rawFrames.inFlight)).sum + s.phase.poppedCANFrames

structure Delivers (libraries : Libraries V) (connectivity : Nat → Connectivity)
    (engine : IoTFleetWiseEngine V) (interval : Nat) (s : Pipeline V)
    : Prop where
  accepted : s.accepted.Sublist s.offered
  sent : s.accepted = sentData s.thread.uploads ++ s.mCollectedDataReadyToPublish.elements
  thread : s.thread.Consistent libraries connectivity engine interval
  informed : s.thread.Informed s.mCollectedDataReadyToPublish ∨ s.phase = .notifies
  signals : s.mSignalBuffer.Counts s.signalsInFlight
  rawFrames : s.mCANBuffer.Counts s.rawFramesInFlight

namespace Delivers

theorem start (config : Config) (mRandomNumbers : Nat → V) (engine : IoTFleetWiseEngine V)
    : (Pipeline.start config mRandomNumbers engine).Delivers libraries connectivity engine
        config.persistencyUploadRetryIntervalMs := by
  have hsources : ∀ (f : Source V → Nat), (∀ mDataSourceID, f { mDataSourceID } = 0) →
      ((Pipeline.start config mRandomNumbers engine).sources.map f).sum = 0 := by
    intro f hf
    apply TracedQueue.sum_map_eq_zero
    intro source hsource
    obtain ⟨mDataSourceID, _, heq⟩ := List.mem_map.mp hsource
    rw [← heq]
    exact hf mDataSourceID
  constructor
  . exact List.Sublist.refl []
  . rfl
  . exact ⟨rfl, rfl, Or.inl ⟨rfl, rfl⟩, fun timeoutMs hwaits => by cases hwaits⟩
  . exact Or.inl (Or.inr (Or.inl rfl))
  . unfold signalsInFlight
    rw [hsources _ fun _ => rfl]
    exact TracedQueue.Counts.new _
  . unfold rawFramesInFlight
    rw [hsources _ fun _ => rfl]
    exact TracedQueue.Counts.new _

theorem withSources (h : s.Delivers libraries connectivity engine interval) {s' : Pipeline V}
    (hframe : s'.accepted = s.accepted ∧ s'.offered = s.offered ∧ s'.thread = s.thread
      ∧ s'.mCollectedDataReadyToPublish = s.mCollectedDataReadyToPublish)
    (hphase : s.phase = .notifies → s'.phase = .notifies)
    (hsignals : s'.mSignalBuffer.Counts s'.signalsInFlight)
    (hrawFrames : s'.mCANBuffer.Counts s'.rawFramesInFlight)
    : s'.Delivers libraries connectivity engine interval := by
  obtain ⟨haccepted, hoffered, hthread, hqueue⟩ := hframe
  constructor
  . rw [haccepted, hoffered]
    exact h.accepted
  . rw [haccepted, hthread, hqueue]
    exact h.sent
  . rw [hthread]
    exact h.thread
  . rw [hthread, hqueue]
    exact h.informed.imp_right hphase
  . exact hsignals
  . exact hrawFrames

section Sources

variable {k : Nat} {source source' : Source V}

theorem inFlight_set (hsource : s.sources[k]? = some source) (f : Source V → Nat)
    (hsame : f source' = f source)
    : ((s.sources.set k source').map f).sum = (s.sources.map f).sum := by
  have ⟨others, hbefore, hafter⟩ := TracedQueue.sum_map_set f hsource source'
  rw [hbefore, hafter, hsame]

theorem respond (h : s.Delivers libraries connectivity engine interval) (k : Nat)
    (signals : List (CollectedSignal V))
    : (s.respond k signals).Delivers libraries connectivity engine interval := by
  unfold Pipeline.respond
  split
  . exact h
  . rename_i source hsource
    split
    . rename_i hidle
      unfold Source.idle at hidle
      rw [Bool.and_eq_true] at hidle
      refine h.withSources ⟨rfl, rfl, rfl, rfl⟩ id ?_ ?_
      . unfold signalsInFlight
        rw [inFlight_set hsource]
        . exact h.signals
        . rw [Producer.inFlight_ready, Producer.inFlight_of_idle hidle.2]
      . unfold rawFramesInFlight
        rw [inFlight_set hsource]
        . exact h.rawFrames
        . rfl
    . exact h

theorem produce (h : s.Delivers libraries connectivity engine interval) (k : Nat)
    : (s.produce k).Delivers libraries connectivity engine interval := by
  unfold Pipeline.produce
  split
  . exact h
  . rename_i source hsource
    split
    . refine h.withSources ⟨rfl, rfl, rfl, rfl⟩ id ?_ ?_
      . have ⟨others, hbefore, hafter⟩ := TracedQueue.sum_map_set (fun source : Source V => source.signals.inFlight)
          hsource { source with signals := (s.mSignalBuffer.offer source.signals).2 }
        have hcounts := h.signals
        unfold signalsInFlight at hcounts ⊢
        rw [hbefore, Nat.add_assoc] at hcounts
        dsimp only
        rw [hafter, Nat.add_assoc]
        exact hcounts.offer
      . unfold rawFramesInFlight
        rw [inFlight_set hsource]
        . exact h.rawFrames
        . rfl
    . refine h.withSources ⟨rfl, rfl, rfl, rfl⟩ id ?_ ?_
      . unfold signalsInFlight
        rw [inFlight_set hsource]
        . exact h.signals
        . rfl
      . have ⟨others, hbefore, hafter⟩ := TracedQueue.sum_map_set (fun source : Source V => source.rawFrames.inFlight)
          hsource { source with rawFrames := (s.mCANBuffer.offer source.rawFrames).2 }
        have hcounts := h.rawFrames
        unfold rawFramesInFlight at hcounts ⊢
        rw [hbefore, Nat.add_assoc] at hcounts
        dsimp only
        rw [hafter, Nat.add_assoc]
        exact hcounts.offer

end Sources

variable [CANSignalValue V]

theorem consume (h : s.Delivers libraries connectivity engine interval) (k : Nat)
    (dictionary : CANDecoderDictionary V) (message : VehicleDataMessage) (behind : Nat → UInt8)
    : (s.consume k dictionary message behind).Delivers libraries connectivity engine interval := by
  unfold Pipeline.consume
  split
  . exact h
  . rename_i source hsource
    split
    . rename_i hidle
      unfold Source.idle at hidle
      rw [Bool.and_eq_true] at hidle
      refine h.withSources ⟨rfl, rfl, rfl, rfl⟩ id ?_ ?_
      . unfold signalsInFlight
        rw [inFlight_set hsource]
        . exact h.signals
        . rw [Producer.inFlight_ready, Producer.inFlight_of_idle hidle.2]
      . unfold rawFramesInFlight
        rw [inFlight_set hsource]
        . exact h.rawFrames
        . rw [Producer.inFlight_ready, Producer.inFlight_of_idle hidle.1]
    . exact h

theorem pushes (h : s.Delivers libraries connectivity engine interval)
    {collectedData : TriggeredCollectionSchemeData V} (hphase : s.phase = .pushes collectedData)
    (input : PassInput V)
    : (s.inspect input).Delivers libraries connectivity engine interval := by
  have hsignals := h.signals
  have hrawFrames := h.rawFrames
  unfold signalsInFlight at hsignals
  unfold rawFramesInFlight at hrawFrames
  rw [hphase] at hsignals hrawFrames
  unfold Pipeline.inspect
  rw [hphase]
  dsimp only
  cases hpush : (s.mCollectedDataReadyToPublish.push collectedData).2 with
  | true =>
    constructor
    . rw [if_pos rfl]
      exact h.accepted.append (List.Sublist.refl [collectedData])
    . dsimp only
      rw [if_pos rfl, BoundedQueue.elements_push_accepted hpush, h.sent, List.append_assoc]
    . exact h.thread
    . exact Or.inr rfl
    . exact hsignals
    . exact hrawFrames
  | false =>
    have hsame := (BoundedQueue.elements_push_full hpush).1
    constructor
    . exact h.accepted.trans (List.sublist_append_left s.offered [collectedData])
    . dsimp only
      rw [hsame]
      exact h.sent
    . exact h.thread
    . apply Or.inl
      dsimp only
      rw [hsame]
      apply h.informed.resolve_right
      rw [hphase]
      simp
    . exact hsignals
    . exact hrawFrames

theorem inspect (h : s.Delivers libraries connectivity engine interval) (input : PassInput V)
    : (s.inspect input).Delivers libraries connectivity engine interval := by
  have hsignals := h.signals
  have hrawFrames := h.rawFrames
  unfold signalsInFlight at hsignals
  unfold rawFramesInFlight at hrawFrames
  have hother {phase : InspectionPhase V} {s' : Pipeline V} (hphase : s.phase = phase)
      (hnot : phase ≠ .notifies)
      (hframe : s'.accepted = s.accepted ∧ s'.offered = s.offered ∧ s'.thread = s.thread
        ∧ s'.mCollectedDataReadyToPublish = s.mCollectedDataReadyToPublish)
      (hcounts : s'.mSignalBuffer.Counts s'.signalsInFlight ∧ s'.mCANBuffer.Counts s'.rawFramesInFlight)
      : s'.Delivers libraries connectivity engine interval :=
    h.withSources hframe (fun heq => absurd (hphase.symm.trans heq) hnot) hcounts.1 hcounts.2
  cases hphase : s.phase with
  | pushes collectedData => exact h.pushes hphase input
  | notifies =>
    rw [hphase] at hsignals hrawFrames
    unfold Pipeline.inspect
    rw [hphase]
    constructor
    . exact h.accepted
    . exact h.sent
    . exact h.thread.onDataReadyToPublish
    . exact Or.inl (Or.inr (Or.inr rfl))
    . exact hsignals
    . exact hrawFrames
  | popsSignal =>
    rw [hphase] at hsignals hrawFrames
    unfold Pipeline.inspect
    rw [hphase]
    dsimp only
    cases hpop : s.mSignalBuffer.pop with
    | none => exact hother hphase (by simp) ⟨rfl, rfl, rfl, rfl⟩ ⟨hsignals, hrawFrames⟩
    | some popped => exact hother hphase (by simp) ⟨rfl, rfl, rfl, rfl⟩ ⟨hsignals.pop hpop, hrawFrames⟩
  | uncountsSignal inputSignal =>
    rw [hphase] at hsignals hrawFrames
    unfold Pipeline.inspect
    rw [hphase]
    exact hother hphase (by simp) ⟨rfl, rfl, rfl, rfl⟩ ⟨hsignals.uncount, hrawFrames⟩
  | popsCANFrame =>
    rw [hphase] at hsignals hrawFrames
    unfold Pipeline.inspect
    rw [hphase]
    dsimp only
    cases hpop : s.mCANBuffer.pop with
    | none => exact hother hphase (by simp) ⟨rfl, rfl, rfl, rfl⟩ ⟨hsignals, hrawFrames⟩
    | some popped => exact hother hphase (by simp) ⟨rfl, rfl, rfl, rfl⟩ ⟨hsignals, hrawFrames.pop hpop⟩
  | uncountsCANFrame inputCANFrame =>
    rw [hphase] at hsignals hrawFrames
    unfold Pipeline.inspect
    rw [hphase]
    exact hother hphase (by simp) ⟨rfl, rfl, rfl, rfl⟩ ⟨hsignals, hrawFrames.uncount⟩
  | begins =>
    rw [hphase] at hsignals hrawFrames
    unfold Pipeline.inspect
    rw [hphase]
    dsimp only
    refine hother hphase (by simp) ⟨rfl, rfl, rfl, rfl⟩ ?_
    split <;> exact ⟨hsignals, hrawFrames⟩
  | checksMatrix =>
    rw [hphase] at hsignals hrawFrames
    unfold Pipeline.inspect
    rw [hphase]
    dsimp only
    cases s.inspection.worker.fUpdatedInspectionMatrix with
    | none => exact hother hphase (by simp) ⟨rfl, rfl, rfl, rfl⟩ ⟨hsignals, hrawFrames⟩
    | some matrix => exact hother hphase (by simp) ⟨rfl, rfl, rfl, rfl⟩ ⟨hsignals, hrawFrames⟩
  | popsActiveDTCs =>
    rw [hphase] at hsignals hrawFrames
    unfold Pipeline.inspect
    rw [hphase]
    dsimp only
    cases s.mActiveDTCBuffer.pop with
    | none => exact hother hphase (by simp) ⟨rfl, rfl, rfl, rfl⟩ ⟨hsignals, hrawFrames⟩
    | some popped => exact hother hphase (by simp) ⟨rfl, rfl, rfl, rfl⟩ ⟨hsignals, hrawFrames⟩
  | collects =>
    rw [hphase] at hsignals hrawFrames
    unfold Pipeline.inspect
    rw [hphase]
    dsimp only
    refine hother hphase (by simp) ⟨rfl, rfl, rfl, rfl⟩ ?_
    unfold signalsInFlight rawFramesInFlight
    dsimp only
    split
    . split <;> exact ⟨hsignals, hrawFrames⟩
    . split
      . split <;> exact ⟨hsignals, hrawFrames⟩
      . exact ⟨hsignals, hrawFrames⟩
  | checksStop =>
    rw [hphase] at hsignals hrawFrames
    unfold Pipeline.inspect
    rw [hphase]
    dsimp only
    refine hother hphase (by simp) ⟨rfl, rfl, rfl, rfl⟩ ?_
    split <;> exact ⟨hsignals, hrawFrames⟩
  | ended =>
    unfold Pipeline.inspect
    rw [hphase]
    exact h
  | _ =>
    rw [hphase] at hsignals hrawFrames
    unfold Pipeline.inspect
    rw [hphase]
    exact hother hphase (by simp) ⟨rfl, rfl, rfl, rfl⟩ ⟨hsignals, hrawFrames⟩

theorem upload (h : s.Delivers libraries connectivity engine interval) (action : EngineAction)
    : (s.step libraries connectivity (.upload action)).Delivers libraries connectivity engine interval := by
  constructor
  . exact h.accepted
  . exact h.sent.trans (EngineThread.act_queue s.thread s.mCollectedDataReadyToPublish action).symm
  . exact h.thread.act s.mCollectedDataReadyToPublish action
  . cases h.informed with
    | inl hinformed => exact Or.inl (hinformed.act action)
    | inr hnotifies => exact Or.inr hnotifies
  . exact h.signals
  . exact h.rawFrames

theorem step (h : s.Delivers libraries connectivity engine interval) (event : Event V)
    : (s.step libraries connectivity event).Delivers libraries connectivity engine interval := by
  cases event with
  | consume k dictionary message behind => exact h.consume k dictionary message behind
  | respond k signals => exact h.respond k signals
  | produce k => exact h.produce k
  | report activeDTCs => exact h.withSources ⟨rfl, rfl, rfl, rfl⟩ id h.signals h.rawFrames
  | onChangeInspectionMatrix activeConditions =>
    exact h.withSources ⟨rfl, rfl, rfl, rfl⟩ id h.signals h.rawFrames
  | inspect input => exact h.inspect input
  | upload action => exact h.upload action

theorem run (h : s.Delivers libraries connectivity engine interval) (events : List (Event V))
    : (s.run libraries connectivity events).Delivers libraries connectivity engine interval := by
  induction events generalizing s with
  | nil => exact h
  | cons event events ih => exact ih (h.step event)

end Delivers

variable [CANSignalValue V]

section Drain

def drain (n : Nat) : List (Event V) := List.replicate (n + 1) (.upload .consume)

theorem run_drain (libraries : Libraries V) (connectivity : Nat → Connectivity) (n : Nat) (s : Pipeline V)
    (hphase : s.thread.phase = .consumes)
    (hlength : s.mCollectedDataReadyToPublish.elements.length = n)
    : (s.run libraries connectivity (drain n)).mCollectedDataReadyToPublish.elements = []
        ∧
      (s.run libraries connectivity (drain n)).accepted = s.accepted := by
  induction n generalizing s with
  | zero =>
    have hpop : s.mCollectedDataReadyToPublish.pop = none :=
      BoundedQueue.pop_eq_none.mpr (List.length_eq_zero_iff.mp hlength)
    unfold drain run
    rw [List.replicate_succ, List.foldl_cons]
    unfold Pipeline.step EngineThread.act EngineThread.consume
    dsimp only
    rw [hphase, hpop]
    exact ⟨List.length_eq_zero_iff.mp hlength, rfl⟩
  | succ n ih =>
    cases hpop : s.mCollectedDataReadyToPublish.pop with
    | none =>
      rw [BoundedQueue.pop_eq_none.mp hpop] at hlength
      cases hlength
    | some popped =>
      have ⟨data, queue⟩ := popped
      have helements := (BoundedQueue.elements_pop hpop).1
      have hstep : (s.step libraries connectivity (.upload .consume)).thread.phase = .consumes
          ∧ (s.step libraries connectivity (.upload .consume)).mCollectedDataReadyToPublish = queue
          ∧ (s.step libraries connectivity (.upload .consume)).accepted = s.accepted := by
        unfold Pipeline.step EngineThread.act EngineThread.consume
        dsimp only
        rw [hphase, hpop]
        exact ⟨rfl, rfl, rfl⟩
      have hrest : queue.elements.length = n := by
        rw [helements, List.length_cons] at hlength
        omega
      have hih := ih (s.step libraries connectivity (.upload .consume)) hstep.1 (by rw [hstep.2.1]; exact hrest)
      rw [hstep.2.2] at hih
      exact hih

end Drain

/--
Whatever the order of the steps of the consumers, of the OBD thread, of the inspection thread and of the engine
thread: what the queue has accepted is sent in order and once, the engine is what these sends and the attempts
to send stored data make of it, a thread that waits does so for a limited time and with data in the queue only
while a notification is set or on its way, its next pass sends all that is in the queue, and the counters hold
what is in the buffers, what the producers have counted and what the inspection thread has popped and not taken
back.
-/
theorem delivery (config : Config) (mRandomNumbers : Nat → V) (engine : IoTFleetWiseEngine V)
    (events : List (Event V))
    : let s := (start config mRandomNumbers engine).run libraries connectivity events
      (s.accepted.Sublist s.offered
        ∧ s.accepted = sentData s.thread.uploads ++ s.mCollectedDataReadyToPublish.elements
        ∧ s.thread.engine = engine.run libraries connectivity s.thread.uploads)
        ∧
      (∀ timeoutMs, s.thread.phase = .waits timeoutMs →
        (∃ ms, timeoutMs = some ms ∧ 100 ≤ ms ∧ ms ≤ max 1000 config.persistencyUploadRetryIntervalMs)
          ∧ (s.mCollectedDataReadyToPublish.elements ≠ [] → s.thread.mWait.mNotify = true ∨ s.phase = .notifies)
          ∧ sentData (s.run libraries connectivity (.upload .wake
              :: drain s.mCollectedDataReadyToPublish.elements.length)).thread.uploads = s.accepted)
        ∧
      s.mSignalBuffer.Counts s.signalsInFlight ∧ s.mCANBuffer.Counts s.rawFramesInFlight := by
  intro s
  have h : s.Delivers libraries connectivity engine config.persistencyUploadRetryIntervalMs :=
    (Delivers.start config mRandomNumbers engine).run events
  refine ⟨⟨h.accepted, h.sent, h.thread.uploads⟩, ?_, h.signals, h.rawFrames⟩
  intro timeoutMs hphase
  have htimeout := h.thread.waits timeoutMs hphase
  have hbounded : EngineThread.Bounded config.persistencyUploadRetryIntervalMs s.thread.timeTrigger := by
    rcases h.thread.timeTrigger with ⟨hbegins, _⟩ | hbounded
    . rw [hphase] at hbegins
      cases hbegins
    . exact hbounded
  refine ⟨⟨s.thread.timeTrigger, htimeout, hbounded⟩, ?_, ?_⟩
  . intro hnonempty
    rcases h.informed with (hconsumes | hempty | hset) | hnotifies
    . rw [hphase] at hconsumes
      cases hconsumes
    . exact absurd hempty hnonempty
    . exact Or.inl hset
    . exact Or.inr hnotifies
  . have hwoken : (s.step libraries connectivity (.upload .wake)).thread.phase = .consumes
        ∧ (s.step libraries connectivity (.upload .wake)).mCollectedDataReadyToPublish
            = s.mCollectedDataReadyToPublish
        ∧ (s.step libraries connectivity (.upload .wake)).accepted = s.accepted := by
      unfold Pipeline.step EngineThread.act EngineThread.wake
      dsimp only
      rw [hphase, htimeout]
      exact ⟨rfl, rfl, rfl⟩
    have ⟨hempty, haccepted⟩ := run_drain libraries connectivity
      s.mCollectedDataReadyToPublish.elements.length _ hwoken.1 (by rw [hwoken.2.1])
    have hlater := ((h.step (.upload .wake)).run
      (drain s.mCollectedDataReadyToPublish.elements.length)).sent
    rw [hempty, List.append_nil, haccepted, hwoken.2.2] at hlater
    exact hlater.symm

end Pipeline
