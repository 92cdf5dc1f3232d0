import FleetWiseEdge.Upload.Impl.EngineThread

namespace ExecutionManagement

open DataInspection DataManagement OffboardConnectivity

def IoTFleetWiseEngine.UploadEvent.sent? {V : Type} (event : IoTFleetWiseEngine.UploadEvent V)
    : Option (TriggeredCollectionSchemeData V) :=
  match event with
  | .send data => some data
  | _ => none

def sentData {V : Type} (uploads : List (IoTFleetWiseEngine.UploadEvent V))
    : List (TriggeredCollectionSchemeData V) :=
  uploads.filterMap IoTFleetWiseEngine.UploadEvent.sent?

namespace EngineThread

variable {V : Type} {libraries : Libraries V} {connectivity : Nat → Connectivity}
variable {engine : IoTFleetWiseEngine V} {thread : EngineThread V}
variable {queue : BoundedQueue (TriggeredCollectionSchemeData V)}

def Bounded (interval timeoutMs : Nat) : Prop := 100 ≤ timeoutMs ∧ timeoutMs ≤ max 1000 interval

structure Consistent (libraries : Libraries V) (connectivity : Nat → Connectivity)
    (engine : IoTFleetWiseEngine V) (interval : Nat) (thread : EngineThread V)
    : Prop where
  uploads : thread.engine = engine.run libraries connectivity thread.uploads
  configured : thread.mPersistencyUploadRetryIntervalMs = interval
  -- before the first wait there is nothing in `timeTrigger`
  timeTrigger
    : thread.phase = .begins ∧ thread.uploadedPersistedDataOnce = false ∨ Bounded interval thread.timeTrigger
  waits : ∀ timeoutMs, thread.phase = .waits timeoutMs → timeoutMs = some thread.timeTrigger

namespace Consistent

variable {interval : Nat}

theorem run_append (engine : IoTFleetWiseEngine V) (uploads : List (IoTFleetWiseEngine.UploadEvent V))
    (event : IoTFleetWiseEngine.UploadEvent V)
    : engine.run libraries connectivity (uploads ++ [event])
        =
      (engine.run libraries connectivity uploads).step libraries connectivity event := by
  unfold IoTFleetWiseEngine.run
  rw [List.foldl_append]
  rfl

theorem computeWait (h : thread.Consistent libraries connectivity engine interval) (elapsedMs : Nat)
    : (thread.computeWait elapsedMs).Consistent libraries connectivity engine interval := by
  have hbounded : Bounded interval (thread.computeWait elapsedMs).timeTrigger := by
    unfold EngineThread.computeWait
    rw [h.configured]
    dsimp only
    split
    . unfold Bounded FAST_RETRY_UPLOAD_PERSISTED_INTERVAL_MS
      omega
    . rename_i huploaded
      split
      . unfold Bounded FAST_RETRY_UPLOAD_PERSISTED_INTERVAL_MS
        omega
      . rcases h.timeTrigger with ⟨_, hnot⟩ | hbounded
        . rw [hnot] at huploaded
          exact absurd rfl huploaded
        . exact hbounded
  constructor
  . exact h.uploads
  . exact h.configured
  . exact Or.inr hbounded
  . intro timeoutMs hphase
    have hpositive : (thread.computeWait elapsedMs).timeTrigger > 0 := Nat.lt_of_lt_of_le (by decide) hbounded.1
    have htimeout : some (thread.computeWait elapsedMs).timeTrigger = timeoutMs := by
      have hwaits : EnginePhase.waits (if (thread.computeWait elapsedMs).timeTrigger > 0 then
          some (thread.computeWait elapsedMs).timeTrigger else none) = .waits timeoutMs := hphase
      rw [if_pos hpositive, EnginePhase.waits.injEq] at hwaits
      exact hwaits
    exact htimeout.symm

theorem moveOn (h : thread.Consistent libraries connectivity engine interval) {phase : EnginePhase}
    {mWait : Platform.Signal} (hwaits : ∀ timeoutMs, phase ≠ .waits timeoutMs)
    (hbegun : thread.phase ≠ .begins)
    : { thread with mWait, phase }.Consistent libraries connectivity engine interval := by
  constructor
  . exact h.uploads
  . exact h.configured
  . rcases h.timeTrigger with ⟨hbegins, _⟩ | hbounded
    . exact absurd hbegins hbegun
    . exact Or.inr hbounded
  . intro timeoutMs hphase
    exact absurd hphase (hwaits timeoutMs)

theorem act (h : thread.Consistent libraries connectivity engine interval)
    (queue : BoundedQueue (TriggeredCollectionSchemeData V)) (action : EngineAction)
    : (thread.act libraries connectivity queue action).1.Consistent libraries connectivity engine interval := by
  unfold EngineThread.act
  split
  . exact h.computeWait _
  . rename_i timeoutMs hphase
    unfold EngineThread.wake
    split
    . exact h.moveOn (by simp) (by simp [hphase])
    . split
      . exact h
      . exact h.moveOn (by simp) (by simp [hphase])
  . rename_i hphase
    unfold EngineThread.consume
    split
    . exact h.moveOn (by simp) (by simp [hphase])
    . constructor
      . dsimp only
        rw [run_append, h.uploads]
      . exact h.configured
      . rcases h.timeTrigger with ⟨hbegins, _⟩ | hbounded
        . rw [hphase] at hbegins
          cases hbegins
        . exact Or.inr hbounded
      . intro timeoutMs hwaits
        rw [hphase] at hwaits
        cases hwaits
  . rename_i elapsedMs elapsedMs' isAlive memory hphase
    have hbegun : thread.phase ≠ .begins := by simp [hphase]
    have hbounded : Bounded interval thread.timeTrigger := by
      rcases h.timeTrigger with ⟨hbegins, _⟩ | hbounded
      . exact absurd hbegins hbegun
      . exact hbounded
    unfold EngineThread.retry
    split
    . constructor
      . dsimp only
        rw [run_append, ← h.uploads]
        rfl
      . exact h.configured
      . exact Or.inr hbounded
      . intro timeoutMs hwaits
        cases hwaits
    . exact h.moveOn (by simp) hbegun
  . exact h

theorem onDataReadyToPublish (h : thread.Consistent libraries connectivity engine interval)
    : thread.onDataReadyToPublish.Consistent libraries connectivity engine interval :=
  ⟨h.uploads, h.configured, h.timeTrigger, h.waits⟩

end Consistent

section Queue

theorem act_queue (thread : EngineThread V) (queue : BoundedQueue (TriggeredCollectionSchemeData V))
    (action : EngineAction)
    : sentData (thread.act libraries connectivity queue action).1.uploads
          ++ (thread.act libraries connectivity queue action).2.elements
        =
      sentData thread.uploads ++ queue.elements := by
  unfold EngineThread.act
  split
  . rfl
  . unfold EngineThread.wake
    split
    . rfl
    . split
      . rfl
      . rfl
  . unfold EngineThread.consume
    split
    . rfl
    . rename_i data rest hpop
      have helements := (BoundedQueue.elements_pop hpop).1
      unfold sentData
      rw [List.filterMap_append, helements, List.append_assoc]
      rfl
  . rename_i elapsedMs elapsedMs' isAlive memory hphase
    unfold EngineThread.retry
    split
    . unfold sentData
      rw [List.filterMap_append]
      simp [IoTFleetWiseEngine.UploadEvent.sent?]
    . rfl
  . rfl

/--
Nobody has to notify the thread of what is in the queue: it is at the queue, or the signal is set.
-/
def Informed (thread : EngineThread V) (queue : BoundedQueue (TriggeredCollectionSchemeData V)) : Prop :=
  thread.phase = .consumes ∨ queue.elements = [] ∨ thread.mWait.mNotify = true

theorem Informed.act (h : thread.Informed queue) (action : EngineAction)
    : (thread.act libraries connectivity queue action).1.Informed
        (thread.act libraries connectivity queue action).2 := by
  unfold EngineThread.act
  split
  . rename_i hphase
    cases h with
    | inl hconsumes =>
      rw [hphase] at hconsumes
      cases hconsumes
    | inr hrest => exact Or.inr hrest
  . rename_i hphase
    unfold EngineThread.wake
    split
    . exact Or.inl rfl
    . split
      . exact h
      . exact Or.inl rfl
  . rename_i hphase
    unfold EngineThread.consume
    split
    . rename_i hpop
      exact Or.inr (Or.inl (BoundedQueue.pop_eq_none.mp hpop))
    . exact Or.inl hphase
  . rename_i hphase
    have hrest : queue.elements = [] ∨ thread.mWait.mNotify = true := by
      cases h with
      | inl hconsumes =>
        rw [hphase] at hconsumes
        cases hconsumes
      | inr hrest => exact hrest
    unfold EngineThread.retry
    split
    . exact Or.inr hrest
    . exact Or.inr hrest
  . exact h

end Queue

end EngineThread

end ExecutionManagement
