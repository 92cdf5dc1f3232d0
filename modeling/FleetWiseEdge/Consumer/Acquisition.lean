import FleetWiseEdge.Consumer.Impl.CANDataSource
import FleetWiseEdge.Lib.Machine

/-!
This module contains what becomes of the frames of a CAN socket in every order of the steps, and that a data
source that is suspended rests, one that is resumed wakes up and one that is stopped ends.
-/

namespace VehicleNetwork

open Cpp DataInspection

def HandledFrame.pushed? (h : HandledFrame) : Option VehicleDataMessage :=
  if h.outcome = .pushed then some (h.frame.message h.timestamp) else none

def HandledFrame.Sound (h : HandledFrame) : Prop :=
  match h.outcome with
  | .ignored => h.timestamp < h.mResumeTime
  | .invalid => h.frame.rawData = []
  | _ => h.frame.rawData ≠ []

def SourceWorker.atSleep (worker : SourceWorker) : Prop := worker = .checkSleep ∨ worker = .sleeping

def SourceWorker.stopRank (worker : SourceWorker) : Nat :=
  match worker with
  | .checkSleep => 25
  | .sleeping => 24
  | .receive => 23
  | .extract frames => 2 * frames.length + 2
  | .handle _ _ frames => 2 * frames.length + 3
  | .idle => 2
  | .checkStop => 1
  | .finished => 0

-- The number of steps until a suspended thread sleeps. A notification makes it pass the loop once more.
def SourceWorker.restRank (worker : SourceWorker) (mNotify : Bool) : Nat :=
  let again := if mNotify then 30 else 0
  match worker with
  | .checkSleep => again + 1
  | .sleeping => again
  | .receive => again + 24
  | .extract frames => again + 2 * frames.length + 3
  | .handle _ _ frames => again + 2 * frames.length + 4
  | .idle => again + 3
  | .checkStop => again + 2
  | .finished => 0

def SourceWorker.restFrames (worker : SourceWorker) : Nat :=
  match worker with
  | .receive => PARALLEL_RECEIVED_FRAMES_FROM_KERNEL
  | .extract frames => frames.length
  | .handle _ _ frames => frames.length + 1
  | _ => 0

def SourceEvent.isWork (event : SourceEvent) : Bool :=
  match event with
  | .work _ => true
  | _ => false

def SourceEvent.isQuiet (event : SourceEvent) : Bool :=
  match event with
  | .arrive _ | .work _ | .pop => true
  | _ => false

namespace CANDataSource

variable {source : CANDataSource}

section Acquisition

structure Acquires (source : CANDataSource) : Prop where
  arrived : source.arrived = source.handled.map (·.frame) ++ source.worker.taken ++ source.mSocket
  pushed : source.popped ++ source.mCircularBuffPtr.elements = source.handled.filterMap (·.pushed?)
  received : source.receivedMessages = u64 (source.handled.countP (·.outcome ≠ .ignored))
  discarded : source.discardedMessages = u64 (source.handled.countP (·.outcome = .discarded))
  sound : ∀ h ∈ source.handled, h.Sound
  wakes
    : ∀ wake ∈ source.wakes,
        wake.2 ≤ source.handled.length + source.worker.taken.length + source.mSocket.length
  drains : ∀ wake ∈ source.wakes, source.handled.length < wake.2 → source.wokeUpFromSleep = true
  drained : source.worker = .idle → ∀ wake ∈ source.wakes, wake.2 ≤ source.handled.length
  checked
    : ∀ wake ∈ source.wakes, ∀ i h, wake.1 ≤ i → i < wake.2 → source.handled[i]? = some h →
        h.timestamp < h.mResumeTime → h.outcome = .ignored

namespace Acquires

theorem start (mTimestampTypeToUse : CAN_TIMESTAMP_TYPE) (maxNumberOfVehicleDataMessages : Nat)
    : (CANDataSource.start mTimestampTypeToUse maxNumberOfVehicleDataMessages).Acquires := by
  constructor
  . rfl
  . rfl
  . rfl
  . rfl
  . exact fun h hmem => by cases hmem
  . exact fun wake hmem => by cases hmem
  . exact fun wake hmem => by cases hmem
  . exact fun _ wake hmem => by cases hmem
  . exact fun wake hmem => by cases hmem

theorem congr {source' : CANDataSource} (h : source.Acquires)
    (hframe : source'.arrived = source.arrived ∧ source'.handled = source.handled
      ∧ source'.mSocket = source.mSocket ∧ source'.popped = source.popped
      ∧ source'.mCircularBuffPtr = source.mCircularBuffPtr ∧ source'.receivedMessages = source.receivedMessages
      ∧ source'.discardedMessages = source.discardedMessages ∧ source'.wakes = source.wakes)
    (htaken : source'.worker.taken = source.worker.taken)
    (hwoke : source'.wokeUpFromSleep = source.wokeUpFromSleep ∨ source.worker = .idle)
    (hidle : source'.worker = .idle → source.worker = .idle)
    : source'.Acquires := by
  have ⟨harrived, hhandled, hsocket, hpopped, hqueue, hreceived, hdiscarded, hwakes⟩ := hframe
  constructor
  . rw [harrived, hhandled, hsocket, htaken]
    exact h.arrived
  . rw [hpopped, hqueue, hhandled]
    exact h.pushed
  . rw [hreceived, hhandled]
    exact h.received
  . rw [hdiscarded, hhandled]
    exact h.discarded
  . rw [hhandled]
    exact h.sound
  . rw [hwakes, hhandled, htaken, hsocket]
    exact h.wakes
  . rw [hwakes, hhandled]
    intro wake hwake hlt
    cases hwoke with
    | inl hsame =>
      rw [hsame]
      exact h.drains wake hwake hlt
    | inr hworker =>
      have := h.drained hworker wake hwake
      omega
  . rw [hwakes, hhandled]
    exact fun hworker => h.drained (hidle hworker)
  . rw [hwakes, hhandled]
    exact h.checked

theorem invoke (h : source.Acquires) (call : SourceCall) : (source.invoke call).Acquires :=
  h.congr ⟨rfl, rfl, rfl, rfl, rfl, rfl, rfl, rfl⟩ rfl (Or.inl rfl) id

theorem callStep (h : source.Acquires) (i now : Nat) : (source.callStep i now).Acquires := by
  unfold CANDataSource.callStep
  cases source.calls[i]? with
  | none => exact h
  | some call =>
    cases call with
    | resumeTime => exact h.congr ⟨rfl, rfl, rfl, rfl, rfl, rfl, rfl, rfl⟩ rfl (Or.inl rfl) id
    | resumeSleep => exact h.congr ⟨rfl, rfl, rfl, rfl, rfl, rfl, rfl, rfl⟩ rfl (Or.inl rfl) id
    | resumeNotify => exact h.congr ⟨rfl, rfl, rfl, rfl, rfl, rfl, rfl, rfl⟩ rfl (Or.inl rfl) id
    | suspendSleep => exact h.congr ⟨rfl, rfl, rfl, rfl, rfl, rfl, rfl, rfl⟩ rfl (Or.inl rfl) id
    | stopStore => exact h.congr ⟨rfl, rfl, rfl, rfl, rfl, rfl, rfl, rfl⟩ rfl (Or.inl rfl) id
    | stopNotify => exact h.congr ⟨rfl, rfl, rfl, rfl, rfl, rfl, rfl, rfl⟩ rfl (Or.inl rfl) id

theorem arrive (h : source.Acquires) (frame : ReceivedFrame) : (source.step (.arrive frame)).Acquires := by
  constructor
  . have harrived := h.arrived
    unfold CANDataSource.step
    dsimp only
    rw [harrived, List.append_assoc]
  . exact h.pushed
  . exact h.received
  . exact h.discarded
  . exact h.sound
  . intro wake hwake
    have hle := h.wakes wake hwake
    unfold CANDataSource.step
    dsimp only
    rw [List.length_append]
    omega
  . exact h.drains
  . exact h.drained
  . exact h.checked

theorem pop (h : source.Acquires) : (source.step .pop).Acquires := by
  unfold CANDataSource.step
  dsimp only
  cases hpop : source.mCircularBuffPtr.pop with
  | none => exact h
  | some popped =>
    obtain ⟨message, mCircularBuffPtr⟩ := popped
    refine ⟨h.arrived, ?_, h.received, h.discarded, h.sound, h.wakes, h.drains, h.drained, h.checked⟩
    have hpushed := h.pushed
    rw [(BoundedQueue.elements_pop hpop).1] at hpushed
    dsimp only
    rw [List.append_assoc]
    exact hpushed

theorem wake (h : source.Acquires) (hworker : source.worker = .sleeping) (mWait : Platform.Signal)
    : ({ source with
          mWait
          wokeUpFromSleep := true
          wakes := source.wakes ++ [(source.handled.length, source.handled.length + source.mSocket.length)]
          worker := .receive } : CANDataSource).Acquires := by
  constructor
  . have harrived := h.arrived
    rw [hworker] at harrived
    exact harrived
  . exact h.pushed
  . exact h.received
  . exact h.discarded
  . exact h.sound
  . intro wake hwake
    rw [List.mem_append, List.mem_singleton] at hwake
    cases hwake with
    | inl hold =>
      have hle := h.wakes wake hold
      rw [hworker] at hle
      exact hle
    | inr hnew =>
      rw [hnew]
      exact Nat.le_refl _
  . exact fun _ _ _ => rfl
  . exact fun hidle => by cases hidle
  . intro wake hwake i handled hfirst hlast hget
    rw [List.mem_append, List.mem_singleton] at hwake
    cases hwake with
    | inl hold => exact h.checked wake hold i handled hfirst hlast hget
    | inr hnew =>
      rw [hnew] at hfirst
      have hlt := (List.getElem?_eq_some_iff.mp hget).1
      dsimp only at hfirst hlt
      omega

theorem receive (h : source.Acquires) (hworker : source.worker = .receive) (now : Nat)
    : (source.work now).Acquires := by
  have harrived := h.arrived
  have hwakes := h.wakes
  rw [hworker] at harrived hwakes
  unfold work
  rw [hworker]
  dsimp only
  have hsplit : source.mSocket.take PARALLEL_RECEIVED_FRAMES_FROM_KERNEL
      ++ source.mSocket.drop PARALLEL_RECEIVED_FRAMES_FROM_KERNEL = source.mSocket := List.take_append_drop _ _
  cases hframes : source.mSocket.take PARALLEL_RECEIVED_FRAMES_FROM_KERNEL with
  | nil =>
    rw [hframes, List.nil_append] at hsplit
    have hempty : source.mSocket = [] := by
      rw [List.take_eq_nil_iff] at hframes
      cases hframes with
      | inl hzero => cases hzero
      | inr hnil => exact hnil
    dsimp only [List.isEmpty_nil]
    rw [if_pos rfl, hsplit]
    constructor
    . exact harrived
    . exact h.pushed
    . exact h.received
    . exact h.discarded
    . exact h.sound
    . exact hwakes
    . exact h.drains
    . intro _ wake hwake
      have hle := hwakes wake hwake
      rw [hempty] at hle
      exact hle
    . exact h.checked
  | cons frame frames =>
    dsimp only [List.isEmpty_cons]
    rw [if_neg (by simp)]
    rw [hframes] at hsplit
    constructor
    . rw [harrived]
      dsimp only [SourceWorker.taken]
      rw [List.append_nil, List.append_assoc, hsplit]
    . exact h.pushed
    . exact h.received
    . exact h.discarded
    . exact h.sound
    . intro wake hwake
      have hle := hwakes wake hwake
      have hlength := congrArg List.length hsplit
      rw [List.length_append] at hlength
      dsimp only [SourceWorker.taken] at hle ⊢
      rw [List.length_nil] at hle
      omega
    . exact h.drains
    . exact fun hidle => by cases hidle
    . exact h.checked

end Acquires

theorem handleFrame_spec (source : CANDataSource) (timestamp : Nat) (frame : ReceivedFrame)
    : ∃ outcome mCircularBuffPtr,
        source.handleFrame timestamp frame
          = { source with
              mCircularBuffPtr
              receivedMessages :=
                if outcome = .ignored then
                  source.receivedMessages
                else
                  u64 (source.receivedMessages + 1)
              discardedMessages :=
                if outcome = .discarded then
                  u64 (source.discardedMessages + 1)
                else
                  source.discardedMessages
              handled :=
                source.handled ++ [{ frame, timestamp, mResumeTime := source.mResumeTime, outcome }] }
        ∧ (source.wokeUpFromSleep = true → timestamp < source.mResumeTime → outcome = .ignored)
        ∧ HandledFrame.Sound { frame, timestamp, mResumeTime := source.mResumeTime, outcome }
        ∧ mCircularBuffPtr.elements
            = source.mCircularBuffPtr.elements
              ++ (HandledFrame.pushed? { frame, timestamp, mResumeTime := source.mResumeTime, outcome }).toList := by
  unfold handleFrame
  dsimp only
  by_cases hfresh : (!source.wokeUpFromSleep || decide (timestamp ≥ source.mResumeTime)) = true
  . rw [if_pos hfresh]
    have hnotOld : source.wokeUpFromSleep = true → ¬ timestamp < source.mResumeTime := by
      intro hwoke hlt
      rw [hwoke] at hfresh
      simp only [Bool.not_true, Bool.false_or, decide_eq_true_eq] at hfresh
      omega
    by_cases hempty : (frame.message timestamp).mRawData.isEmpty = true
    . rw [if_pos hempty]
      refine ⟨.invalid, source.mCircularBuffPtr, rfl, fun hwoke hlt => absurd hlt (hnotOld hwoke), ?_, ?_⟩
      . exact List.isEmpty_iff.mp hempty
      . exact (List.append_nil _).symm
    . rw [if_neg hempty]
      have hdata : frame.rawData ≠ [] := fun hnil => hempty (List.isEmpty_iff.mpr hnil)
      cases hpush : (source.mCircularBuffPtr.push (frame.message timestamp)).2 with
      | true =>
        rw [if_pos rfl]
        exact ⟨.pushed, _, rfl, fun hwoke hlt => absurd hlt (hnotOld hwoke), hdata,
          BoundedQueue.elements_push_accepted hpush⟩
      | false =>
        rw [if_neg (by simp)]
        refine ⟨.discarded, source.mCircularBuffPtr, rfl, fun hwoke hlt => absurd hlt (hnotOld hwoke), hdata, ?_⟩
        exact (List.append_nil _).symm
  . rw [if_neg hfresh]
    refine ⟨.ignored, source.mCircularBuffPtr, rfl, fun _ _ => rfl, ?_, (List.append_nil _).symm⟩
    rw [Bool.or_eq_true, not_or, decide_eq_true_eq] at hfresh
    exact Nat.lt_of_not_le hfresh.2

namespace Acquires

theorem handle (h : source.Acquires) {timestamp : Nat} {frame : ReceivedFrame} {frames : List ReceivedFrame}
    (hworker : source.worker = .handle timestamp frame frames)
    : ({ source.handleFrame timestamp frame with worker := afterFrame frames } : CANDataSource).Acquires := by
  obtain ⟨outcome, queue, heq, hold, hsound, hqueue⟩ := handleFrame_spec source timestamp frame
  have harrived := h.arrived
  have hwakes := h.wakes
  rw [hworker] at harrived hwakes
  have htaken : (afterFrame frames).taken = frames := by
    unfold afterFrame
    cases frames with
    | nil => rfl
    | cons next frames => rfl
  rw [heq]
  constructor
  . dsimp only
    rw [htaken, harrived, List.map_append, List.append_assoc, List.append_assoc, List.append_assoc]
    dsimp only [SourceWorker.taken]
    rw [List.map_singleton, List.singleton_append, List.cons_append]
  . dsimp only
    rw [hqueue, List.filterMap_append, ← h.pushed, List.append_assoc]
    rfl
  . dsimp only
    rw [List.countP_append, List.countP_singleton]
    by_cases hignored : outcome = .ignored
    . rw [if_pos hignored, if_neg (by simp [hignored])]
      exact h.received
    . rw [if_neg hignored, if_pos (by simp [hignored]), h.received]
      unfold u64
      omega
  . dsimp only
    rw [List.countP_append, List.countP_singleton]
    by_cases hdiscarded : outcome = .discarded
    . rw [if_pos hdiscarded, if_pos (by simp [hdiscarded]), h.discarded]
      unfold u64
      omega
    . rw [if_neg hdiscarded, if_neg (by simp [hdiscarded])]
      exact h.discarded
  . intro handled hmem
    dsimp only at hmem
    rw [List.mem_append, List.mem_singleton] at hmem
    cases hmem with
    | inl hmem => exact h.sound handled hmem
    | inr hnew =>
      rw [hnew]
      exact hsound
  . intro wake hwake
    have hle := hwakes wake hwake
    dsimp only [SourceWorker.taken] at hle
    dsimp only
    rw [htaken, List.length_append, List.length_singleton]
    rw [List.length_cons] at hle
    omega
  . intro wake hwake hlt
    dsimp only at hlt ⊢
    rw [List.length_append] at hlt
    exact h.drains wake hwake (by omega)
  . intro hidle
    unfold afterFrame at hidle
    dsimp only at hidle
    split at hidle
    . cases hidle
    . cases hidle
  . intro wake hwake i handled hfirst hlast hget hbefore
    dsimp only at hget
    by_cases hlt : i < source.handled.length
    . rw [List.getElem?_append_left hlt] at hget
      exact h.checked wake hwake i handled hfirst hlast hget hbefore
    . rw [List.getElem?_append_right (by omega)] at hget
      rw [List.getElem?_singleton] at hget
      split at hget
      . rename_i hi
        rw [Option.some_inj] at hget
        rw [← hget] at hbefore ⊢
        have hwoke := h.drains wake hwake (by omega)
        exact hold hwoke hbefore
      . cases hget

theorem work (h : source.Acquires) (now : Nat) : (source.work now).Acquires := by
  cases hworker : source.worker with
  | checkSleep =>
    unfold CANDataSource.work
    rw [hworker]
    refine h.congr ⟨rfl, rfl, rfl, rfl, rfl, rfl, rfl, rfl⟩ ?_ (Or.inl rfl) ?_
    . rw [hworker]
      dsimp only
      split <;> rfl
    . intro hidle
      dsimp only at hidle
      split at hidle
      . cases hidle
      . cases hidle
  | sleeping =>
    unfold CANDataSource.work
    rw [hworker]
    dsimp only
    cases source.mWait.waitWithPredicate with
    | none => exact h
    | some mWait => exact h.wake hworker mWait
  | receive => exact h.receive hworker now
  | extract frames =>
    cases frames with
    | nil =>
      unfold CANDataSource.work
      rw [hworker]
      refine h.congr ⟨rfl, rfl, rfl, rfl, rfl, rfl, rfl, rfl⟩ ?_ (Or.inl rfl) (fun hidle => by cases hidle)
      rw [hworker]
      rfl
    | cons frame frames =>
      unfold CANDataSource.work
      rw [hworker]
      refine h.congr ⟨rfl, rfl, rfl, rfl, rfl, rfl, rfl, rfl⟩ ?_ (Or.inl rfl) (fun hidle => by cases hidle)
      rw [hworker]
      rfl
  | handle timestamp frame frames =>
    unfold CANDataSource.work
    rw [hworker]
    exact h.handle hworker
  | idle =>
    unfold CANDataSource.work
    rw [hworker]
    refine h.congr ⟨rfl, rfl, rfl, rfl, rfl, rfl, rfl, rfl⟩ ?_ (Or.inr hworker) (fun hidle => by cases hidle)
    rw [hworker]
    rfl
  | checkStop =>
    unfold CANDataSource.work
    rw [hworker]
    refine h.congr ⟨rfl, rfl, rfl, rfl, rfl, rfl, rfl, rfl⟩ ?_ (Or.inl rfl) ?_
    . rw [hworker]
      dsimp only
      split <;> rfl
    . intro hidle
      dsimp only at hidle
      split at hidle
      . cases hidle
      . cases hidle
  | finished =>
    unfold CANDataSource.work
    rw [hworker]
    exact h

theorem step (h : source.Acquires) (event : SourceEvent) : (source.step event).Acquires := by
  cases event with
  | arrive frame => exact h.arrive frame
  | suspendDataAcquisition => exact h.invoke .suspendSleep
  | resumeDataAcquisition => exact h.invoke .resumeTime
  | stop => exact h.invoke .stopStore
  | call i now => exact h.callStep i now
  | work now => exact h.work now
  | pop => exact h.pop

theorem run (h : source.Acquires) (events : List SourceEvent) : (source.run events).Acquires := by
  induction events generalizing source with
  | nil => exact h
  | cons event events ih => exact ih (h.step event)

end Acquires

end Acquisition

section Control

inductive Moves (sleep stop : Bool) : SourceWorker × Bool × Nat → SourceWorker × Bool × Nat → Prop where
  | sleeps {notify n} (h : sleep = true) : Moves sleep stop (.checkSleep, notify, n) (.sleeping, notify, n)
  | passes {notify n} (h : sleep = false) : Moves sleep stop (.checkSleep, notify, n) (.receive, notify, n)
  | blocks {n} : Moves sleep stop (.sleeping, false, n) (.sleeping, false, n)
  | wakes {n} : Moves sleep stop (.sleeping, true, n) (.receive, false, n)
  | nothing {notify n} : Moves sleep stop (.receive, notify, n) (.idle, notify, n)
  | receives {notify n frames} (h : frames.length ≤ PARALLEL_RECEIVED_FRAMES_FROM_KERNEL)
    : Moves sleep stop (.receive, notify, n) (.extract frames, notify, n)
  | through {notify n} : Moves sleep stop (.extract [], notify, n) (.checkStop, notify, n)
  | extracts {notify n timestamp frame frames}
    : Moves sleep stop (.extract (frame :: frames), notify, n) (.handle timestamp frame frames, notify, n)
  | last {notify n timestamp frame}
    : Moves sleep stop (.handle timestamp frame [], notify, n) (.checkStop, notify, n + 1)
  | next {notify n timestamp frame other frames}
    : Moves sleep stop (.handle timestamp frame (other :: frames), notify, n)
        (.extract (other :: frames), notify, n + 1)
  | idles {notify n} : Moves sleep stop (.idle, notify, n) (.checkStop, false, n)
  | stops {notify n} (h : stop = true) : Moves sleep stop (.checkStop, notify, n) (.finished, notify, n)
  | again {notify n} (h : stop = false) : Moves sleep stop (.checkStop, notify, n) (.checkSleep, notify, n)
  | ended {notify n} : Moves sleep stop (.finished, notify, n) (.finished, notify, n)

namespace Moves

variable {sleep stop : Bool} {c c' : SourceWorker × Bool × Nat}

theorem batch (h : Moves sleep stop c c') (hbatch : c.1.taken.length ≤ PARALLEL_RECEIVED_FRAMES_FROM_KERNEL)
    : c'.1.taken.length ≤ PARALLEL_RECEIVED_FRAMES_FROM_KERNEL := by
  cases h with
  | receives hlength => exact hlength
  | extracts => exact hbatch
  | next => exact Nat.le_of_succ_le hbatch
  | _ => exact Nat.zero_le _

theorem ofSleeping (h : Moves sleep stop c c') (hworker : c'.1 = .sleeping) (hsleep : sleep = false)
    : c.1 = .sleeping ∧ c'.2.1 = c.2.1 := by
  cases h with
  | sleeps hasleep =>
    rw [hsleep] at hasleep
    cases hasleep
  | blocks => exact ⟨rfl, rfl⟩
  | _ => cases hworker

theorem ofRestful (h : Moves sleep stop c c') (hworker : c'.1.atSleep) (hstop : stop = true)
    : c.1.atSleep ∧ c'.2.1 = c.2.1 := by
  cases h with
  | sleeps _ => exact ⟨Or.inl rfl, rfl⟩
  | blocks => exact ⟨Or.inr rfl, rfl⟩
  | again hgoes =>
    rw [hstop] at hgoes
    cases hgoes
  | _ => exact absurd hworker (by simp [SourceWorker.atSleep])

theorem stopRank (h : Moves sleep stop c c') (hstop : stop = true) (hnotified : c.1.atSleep → c.2.1 = true)
    : c'.1.stopRank ≤ c.1.stopRank - 1 := by
  cases h with
  | blocks => cases hnotified (Or.inr rfl)
  | receives hlength =>
    unfold PARALLEL_RECEIVED_FRAMES_FROM_KERNEL at hlength
    simp only [SourceWorker.stopRank]
    omega
  | again hgoes =>
    rw [hstop] at hgoes
    cases hgoes
  | _ =>
    simp only [SourceWorker.stopRank, List.length_cons, List.length_nil]
    omega

theorem restRank (h : Moves sleep stop c c') (hsleep : sleep = true)
    : c'.1.restRank c'.2.1 ≤ c.1.restRank c.2.1 - 1 := by
  cases h with
  | passes hawake =>
    rw [hsleep] at hawake
    cases hawake
  | receives hlength =>
    unfold PARALLEL_RECEIVED_FRAMES_FROM_KERNEL at hlength
    simp only [SourceWorker.restRank]
    omega
  | _ =>
    simp only [SourceWorker.restRank, List.length_cons, List.length_nil, Bool.false_eq_true, if_false, if_true]
    omega

theorem restFrames (h : Moves sleep stop c c') (hsleep : sleep = true)
    : c'.2.2 + c'.1.restFrames + (if c'.2.1 then PARALLEL_RECEIVED_FRAMES_FROM_KERNEL else 0)
        ≤ c.2.2 + c.1.restFrames + (if c.2.1 then PARALLEL_RECEIVED_FRAMES_FROM_KERNEL else 0) := by
  cases h with
  | passes hawake =>
    rw [hsleep] at hawake
    cases hawake
  | receives hlength =>
    simp only [SourceWorker.restFrames]
    omega
  | _ =>
    simp only [SourceWorker.restFrames, List.length_cons, List.length_nil, Bool.false_eq_true, if_false, if_true]
    omega

end Moves

def control (source : CANDataSource) : SourceWorker × Bool × Nat :=
  (source.worker, source.mWait.mNotify, source.handled.length)

theorem work_moves (source : CANDataSource) (now : Nat)
    : Moves source.mShouldSleep source.mShouldStop source.control (source.work now).control := by
  unfold control
  cases hworker : source.worker with
  | checkSleep =>
    unfold work
    rw [hworker]
    cases source.mShouldSleep with
    | true => exact .sleeps rfl
    | false => exact .passes rfl
  | sleeping =>
    unfold work
    rw [hworker]
    dsimp only
    cases hnotify : source.mWait.mNotify with
    | true =>
      rw [Platform.Signal.waitWithPredicate_eq_some.mpr ⟨hnotify, rfl⟩]
      exact .wakes
    | false =>
      rw [Platform.Signal.waitWithPredicate_eq_none.mpr hnotify]
      dsimp only
      rw [hworker, hnotify]
      exact .blocks
  | receive =>
    unfold work
    rw [hworker]
    dsimp only
    split
    . exact .nothing
    . exact .receives (List.length_take_le _ _)
  | extract frames =>
    unfold work
    rw [hworker]
    cases frames with
    | nil => exact .through
    | cons frame frames => exact .extracts
  | handle timestamp frame frames =>
    obtain ⟨outcome, queue, heq, _⟩ := handleFrame_spec source timestamp frame
    unfold work
    rw [hworker]
    dsimp only
    rw [heq]
    dsimp only
    rw [List.length_append, List.length_singleton]
    cases frames with
    | nil => exact .last
    | cons other frames => exact .next
  | idle =>
    unfold work
    rw [hworker]
    exact .idles
  | checkStop =>
    unfold work
    rw [hworker]
    cases source.mShouldStop with
    | true => exact .stops rfl
    | false => exact .again rfl
  | finished =>
    unfold work
    rw [hworker]
    dsimp only
    rw [hworker]
    exact .ended

theorem work_flags (source : CANDataSource) (now : Nat)
    : (source.work now).mShouldSleep = source.mShouldSleep ∧ (source.work now).mShouldStop = source.mShouldStop
        ∧ (source.work now).calls = source.calls := by
  unfold work
  split
  . exact ⟨rfl, rfl, rfl⟩
  . split
    . exact ⟨rfl, rfl, rfl⟩
    . exact ⟨rfl, rfl, rfl⟩
  . exact ⟨rfl, rfl, rfl⟩
  . exact ⟨rfl, rfl, rfl⟩
  . exact ⟨rfl, rfl, rfl⟩
  . rename_i timestamp frame frames _
    obtain ⟨outcome, queue, heq, _⟩ := handleFrame_spec source timestamp frame
    dsimp only
    rw [heq]
    exact ⟨rfl, rfl, rfl⟩
  . exact ⟨rfl, rfl, rfl⟩
  . exact ⟨rfl, rfl, rfl⟩
  . exact ⟨rfl, rfl, rfl⟩

end Control

section Calls

variable {call : SourceCall}

theorem mem_calls_of_ne {i : Nat} {other : SourceCall} (h : other ∈ source.calls) (hcall : source.calls[i]? = some call)
    (hne : other ≠ call)
    : other ∈ source.calls.eraseIdx i := by
  obtain ⟨j, hj⟩ := List.mem_iff_getElem?.mp h
  apply List.mem_eraseIdx_iff_getElem?.mpr
  refine ⟨j, ?_, hj⟩
  intro hji
  rw [hji, hcall, Option.some_inj] at hj
  exact hne hj.symm

structure Wakes (source : CANDataSource) : Prop where
  resumed
    : source.worker = .sleeping → source.mShouldSleep = false →
        source.mWait.mNotify = true ∨ .resumeNotify ∈ source.calls
  stopped
    : source.mShouldStop = true → source.worker.atSleep →
        source.mWait.mNotify = true ∨ .stopNotify ∈ source.calls
  batch : source.worker.taken.length ≤ PARALLEL_RECEIVED_FRAMES_FROM_KERNEL

namespace Wakes

theorem start (mTimestampTypeToUse : CAN_TIMESTAMP_TYPE) (maxNumberOfVehicleDataMessages : Nat)
    : (CANDataSource.start mTimestampTypeToUse maxNumberOfVehicleDataMessages).Wakes := by
  constructor
  . exact fun hworker => by cases hworker
  . exact fun hstop => by cases hstop
  . exact Nat.zero_le _

theorem invoke (h : source.Wakes) (call : SourceCall) : (source.invoke call).Wakes := by
  refine ⟨?_, ?_, h.batch⟩
  . intro hworker hsleep
    cases h.resumed hworker hsleep with
    | inl hnotify => exact Or.inl hnotify
    | inr hcall => exact Or.inr (List.mem_append_left _ hcall)
  . intro hstop hworker
    cases h.stopped hstop hworker with
    | inl hnotify => exact Or.inl hnotify
    | inr hcall => exact Or.inr (List.mem_append_left _ hcall)

theorem callStep (h : source.Wakes) (i now : Nat) : (source.callStep i now).Wakes := by
  unfold CANDataSource.callStep
  cases hcall : source.calls[i]? with
  | none => exact h
  | some call =>
    have hresume : call ≠ .resumeNotify → .resumeNotify ∈ source.calls →
        ∀ rest : List SourceCall, .resumeNotify ∈ source.calls.eraseIdx i ++ rest :=
      fun hne hmem rest => List.mem_append_left rest (mem_calls_of_ne hmem hcall hne.symm)
    have hstopping : call ≠ .stopNotify → .stopNotify ∈ source.calls →
        ∀ rest : List SourceCall, .stopNotify ∈ source.calls.eraseIdx i ++ rest :=
      fun hne hmem rest => List.mem_append_left rest (mem_calls_of_ne hmem hcall hne.symm)
    cases call with
    | resumeTime =>
      refine ⟨?_, ?_, h.batch⟩
      . exact fun hworker hsleep => (h.resumed hworker hsleep).imp_right fun hmem => hresume (by simp) hmem _
      . exact fun hstop hworker => (h.stopped hstop hworker).imp_right fun hmem => hstopping (by simp) hmem _
    | resumeSleep =>
      refine ⟨?_, ?_, h.batch⟩
      . exact fun _ _ => Or.inr (List.mem_append_right _ (List.mem_singleton_self _))
      . exact fun hstop hworker => (h.stopped hstop hworker).imp_right fun hmem => hstopping (by simp) hmem _
    | resumeNotify => exact ⟨fun _ _ => Or.inl rfl, fun _ _ => Or.inl rfl, h.batch⟩
    | suspendSleep =>
      refine ⟨?_, ?_, h.batch⟩
      . exact fun _ hsleep => by cases hsleep
      . exact fun hstop hworker => (h.stopped hstop hworker).imp_right fun hmem => hstopping (by simp) hmem _
    | stopStore =>
      refine ⟨?_, ?_, h.batch⟩
      . exact fun hworker hsleep => (h.resumed hworker hsleep).imp_right fun hmem => hresume (by simp) hmem _
      . exact fun _ _ => Or.inr (List.mem_append_right _ (List.mem_singleton_self _))
    | stopNotify => exact ⟨fun _ _ => Or.inl rfl, fun _ _ => Or.inl rfl, h.batch⟩

theorem work (h : source.Wakes) (now : Nat) : (source.work now).Wakes := by
  have ⟨hsleep, hstop, hcalls⟩ := work_flags source now
  have hmoves := work_moves source now
  constructor
  . rw [hsleep, hcalls]
    intro hworker hawake
    obtain ⟨hsleeping, hnotify⟩ := hmoves.ofSleeping hworker hawake
    rw [show (source.work now).mWait.mNotify = source.mWait.mNotify from hnotify]
    exact h.resumed hsleeping hawake
  . rw [hstop, hcalls]
    intro hstopping hworker
    obtain ⟨hbefore, hnotify⟩ := hmoves.ofRestful hworker hstopping
    rw [show (source.work now).mWait.mNotify = source.mWait.mNotify from hnotify]
    exact h.stopped hstopping hbefore
  . exact hmoves.batch h.batch

theorem step (h : source.Wakes) (event : SourceEvent) : (source.step event).Wakes := by
  cases event with
  | arrive frame => exact ⟨h.resumed, h.stopped, h.batch⟩
  | suspendDataAcquisition => exact h.invoke .suspendSleep
  | resumeDataAcquisition => exact h.invoke .resumeTime
  | stop => exact h.invoke .stopStore
  | call i now => exact h.callStep i now
  | work now => exact h.work now
  | pop =>
    unfold CANDataSource.step
    dsimp only
    split
    . exact h
    . exact ⟨h.resumed, h.stopped, h.batch⟩

theorem run (h : source.Wakes) (events : List SourceEvent) : (source.run events).Wakes := by
  induction events generalizing source with
  | nil => exact h
  | cons event events ih => exact ih (h.step event)

end Wakes

end Calls

section Rest

structure Stopping (source : CANDataSource) : Prop where
  stops : source.mShouldStop = true
  notified : source.worker.atSleep → source.mWait.mNotify = true

namespace Stopping

theorem work (h : source.Stopping) (now : Nat)
    : (source.work now).Stopping
        ∧ (source.work now).worker.stopRank ≤ source.worker.stopRank - 1 := by
  have ⟨_, hstop, _⟩ := work_flags source now
  have hmoves := work_moves source now
  refine ⟨⟨hstop.trans h.stops, ?_⟩, hmoves.stopRank h.stops h.notified⟩
  intro hworker
  obtain ⟨hbefore, hnotify⟩ := hmoves.ofRestful hworker h.stops
  rw [show (source.work now).mWait.mNotify = source.mWait.mNotify from hnotify]
  exact h.notified hbefore

theorem other (h : source.Stopping) {event : SourceEvent} (hevent : event.isWork = false)
    : (source.step event).Stopping ∧ (source.step event).worker = source.worker := by
  have ⟨hstops, hnotified⟩ := h
  cases event with
  | arrive frame => exact ⟨⟨hstops, hnotified⟩, rfl⟩
  | suspendDataAcquisition => exact ⟨⟨hstops, hnotified⟩, rfl⟩
  | resumeDataAcquisition => exact ⟨⟨hstops, hnotified⟩, rfl⟩
  | stop => exact ⟨⟨hstops, hnotified⟩, rfl⟩
  | call i now =>
    unfold CANDataSource.step callStep
    dsimp only
    cases source.calls[i]? with
    | none => exact ⟨h, rfl⟩
    | some call =>
      cases call with
      | resumeTime => exact ⟨⟨hstops, hnotified⟩, rfl⟩
      | resumeSleep => exact ⟨⟨hstops, hnotified⟩, rfl⟩
      | resumeNotify => exact ⟨⟨hstops, fun _ => rfl⟩, rfl⟩
      | suspendSleep => exact ⟨⟨hstops, hnotified⟩, rfl⟩
      | stopStore => exact ⟨⟨rfl, hnotified⟩, rfl⟩
      | stopNotify => exact ⟨⟨hstops, fun _ => rfl⟩, rfl⟩
  | work now => cases hevent
  | pop =>
    unfold CANDataSource.step
    dsimp only
    split
    . exact ⟨h, rfl⟩
    . exact ⟨⟨hstops, hnotified⟩, rfl⟩

theorem run (h : source.Stopping) (events : List SourceEvent)
    : (source.run events).worker.stopRank ≤ source.worker.stopRank - events.countP (·.isWork) := by
  refine (Machine.foldl_rank (fun source : CANDataSource => source.worker.stopRank) Stopping
    (fun _ => True) ?_ ?_ ?_ h fun _ _ => trivial).2
  . intro source event hstopping _
    cases hevent : event.isWork with
    | true =>
      cases event with
      | work now => exact (hstopping.work now).1
      | _ => cases hevent
    | false => exact (hstopping.other hevent).1
  . intro source event hstopping _ hevent
    cases event with
    | work now => exact (hstopping.work now).2
    | _ => cases hevent
  . intro source event hstopping _ hevent
    rw [(hstopping.other hevent).2]

end Stopping

/--
A suspended thread, and a bound on the frames that it has handled when it sleeps.
-/
structure Resting (bound : Nat) (source : CANDataSource) : Prop where
  sleeps : source.mShouldSleep = true
  frames
    : source.handled.length + source.worker.restFrames
        + (if source.mWait.mNotify then PARALLEL_RECEIVED_FRAMES_FROM_KERNEL else 0) ≤ bound

namespace Resting

variable {bound : Nat}

theorem work (h : source.Resting bound) (now : Nat)
    : (source.work now).Resting bound
        ∧ (source.work now).worker.restRank (source.work now).mWait.mNotify
            ≤ source.worker.restRank source.mWait.mNotify - 1 := by
  have ⟨hsleep, _, _⟩ := work_flags source now
  have hmoves := work_moves source now
  refine ⟨⟨hsleep.trans h.sleeps, ?_⟩, hmoves.restRank h.sleeps⟩
  exact Nat.le_trans (hmoves.restFrames h.sleeps) h.frames

theorem other (h : source.Resting bound) {event : SourceEvent} (hquiet : event.isQuiet = true)
    (hevent : event.isWork = false)
    : (source.step event).Resting bound ∧ (source.step event).worker = source.worker
        ∧ (source.step event).mWait = source.mWait := by
  have ⟨hsleeps, hframes⟩ := h
  cases event with
  | arrive frame => exact ⟨⟨hsleeps, hframes⟩, rfl, rfl⟩
  | work now => cases hevent
  | pop =>
    unfold CANDataSource.step
    dsimp only
    split
    . exact ⟨h, rfl, rfl⟩
    . exact ⟨⟨hsleeps, hframes⟩, rfl, rfl⟩
  | _ => cases hquiet

theorem run (h : source.Resting bound) {events : List SourceEvent} (hquiet : ∀ event ∈ events, event.isQuiet = true)
    : (source.run events).Resting bound
        ∧ (source.run events).worker.restRank (source.run events).mWait.mNotify
            ≤ source.worker.restRank source.mWait.mNotify - events.countP (·.isWork) := by
  refine Machine.foldl_rank (fun source : CANDataSource => source.worker.restRank source.mWait.mNotify)
    (Resting bound) (fun event => event.isQuiet = true) ?_ ?_ ?_ h hquiet
  . intro source event hresting hquiet
    cases hevent : event.isWork with
    | true =>
      cases event with
      | work now => exact (hresting.work now).1
      | _ => cases hevent
    | false => exact (hresting.other hquiet hevent).1
  . intro source event hresting _ hevent
    cases event with
    | work now => exact (hresting.work now).2
    | _ => cases hevent
  . intro source event hresting hquiet hevent
    have ⟨_, hworker, hwait⟩ := hresting.other hquiet hevent
    rw [hworker, hwait]

end Resting

theorem restFrames_le {worker : SourceWorker} (hbatch : worker.taken.length ≤ PARALLEL_RECEIVED_FRAMES_FROM_KERNEL)
    : worker.restFrames ≤ PARALLEL_RECEIVED_FRAMES_FROM_KERNEL := by
  cases worker with
  | receive => exact Nat.le_refl _
  | extract frames => exact hbatch
  | handle timestamp frame frames => exact hbatch
  | _ => exact Nat.zero_le _

theorem stopRank_le {worker : SourceWorker} (hbatch : worker.taken.length ≤ PARALLEL_RECEIVED_FRAMES_FROM_KERNEL)
    : worker.stopRank ≤ 25 := by
  unfold PARALLEL_RECEIVED_FRAMES_FROM_KERNEL at hbatch
  cases worker with
  | handle timestamp frame frames =>
    simp only [SourceWorker.taken, List.length_cons] at hbatch
    simp only [SourceWorker.stopRank]
    omega
  | extract frames =>
    simp only [SourceWorker.taken] at hbatch
    simp only [SourceWorker.stopRank]
    omega
  | _ =>
    simp only [SourceWorker.stopRank]
    omega

theorem restRank_le {worker : SourceWorker} (hbatch : worker.taken.length ≤ PARALLEL_RECEIVED_FRAMES_FROM_KERNEL)
    (mNotify : Bool)
    : worker.restRank mNotify ≤ 54 := by
  unfold PARALLEL_RECEIVED_FRAMES_FROM_KERNEL at hbatch
  cases worker with
  | handle timestamp frame frames =>
    simp only [SourceWorker.taken, List.length_cons] at hbatch
    simp only [SourceWorker.restRank]
    split <;> omega
  | extract frames =>
    simp only [SourceWorker.taken] at hbatch
    simp only [SourceWorker.restRank]
    split <;> omega
  | finished => exact Nat.zero_le _
  | _ =>
    simp only [SourceWorker.restRank]
    split <;> omega

theorem atRest {worker : SourceWorker} {mNotify : Bool} (hrank : worker.restRank mNotify = 0)
    : (worker = .sleeping ∧ mNotify = false) ∨ worker = .finished := by
  cases worker with
  | finished => exact Or.inr rfl
  | sleeping =>
    refine Or.inl ⟨rfl, ?_⟩
    cases mNotify with
    | true => cases hrank
    | false => rfl
  | _ =>
    simp only [SourceWorker.restRank] at hrank
    omega

theorem hasStopped {worker : SourceWorker} (hrank : worker.stopRank = 0)
    : worker = .finished := by
  cases worker with
  | finished => rfl
  | _ =>
    simp only [SourceWorker.stopRank] at hrank
    omega

/--
Whatever the other threads call and in whichever order their steps are made: a thread that waits although its
flag has been cleared has been notified, or the call that clears it is yet to notify it; a thread that is
suspended sleeps soon, and handles at most two more batches of frames before; and a thread that is stopped ends.
-/
theorem suspend_resume_stop (mTimestampTypeToUse : CAN_TIMESTAMP_TYPE) (maxNumberOfVehicleDataMessages : Nat)
    (events : List SourceEvent)
    : let source := (CANDataSource.start mTimestampTypeToUse maxNumberOfVehicleDataMessages).run events
      (source.worker = .sleeping → source.mShouldSleep = false → .resumeNotify ∉ source.calls →
          ∀ now, (source.work now).worker = .receive)
        ∧ (source.mShouldSleep = true →
            ∀ later : List SourceEvent, (∀ event ∈ later, event.isQuiet = true) →
              (source.run later).handled.length
                  ≤ source.handled.length + 2 * PARALLEL_RECEIVED_FRAMES_FROM_KERNEL
                ∧ (54 ≤ later.countP (·.isWork) →
                    ((source.run later).worker = .sleeping ∧ (source.run later).mWait.mNotify = false)
                      ∨ (source.run later).worker = .finished))
        ∧ (source.mShouldStop = true → .stopNotify ∉ source.calls →
            ∀ later : List SourceEvent, 25 ≤ later.countP (·.isWork) →
              (source.run later).worker = .finished) := by
  intro source
  have h : source.Wakes := (Wakes.start mTimestampTypeToUse maxNumberOfVehicleDataMessages).run events
  refine ⟨?_, ?_, ?_⟩
  . intro hworker hsleep hcalls now
    have hnotify : source.mWait.mNotify = true := (h.resumed hworker hsleep).resolve_right hcalls
    unfold work
    rw [hworker]
    dsimp only
    rw [Platform.Signal.waitWithPredicate_eq_some.mpr ⟨hnotify, rfl⟩]
  . intro hsleep later hquiet
    have hresting : source.Resting (source.handled.length + 2 * PARALLEL_RECEIVED_FRAMES_FROM_KERNEL) := by
      refine ⟨hsleep, ?_⟩
      have hframes := restFrames_le h.batch
      split <;> omega
    have ⟨hrests, hrank⟩ := hresting.run hquiet
    refine ⟨Nat.le_trans ?_ hrests.frames, ?_⟩
    . omega
    . intro hcount
      have hle := restRank_le h.batch source.mWait.mNotify
      apply atRest
      omega
  . intro hstop hcalls later hcount
    have hstopping : source.Stopping :=
      ⟨hstop, fun hworker => (h.stopped hstop hworker).resolve_right hcalls⟩
    have hrank := hstopping.run later
    have hle := stopRank_le h.batch
    apply hasStopped
    omega

end Rest

end CANDataSource

end VehicleNetwork
