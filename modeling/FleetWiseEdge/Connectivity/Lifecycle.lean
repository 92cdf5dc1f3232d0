import FleetWiseEdge.Connectivity.Lemmas.Retry

/-!
This module contains how a connection to the cloud comes about: what the retry thread tries and how long it waits,
which channels are subscribed to, and what `isAlive` says, in every order of the steps of the threads and of the
callbacks of the SDK.
-/

namespace OffboardConnectivityAwsIot

open Cpp

section Retry

def backoffTime (k : Nat) : Nat :=
  min (RETRY_FIRST_CONNECTION_START_BACKOFF_MS * 2 ^ k) RETRY_FIRST_CONNECTION_MAX_BACKOFF_MS

theorem backoffTime_succ (k : Nat)
    : min (u32 (backoffTime k * 2)) RETRY_FIRST_CONNECTION_MAX_BACKOFF_MS = backoffTime (k + 1) := by
  unfold backoffTime u32 RETRY_FIRST_CONNECTION_MAX_BACKOFF_MS
  rw [Nat.pow_add_one 2 k, ← Nat.mul_assoc]
  generalize RETRY_FIRST_CONNECTION_START_BACKOFF_MS * 2 ^ k = n
  have hlt : min n 256000 * 2 < 2 ^ 32 := by omega
  rw [Nat.mod_eq_of_lt hlt]
  omega

namespace RetryThread

def Unused (thread : RetryThread) : Prop := thread.attempts = [] ∧ thread.waits = [] ∧ thread.finished = []

def Skipped (thread : RetryThread) : Prop := thread.Unused ∧ thread.fCurrentWaitTime = 0

def Retrying (thread : RetryThread) (n : Nat) : Prop :=
  thread.attempts = List.replicate n .RETRY ∧ thread.finished = []

def Succeeded (thread : RetryThread) : Prop :=
  thread.attempts = List.replicate thread.waits.length .RETRY ++ [.SUCCESS] ∧ thread.finished = [.SUCCESS]

def Aborted (thread : RetryThread) : Prop :=
  thread.attempts = List.replicate thread.waits.length .RETRY ∧ thread.finished = [.ABORT]

def Over (thread : RetryThread) : Prop := thread.Succeeded ∨ thread.Aborted ∨ thread.Skipped

end RetryThread

def RetryWorker.Holds (worker : RetryWorker) (thread : RetryThread) : Prop :=
  match worker with
  | .absent | .exit | .ended => thread.Over
  | .entry => thread.Skipped
  | .start => thread.Unused
  | .checkStop | .attempt _ =>
    thread.Retrying thread.waits.length ∧ thread.fCurrentWaitTime = backoffTime thread.waits.length
  | .wait =>
    thread.Retrying (thread.waits.length + 1) ∧ thread.fCurrentWaitTime = backoffTime thread.waits.length
  | .backoff =>
    ∃ k, thread.waits.length = k + 1 ∧ thread.Retrying (k + 1) ∧ thread.fCurrentWaitTime = backoffTime k
  | .subscribe _ => thread.Succeeded

theorem RetryThread.Unused.attempts {thread : RetryThread} (h : thread.Unused)
    : thread.finished = [] ∧ ∃ n, thread.attempts = List.replicate n .RETRY
        ∧ thread.waits.length ≤ n ∧ n ≤ thread.waits.length + 1 := by
  obtain ⟨hattempts, hwaits, hfinished⟩ := h
  refine ⟨hfinished, 0, hattempts, ?_, Nat.zero_le _⟩
  rw [hwaits]
  exact Nat.le_refl _

theorem RetryWorker.Holds.attempts {worker : RetryWorker} {thread : RetryThread} (h : worker.Holds thread)
    : (thread.finished = [] ∧ ∃ n, thread.attempts = List.replicate n .RETRY
          ∧ thread.waits.length ≤ n ∧ n ≤ thread.waits.length + 1)
        ∨ thread.Succeeded ∨ thread.Aborted := by
  have hover (h : thread.Over)
      : (thread.finished = [] ∧ ∃ n, thread.attempts = List.replicate n .RETRY
            ∧ thread.waits.length ≤ n ∧ n ≤ thread.waits.length + 1)
          ∨ thread.Succeeded ∨ thread.Aborted := by
    rcases h with hsucceeded | haborted | hskipped
    . exact Or.inr (Or.inl hsucceeded)
    . exact Or.inr (Or.inr haborted)
    . exact Or.inl hskipped.1.attempts
  cases worker with
  | absent => exact hover h
  | entry => exact Or.inl h.1.attempts
  | start => exact Or.inl (RetryThread.Unused.attempts h)
  | checkStop => exact Or.inl ⟨h.1.2, _, h.1.1, Nat.le_refl _, Nat.le_succ _⟩
  | attempt step => exact Or.inl ⟨h.1.2, _, h.1.1, Nat.le_refl _, Nat.le_succ _⟩
  | wait => exact Or.inl ⟨h.1.2, _, h.1.1, Nat.le_succ _, Nat.le_refl _⟩
  | backoff =>
    obtain ⟨k, hlength, hretrying, _⟩ := h
    exact Or.inl ⟨hretrying.2, _, hretrying.1, by omega, by omega⟩
  | subscribe step => exact Or.inr (Or.inl h)
  | exit => exact hover h
  | ended => exact hover h

def RetryWorker.isOver (worker : RetryWorker) : Bool :=
  match worker with
  | .absent | .exit | .ended => true
  | _ => false

theorem RetryWorker.Holds.over {worker : RetryWorker} {thread : RetryThread} (h : worker.Holds thread)
    (hover : worker.isOver = true)
    : thread.Over := by
  cases worker with
  | absent => exact h
  | exit => exact h
  | ended => exact h
  | _ => cases hover

inductive SubscribePhase where
  | before
  | running (step : SubscribeStep)
  | after

def RetryWorker.phase (worker : RetryWorker) (connected : Bool) : SubscribePhase :=
  match worker with
  | .absent => if connected then .after else .before
  | .entry | .start | .checkStop | .attempt _ | .wait | .backoff => .before
  | .subscribe step => .running step
  | .exit | .ended => .after

def SubscribePhase.Holds (phase : SubscribePhase) (channels : List (String × Bool)) (subscriptions : Subscriptions)
    (finished : List RetryStatus)
    : Prop :=
  match phase with
  | .before => Subscribing channels (.check 0) subscriptions
  | .running step => Subscribing channels step subscriptions
  | .after =>
    (Subscribing channels (.check 0) subscriptions ∧ finished ≠ [.SUCCESS])
      ∨ Subscribing channels (.check channels.length) subscriptions

namespace AwsIotConnectivityModule

variable {channels : List (String × Bool)} {module next : AwsIotConnectivityModule}

def phase (module : AwsIotConnectivityModule) : SubscribePhase :=
  match module.mainThread with
  | .attempt _ => .before
  | .subscribe step => .running step
  | _ => module.mRetryThread.worker.phase module.connected

structure Recorded (channels : List (String × Bool)) (module : AwsIotConnectivityModule) : Prop where
  retry : module.mRetryThread.worker.Holds module.mRetryThread
  waits : module.mRetryThread.waits = (List.range module.mRetryThread.waits.length).map backoffTime
  unused : module.connected = false ∨ module.mainThread.connects = true → module.mRetryThread.Skipped
  phase : module.phase.Holds channels module.subscriptions module.mRetryThread.finished

namespace Recorded

theorem new (channels : List (String × Bool)) : (AwsIotConnectivityModule.new channels).Recorded channels where
  retry := Or.inr (Or.inr ⟨⟨rfl, rfl, rfl⟩, rfl⟩)
  waits := rfl
  unused := fun _ => ⟨⟨rfl, rfl, rfl⟩, rfl⟩
  phase := Subscribing.new channels

theorem subscribing (h : module.Recorded channels) : ∃ step, Subscribing channels step module.subscriptions := by
  have hphase := h.phase
  cases hcase : module.phase with
  | before =>
    rw [hcase] at hphase
    exact ⟨_, hphase⟩
  | running step =>
    rw [hcase] at hphase
    exact ⟨step, hphase⟩
  | after =>
    rw [hcase] at hphase
    cases hphase with
    | inl hbefore => exact ⟨_, hbefore.1⟩
    | inr hafter => exact ⟨_, hafter⟩

theorem phase_of_waits (hwaits : module.mainThread.waits = true)
    : module.phase = module.mRetryThread.worker.phase module.connected := by
  unfold AwsIotConnectivityModule.phase
  cases hmain : module.mainThread with
  | attempt step =>
    rw [hmain] at hwaits
    cases hwaits
  | subscribe step =>
    rw [hmain] at hwaits
    cases hwaits
  | _ => rfl

theorem phase_cases (module : AwsIotConnectivityModule)
    : module.mainThread.connects = true
        ∨ module.phase = module.mRetryThread.worker.phase module.connected := by
  unfold AwsIotConnectivityModule.phase
  cases module.mainThread with
  | attempt step => exact Or.inl rfl
  | subscribe step => exact Or.inl rfl
  | _ => exact Or.inr rfl

theorem finished_of_before (h : module.Recorded channels) (hphase : module.phase = .before)
    : module.mRetryThread.finished = [] := by
  cases phase_cases module with
  | inl hconnects => exact (h.unused (Or.inr hconnects)).1.2.2
  | inr heq =>
    rw [hphase] at heq
    have hretry := h.retry
    cases hworker : module.mRetryThread.worker with
    | absent =>
      rw [hworker] at heq
      cases hconnected : module.connected with
      | true =>
        rw [hconnected] at heq
        cases heq
      | false => exact (h.unused (Or.inl hconnected)).1.2.2
    | entry =>
      rw [hworker] at hretry
      exact hretry.1.2.2
    | start =>
      rw [hworker] at hretry
      exact hretry.2.2
    | checkStop =>
      rw [hworker] at hretry
      exact hretry.1.2
    | attempt step =>
      rw [hworker] at hretry
      exact hretry.1.2
    | wait =>
      rw [hworker] at hretry
      exact hretry.1.2
    | backoff =>
      rw [hworker] at hretry
      obtain ⟨_, _, hretrying, _⟩ := hretry
      exact hretrying.2
    | subscribe step =>
      rw [hworker] at heq
      cases heq
    | exit =>
      rw [hworker] at heq
      cases heq
    | ended =>
      rw [hworker] at heq
      cases heq

theorem subscribe_of_running {step : SubscribeStep} (h : module.Recorded channels)
    (hphase : module.phase = .running step)
    : module.mRetryThread.finished = [] ∨ module.mRetryThread.worker = .subscribe step := by
  cases phase_cases module with
  | inl hconnects => exact Or.inl (h.unused (Or.inr hconnects)).1.2.2
  | inr heq =>
    rw [hphase] at heq
    cases hworker : module.mRetryThread.worker with
    | absent =>
      rw [hworker] at heq
      cases hconnected : module.connected with
      | true =>
        rw [hconnected] at heq
        cases heq
      | false =>
        rw [hconnected] at heq
        cases heq
    | subscribe step' =>
      rw [hworker] at heq
      cases heq
      exact Or.inr rfl
    | _ =>
      rw [hworker] at heq
      cases heq

section Worker

theorem ofWorker (hworking : module.Working) (hworker : module.mRetryThread.worker ≠ .absent)
    (hsame : next.mainThread = module.mainThread ∧ next.connected = module.connected)
    (hretry : next.mRetryThread.worker.Holds next.mRetryThread)
    (hwaits : next.mRetryThread.waits = (List.range next.mRetryThread.waits.length).map backoffTime)
    (hphase : (next.mRetryThread.worker.phase true).Holds channels next.subscriptions next.mRetryThread.finished)
    : next.Recorded channels := by
  obtain ⟨_, hconnected, hmainWaits⟩ := hworking.position_of_worker hworker
  obtain ⟨hmain, hcalled⟩ := hsame
  refine ⟨hretry, hwaits, ?_, ?_⟩
  . rw [hcalled, hconnected, hmain]
    intro hnot
    cases hnot with
    | inl hfalse => cases hfalse
    | inr hconnects =>
      cases hthread : module.mainThread with
      | attempt step =>
        rw [hthread] at hmainWaits
        cases hmainWaits
      | subscribe step =>
        rw [hthread] at hmainWaits
        cases hmainWaits
      | _ =>
        rw [hthread] at hconnects
        cases hconnects
  . rw [phase_of_waits (by rw [hmain]; exact hmainWaits), hcalled, hconnected]
    exact hphase

theorem phase_of_worker (hworking : module.Working) (h : module.Recorded channels)
    (hworker : module.mRetryThread.worker ≠ .absent)
    : (module.mRetryThread.worker.phase true).Holds channels module.subscriptions
        module.mRetryThread.finished := by
  obtain ⟨_, hconnected, hmainWaits⟩ := hworking.position_of_worker hworker
  have hphase := h.phase
  rw [phase_of_waits hmainWaits, hconnected] at hphase
  exact hphase

theorem attempt_ne_ABORT {connection connection' : Connection} {step : AttemptStep} {answer : Bool}
    (heq : connection.attempt step answer = some (connection', .returned .ABORT))
    : False := by
  unfold Connection.attempt at heq
  cases step with
  | connect =>
    dsimp only at heq
    split at heq
    . cases heq
    . cases heq
  | establish => cases heq
  | getFuture =>
    rw [Option.map_eq_some_iff] at heq
    obtain ⟨promise, _, hnext⟩ := heq
    cases hnext
  | wait =>
    dsimp only at heq
    split at heq
    . cases heq
    . cases heq
    . cases heq
  | accept => cases heq
  | reset step =>
    rw [Option.map_eq_some_iff] at heq
    obtain ⟨⟨connection, progress⟩, _, hnext⟩ := heq
    cases progress with
    | running step => cases hnext
    | returned result => cases hnext

theorem retryStep (hworking : module.Working) (h : module.Recorded channels) {answer : Bool}
    (heq : module.retryStep answer = some next)
    : next.Recorded channels := by
  have hretry := h.retry
  have hphase := fun hworker => h.phase_of_worker hworking hworker
  unfold AwsIotConnectivityModule.retryStep at heq
  cases hworker : module.mRetryThread.worker with
  | absent =>
    rw [hworker] at heq
    rw [← Option.some_inj.mp heq]
    exact h
  | ended =>
    rw [hworker] at heq
    rw [← Option.some_inj.mp heq]
    exact h
  | entry =>
    rw [hworker] at heq hretry hphase
    dsimp only at heq
    rw [← Option.some_inj.mp heq]
    cases module.mRetryThread.mDone with
    | true =>
      refine ofWorker hworking (by simp [hworker]) ⟨rfl, rfl⟩ (Or.inr (Or.inr hretry)) h.waits
        (Or.inl ⟨hphase (by simp), ?_⟩)
      dsimp only [setWorker]
      rw [hretry.1.2.2]
      simp
    | false =>
      exact ofWorker hworking (by simp [hworker]) ⟨rfl, rfl⟩ hretry.1 h.waits (hphase (by simp))
  | start =>
    rw [hworker] at heq hretry hphase
    rw [← Option.some_inj.mp heq]
    obtain ⟨hattempts, hwaits, hfinished⟩ := hretry
    refine ofWorker hworking (by simp [hworker]) ⟨rfl, rfl⟩ ⟨⟨?_, hfinished⟩, ?_⟩ h.waits (hphase (by simp))
    . dsimp only
      rw [hattempts, hwaits]
      rfl
    . dsimp only
      rw [hwaits]
      rfl
  | checkStop =>
    rw [hworker] at heq hretry hphase
    obtain ⟨⟨hattempts, hfinished⟩, htime⟩ := hretry
    dsimp only at heq
    split at heq
    . rw [← Option.some_inj.mp heq]
      refine ofWorker hworking (by simp [hworker]) ⟨rfl, rfl⟩ (Or.inr (Or.inl ⟨hattempts, ?_⟩)) h.waits
        (Or.inl ⟨hphase (by simp), ?_⟩)
      . dsimp only
        rw [hfinished]
        rfl
      . dsimp only
        rw [hfinished]
        simp
    . rw [← Option.some_inj.mp heq]
      exact ofWorker hworking (by simp [hworker]) ⟨rfl, rfl⟩ ⟨⟨hattempts, hfinished⟩, htime⟩ h.waits
        (hphase (by simp))
  | attempt step =>
    rw [hworker] at heq hretry hphase
    obtain ⟨⟨hattempts, hfinished⟩, htime⟩ := hretry
    dsimp only at heq
    rw [Option.map_eq_some_iff] at heq
    obtain ⟨⟨connection, progress⟩, hattempt, hnext⟩ := heq
    cases progress with
    | running step' =>
      rw [← hnext]
      exact ofWorker hworking (by simp [hworker]) ⟨rfl, rfl⟩ ⟨⟨hattempts, hfinished⟩, htime⟩ h.waits
        (hphase (by simp))
    | returned result =>
      cases result with
      | SUCCESS =>
        rw [← hnext]
        refine ofWorker hworking (by simp [hworker]) ⟨rfl, rfl⟩ ⟨?_, ?_⟩ h.waits (hphase (by simp))
        . dsimp only [afterAttempt]
          rw [hattempts]
        . dsimp only [afterAttempt]
          rw [hfinished]
          rfl
      | RETRY =>
        rw [← hnext]
        refine ofWorker hworking (by simp [hworker]) ⟨rfl, rfl⟩ ⟨⟨?_, hfinished⟩, htime⟩ h.waits
          (hphase (by simp))
        dsimp only [afterAttempt]
        rw [hattempts, List.replicate_succ']
      | ABORT => exact (attempt_ne_ABORT hattempt).elim
  | wait =>
    rw [hworker] at heq hretry hphase
    obtain ⟨hretrying, htime⟩ := hretry
    rw [← Option.some_inj.mp heq]
    refine ofWorker hworking (by simp [hworker]) ⟨rfl, rfl⟩ ⟨_, ?_, hretrying, htime⟩ ?_ (hphase (by simp))
    . dsimp only
      rw [List.length_append]
      rfl
    . dsimp only
      rw [List.length_append, List.length_singleton, List.range_succ, List.map_append, ← h.waits, htime]
      rfl
  | backoff =>
    rw [hworker] at heq hretry hphase
    obtain ⟨k, hlength, hretrying, htime⟩ := hretry
    rw [← Option.some_inj.mp heq]
    refine ofWorker hworking (by simp [hworker]) ⟨rfl, rfl⟩ ⟨?_, ?_⟩ h.waits (hphase (by simp))
    . dsimp only
      rw [hlength]
      exact hretrying
    . dsimp only
      rw [htime, hlength]
      exact backoffTime_succ k
  | subscribe step =>
    rw [hworker] at heq hretry hphase
    have hsubscribing : Subscribing channels step module.subscriptions := hphase (by simp)
    have hnext := hsubscribing.onFinished module.isAlive answer
    dsimp only at heq
    cases hprogress : (module.subscriptions.onFinished step module.isAlive answer).2 with
    | running step' =>
      rw [hprogress] at heq hnext
      rw [← Option.some_inj.mp heq]
      exact ofWorker hworking (by simp [hworker]) ⟨rfl, rfl⟩ hretry h.waits hnext
    | returned result =>
      rw [hprogress] at heq hnext
      rw [← Option.some_inj.mp heq]
      exact ofWorker hworking (by simp [hworker]) ⟨rfl, rfl⟩ (Or.inl hretry) h.waits (Or.inr hnext)
  | exit =>
    rw [hworker] at heq hretry hphase
    rw [← Option.some_inj.mp heq]
    exact ofWorker hworking (by simp [hworker]) ⟨rfl, rfl⟩ hretry h.waits (hphase (by simp))

end Worker

section Main

theorem congr (h : module.Recorded channels)
    (hworker : next.mRetryThread.worker = module.mRetryThread.worker)
    (hretry : next.mRetryThread.attempts = module.mRetryThread.attempts
      ∧ next.mRetryThread.waits = module.mRetryThread.waits
      ∧ next.mRetryThread.finished = module.mRetryThread.finished
      ∧ next.mRetryThread.fCurrentWaitTime = module.mRetryThread.fCurrentWaitTime)
    (hunused : next.connected = false ∨ next.mainThread.connects = true → module.mRetryThread.Skipped)
    (hphase : next.phase.Holds channels next.subscriptions module.mRetryThread.finished)
    : next.Recorded channels := by
  obtain ⟨hattempts, hwaits, hfinished, htime⟩ := hretry
  constructor
  . have hbefore := h.retry
    rw [hworker]
    cases hcase : module.mRetryThread.worker <;> rw [hcase] at hbefore <;>
      simp only [RetryWorker.Holds, RetryThread.Over, RetryThread.Skipped, RetryThread.Unused,
        RetryThread.Retrying, RetryThread.Succeeded, RetryThread.Aborted, hattempts, hwaits, hfinished,
        htime] at hbefore ⊢ <;> exact hbefore
  . rw [hwaits]
    exact h.waits
  . unfold RetryThread.Skipped RetryThread.Unused
    rw [hattempts, hwaits, hfinished, htime]
    exact hunused
  . rw [hfinished]
    exact hphase

theorem congr_phase (h : module.Recorded channels)
    (hretry : next.mRetryThread = module.mRetryThread) (hsubscriptions : next.subscriptions = module.subscriptions)
    (hconnected : next.connected = module.connected)
    (hmain : next.mainThread.connects = true → module.mainThread.connects = true)
    (hphase : next.phase = module.phase)
    : next.Recorded channels := by
  refine h.congr (by rw [hretry]) (by simp [hretry]) ?_ ?_
  . rw [hconnected]
    exact fun hnot => h.unused (hnot.imp_right hmain)
  . rw [hphase, hsubscriptions]
    exact h.phase

theorem mainStep (hworking : module.Working) (h : module.Recorded channels) {answer : Bool}
    (heq : module.mainStep answer = some next)
    : next.Recorded channels := by
  have hphase := h.phase
  have hidle : module.connected = false → module.mRetryThread.Skipped := fun hnot => h.unused (Or.inl hnot)
  unfold AwsIotConnectivityModule.mainStep at heq
  unfold AwsIotConnectivityModule.phase at hphase
  cases hmain : module.mainThread with
  | idle =>
    rw [hmain] at heq
    rw [← Option.some_inj.mp heq]
    exact h
  | attempt step =>
    rw [hmain] at heq hphase
    have hworker := hworking.absent_of_main (by rw [hmain]; rfl)
    have hconnected := hworking.connected_of_main (by rw [hmain]; rfl)
    have hunused := h.unused (Or.inr (by rw [hmain]; rfl))
    rw [Option.map_eq_some_iff] at heq
    obtain ⟨⟨connection, progress⟩, hattempt, hnext⟩ := heq
    have hfailed (next : AwsIotConnectivityModule) (hnext : { module with connection, mainThread := .idle } = next)
        : next.Recorded channels := by
      rw [← hnext]
      refine h.congr rfl ⟨rfl, rfl, rfl, rfl⟩ (fun _ => hunused) ?_
      unfold AwsIotConnectivityModule.phase
      dsimp only
      rw [hworker, hconnected]
      refine Or.inl ⟨hphase, ?_⟩
      rw [hunused.1.2.2]
      simp
    cases progress with
    | running step' =>
      rw [← hnext]
      exact h.congr rfl ⟨rfl, rfl, rfl, rfl⟩ (fun _ => hunused) hphase
    | returned result =>
      cases result with
      | SUCCESS =>
        rw [← hnext]
        exact h.congr rfl ⟨rfl, rfl, rfl, rfl⟩ (fun _ => hunused) hphase
      | RETRY => exact hfailed next hnext
      | ABORT => exact hfailed next hnext
  | subscribe step =>
    rw [hmain] at heq hphase
    have hworker := hworking.absent_of_main (by rw [hmain]; rfl)
    have hconnected := hworking.connected_of_main (by rw [hmain]; rfl)
    have hunused := h.unused (Or.inr (by rw [hmain]; rfl))
    have hsubscribing : Subscribing channels step module.subscriptions := hphase
    have hsubscriptions := hsubscribing.onFinished module.isAlive answer
    dsimp only at heq
    cases hprogress : (module.subscriptions.onFinished step module.isAlive answer).2 with
    | running step' =>
      rw [hprogress] at heq hsubscriptions
      rw [← Option.some_inj.mp heq]
      exact h.congr rfl ⟨rfl, rfl, rfl, rfl⟩ (fun _ => hunused) hsubscriptions
    | returned result =>
      rw [hprogress] at heq hsubscriptions
      rw [← Option.some_inj.mp heq]
      refine h.congr rfl ⟨rfl, rfl, rfl, rfl⟩ (fun _ => hunused) ?_
      unfold AwsIotConnectivityModule.phase
      dsimp only
      rw [hworker, hconnected]
      exact Or.inr hsubscriptions
  | stopStore =>
    rw [hmain] at heq hphase
    rw [← Option.some_inj.mp heq]
    exact h.congr rfl ⟨rfl, rfl, rfl, rfl⟩ (fun hnot => hidle (hnot.resolve_right Bool.false_ne_true)) hphase
  | stopNotify =>
    rw [hmain] at heq hphase
    rw [← Option.some_inj.mp heq]
    exact h.congr rfl ⟨rfl, rfl, rfl, rfl⟩ (fun hnot => hidle (hnot.resolve_right Bool.false_ne_true)) hphase
  | release =>
    rw [hmain] at heq hphase
    rw [← Option.some_inj.mp heq]
    exact h.congr rfl ⟨rfl, rfl, rfl, rfl⟩ (fun hnot => hidle (hnot.resolve_right Bool.false_ne_true)) hphase
  | join =>
    rw [hmain] at heq hphase
    dsimp only at heq
    cases hworker : module.mRetryThread.worker with
    | ended =>
      have hretry := h.retry
      obtain ⟨_, hconnected, _⟩ := hworking.position_of_worker (by simp [hworker])
      rw [hworker] at heq hretry hphase
      rw [← Option.some_inj.mp heq]
      refine ⟨hretry, h.waits, ?_, ?_⟩
      . dsimp only [setWorker]
        rw [hconnected]
        exact fun hnot => by cases hnot with | inl hfalse => cases hfalse | inr hfalse => cases hfalse
      . unfold AwsIotConnectivityModule.phase setWorker
        dsimp only [RetryWorker.phase]
        rw [hconnected]
        exact hphase
    | _ =>
      rw [hworker] at heq
      rw [← Option.some_inj.mp heq]
      exact h
  | stopped =>
    rw [hmain] at heq hphase
    rw [← Option.some_inj.mp heq]
    exact h.congr rfl ⟨rfl, rfl, rfl, rfl⟩ (fun hnot => hidle (hnot.resolve_right Bool.false_ne_true)) hphase
  | reset step =>
    rw [hmain] at heq
    rw [Option.map_eq_some_iff] at heq
    obtain ⟨⟨connection, progress⟩, _, hnext⟩ := heq
    have hsame : next.phase = module.phase := by
      rw [← hnext]
      unfold AwsIotConnectivityModule.phase
      rw [hmain]
      cases progress with
      | running step => rfl
      | returned result => rfl
    refine h.congr_phase (by rw [← hnext]) (by rw [← hnext]) (by rw [← hnext]) ?_ hsame
    rw [← hnext]
    cases progress with
    | running step => exact fun hfalse => by cases hfalse
    | returned result => exact fun hfalse => by cases hfalse

end Main

theorem step (hworking : module.Working) (h : module.Recorded channels) {event : ConnectivityEvent}
    (heq : module.step event = some next)
    : next.Recorded channels := by
  have hcallback (connection : Connection) (eventLoop : EventLoop)
      : ({ module with connection, eventLoop } : AwsIotConnectivityModule).Recorded channels :=
    ⟨h.retry, h.waits, h.unused, h.phase⟩
  unfold AwsIotConnectivityModule.step at heq
  cases event with
  | connect created asynchronous =>
    dsimp only at heq
    split at heq
    . next hmain =>
      rw [← Option.some_inj.mp heq]
      cases hconnected : module.connected with
      | true => exact h
      | false =>
        have hworker := (hworking.called hconnected).1
        have hunused := h.unused (Or.inl hconnected)
        have hphase : Subscribing channels (.check 0) module.subscriptions := by
          have hphase := h.phase
          rw [phase_of_waits (by rw [hmain]; rfl), hworker, hconnected] at hphase
          exact hphase
        rw [if_neg Bool.false_ne_true]
        unfold AwsIotConnectivityModule.connect
        cases created with
        | false =>
          simp only [Bool.not_false, if_true]
          refine h.congr rfl ⟨rfl, rfl, rfl, rfl⟩ (fun _ => hunused) ?_
          unfold AwsIotConnectivityModule.phase
          dsimp only
          rw [hmain, hworker]
          refine Or.inl ⟨hphase, ?_⟩
          rw [hunused.1.2.2]
          simp
        | true =>
          cases asynchronous with
          | true =>
            simp only [Bool.not_true, Bool.false_eq_true, if_false, if_true]
            refine ⟨hunused, h.waits, fun _ => hunused, ?_⟩
            unfold AwsIotConnectivityModule.phase
            dsimp only
            rw [hmain]
            exact hphase
          | false => exact h.congr rfl ⟨rfl, rfl, rfl, rfl⟩ (fun _ => hunused) hphase
    . rw [← Option.some_inj.mp heq]
      exact h
  | disconnect =>
    dsimp only at heq
    split at heq
    . next hmain =>
      rw [← Option.some_inj.mp heq]
      unfold AwsIotConnectivityModule.disconnect
      split
      . refine h.congr_phase rfl rfl rfl (fun hnot => by cases hnot) ?_
        unfold AwsIotConnectivityModule.phase
        rw [hmain]
      . refine h.congr_phase rfl rfl rfl (fun hnot => by cases hnot) ?_
        unfold AwsIotConnectivityModule.phase
        rw [hmain]
    . rw [← Option.some_inj.mp heq]
      exact h
  | main answer => exact h.mainStep hworking heq
  | retry answer => exact h.retryStep hworking heq
  | onConnectionCompleted errorCode returnCode =>
    dsimp only at heq
    split at heq
    . rw [Option.map_eq_some_iff] at heq
      obtain ⟨connection, _, hnext⟩ := heq
      rw [← hnext]
      exact hcallback connection module.eventLoop
    . rw [← Option.some_inj.mp heq]
      exact h
  | onInterrupted =>
    dsimp only at heq
    split at heq
    . rw [← Option.some_inj.mp heq]
      exact hcallback _ module.eventLoop
    . rw [← Option.some_inj.mp heq]
      exact h
  | onResumed =>
    dsimp only at heq
    split at heq
    . rw [← Option.some_inj.mp heq]
      exact hcallback _ module.eventLoop
    . rw [← Option.some_inj.mp heq]
      exact h
  | onDisconnect =>
    dsimp only at heq
    split at heq
    . rw [Option.map_eq_some_iff] at heq
      obtain ⟨connection, _, hnext⟩ := heq
      rw [← hnext]
      exact hcallback connection .closing
    . rw [← Option.some_inj.mp heq]
      exact h
  | onSubAck packetId qos errorCode =>
    dsimp only at heq
    split at heq
    . next i _ hasked =>
      rw [Option.map_eq_some_iff] at heq
      obtain ⟨subscriptions, hacked, hnext⟩ := heq
      rw [← hnext]
      refine ⟨h.retry, h.waits, h.unused, ?_⟩
      have hphase := h.phase
      show module.phase.Holds channels subscriptions module.mRetryThread.finished
      cases hcase : module.phase with
      | before =>
        rw [hcase] at hphase
        exact Subscribing.onSubAck hphase hasked hacked
      | running step =>
        rw [hcase] at hphase
        exact Subscribing.onSubAck hphase hasked hacked
      | after =>
        rw [hcase] at hphase
        exact hphase.imp (fun hbefore => ⟨hbefore.1.onSubAck hasked hacked, hbefore.2⟩)
          fun hafter => hafter.onSubAck hasked hacked
    . rw [← Option.some_inj.mp heq]
      exact h
  | callback =>
    rw [← Option.some_inj.mp heq]
    unfold callbackStep
    split
    . exact h
    . exact hcallback _ .closed
    . exact hcallback _ .idle

end Recorded

/--
In every state that the module can get into no promise has thrown.
-/
theorem run_spec (channels : List (String × Bool)) (events : List ConnectivityEvent)
    : ∃ module, (new channels).run events = some module ∧ module.Working ∧ module.Recorded channels := by
  have hrun (module : AwsIotConnectivityModule) (hworking : module.Working) (h : module.Recorded channels)
      : ∃ last, module.run events = some last ∧ last.Working ∧ last.Recorded channels := by
    induction events generalizing module with
    | nil => exact ⟨module, rfl, hworking, h⟩
    | cons event events ih =>
      obtain ⟨step, hsubscribing⟩ := h.subscribing
      obtain ⟨next, heq, hnext⟩ := hworking.step hsubscribing.acked event
      obtain ⟨last, hlast, hholds⟩ := ih next hnext (h.step hworking heq)
      refine ⟨last, ?_, hholds⟩
      unfold run
      rw [List.foldlM_cons, heq]
      exact hlast
  exact hrun (new channels) (Working.new channels) (Recorded.new channels)

def Reports (thread : RetryThread) : Prop :=
  match thread.worker with
  | .absent => thread.created = false
  | .entry => thread.mDone = false
  | .subscribe _ | .exit | .ended => thread.finished ≠ []
  | _ => True

theorem Reports.reported {thread : RetryThread} (h : Reports thread) (hcreated : thread.created = true)
    (hover : thread.worker.isOver = true)
    : thread.finished ≠ [] := by
  unfold Reports at h
  cases hworker : thread.worker with
  | absent =>
    rw [hworker] at h
    rw [show thread.created = false from h] at hcreated
    cases hcreated
  | exit =>
    rw [hworker] at h
    exact h
  | ended =>
    rw [hworker] at h
    exact h
  | _ =>
    rw [hworker] at hover
    cases hover

structure Unstopped (module : AwsIotConnectivityModule) : Prop where
  thread : module.mRetryThread.fShouldStop = false ∧ .ABORT ∉ module.mRetryThread.finished
  reports : Reports module.mRetryThread
  main : module.mainThread = .idle ∨ module.mainThread.connects = true

namespace Unstopped

theorem retryStep (h : module.Unstopped) {answer : Bool} (heq : module.retryStep answer = some next)
    : next.Unstopped := by
  obtain ⟨⟨hstop, habort⟩, hreports, hmain⟩ := h
  unfold Reports at hreports
  unfold AwsIotConnectivityModule.retryStep at heq
  cases hworker : module.mRetryThread.worker with
  | absent =>
    rw [hworker] at heq hreports
    rw [← Option.some_inj.mp heq]
    refine ⟨⟨hstop, habort⟩, ?_, hmain⟩
    unfold Reports
    rw [hworker]
    exact hreports
  | entry =>
    rw [hworker] at heq hreports
    dsimp only at heq hreports
    rw [hreports] at heq
    rw [← Option.some_inj.mp heq]
    exact ⟨⟨hstop, habort⟩, trivial, hmain⟩
  | checkStop =>
    rw [hworker, hstop] at heq
    rw [← Option.some_inj.mp heq]
    exact ⟨⟨hstop, habort⟩, trivial, hmain⟩
  | attempt step =>
    rw [hworker] at heq
    dsimp only at heq
    rw [Option.map_eq_some_iff] at heq
    obtain ⟨⟨connection, progress⟩, hattempt, hnext⟩ := heq
    cases progress with
    | running step' =>
      rw [← hnext]
      exact ⟨⟨hstop, habort⟩, trivial, hmain⟩
    | returned result =>
      cases result with
      | SUCCESS =>
        rw [← hnext]
        refine ⟨⟨hstop, ?_⟩, ?_, hmain⟩
        . dsimp only [afterAttempt]
          simp [habort]
        . unfold Reports afterAttempt
          dsimp only
          simp
      | RETRY =>
        rw [← hnext]
        exact ⟨⟨hstop, habort⟩, trivial, hmain⟩
      | ABORT => exact (Recorded.attempt_ne_ABORT hattempt).elim
  | subscribe step =>
    rw [hworker] at heq hreports
    dsimp only at heq
    split at heq
    . rw [← Option.some_inj.mp heq]
      exact ⟨⟨hstop, habort⟩, hreports, hmain⟩
    . rw [← Option.some_inj.mp heq]
      exact ⟨⟨hstop, habort⟩, hreports, hmain⟩
  | exit =>
    rw [hworker] at heq hreports
    rw [← Option.some_inj.mp heq]
    exact ⟨⟨hstop, habort⟩, hreports, hmain⟩
  | ended =>
    rw [hworker] at heq hreports
    rw [← Option.some_inj.mp heq]
    refine ⟨⟨hstop, habort⟩, ?_, hmain⟩
    unfold Reports
    rw [hworker]
    exact hreports
  | _ =>
    rw [hworker] at heq
    rw [← Option.some_inj.mp heq]
    exact ⟨⟨hstop, habort⟩, trivial, hmain⟩

theorem mainStep (h : module.Unstopped) {answer : Bool} (heq : module.mainStep answer = some next)
    : next.Unstopped := by
  obtain ⟨hthread, hreports, hmain⟩ := h
  unfold AwsIotConnectivityModule.mainStep at heq
  cases hcase : module.mainThread with
  | idle =>
    rw [hcase] at heq
    rw [← Option.some_inj.mp heq]
    exact ⟨hthread, hreports, hmain⟩
  | attempt step =>
    rw [hcase] at heq
    rw [Option.map_eq_some_iff] at heq
    obtain ⟨⟨connection, progress⟩, _, hnext⟩ := heq
    rw [← hnext]
    refine ⟨hthread, hreports, ?_⟩
    cases progress with
    | running step' => exact Or.inr rfl
    | returned result =>
      cases result with
      | SUCCESS => exact Or.inr rfl
      | RETRY => exact Or.inl rfl
      | ABORT => exact Or.inl rfl
  | subscribe step =>
    rw [hcase] at heq
    dsimp only at heq
    rw [← Option.some_inj.mp heq]
    refine ⟨hthread, hreports, ?_⟩
    dsimp only
    split
    . exact Or.inr rfl
    . exact Or.inl rfl
  | _ =>
    rw [hcase] at hmain
    cases hmain with
    | inl hidle => cases hidle
    | inr hconnects => cases hconnects

theorem step (h : module.Unstopped) {event : ConnectivityEvent} (hevent : event ≠ .disconnect)
    (heq : module.step event = some next)
    : next.Unstopped := by
  unfold AwsIotConnectivityModule.step at heq
  cases event with
  | connect created asynchronous =>
    dsimp only at heq
    split at heq
    . rw [← Option.some_inj.mp heq]
      cases module.connected with
      | true => exact h
      | false =>
        rw [if_neg Bool.false_ne_true]
        unfold AwsIotConnectivityModule.connect
        cases created with
        | false => exact ⟨h.thread, h.reports, h.main⟩
        | true =>
          cases asynchronous with
          | true => exact ⟨⟨rfl, h.thread.2⟩, rfl, h.main⟩
          | false => exact ⟨h.thread, h.reports, Or.inr rfl⟩
    . rw [← Option.some_inj.mp heq]
      exact h
  | disconnect => exact absurd rfl hevent
  | main answer => exact h.mainStep heq
  | retry answer => exact h.retryStep heq
  | onConnectionCompleted errorCode returnCode =>
    dsimp only at heq
    split at heq
    . rw [Option.map_eq_some_iff] at heq
      obtain ⟨connection, _, hnext⟩ := heq
      rw [← hnext]
      exact ⟨h.thread, h.reports, h.main⟩
    . rw [← Option.some_inj.mp heq]
      exact h
  | onInterrupted =>
    dsimp only at heq
    split at heq
    . rw [← Option.some_inj.mp heq]
      exact ⟨h.thread, h.reports, h.main⟩
    . rw [← Option.some_inj.mp heq]
      exact h
  | onResumed =>
    dsimp only at heq
    split at heq
    . rw [← Option.some_inj.mp heq]
      exact ⟨h.thread, h.reports, h.main⟩
    . rw [← Option.some_inj.mp heq]
      exact h
  | onDisconnect =>
    dsimp only at heq
    split at heq
    . rw [Option.map_eq_some_iff] at heq
      obtain ⟨connection, _, hnext⟩ := heq
      rw [← hnext]
      exact ⟨h.thread, h.reports, h.main⟩
    . rw [← Option.some_inj.mp heq]
      exact h
  | onSubAck packetId qos errorCode =>
    dsimp only at heq
    split at heq
    . rw [Option.map_eq_some_iff] at heq
      obtain ⟨subscriptions, _, hnext⟩ := heq
      rw [← hnext]
      exact ⟨h.thread, h.reports, h.main⟩
    . rw [← Option.some_inj.mp heq]
      exact h
  | callback =>
    rw [← Option.some_inj.mp heq]
    unfold callbackStep
    split
    . exact h
    . exact ⟨h.thread, h.reports, h.main⟩
    . exact ⟨h.thread, h.reports, h.main⟩

theorem run (h : module.Unstopped) {events : List ConnectivityEvent} (hevents : .disconnect ∉ events)
    (heq : module.run events = some next)
    : next.Unstopped := by
  induction events generalizing module with
  | nil =>
    rw [← Option.some_inj.mp heq]
    exact h
  | cons event events ih =>
    rw [List.mem_cons, not_or] at hevents
    unfold AwsIotConnectivityModule.run at heq
    rw [List.foldlM_cons] at heq
    obtain ⟨later, hstep, hrest⟩ := Option.bind_eq_some_iff.mp heq
    exact ih (h.step (Ne.symm hevents.1) hstep) hevents.2 hrest

end Unstopped

/--
In every order of the steps of the threads and the callbacks: the retry thread waits twice as long after every
failed attempt, up to the largest time, it ends with the first attempt that succeeds or, if `disconnect` was
called, with an abort, and it tells so once. Only a thread that `disconnect` has released before it looked at
`mDone` ends without a word, and that has done nothing at all. After the success the channels are subscribed to,
each once and in order, and a channel counts as subscribed exactly if its call has returned a success.
-/
theorem retry_and_subscribe (channels : List (String × Bool)) (events : List ConnectivityEvent)
    : ∃ module, (new channels).run events = some module
        ∧ (let thread := module.mRetryThread
          thread.waits = (List.range thread.waits.length).map backoffTime
            ∧ ((thread.finished = [] ∧ ∃ n, thread.attempts = List.replicate n .RETRY
                  ∧ thread.waits.length ≤ n ∧ n ≤ thread.waits.length + 1)
                ∨ thread.Succeeded ∨ thread.Aborted)
            ∧ (thread.created = true → thread.worker.isOver = true →
                thread.Succeeded ∨ thread.Aborted ∨ (thread.Skipped ∧ .disconnect ∈ events))
            ∧ (.ABORT ∈ thread.finished → .disconnect ∈ events))
        ∧ (module.subscriptions.results.map (·.1) <+: asynchronousChannels channels
            ∧ (∀ result ∈ module.subscriptions.results,
                Result channels module.subscriptions result.1 result.2)
            ∧ (module.mRetryThread.finished = [.SUCCESS] →
                (∃ step, module.mRetryThread.worker = .subscribe step)
                  ∨ module.subscriptions.results.map (·.1) = asynchronousChannels channels)) := by
  obtain ⟨module, heq, hworking, h⟩ := run_spec channels events
  obtain ⟨step, hsubscribing⟩ := h.subscribing
  have hunstopped (hnot : .disconnect ∉ events) : module.Unstopped := by
    have hnew : (new channels).Unstopped := ⟨⟨rfl, fun hmem => by cases hmem⟩, rfl, Or.inl rfl⟩
    exact hnew.run hnot heq
  refine ⟨module, heq, ⟨h.waits, h.retry.attempts, ?_, ?_⟩, ?_, hsubscribing.results, ?_⟩
  . intro hcreated hover
    refine (h.retry.over hover).imp_right (Or.imp_right fun hskipped => ⟨hskipped, ?_⟩)
    by_contra hnot
    exact (hunstopped hnot).reports.reported hcreated hover hskipped.1.2.2
  . intro habort
    by_contra hnot
    exact (hunstopped hnot).thread.2 habort
  . rw [hsubscribing.done]
    exact asynchronousBefore_prefix hsubscribing.bound
  . intro hfinished
    have hphase := h.phase
    cases hcase : module.phase with
    | before =>
      rw [h.finished_of_before hcase] at hfinished
      cases hfinished
    | running step =>
      cases h.subscribe_of_running hcase with
      | inl hnone =>
        rw [hnone] at hfinished
        cases hfinished
      | inr hworker => exact Or.inl ⟨step, hworker⟩
    | after =>
      rw [hcase] at hphase
      cases hphase with
      | inl hbefore => exact absurd hfinished hbefore.2
      | inr hafter => exact Or.inr hafter.done

/--
What `isAlive` says: it is the session of the SDK, but for the time until `attempt` stores that the connection was
accepted and until `onDisconnect` stores that it is closed, and but for an interruption that came in between.
-/
theorem isAlive_follows_session (channels : List (String × Bool)) (events : List ConnectivityEvent)
    : ∃ module, (new channels).run events = some module
        ∧ (module.mRetryThread.worker = .absent ∨ module.mainThread.waits = true)
        ∧ (module.connection.session = .online →
            module.isAlive = true ∨ module.position.accepting module.connection)
        ∧ (module.isAlive = true →
            module.connection.session = .online
              ∨ (module.connection.session = .interrupted ∧ module.connection.overtaken = true)
              ∨ module.eventLoop = .closing) := by
  obtain ⟨module, heq, hworking, _⟩ := run_spec channels events
  exact ⟨module, heq, hworking.alone, hworking.online, hworking.alive⟩

end AwsIotConnectivityModule

end Retry

end OffboardConnectivityAwsIot
