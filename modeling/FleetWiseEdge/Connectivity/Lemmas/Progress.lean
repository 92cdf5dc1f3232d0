import FleetWiseEdge.Connectivity.Lifecycle
import FleetWiseEdge.Connectivity.Lemmas.Rank

namespace OffboardConnectivityAwsIot

section Disconnect

def MainThread.disconnects (mainThread : MainThread) : Bool :=
  match mainThread with
  | .stopStore | .stopNotify | .release | .join | .stopped | .reset _ => true
  | _ => false

inductive EventKind where
  | main
  | retry
  | onConnectionCompleted
  | onDisconnect
  | onSubAck
  | callback
  deriving DecidableEq, Repr

def ConnectivityEvent.kind (event : ConnectivityEvent) : Option EventKind :=
  match event with
  | .main _ => some .main
  | .retry _ => some .retry
  | .onConnectionCompleted _ _ => some .onConnectionCompleted
  | .onDisconnect => some .onDisconnect
  | .onSubAck _ _ _ => some .onSubAck
  | .callback => some .callback
  | .connect _ _ | .disconnect | .onInterrupted | .onResumed => none

def ConnectivityEvent.isCallback (event : ConnectivityEvent) : Bool :=
  match event with
  | .connect _ _ | .disconnect | .main _ | .retry _ => false
  | _ => true

def AttemptStep.awaits (step : AttemptStep) : EventKind :=
  match step with
  | .reset _ => .onDisconnect
  | _ => .onConnectionCompleted

namespace AwsIotConnectivityModule

variable {channels : List (String × Bool)} {module next : AwsIotConnectivityModule}

def owed (module : AwsIotConnectivityModule) : Nat :=
  module.connection.owed + module.subscriptions.owed + module.eventLoop.rank

def rank (module : AwsIotConnectivityModule) : Nat :=
  match module.mainThread with
  | .stopStore => 4 * module.subscriptions.mChannels.length + 62
  | .stopNotify => 4 * module.subscriptions.mChannels.length + 61
  | .release => 4 * module.subscriptions.mChannels.length + 60
  | .join => 20 + module.mRetryThread.worker.rank module.subscriptions.mChannels.length + module.owed
  | .stopped => 15 + module.owed
  | .reset step => step.rank + module.owed
  | _ => 0

def awaits (module : AwsIotConnectivityModule) (kind : EventKind) : EventKind :=
  match module.eventLoop with
  | .idle => kind
  | _ => .callback

def helpful (module : AwsIotConnectivityModule) : EventKind :=
  match module.mainThread with
  | .join =>
    match module.mRetryThread.worker with
    | .absent | .ended => .main
    | .attempt step => if step.blocked module.connection then module.awaits step.awaits else .retry
    | .subscribe step => if step.blocked module.subscriptions then module.awaits .onSubAck else .retry
    | _ => .retry
  | .reset step => if step.blocked module.connection then module.awaits .onDisconnect else .main
  | _ => .main

/--
The retry thread waits for a subscription that the SDK does not answer any more, and `disconnect` for the retry
thread.
-/
def Stuck (module : AwsIotConnectivityModule) : Prop :=
  module.mainThread.stopping = true
    ∧ (∃ i, module.mRetryThread.worker = .subscribe (.wait i))
    ∧ module.subscriptions.subscribing = none
    ∧ module.subscriptions.subscribeFinishedPromise.value = none

section Frames

theorem retryStep_frame {answer : Bool} (heq : module.retryStep answer = some next)
    : next.mainThread = module.mainThread ∧ next.eventLoop = module.eventLoop
        ∧ next.mRetryThread.fShouldStop = module.mRetryThread.fShouldStop
        ∧ next.subscriptions.mChannels.length = module.subscriptions.mChannels.length := by
  unfold retryStep at heq
  cases hworker : module.mRetryThread.worker with
  | checkStop =>
    rw [hworker] at heq
    dsimp only at heq
    split at heq
    . cases heq
      exact ⟨rfl, rfl, rfl, rfl⟩
    . cases heq
      exact ⟨rfl, rfl, rfl, rfl⟩
  | attempt step =>
    rw [hworker] at heq
    dsimp only at heq
    rw [Option.map_eq_some_iff] at heq
    obtain ⟨⟨connection, progress⟩, _, hnext⟩ := heq
    cases progress with
    | running step' =>
      rw [← hnext]
      exact ⟨rfl, rfl, rfl, rfl⟩
    | returned result =>
      rw [← hnext]
      cases result with
      | SUCCESS => exact ⟨rfl, rfl, rfl, rfl⟩
      | RETRY => exact ⟨rfl, rfl, rfl, rfl⟩
      | ABORT => exact ⟨rfl, rfl, rfl, rfl⟩
  | subscribe step =>
    rw [hworker] at heq
    dsimp only at heq
    split at heq
    . cases heq
      exact ⟨rfl, rfl, rfl, Subscriptions.onFinished_length _ _⟩
    . cases heq
      exact ⟨rfl, rfl, rfl, Subscriptions.onFinished_length _ _⟩
  | _ =>
    rw [hworker] at heq
    cases heq
    exact ⟨rfl, rfl, rfl, rfl⟩

def Told (module : AwsIotConnectivityModule) : Prop :=
  module.mainThread.stopping = true ∧ module.mainThread ≠ .stopStore → module.mRetryThread.fShouldStop = true

theorem Told.mainStep (h : module.Told) {answer : Bool} (heq : module.mainStep answer = some next)
    : next.Told := by
  unfold AwsIotConnectivityModule.mainStep at heq
  cases hmain : module.mainThread with
  | idle =>
    rw [hmain] at heq
    cases heq
    exact h
  | attempt step =>
    rw [hmain] at heq
    rw [Option.map_eq_some_iff] at heq
    obtain ⟨⟨connection, progress⟩, _, hnext⟩ := heq
    rw [← hnext]
    cases progress with
    | running step' => exact fun hstopping => by cases hstopping.1
    | returned result => cases result <;> exact fun hstopping => by cases hstopping.1
  | subscribe step =>
    rw [hmain] at heq
    dsimp only at heq
    cases heq
    unfold Told
    dsimp only
    split <;> exact fun hstopping => by cases hstopping.1
  | stopStore =>
    rw [hmain] at heq
    cases heq
    exact fun _ => rfl
  | stopNotify =>
    rw [hmain] at heq
    cases heq
    exact fun _ => h (by rw [hmain]; exact ⟨rfl, MainThread.noConfusion⟩)
  | release =>
    rw [hmain] at heq
    cases heq
    exact fun _ => h (by rw [hmain]; exact ⟨rfl, MainThread.noConfusion⟩)
  | join =>
    rw [hmain] at heq
    dsimp only at heq
    split at heq
    . cases heq
      exact fun hstopping => by cases hstopping.1
    . cases heq
      exact h
  | stopped =>
    rw [hmain] at heq
    cases heq
    exact fun hstopping => by cases hstopping.1
  | reset step =>
    rw [hmain] at heq
    rw [Option.map_eq_some_iff] at heq
    obtain ⟨⟨connection, progress⟩, _, hnext⟩ := heq
    rw [← hnext]
    cases progress <;> exact fun hstopping => by cases hstopping.1

theorem callback_frame {event : ConnectivityEvent} (hcallback : event.isCallback = true)
    (heq : module.step event = some next)
    : next.mainThread = module.mainThread ∧ next.mRetryThread = module.mRetryThread
        ∧ (next.subscriptions = module.subscriptions
            ∨ ∃ i packetId qos errorCode, event = .onSubAck packetId qos errorCode
                ∧ module.eventLoop = .idle ∧ module.subscriptions.subscribing = some i
                ∧ module.subscriptions.onSubAck i packetId qos errorCode = some next.subscriptions
                ∧ next.connection = module.connection ∧ next.eventLoop = module.eventLoop) := by
  unfold AwsIotConnectivityModule.step at heq
  cases event with
  | connect created asynchronous => cases hcallback
  | disconnect => cases hcallback
  | main answer => cases hcallback
  | retry answer => cases hcallback
  | onConnectionCompleted errorCode returnCode =>
    dsimp only at heq
    split at heq
    . rw [Option.map_eq_some_iff] at heq
      obtain ⟨connection, _, hnext⟩ := heq
      rw [← hnext]
      exact ⟨rfl, rfl, Or.inl rfl⟩
    . cases heq
      exact ⟨rfl, rfl, Or.inl rfl⟩
  | onInterrupted =>
    dsimp only at heq
    split at heq
    . cases heq
      exact ⟨rfl, rfl, Or.inl rfl⟩
    . cases heq
      exact ⟨rfl, rfl, Or.inl rfl⟩
  | onResumed =>
    dsimp only at heq
    split at heq
    . cases heq
      exact ⟨rfl, rfl, Or.inl rfl⟩
    . cases heq
      exact ⟨rfl, rfl, Or.inl rfl⟩
  | onDisconnect =>
    dsimp only at heq
    split at heq
    . rw [Option.map_eq_some_iff] at heq
      obtain ⟨connection, _, hnext⟩ := heq
      rw [← hnext]
      exact ⟨rfl, rfl, Or.inl rfl⟩
    . cases heq
      exact ⟨rfl, rfl, Or.inl rfl⟩
  | onSubAck packetId qos errorCode =>
    dsimp only at heq
    split at heq
    . next i hloop hasked =>
      rw [Option.map_eq_some_iff] at heq
      obtain ⟨subscriptions, hacked, hnext⟩ := heq
      rw [← hnext]
      exact ⟨rfl, rfl, Or.inr ⟨i, packetId, qos, errorCode, rfl, hloop, hasked, hacked, rfl, rfl⟩⟩
    . cases heq
      exact ⟨rfl, rfl, Or.inl rfl⟩
  | callback =>
    cases heq
    unfold callbackStep
    split
    . exact ⟨rfl, rfl, Or.inl rfl⟩
    . exact ⟨rfl, rfl, Or.inl rfl⟩
    . exact ⟨rfl, rfl, Or.inl rfl⟩

theorem call_busy {event : ConnectivityEvent} (hbusy : module.mainThread.disconnects = true)
    (hcall : event.kind = none) (hcallback : event.isCallback = false) (heq : module.step event = some next)
    : next = module := by
  have hidle {P : Prop} (hmain : module.mainThread = .idle) : P := by
    rw [hmain] at hbusy
    cases hbusy
  unfold AwsIotConnectivityModule.step at heq
  cases event with
  | connect created asynchronous =>
    dsimp only at heq
    split at heq
    . next hmain => exact hidle hmain
    . cases heq
      rfl
  | disconnect =>
    dsimp only at heq
    split at heq
    . next hmain => exact hidle hmain
    . cases heq
      rfl
  | onInterrupted => cases hcallback
  | onResumed => cases hcallback
  | _ => cases hcall

theorem Told.step (h : module.Told) {event : ConnectivityEvent} (heq : module.step event = some next)
    : next.Told := by
  cases hcallback : event.isCallback with
  | true =>
    obtain ⟨hmain, hretry, _⟩ := callback_frame hcallback heq
    unfold Told
    rw [hmain, hretry]
    exact h
  | false =>
    cases event with
    | connect created asynchronous =>
      unfold AwsIotConnectivityModule.step at heq
      dsimp only at heq
      split at heq
      . next hmain =>
        cases heq
        cases module.connected with
        | true => exact h
        | false =>
          rw [if_neg Bool.false_ne_true]
          unfold AwsIotConnectivityModule.connect Told
          cases created <;> cases asynchronous <;> simp [hmain, MainThread.stopping]
      . cases heq
        exact h
    | disconnect =>
      unfold AwsIotConnectivityModule.step at heq
      dsimp only at heq
      split at heq
      . cases heq
        unfold AwsIotConnectivityModule.disconnect Told
        split <;> simp [MainThread.stopping]
      . cases heq
        exact h
    | main answer => exact h.mainStep heq
    | retry answer =>
      obtain ⟨hmain, _, hstop, _⟩ := retryStep_frame heq
      unfold Told
      rw [hmain, hstop]
      exact h
    | _ => cases hcallback

end Frames

section Progress

theorem worker_rank_le (n : Nat) (worker : RetryWorker) : worker.rank n ≤ 4 * n + 25 := by
  cases worker with
  | attempt step =>
    cases step with
    | reset step =>
      cases step <;> simp only [RetryWorker.rank, AttemptStep.rank, ResetStep.rank] <;> omega
    | _ =>
      simp only [RetryWorker.rank, AttemptStep.rank]
      omega
  | subscribe step =>
    cases step <;> simp only [RetryWorker.rank, SubscribeStep.rank] <;> omega
  | _ =>
    simp only [RetryWorker.rank]
    omega

theorem owed_le (module : AwsIotConnectivityModule) : module.owed ≤ 7 := by
  unfold owed Connection.owed Subscriptions.owed EventLoop.rank
  cases module.connection.connecting <;> cases module.connection.disconnecting <;>
    cases module.subscriptions.subscribing.isSome <;> cases module.eventLoop <;> decide

theorem rank_of_owed (hbusy : module.mainThread.disconnects = true)
    (hthreads : next.mainThread = module.mainThread ∧ next.mRetryThread = module.mRetryThread)
    (hlength : next.subscriptions.mChannels.length = module.subscriptions.mChannels.length)
    (howed : next.owed < module.owed)
    : next.rank < module.rank
        ∨ (next.rank = module.rank ∧ next.helpful = module.helpful ∧ module.helpful = .main) := by
  obtain ⟨hmain, hretry⟩ := hthreads
  unfold rank helpful
  rw [hmain, hretry, hlength]
  cases hcase : module.mainThread with
  | stopStore => exact Or.inr ⟨rfl, rfl, rfl⟩
  | stopNotify => exact Or.inr ⟨rfl, rfl, rfl⟩
  | release => exact Or.inr ⟨rfl, rfl, rfl⟩
  | join => exact Or.inl (Nat.add_lt_add_left howed _)
  | stopped => exact Or.inl (Nat.add_lt_add_left howed _)
  | reset step => exact Or.inl (Nat.add_lt_add_left howed _)
  | _ =>
    rw [hcase] at hbusy
    cases hbusy

theorem awaits_eq {kind : EventKind} (hkind : kind ≠ .callback) {found : EventKind}
    (h : module.awaits found = kind)
    : module.eventLoop = .idle ∧ found = kind := by
  unfold awaits at h
  cases hloop : module.eventLoop with
  | idle =>
    rw [hloop] at h
    exact ⟨rfl, h⟩
  | _ =>
    rw [hloop] at h
    exact absurd h.symm hkind

theorem disconnecting_of_blocked {step : ResetStep} {connection : Connection} (h : step.Holds connection)
    (hblocked : step.blocked connection = true)
    : connection.disconnecting = true := by
  cases step with
  | wait => exact h.2.2.mp (Option.isNone_iff_eq_none.mp hblocked)
  | _ => cases hblocked

theorem helpful_cases (hworking : module.Working) (hfree : ¬ module.Stuck)
    : module.helpful = .main ∨ module.helpful = .retry
        ∨ ∃ found, module.helpful = module.awaits found
            ∧ (found = .onConnectionCompleted ∧ module.connection.connecting = true
              ∨ found = .onDisconnect ∧ module.connection.disconnecting = true
              ∨ found = .onSubAck ∧ ∃ i, module.subscriptions.subscribing = some i) := by
  have hholds := hworking.holds
  unfold position at hholds
  unfold helpful
  cases hmain : module.mainThread with
  | join =>
    rw [hmain] at hholds
    cases hworker : module.mRetryThread.worker with
    | attempt step =>
      rw [hworker] at hholds
      dsimp only
      cases hblocked : step.blocked module.connection with
      | false => exact Or.inr (Or.inl rfl)
      | true =>
        rw [if_pos rfl]
        refine Or.inr (Or.inr ⟨_, rfl, ?_⟩)
        cases step with
        | wait => exact Or.inl ⟨rfl, hholds.1.mp (Option.isNone_iff_eq_none.mp hblocked)⟩
        | reset step => exact Or.inr (Or.inl ⟨rfl, disconnecting_of_blocked hholds hblocked⟩)
        | _ => cases hblocked
    | subscribe step =>
      dsimp only
      cases hblocked : step.blocked module.subscriptions with
      | false => exact Or.inr (Or.inl rfl)
      | true =>
        rw [if_pos rfl]
        refine Or.inr (Or.inr ⟨_, rfl, Or.inr (Or.inr ⟨rfl, ?_⟩)⟩)
        cases step with
        | wait i =>
          cases hasked : module.subscriptions.subscribing with
          | some j => exact ⟨j, rfl⟩
          | none =>
            have hvalue := Option.isNone_iff_eq_none.mp hblocked
            exact absurd ⟨by rw [hmain]; rfl, ⟨i, hworker⟩, hasked, hvalue⟩ hfree
        | _ => cases hblocked
    | absent => exact Or.inl rfl
    | ended => exact Or.inl rfl
    | _ => exact Or.inr (Or.inl rfl)
  | reset step =>
    rw [hmain] at hholds
    dsimp only
    cases hblocked : step.blocked module.connection with
    | false => exact Or.inl rfl
    | true =>
      rw [if_pos rfl]
      exact Or.inr (Or.inr ⟨_, rfl, Or.inr (Or.inl ⟨rfl, disconnecting_of_blocked hholds hblocked⟩)⟩)
  | _ => exact Or.inl rfl

def Goes (module next : AwsIotConnectivityModule) (kind : Option EventKind) : Prop :=
  next.rank < module.rank
    ∨ (next.rank = module.rank ∧ next.helpful = module.helpful ∧ kind ≠ some module.helpful)

theorem Goes.same {kind : Option EventKind} (h : kind ≠ some module.helpful) : Goes module module kind :=
  Or.inr ⟨rfl, rfl, h⟩

theorem awaited (hworking : module.Working) (hfree : ¬ module.Stuck) {kind : EventKind} (h : module.helpful = kind)
    (hkind : kind ≠ .main ∧ kind ≠ .retry ∧ kind ≠ .callback)
    : module.eventLoop = .idle
        ∧ (kind = .onConnectionCompleted ∧ module.connection.connecting = true
          ∨ kind = .onDisconnect ∧ module.connection.disconnecting = true
          ∨ kind = .onSubAck ∧ ∃ i, module.subscriptions.subscribing = some i) := by
  obtain ⟨hmain, hretry, hcallback⟩ := hkind
  rcases helpful_cases hworking hfree with hcase | hcase | ⟨found, hcase, howed⟩
  . exact absurd (h.symm.trans hcase) hmain
  . exact absurd (h.symm.trans hcase) hretry
  . obtain ⟨hloop, hfound⟩ := awaits_eq hcallback (hcase.symm.trans h)
    rw [hfound] at howed
    exact ⟨hloop, howed⟩

theorem onConnectionCompleted_owed {connection connection' : Connection} {errorCode returnCode : Nat}
    (heq : connection.onConnectionCompleted errorCode returnCode = some connection')
    (hconnecting : connection.connecting = true)
    : connection'.owed < connection.owed := by
  unfold Connection.onConnectionCompleted at heq
  rw [Option.map_eq_some_iff] at heq
  obtain ⟨promise, _, hnext⟩ := heq
  rw [← hnext]
  simp only [Connection.owed, hconnecting, Bool.false_eq_true, if_false, if_true]
  omega

theorem onDisconnect_owed {connection connection' : Connection} (heq : connection.onDisconnect = some connection')
    (hdisconnecting : connection.disconnecting = true)
    : connection'.owed + 2 < connection.owed := by
  unfold Connection.onDisconnect at heq
  rw [Option.map_eq_some_iff] at heq
  obtain ⟨promise, _, hnext⟩ := heq
  rw [← hnext]
  simp only [Connection.owed, hdisconnecting, Bool.false_eq_true, if_false, if_true]
  omega

theorem callback_goes (hworking : module.Working) (hbusy : module.mainThread.disconnects = true)
    (hfree : ¬ module.Stuck) {event : ConnectivityEvent} (hcallback : event.isCallback = true)
    (heq : module.step event = some next)
    : Goes module next event.kind := by
  have hlower (hkind : event.kind ≠ some .main)
      (hthreads : next.mainThread = module.mainThread ∧ next.mRetryThread = module.mRetryThread)
      (hlength : next.subscriptions.mChannels.length = module.subscriptions.mChannels.length)
      (howed : next.owed < module.owed)
      : Goes module next event.kind := by
    refine (rank_of_owed hbusy hthreads hlength howed).imp_right ?_
    intro ⟨hrank, hsame, hmain⟩
    refine ⟨hrank, hsame, ?_⟩
    rw [hmain]
    exact hkind
  unfold AwsIotConnectivityModule.step at heq
  cases event with
  | connect created asynchronous => cases hcallback
  | disconnect => cases hcallback
  | main answer => cases hcallback
  | retry answer => cases hcallback
  | onConnectionCompleted errorCode returnCode =>
    dsimp only at heq
    split at heq
    . next howed =>
      rw [Option.map_eq_some_iff] at heq
      obtain ⟨connection, hcompleted, hnext⟩ := heq
      have hless := onConnectionCompleted_owed hcompleted howed.2
      apply hlower (by simp [ConnectivityEvent.kind]) <;> rw [← hnext]
      . exact ⟨rfl, rfl⟩
      . unfold owed
        dsimp only
        omega
    . next hnot =>
      cases heq
      refine Goes.same fun hsame => hnot ?_
      obtain ⟨hloop, howed⟩ := awaited hworking hfree (Option.some_inj.mp hsame).symm (by simp)
      simp only [true_and, reduceCtorEq, false_and, or_false] at howed
      exact ⟨hloop, howed⟩
  | onInterrupted =>
    dsimp only at heq
    split at heq
    . cases heq
      exact Or.inr ⟨rfl, rfl, by simp [ConnectivityEvent.kind]⟩
    . cases heq
      exact Goes.same (by simp [ConnectivityEvent.kind])
  | onResumed =>
    dsimp only at heq
    split at heq
    . cases heq
      exact Or.inr ⟨rfl, rfl, by simp [ConnectivityEvent.kind]⟩
    . cases heq
      exact Goes.same (by simp [ConnectivityEvent.kind])
  | onDisconnect =>
    dsimp only at heq
    split at heq
    . next howed =>
      rw [Option.map_eq_some_iff] at heq
      obtain ⟨connection, hclosed, hnext⟩ := heq
      have hless := onDisconnect_owed hclosed howed.2
      apply hlower (by simp [ConnectivityEvent.kind]) <;> rw [← hnext]
      . exact ⟨rfl, rfl⟩
      . unfold owed
        dsimp only [EventLoop.rank]
        rw [howed.1]
        dsimp only [EventLoop.rank]
        omega
    . next hnot =>
      cases heq
      refine Goes.same fun hsame => hnot ?_
      obtain ⟨hloop, howed⟩ := awaited hworking hfree (Option.some_inj.mp hsame).symm (by simp)
      simp only [true_and, reduceCtorEq, false_and, or_false, false_or] at howed
      exact ⟨hloop, howed⟩
  | onSubAck packetId qos errorCode =>
    dsimp only at heq
    split at heq
    . next i hloop hasked =>
      rw [Option.map_eq_some_iff] at heq
      obtain ⟨subscriptions, hacked, hnext⟩ := heq
      obtain ⟨hnone, hlength, _⟩ := Subscriptions.onSubAck_spec hacked
      apply hlower (by simp [ConnectivityEvent.kind]) <;> rw [← hnext]
      . exact ⟨rfl, rfl⟩
      . exact hlength
      . unfold owed Subscriptions.owed
        dsimp only
        rw [hnone, hasked]
        simp
    . next hnot =>
      cases heq
      refine Goes.same fun hsame => ?_
      obtain ⟨hloop, howed⟩ := awaited hworking hfree (Option.some_inj.mp hsame).symm (by simp)
      simp only [true_and, reduceCtorEq, false_and, false_or] at howed
      obtain ⟨i, hasked⟩ := howed
      exact hnot i hloop hasked
  | callback =>
    cases heq
    unfold callbackStep at hlower ⊢
    cases hloop : module.eventLoop with
    | idle =>
      refine Goes.same fun hsame => ?_
      rcases helpful_cases hworking hfree with hcase | hcase | ⟨found, hcase, howed⟩
      . rw [hcase] at hsame
        cases hsame
      . rw [hcase] at hsame
        cases hsame
      . unfold awaits at hcase
        rw [hloop] at hcase
        rw [hcase] at hsame
        rcases howed with howed | howed | howed <;> rw [howed.1] at hsame <;> cases hsame
    | closing =>
      rw [hloop] at hlower
      apply hlower (by simp [ConnectivityEvent.kind]) ⟨rfl, rfl⟩ rfl
      unfold owed Connection.owed
      dsimp only
      rw [hloop]
      dsimp only [EventLoop.rank]
      omega
    | closed =>
      rw [hloop] at hlower
      apply hlower (by simp [ConnectivityEvent.kind]) ⟨rfl, rfl⟩ rfl
      unfold owed Connection.owed
      dsimp only
      rw [hloop]
      dsimp only [EventLoop.rank]
      omega

theorem awaits_ne_retry (found : EventKind) (hfound : found ≠ .retry) : some .retry ≠ some (module.awaits found) := by
  intro hsame
  exact hfound (awaits_eq (by simp) (Option.some_inj.mp hsame).symm).2

theorem awaits_ne_main (found : EventKind) (hfound : found ≠ .main) : some .main ≠ some (module.awaits found) := by
  intro hsame
  exact hfound (awaits_eq (by simp) (Option.some_inj.mp hsame).symm).2

section AfterAttempt

variable (module : AwsIotConnectivityModule) (result : RetryStatus)

theorem rank_afterAttempt (n : Nat) : (module.afterAttempt result).mRetryThread.worker.rank n = result.rank n := by
  cases result <;> rfl

theorem connection_afterAttempt : (module.afterAttempt result).connection = module.connection := by
  cases result <;> rfl

theorem subscriptions_afterAttempt : (module.afterAttempt result).subscriptions = module.subscriptions := by
  cases result <;> rfl

end AfterAttempt

theorem join_goes (hrecorded : module.Recorded channels) (hworking : module.Working)
    (hmain : module.mainThread = .join) (hstop : module.mRetryThread.fShouldStop = true) {answer : Bool}
    (heq : module.retryStep answer = some next)
    : Goes module next (some .retry) := by
  obtain ⟨hmain', hloop', _, hlength⟩ := retryStep_frame heq
  rw [hmain] at hmain'
  have hlower
      (hrank : next.mRetryThread.worker.rank module.subscriptions.mChannels.length
          + (next.connection.owed + next.subscriptions.owed)
        < module.mRetryThread.worker.rank module.subscriptions.mChannels.length
          + (module.connection.owed + module.subscriptions.owed))
      : Goes module next (some .retry) := by
    refine Or.inl ?_
    unfold rank owed
    rw [hmain, hmain', hlength, hloop']
    dsimp only
    omega
  have hsame (h : next = module) (hkind : some EventKind.retry ≠ some module.helpful)
      : Goes module next (some .retry) := by
    rw [h]
    exact Goes.same hkind
  unfold AwsIotConnectivityModule.retryStep at heq
  cases hworker : module.mRetryThread.worker with
  | absent =>
    rw [hworker] at heq
    cases heq
    refine hsame rfl ?_
    unfold helpful
    rw [hmain, hworker]
    simp
  | ended =>
    rw [hworker] at heq
    cases heq
    refine hsame rfl ?_
    unfold helpful
    rw [hmain, hworker]
    simp
  | entry =>
    rw [hworker] at heq hlower
    cases heq
    apply hlower
    dsimp only [setWorker]
    split
    . simp only [RetryWorker.rank]
      omega
    . simp only [RetryWorker.rank]
      omega
  | start =>
    rw [hworker] at heq hlower
    cases heq
    apply hlower
    simp only [RetryWorker.rank]
    omega
  | exit =>
    rw [hworker] at heq hlower
    cases heq
    apply hlower
    simp only [RetryWorker.rank]
    omega
  | checkStop =>
    rw [hworker, hstop] at heq
    rw [hworker] at hlower
    cases heq
    apply hlower
    simp only [RetryWorker.rank]
    omega
  | attempt step =>
    rw [hworker] at heq hlower
    dsimp only at heq
    rw [Option.map_eq_some_iff] at heq
    obtain ⟨⟨connection, progress⟩, hattempt, hnext⟩ := heq
    cases Connection.attempt_rank hattempt module.subscriptions.mChannels.length with
    | inl hblocked =>
      obtain ⟨hwait, hconnection, hprogress⟩ := hblocked
      refine hsame ?_ ?_
      . rw [← hnext, hprogress, hconnection]
        unfold setWorker
        dsimp only
        rw [← hworker]
      . unfold helpful
        rw [hmain, hworker]
        dsimp only
        rw [if_pos hwait]
        apply awaits_ne_retry
        cases step <;> simp [AttemptStep.awaits]
    | inr hgoes =>
      obtain ⟨_, hrank⟩ := hgoes
      apply hlower
      rw [← hnext]
      cases progress with
      | running step' =>
        simp only [Progress.rank] at hrank
        simp only [setWorker, RetryWorker.rank]
        omega
      | returned result =>
        simp only [Progress.rank] at hrank
        rw [rank_afterAttempt, connection_afterAttempt, subscriptions_afterAttempt]
        simp only [RetryWorker.rank]
        omega
  | wait =>
    rw [hworker] at heq hlower
    cases heq
    apply hlower
    simp only [RetryWorker.rank]
    omega
  | backoff =>
    rw [hworker] at heq hlower
    cases heq
    apply hlower
    simp only [RetryWorker.rank]
    omega
  | subscribe step =>
    have hsubscribing : Subscribing channels step module.subscriptions := by
      have hphase := hrecorded.phase_of_worker hworking (by simp [hworker])
      rw [hworker] at hphase
      exact hphase
    rw [hworker] at heq hlower
    dsimp only at heq
    cases Subscriptions.onFinished_rank hsubscribing module.isAlive answer with
    | inl hblocked =>
      obtain ⟨hwait, hstep⟩ := hblocked
      rw [hstep] at heq
      refine hsame ?_ ?_
      . rw [← Option.some_inj.mp heq]
        unfold setWorker
        dsimp only
        rw [← hworker]
      . unfold helpful
        rw [hmain, hworker]
        dsimp only
        rw [if_pos hwait]
        exact awaits_ne_retry _ (by simp)
    | inr hgoes =>
      obtain ⟨_, hrank⟩ := hgoes
      apply hlower
      cases hprogress : (module.subscriptions.onFinished step module.isAlive answer).2 with
      | running step' =>
        rw [hprogress] at heq hrank
        rw [← Option.some_inj.mp heq]
        simp only [Progress.rank] at hrank
        simp only [setWorker, RetryWorker.rank]
        omega
      | returned result =>
        rw [hprogress] at heq hrank
        rw [← Option.some_inj.mp heq]
        simp only [Progress.rank] at hrank
        simp only [setWorker, RetryWorker.rank]
        omega

theorem retry_goes (hworking : module.Working) (hrecorded : module.Recorded channels) (htold : module.Told)
    (hbusy : module.mainThread.disconnects = true) {answer : Bool} (heq : module.retryStep answer = some next)
    : Goes module next (some .retry) := by
  cases hmain : module.mainThread with
  | stopStore =>
    obtain ⟨hmain', _, _, hlength⟩ := retryStep_frame heq
    unfold Goes rank helpful
    rw [hmain', hmain, hlength]
    exact Or.inr ⟨rfl, rfl, by simp⟩
  | stopNotify =>
    obtain ⟨hmain', _, _, hlength⟩ := retryStep_frame heq
    unfold Goes rank helpful
    rw [hmain', hmain, hlength]
    exact Or.inr ⟨rfl, rfl, by simp⟩
  | release =>
    obtain ⟨hmain', _, _, hlength⟩ := retryStep_frame heq
    unfold Goes rank helpful
    rw [hmain', hmain, hlength]
    exact Or.inr ⟨rfl, rfl, by simp⟩
  | join =>
    have hstop := htold (by rw [hmain]; exact ⟨rfl, MainThread.noConfusion⟩)
    exact join_goes hrecorded hworking hmain hstop heq
  | stopped =>
    have hworker := hworking.absent_of_main (by rw [hmain]; rfl)
    unfold AwsIotConnectivityModule.retryStep at heq
    rw [hworker] at heq
    cases heq
    apply Goes.same
    unfold helpful
    rw [hmain]
    simp
  | reset step =>
    have hworker := hworking.absent_of_main (by rw [hmain]; rfl)
    unfold AwsIotConnectivityModule.retryStep at heq
    rw [hworker] at heq
    cases heq
    apply Goes.same
    unfold helpful
    rw [hmain]
    dsimp only
    split
    . exact awaits_ne_retry _ (by simp)
    . simp
  | _ =>
    rw [hmain] at hbusy
    cases hbusy

theorem main_goes (hworking : module.Working) (hbusy : module.mainThread.disconnects = true) {answer : Bool}
    (heq : module.mainStep answer = some next)
    : next.mainThread = .idle ∨ Goes module next (some .main) := by
  unfold AwsIotConnectivityModule.mainStep at heq
  cases hmain : module.mainThread with
  | stopStore =>
    rw [hmain] at heq
    cases heq
    refine Or.inr (Or.inl ?_)
    unfold rank
    rw [hmain]
    dsimp only
    omega
  | stopNotify =>
    rw [hmain] at heq
    cases heq
    refine Or.inr (Or.inl ?_)
    unfold rank
    rw [hmain]
    dsimp only
    omega
  | release =>
    rw [hmain] at heq
    cases heq
    refine Or.inr (Or.inl ?_)
    have hworker := worker_rank_le module.subscriptions.mChannels.length module.mRetryThread.worker
    have howed := owed_le module
    unfold rank
    rw [hmain]
    unfold owed at howed ⊢
    dsimp only
    omega
  | join =>
    rw [hmain] at heq
    dsimp only at heq
    cases hworker : module.mRetryThread.worker with
    | ended =>
      rw [hworker] at heq
      cases heq
      refine Or.inr (Or.inl ?_)
      unfold rank setWorker owed
      rw [hmain, hworker]
      dsimp only [RetryWorker.rank]
      omega
    | absent => exact absurd hworker (hworking.joined (by rw [hmain]; rfl))
    | attempt step =>
      rw [hworker] at heq
      cases heq
      refine Or.inr (Goes.same ?_)
      unfold helpful
      rw [hmain, hworker]
      dsimp only
      split
      . apply awaits_ne_main
        cases step <;> simp [AttemptStep.awaits]
      . simp
    | subscribe step =>
      rw [hworker] at heq
      cases heq
      refine Or.inr (Goes.same ?_)
      unfold helpful
      rw [hmain, hworker]
      dsimp only
      split
      . exact awaits_ne_main _ (by simp)
      . simp
    | _ =>
      rw [hworker] at heq
      cases heq
      refine Or.inr (Goes.same ?_)
      unfold helpful
      rw [hmain, hworker]
      simp
  | stopped =>
    rw [hmain] at heq
    cases heq
    refine Or.inr (Or.inl ?_)
    unfold rank owed
    rw [hmain]
    dsimp only [ResetStep.rank]
    omega
  | reset step =>
    rw [hmain] at heq
    rw [Option.map_eq_some_iff] at heq
    obtain ⟨⟨connection, progress⟩, hreset, hnext⟩ := heq
    cases Connection.resetConnection_rank hreset with
    | inl hblocked =>
      obtain ⟨hwait, hconnection, hprogress⟩ := hblocked
      have hsame : next = module := by
        rw [← hnext, hprogress, hconnection]
        dsimp only
        rw [← hmain]
      rw [hsame]
      refine Or.inr (Goes.same ?_)
      unfold helpful
      rw [hmain]
      dsimp only
      rw [if_pos hwait]
      exact awaits_ne_main _ (by simp)
    | inr hgoes =>
      obtain ⟨_, hrank⟩ := hgoes
      cases progress with
      | running step' =>
        refine Or.inr (Or.inl ?_)
        rw [← hnext]
        simp only [Progress.rank] at hrank
        unfold rank owed
        rw [hmain]
        dsimp only
        omega
      | returned result =>
        rw [← hnext]
        exact Or.inl rfl
  | _ =>
    rw [hmain] at hbusy
    cases hbusy

end Progress

end AwsIotConnectivityModule

end Disconnect

end OffboardConnectivityAwsIot
