import FleetWiseEdge.Connectivity.Lemmas.Retry

namespace OffboardConnectivityAwsIot

section Rank

/--
The number of steps that are left, where a callback that the SDK owes counts with the steps it takes.
-/
def Connection.owed (connection : Connection) : Nat :=
  (if connection.connecting then 1 else 0) + if connection.disconnecting then 3 else 0

def EventLoop.rank (eventLoop : EventLoop) : Nat :=
  match eventLoop with
  | .idle => 0
  | .closed => 1
  | .closing => 2

def ResetStep.rank (step : ResetStep) : Nat :=
  match step with
  | .renewCompleted => 12
  | .checkEstablished => 11
  | .disconnect => 10
  | .getFuture => 6
  | .wait => 5
  | .renewClosed => 4
  | .clear => 3

def AttemptStep.rank (n : Nat) (step : AttemptStep) : Nat :=
  match step with
  | .connect => 4 * n + 25
  | .establish => 4 * n + 23
  | .getFuture => 4 * n + 22
  | .wait => 4 * n + 21
  | .accept => 4 * n + 20
  | .reset step => step.rank + 4

def SubscribeStep.rank (n : Nat) (step : SubscribeStep) : Nat :=
  match step with
  | .check i => 4 * (n - i) + 1
  | .request i => 4 * (n - i)
  | .wait i => 4 * (n - i) - 2

def RetryWorker.rank (n : Nat) (worker : RetryWorker) : Nat :=
  match worker with
  | .absent | .ended => 0
  | .exit => 1
  | .checkStop => 2
  | .start | .backoff => 3
  | .entry | .wait => 4
  | .attempt step => step.rank n
  | .subscribe step => step.rank n + 1

def Progress.rank {σ ρ : Type} (step : σ → Nat) (result : ρ → Nat) (progress : Progress σ ρ) : Nat :=
  match progress with
  | .running s => step s
  | .returned r => result r

def RetryStatus.rank (n : Nat) (status : RetryStatus) : Nat :=
  match status with
  | .SUCCESS => 4 * n + 2
  | .RETRY => 4
  | .ABORT => 1

def ResetStep.blocked (step : ResetStep) (connection : Connection) : Bool :=
  match step with
  | .wait => connection.mConnectionClosedPromise.value.isNone
  | _ => false

namespace Connection

variable {connection next : Connection} {answer : Bool}

theorem resetConnection_rank {step : ResetStep} {progress : Progress ResetStep Bool}
    (heq : connection.resetConnection step answer = some (next, progress))
    : (step.blocked connection = true ∧ next = connection ∧ progress = .running step)
        ∨ (step.blocked connection = false
            ∧ progress.rank ResetStep.rank (fun _ => 0) + next.owed < step.rank + connection.owed) := by
  unfold resetConnection at heq
  cases step with
  | renewCompleted =>
    cases heq
    refine Or.inr ⟨rfl, ?_⟩
    simp only [Progress.rank, ResetStep.rank, owed]
    omega
  | checkEstablished =>
    cases heq
    refine Or.inr ⟨rfl, ?_⟩
    cases connection.mConnectionEstablished with
    | true =>
      simp only [Progress.rank, ResetStep.rank, if_true]
      omega
    | false =>
      simp only [Progress.rank, ResetStep.rank, Bool.false_eq_true, if_false]
      omega
  | disconnect =>
    refine Or.inr ⟨rfl, ?_⟩
    cases answer with
    | true =>
      cases heq
      simp only [Progress.rank, ResetStep.rank, owed, if_true]
      split <;> split <;> omega
    | false =>
      cases heq
      simp only [Progress.rank, ResetStep.rank]
      omega
  | getFuture =>
    rw [Option.map_eq_some_iff] at heq
    obtain ⟨promise, _, hnext⟩ := heq
    cases hnext
    refine Or.inr ⟨rfl, ?_⟩
    simp only [Progress.rank, ResetStep.rank, owed]
    omega
  | wait =>
    cases heq
    unfold ResetStep.blocked
    cases connection.mConnectionClosedPromise.value with
    | none => exact Or.inl ⟨rfl, rfl, rfl⟩
    | some value =>
      refine Or.inr ⟨rfl, ?_⟩
      simp only [Option.isSome_some, if_true, Progress.rank, ResetStep.rank]
      omega
  | renewClosed =>
    cases heq
    refine Or.inr ⟨rfl, ?_⟩
    simp only [Progress.rank, ResetStep.rank, owed]
    omega
  | clear =>
    cases heq
    refine Or.inr ⟨rfl, ?_⟩
    simp only [Progress.rank, ResetStep.rank, owed]
    omega

end Connection

def AttemptStep.blocked (step : AttemptStep) (connection : Connection) : Bool :=
  match step with
  | .wait => connection.mConnectionCompletedPromise.value.isNone
  | .reset step => step.blocked connection
  | _ => false

namespace Connection

variable {connection next : Connection} {answer : Bool}

theorem attempt_rank {step : AttemptStep} {progress : Progress AttemptStep RetryStatus}
    (heq : connection.attempt step answer = some (next, progress)) (n : Nat)
    : (step.blocked connection = true ∧ next = connection ∧ progress = .running step)
        ∨ (step.blocked connection = false
            ∧ progress.rank (AttemptStep.rank n) (RetryStatus.rank n) + next.owed
                < step.rank n + connection.owed) := by
  cases step with
  | connect =>
    refine Or.inr ⟨rfl, ?_⟩
    cases answer with
    | true =>
      cases heq
      simp only [Progress.rank, AttemptStep.rank, owed, if_true]
      split <;> split <;> omega
    | false =>
      cases heq
      simp only [Progress.rank, RetryStatus.rank, AttemptStep.rank]
      omega
  | establish =>
    cases heq
    refine Or.inr ⟨rfl, ?_⟩
    simp only [Progress.rank, AttemptStep.rank, owed]
    omega
  | getFuture =>
    unfold attempt at heq
    rw [Option.map_eq_some_iff] at heq
    obtain ⟨promise, _, hnext⟩ := heq
    cases hnext
    refine Or.inr ⟨rfl, ?_⟩
    simp only [Progress.rank, AttemptStep.rank, owed]
    omega
  | wait =>
    unfold attempt at heq
    unfold AttemptStep.blocked
    dsimp only at heq ⊢
    cases hvalue : connection.mConnectionCompletedPromise.value with
    | none =>
      rw [hvalue] at heq
      cases heq
      exact Or.inl ⟨rfl, rfl, rfl⟩
    | some accepted =>
      rw [hvalue] at heq
      refine Or.inr ⟨rfl, ?_⟩
      cases accepted with
      | true =>
        cases heq
        simp only [Progress.rank, AttemptStep.rank]
        omega
      | false =>
        cases heq
        simp only [Progress.rank, AttemptStep.rank, ResetStep.rank]
        omega
  | accept =>
    cases heq
    refine Or.inr ⟨rfl, ?_⟩
    simp only [Progress.rank, RetryStatus.rank, AttemptStep.rank, owed]
    omega
  | reset step =>
    unfold attempt at heq
    rw [Option.map_eq_some_iff] at heq
    obtain ⟨⟨connection', progress'⟩, hreset, hnext⟩ := heq
    cases resetConnection_rank hreset with
    | inl hblocked =>
      obtain ⟨hwait, hsame, hrunning⟩ := hblocked
      rw [hsame, hrunning] at hnext
      cases hnext
      exact Or.inl ⟨hwait, rfl, rfl⟩
    | inr hgoes =>
      obtain ⟨hfree, hrank⟩ := hgoes
      refine Or.inr ⟨hfree, ?_⟩
      cases progress' with
      | running step' =>
        cases hnext
        simp only [Progress.rank, AttemptStep.rank]
        dsimp only [Progress.rank] at hrank
        omega
      | returned result =>
        cases hnext
        simp only [Progress.rank, RetryStatus.rank, AttemptStep.rank]
        dsimp only [Progress.rank] at hrank
        omega

end Connection

def SubscribeStep.blocked (step : SubscribeStep) (subscriptions : Subscriptions) : Bool :=
  match step with
  | .wait _ => subscriptions.subscribeFinishedPromise.value.isNone
  | _ => false

namespace Subscriptions

variable {channels : List (String × Bool)} {subscriptions : Subscriptions} {step : SubscribeStep}

def owed (subscriptions : Subscriptions) : Nat := if subscriptions.subscribing.isSome then 1 else 0

theorem onFinished_length (isAlive answer : Bool)
    : (subscriptions.onFinished step isAlive answer).1.mChannels.length = subscriptions.mChannels.length := by
  unfold onFinished
  cases step with
  | check i =>
    dsimp only
    split
    . rfl
    . split
      . rfl
      . split
        . rfl
        . split
          . rfl
          . rfl
  | request i => rfl
  | wait i =>
    dsimp only
    split
    . rfl
    . rfl

theorem onFinished_rank (h : Subscribing channels step subscriptions) (isAlive answer : Bool)
    : (step.blocked subscriptions = true
          ∧ subscriptions.onFinished step isAlive answer = (subscriptions, .running step))
        ∨ (step.blocked subscriptions = false
            ∧ (subscriptions.onFinished step isAlive answer).2.rank
                  (SubscribeStep.rank subscriptions.mChannels.length) (fun _ => 0)
                + (subscriptions.onFinished step isAlive answer).1.owed
              < step.rank subscriptions.mChannels.length + subscriptions.owed) := by
  have hlength : channels.length = subscriptions.mChannels.length := by rw [← h.same, List.length_map]
  unfold onFinished
  cases step with
  | check i =>
    refine Or.inr ⟨rfl, ?_⟩
    dsimp only
    cases hchannel : subscriptions.mChannels[i]? with
    | none =>
      simp only [Progress.rank, SubscribeStep.rank]
      omega
    | some channel =>
      have hlt := (List.getElem?_eq_some_iff.mp hchannel).1
      dsimp only
      split
      . simp only [Progress.rank, SubscribeStep.rank]
        omega
      . split
        . simp only [Progress.rank, SubscribeStep.rank, owed]
          omega
        . split
          . simp only [Progress.rank, SubscribeStep.rank, owed]
            omega
          . simp only [Progress.rank, SubscribeStep.rank]
            omega
  | request i =>
    obtain ⟨⟨topic, hat, _⟩, _⟩ := h.current
    have hlt := Subscribing.lt_of_channel hat
    refine Or.inr ⟨rfl, ?_⟩
    cases answer with
    | true =>
      simp only [Progress.rank, SubscribeStep.rank, owed, Option.isSome_some, if_true]
      omega
    | false =>
      simp only [Progress.rank, SubscribeStep.rank, owed, Option.isSome_none, Bool.false_eq_true, if_false]
      omega
  | wait i =>
    obtain ⟨topic, hat, _⟩ := h.current
    have hlt := Subscribing.lt_of_channel hat
    unfold SubscribeStep.blocked
    dsimp only
    cases subscriptions.subscribeFinishedPromise.value with
    | none => exact Or.inl ⟨rfl, rfl⟩
    | some value =>
      refine Or.inr ⟨rfl, ?_⟩
      simp only [Option.isSome_some, if_true, Progress.rank, SubscribeStep.rank, owed]
      omega

theorem onSubAck_spec {i packetId qos errorCode : Nat} {next : Subscriptions}
    (heq : subscriptions.onSubAck i packetId qos errorCode = some next)
    : next.subscribing = none ∧ next.mChannels.length = subscriptions.mChannels.length
        ∧ (errorCode = 0 → next.subscribeFinishedPromise.value.isSome = true) := by
  unfold onSubAck at heq
  dsimp only at heq
  split at heq
  . next herror =>
    cases heq
    exact ⟨rfl, List.length_modify _ _ _, fun hzero => absurd hzero herror⟩
  . rw [Option.map_eq_some_iff] at heq
    obtain ⟨promise, hset, hnext⟩ := heq
    cases hnext
    refine ⟨rfl, List.length_modify _ _ _, fun _ => ?_⟩
    unfold Promise.setValue at hset
    split at hset
    . cases hset
    . cases hset
      rfl

end Subscriptions

end Rank

end OffboardConnectivityAwsIot
