import FleetWiseEdge.Connectivity.Lemmas.Progress
import FleetWiseEdge.Lib.Machine

/-!
This module contains that `disconnect` returns if the threads go on and the SDK calls the callbacks that it owes,
unless a subscription has failed.
-/

namespace OffboardConnectivityAwsIot

section Disconnect

namespace AwsIotConnectivityModule

variable {channels : List (String × Bool)} {module next : AwsIotConnectivityModule}

section Stuck

theorem Stuck.step (h : module.Stuck) {event : ConnectivityEvent} (heq : module.step event = some next)
    : next.Stuck := by
  have ⟨hstopping, ⟨i, hworker⟩, hasked, hvalue⟩ := h
  cases hcallback : event.isCallback with
  | true =>
    obtain ⟨hmain, hretry, hsubscriptions⟩ := callback_frame hcallback heq
    unfold Stuck
    rw [hmain, hretry]
    cases hsubscriptions with
    | inl hsame =>
      rw [hsame]
      exact h
    | inr hacked =>
      obtain ⟨j, _, _, _, _, _, hsome, _⟩ := hacked
      rw [hasked] at hsome
      cases hsome
  | false =>
    have hbusy : module.mainThread.disconnects = true := by
      cases hmain : module.mainThread <;> rw [hmain] at hstopping <;> first | rfl | cases hstopping
    cases event with
    | connect created asynchronous =>
      rw [call_busy hbusy rfl hcallback heq]
      exact h
    | disconnect =>
      rw [call_busy hbusy rfl hcallback heq]
      exact h
    | main answer =>
      unfold AwsIotConnectivityModule.step mainStep at heq
      cases hmain : module.mainThread with
      | stopStore =>
        rw [hmain] at heq
        cases heq
        exact ⟨rfl, ⟨i, hworker⟩, hasked, hvalue⟩
      | stopNotify =>
        rw [hmain] at heq
        cases heq
        exact ⟨rfl, ⟨i, hworker⟩, hasked, hvalue⟩
      | release =>
        rw [hmain] at heq
        cases heq
        exact ⟨rfl, ⟨i, hworker⟩, hasked, hvalue⟩
      | join =>
        rw [hmain] at heq
        dsimp only at heq
        rw [hworker] at heq
        cases heq
        exact h
      | _ =>
        rw [hmain] at hstopping
        cases hstopping
    | retry answer =>
      unfold AwsIotConnectivityModule.step retryStep at heq
      dsimp only at heq
      rw [hworker] at heq
      unfold Subscriptions.onFinished at heq
      dsimp only at heq
      rw [hvalue] at heq
      rw [← Option.some_inj.mp heq]
      exact ⟨hstopping, ⟨i, rfl⟩, hasked, hvalue⟩
    | _ => cases hcallback

def Answered (module : AwsIotConnectivityModule) : Prop :=
  ∀ i, module.mRetryThread.worker = .subscribe (.wait i) →
    module.subscriptions.subscribing.isSome = true
      ∨ module.subscriptions.subscribeFinishedPromise.value.isSome = true

theorem Answered.mainStep (h : module.Answered) (hworking : module.Working) {answer : Bool}
    (heq : module.mainStep answer = some next)
    : next.Answered := by
  unfold AwsIotConnectivityModule.mainStep at heq
  cases hmain : module.mainThread with
  | attempt step =>
    rw [hmain] at heq
    rw [Option.map_eq_some_iff] at heq
    obtain ⟨⟨connection, progress⟩, _, hnext⟩ := heq
    rw [← hnext]
    exact h
  | subscribe step =>
    have hworker := hworking.absent_of_main (by rw [hmain]; rfl)
    rw [hmain] at heq
    dsimp only at heq
    rw [← Option.some_inj.mp heq]
    intro i hwait
    rw [show module.mRetryThread.worker = .subscribe (.wait i) from hwait] at hworker
    cases hworker
  | join =>
    rw [hmain] at heq
    dsimp only at heq
    split at heq
    . cases heq
      exact fun i hwait => by cases hwait
    . cases heq
      exact h
  | reset step =>
    rw [hmain] at heq
    rw [Option.map_eq_some_iff] at heq
    obtain ⟨⟨connection, progress⟩, _, hnext⟩ := heq
    rw [← hnext]
    exact h
  | _ =>
    rw [hmain] at heq
    cases heq
    exact h

theorem Answered.retryStep (h : module.Answered) {answer : Bool}
    (hanswer : ∀ i, module.mRetryThread.worker = .subscribe (.request i) → answer = true)
    (heq : module.retryStep answer = some next)
    : next.Answered := by
  unfold AwsIotConnectivityModule.retryStep at heq
  cases hworker : module.mRetryThread.worker with
  | absent =>
    rw [hworker] at heq
    cases heq
    exact h
  | ended =>
    rw [hworker] at heq
    cases heq
    exact h
  | entry =>
    rw [hworker] at heq
    cases heq
    dsimp only [setWorker]
    split <;> exact fun i hwait => by cases hwait
  | checkStop =>
    rw [hworker] at heq
    dsimp only at heq
    split at heq
    . cases heq
      exact fun i hwait => by cases hwait
    . cases heq
      exact fun i hwait => by cases hwait
  | attempt step =>
    rw [hworker] at heq
    dsimp only at heq
    rw [Option.map_eq_some_iff] at heq
    obtain ⟨⟨connection, progress⟩, _, hnext⟩ := heq
    rw [← hnext]
    cases progress with
    | running step' => exact fun i hwait => by cases hwait
    | returned result => cases result <;> exact fun i hwait => by cases hwait
  | subscribe step =>
    rw [hworker] at heq
    cases step with
    | check i =>
      dsimp only at heq
      split at heq
      . next step' hprogress =>
        rw [← Option.some_inj.mp heq]
        intro j hwait
        have hnext : step' = .wait j := by
          cases hwait
          rfl
        rw [hnext] at hprogress
        unfold Subscriptions.onFinished at hprogress
        dsimp only at hprogress
        split at hprogress
        . cases hprogress
        . split at hprogress
          . cases hprogress
          . split at hprogress
            . cases hprogress
            . split at hprogress
              . cases hprogress
              . cases hprogress
      . rw [← Option.some_inj.mp heq]
        exact fun i hwait => by cases hwait
    | request i =>
      rw [hanswer i hworker] at heq
      rw [← Option.some_inj.mp heq]
      exact fun _ _ => Or.inl rfl
    | wait i =>
      have hbefore := h i hworker
      dsimp only at heq
      unfold Subscriptions.onFinished at heq
      dsimp only at heq
      cases hvalue : module.subscriptions.subscribeFinishedPromise.value with
      | some value =>
        rw [hvalue] at heq
        rw [← Option.some_inj.mp heq]
        exact fun i hwait => by cases hwait
      | none =>
        rw [hvalue] at heq
        rw [← Option.some_inj.mp heq]
        intro _ _
        rw [hvalue] at hbefore
        exact Or.inl (hbefore.resolve_right Bool.false_ne_true)
  | _ =>
    rw [hworker] at heq
    cases heq
    exact fun i hwait => by cases hwait

theorem Answered.step (h : module.Answered) (hworking : module.Working) {event : ConnectivityEvent}
    (hanswer : ∀ i answer, module.mRetryThread.worker = .subscribe (.request i) → event = .retry answer →
      answer = true)
    (hevent : ∀ packetId qos errorCode, event = .onSubAck packetId qos errorCode → errorCode = 0)
    (heq : module.step event = some next)
    : next.Answered := by
  cases hcallback : event.isCallback with
  | true =>
    obtain ⟨_, hretry, hsubscriptions⟩ := callback_frame hcallback heq
    unfold Answered
    rw [hretry]
    cases hsubscriptions with
    | inl hsame =>
      rw [hsame]
      exact h
    | inr hacked =>
      obtain ⟨j, packetId, qos, errorCode, hack, _, _, hsubscriptions, _⟩ := hacked
      intro i _
      exact Or.inr ((Subscriptions.onSubAck_spec hsubscriptions).2.2 (hevent packetId qos errorCode hack))
  | false =>
    cases event with
    | connect created asynchronous =>
      unfold AwsIotConnectivityModule.step at heq
      dsimp only at heq
      split at heq
      . cases heq
        cases module.connected with
        | true => exact h
        | false =>
          rw [if_neg Bool.false_ne_true]
          unfold AwsIotConnectivityModule.connect
          cases created with
          | false => exact h
          | true =>
            cases asynchronous with
            | true => exact fun i hwait => by cases hwait
            | false => exact h
      . cases heq
        exact h
    | disconnect =>
      unfold AwsIotConnectivityModule.step at heq
      dsimp only at heq
      split at heq
      . cases heq
        unfold AwsIotConnectivityModule.disconnect
        split
        . exact h
        . exact h
      . cases heq
        exact h
    | main answer => exact h.mainStep hworking heq
    | retry answer => exact h.retryStep (fun i hworker => hanswer i answer hworker rfl) heq
    | _ => cases hcallback

end Stuck

def nextState (state : Option AwsIotConnectivityModule) (event : ConnectivityEvent)
    : Option AwsIotConnectivityModule :=
  state.bind (·.step event)

def stateAt (channels : List (String × Bool)) (events : Nat → ConnectivityEvent) (n : Nat)
    : Option AwsIotConnectivityModule :=
  Machine.stateAt nextState (some (new channels)) events n

def Reachable (channels : List (String × Bool)) (state : Option AwsIotConnectivityModule) : Prop :=
  ∃ module, state = some module ∧ module.Working ∧ module.Recorded channels ∧ module.Told

theorem Reachable.step {state : Option AwsIotConnectivityModule} (h : Reachable channels state)
    (event : ConnectivityEvent)
    : Reachable channels (nextState state event) := by
  obtain ⟨module, hstate, hworking, hrecorded, htold⟩ := h
  obtain ⟨step, hsubscribing⟩ := hrecorded.subscribing
  obtain ⟨next, heq, hnext⟩ := hworking.step hsubscribing.acked event
  refine ⟨next, ?_, hnext, hrecorded.step hworking heq, htold.step heq⟩
  rw [hstate]
  exact heq

theorem reachable_stateAt (channels : List (String × Bool)) (events : Nat → ConnectivityEvent) (n : Nat)
    : Reachable channels (stateAt channels events n) := by
  induction n with
  | zero =>
    exact ⟨new channels, rfl, Working.new channels, Recorded.new channels,
      fun hstopping => by cases hstopping.1⟩
  | succ n ih => exact ih.step (events n)

def Settled (state : Option AwsIotConnectivityModule) : Prop :=
  ∃ module, state = some module ∧ (module.mainThread.disconnects = false ∨ module.Stuck)

theorem step_goes (hworking : module.Working) (hrecorded : module.Recorded channels) (htold : module.Told)
    (hbusy : module.mainThread.disconnects = true) (hfree : ¬ module.Stuck) {event : ConnectivityEvent}
    (heq : module.step event = some next)
    : next.mainThread.disconnects = false ∨ Goes module next event.kind := by
  cases hcallback : event.isCallback with
  | true => exact Or.inr (callback_goes hworking hbusy hfree hcallback heq)
  | false =>
    cases event with
    | connect created asynchronous =>
      rw [call_busy hbusy rfl hcallback heq]
      exact Or.inr (Goes.same (by simp [ConnectivityEvent.kind]))
    | disconnect =>
      rw [call_busy hbusy rfl hcallback heq]
      exact Or.inr (Goes.same (by simp [ConnectivityEvent.kind]))
    | main answer =>
      refine (main_goes hworking hbusy heq).imp_left fun hidle => ?_
      rw [hidle]
      rfl
    | retry answer => exact Or.inr (retry_goes hworking hrecorded htold hbusy heq)
    | _ => cases hcallback

theorem settles (channels : List (String × Bool)) {events : Nat → ConnectivityEvent}
    (hfair : Machine.Fair ConnectivityEvent.kind events) (n : Nat)
    : ∃ k, n ≤ k ∧ Settled (stateAt channels events k) := by
  refine Machine.fair_progress (Reachable channels) Settled (fun state => (state.map rank).getD 0)
    (fun state => (state.map helpful).getD .main) (fun state k h => h.step (events k)) ?_ ?_ hfair
    (reachable_stateAt channels events n)
  . intro state event hreachable hnot hkind
    obtain ⟨next, hnext, _⟩ := hreachable.step event
    obtain ⟨module, hstate, hworking, hrecorded, htold⟩ := hreachable
    rw [hstate] at hnext hnot hkind
    rw [hstate, hnext]
    have hbusy : module.mainThread.disconnects = true := by
      cases hcase : module.mainThread.disconnects with
      | true => rfl
      | false => exact absurd ⟨module, rfl, Or.inl hcase⟩ hnot
    have hfree : ¬ module.Stuck := fun hstuck => hnot ⟨module, rfl, Or.inr hstuck⟩
    cases step_goes hworking hrecorded htold hbusy hfree hnext with
    | inl hover => exact Or.inl ⟨next, rfl, Or.inl hover⟩
    | inr hgoes =>
      cases hgoes with
      | inl hlower => exact Or.inr hlower
      | inr hsame => exact absurd hkind hsame.2.2
  . intro state event hreachable hnot
    obtain ⟨next, hnext, _⟩ := hreachable.step event
    obtain ⟨module, hstate, hworking, hrecorded, htold⟩ := hreachable
    rw [hstate] at hnext hnot
    rw [hstate, hnext]
    have hbusy : module.mainThread.disconnects = true := by
      cases hcase : module.mainThread.disconnects with
      | true => rfl
      | false => exact absurd ⟨module, rfl, Or.inl hcase⟩ hnot
    have hfree : ¬ module.Stuck := fun hstuck => hnot ⟨module, rfl, Or.inr hstuck⟩
    cases step_goes hworking hrecorded htold hbusy hfree hnext with
    | inl hover => exact Or.inl ⟨next, rfl, Or.inl hover⟩
    | inr hgoes => exact Or.inr (hgoes.imp_right fun hsame => ⟨hsame.1, hsame.2.1⟩)

theorem busy_step (hbusy : module.mainThread.disconnects = true) {event : ConnectivityEvent}
    (heq : module.step event = some next)
    : next.mainThread.disconnects = true ∨ next.mainThread = .idle := by
  cases hcallback : event.isCallback with
  | true =>
    obtain ⟨hmain, _⟩ := callback_frame hcallback heq
    rw [hmain]
    exact Or.inl hbusy
  | false =>
    cases event with
    | connect created asynchronous =>
      rw [call_busy hbusy rfl hcallback heq]
      exact Or.inl hbusy
    | disconnect =>
      rw [call_busy hbusy rfl hcallback heq]
      exact Or.inl hbusy
    | retry answer =>
      rw [(retryStep_frame heq).1]
      exact Or.inl hbusy
    | main answer =>
      unfold AwsIotConnectivityModule.step mainStep at heq
      cases hmain : module.mainThread with
      | join =>
        rw [hmain] at heq
        dsimp only at heq
        split at heq
        . cases heq
          exact Or.inl rfl
        . cases heq
          exact Or.inl hbusy
      | stopStore =>
        rw [hmain] at heq
        cases heq
        exact Or.inl rfl
      | stopNotify =>
        rw [hmain] at heq
        cases heq
        exact Or.inl rfl
      | release =>
        rw [hmain] at heq
        cases heq
        exact Or.inl rfl
      | stopped =>
        rw [hmain] at heq
        cases heq
        exact Or.inl rfl
      | reset step =>
        rw [hmain] at heq
        dsimp only at heq
        rw [Option.map_eq_some_iff] at heq
        obtain ⟨⟨connection, progress⟩, _, hnext⟩ := heq
        rw [← hnext]
        cases progress with
        | running step' => exact Or.inl rfl
        | returned result => exact Or.inr rfl
      | _ =>
        rw [hmain] at hbusy
        cases hbusy
    | _ => cases hcallback

theorem returned_of_settled {events : Nat → ConnectivityEvent} {n k : Nat} (hle : n ≤ k)
    (hbusy : ∃ module, stateAt channels events n = some module ∧ module.mainThread.disconnects = true)
    : (∃ module, stateAt channels events k = some module ∧ module.mainThread.disconnects = true)
        ∨ ∃ l, n ≤ l ∧ ∃ module, stateAt channels events l = some module ∧ module.mainThread = .idle := by
  induction hle with
  | refl => exact Or.inl hbusy
  | @step k hle ih =>
    cases ih with
    | inr hreturned => exact Or.inr hreturned
    | inl hrunning =>
      obtain ⟨module, hstate, hrunning⟩ := hrunning
      obtain ⟨next, hnext, _⟩ := (reachable_stateAt channels events k).step (events k)
      have hlater : stateAt channels events (k + 1) = some next := hnext
      rw [hstate] at hnext
      cases busy_step hrunning hnext with
      | inl hgoes => exact Or.inl ⟨next, hlater, hgoes⟩
      | inr hidle => exact Or.inr ⟨k + 1, Nat.le_succ_of_le hle, next, hlater, hidle⟩

def turn (i : Nat) : ConnectivityEvent :=
  match i with
  | 0 => .main true
  | 1 => .retry true
  | 2 => .onConnectionCompleted 0 AWS_MQTT_CONNECT_ACCEPTED
  | 3 => .onDisconnect
  | 4 => .onSubAck 1 1 0
  | _ => .callback

def roundRobin (n : Nat) : ConnectivityEvent :=
  match n with
  | 0 => .connect true true
  | 1 => .disconnect
  | n + 2 => turn (n % 6)

theorem roundRobin_turn (n i : Nat) (h : i < 6) : roundRobin (6 * n + i + 2) = turn i := by
  have hturn : (6 * n + i) % 6 = i := by omega
  show turn ((6 * n + i) % 6) = turn i
  rw [hturn]

theorem fair_roundRobin : Machine.Fair ConnectivityEvent.kind roundRobin := by
  intro kind n
  have hgoes (i : Nat) : n ≤ 6 * n + i + 2 := by omega
  cases kind with
  | main => exact ⟨6 * n + 0 + 2, hgoes 0, by rw [roundRobin_turn n 0 (by omega)]; rfl⟩
  | retry => exact ⟨6 * n + 1 + 2, hgoes 1, by rw [roundRobin_turn n 1 (by omega)]; rfl⟩
  | onConnectionCompleted => exact ⟨6 * n + 2 + 2, hgoes 2, by rw [roundRobin_turn n 2 (by omega)]; rfl⟩
  | onDisconnect => exact ⟨6 * n + 3 + 2, hgoes 3, by rw [roundRobin_turn n 3 (by omega)]; rfl⟩
  | onSubAck => exact ⟨6 * n + 4 + 2, hgoes 4, by rw [roundRobin_turn n 4 (by omega)]; rfl⟩
  | callback => exact ⟨6 * n + 5 + 2, hgoes 5, by rw [roundRobin_turn n 5 (by omega)]; rfl⟩

theorem errorCode_of_turn {i packetId qos errorCode : Nat} (h : turn i = .onSubAck packetId qos errorCode)
    : errorCode = 0 := by
  unfold turn at h
  split at h <;> cases h
  rfl

theorem answer_of_turn {i : Nat} {answer : Bool} (h : turn i = .retry answer) : answer = true := by
  unfold turn at h
  split at h <;> cases h
  rfl

/--
If the threads go on and the SDK calls the callbacks that it owes, a call of `disconnect` returns or it waits
for a retry thread that waits for a subscription; there it stays for ever, and it only gets there through a
`Subscribe` that has failed at once or an acknowledgement with an error.
-/
theorem disconnect_returns (channels : List (String × Bool)) (events : Nat → ConnectivityEvent)
    (hfair : Machine.Fair ConnectivityEvent.kind events) (n : Nat)
    (hcalled : ∃ module, stateAt channels events n = some module ∧ module.mainThread.disconnects = true)
    : (∃ k, n ≤ k ∧ ∃ module, stateAt channels events k = some module
          ∧ (module.mainThread = .idle ∨ module.Stuck))
        ∧ (∀ k module, stateAt channels events k = some module → module.Stuck →
            ∀ l, k ≤ l → ∃ later, stateAt channels events l = some later ∧ later.Stuck)
        ∧ ((∀ k module i answer, stateAt channels events k = some module →
              module.mRetryThread.worker = .subscribe (.request i) → events k = .retry answer → answer = true) →
            (∀ k packetId qos errorCode, events k = .onSubAck packetId qos errorCode → errorCode = 0) →
            ∀ k module, stateAt channels events k = some module → ¬ module.Stuck) := by
  refine ⟨?_, ?_, ?_⟩
  . obtain ⟨k, hle, module, hstate, hsettled⟩ := settles channels hfair n
    cases hsettled with
    | inr hstuck => exact ⟨k, hle, module, hstate, Or.inr hstuck⟩
    | inl hover =>
      cases returned_of_settled hle hcalled with
      | inl hrunning =>
        obtain ⟨module', hstate', hrunning⟩ := hrunning
        rw [hstate] at hstate'
        rw [← Option.some_inj.mp hstate', hover] at hrunning
        cases hrunning
      | inr hreturned =>
        obtain ⟨l, hlater, module', hstate', hidle⟩ := hreturned
        exact ⟨l, hlater, module', hstate', Or.inl hidle⟩
  . intro k module hstate hstuck l hle
    induction hle with
    | refl => exact ⟨module, hstate, hstuck⟩
    | @step l _ ih =>
      obtain ⟨later, hlater, hstill⟩ := ih
      obtain ⟨next, hnext, _⟩ := (reachable_stateAt channels events l).step (events l)
      refine ⟨next, hnext, ?_⟩
      rw [hlater] at hnext
      exact hstill.step hnext
  . intro hanswers hevents
    have hanswered (k : Nat) : ∃ module, stateAt channels events k = some module ∧ module.Answered := by
      induction k with
      | zero => exact ⟨new channels, rfl, fun i hwait => by cases hwait⟩
      | succ k ih =>
        obtain ⟨module, hstate, hanswered⟩ := ih
        obtain ⟨module', hstate', hworking, _⟩ := reachable_stateAt channels events k
        obtain ⟨next, hnext, _⟩ := (reachable_stateAt channels events k).step (events k)
        refine ⟨next, hnext, ?_⟩
        rw [hstate] at hnext hstate'
        rw [← Option.some_inj.mp hstate'] at hworking
        exact hanswered.step hworking (fun i answer => hanswers k module i answer hstate) (hevents k) hnext
    intro k module hstate hstuck
    obtain ⟨module', hstate', hanswered⟩ := hanswered k
    rw [hstate] at hstate'
    rw [← Option.some_inj.mp hstate'] at hanswered
    obtain ⟨_, ⟨i, hworker⟩, hasked, hvalue⟩ := hstuck
    cases hanswered i hworker with
    | inl hsome =>
      rw [hasked] at hsome
      cases hsome
    | inr hsome =>
      rw [hvalue] at hsome
      cases hsome

theorem disconnect_returns_roundRobin
    : ∃ k, 2 ≤ k ∧ ∃ module, stateAt [("$aws/iotfleetwise/checkin", true)] roundRobin k = some module
        ∧ module.mainThread = .idle := by
  obtain ⟨⟨k, hle, module, hstate, hend⟩, _, hfree⟩ :=
    disconnect_returns [("$aws/iotfleetwise/checkin", true)] roundRobin fair_roundRobin 2 ⟨_, rfl, rfl⟩
  have hsubscribe (k : Nat) (answer : Bool) (hretry : roundRobin k = .retry answer) : answer = true := by
    unfold roundRobin at hretry
    split at hretry
    . cases hretry
    . cases hretry
    . exact answer_of_turn hretry
  have herror (k packetId qos errorCode : Nat) (hack : roundRobin k = .onSubAck packetId qos errorCode)
      : errorCode = 0 := by
    unfold roundRobin at hack
    split at hack
    . cases hack
    . cases hack
    . exact errorCode_of_turn hack
  have hnot := hfree (fun k _ _ answer _ _ => hsubscribe k answer) herror k module hstate
  exact ⟨k, hle, module, hstate, hend.resolve_right hnot⟩

example
    : ∀ answer, ∃ module,
        (new [("checkin", true)]).run
            (.connect true true :: List.replicate 6 (.retry true) ++ [.onConnectionCompleted 0 0]
              ++ List.replicate 3 (.retry true) ++ [.retry answer, .onSubAck 1 1 5, .disconnect, .main true,
                .main true, .main true])
          = some module
          ∧ module.Stuck := by
  intro answer
  cases answer with
  | true => exact ⟨_, rfl, rfl, ⟨0, rfl⟩, rfl, rfl⟩
  | false => exact ⟨_, rfl, rfl, ⟨0, rfl⟩, rfl, rfl⟩

end AwsIotConnectivityModule

end Disconnect

end OffboardConnectivityAwsIot
