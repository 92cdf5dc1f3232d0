import FleetWiseEdge.Connectivity.Impl.ConnectivityModule

namespace OffboardConnectivityAwsIot

def Promise.Unused {α : Type} (promise : Promise α) : Prop := promise.value = none ∧ promise.retrieved = false

namespace Connection

def Quiet (connection : Connection) : Prop :=
  connection.mConnectionClosedPromise.Unused ∧ connection.connecting = false ∧ connection.disconnecting = false

def Fresh (connection : Connection) : Prop := connection.mConnectionCompletedPromise.Unused ∧ connection.Quiet

def Completing (connection : Connection) : Prop :=
  (connection.mConnectionCompletedPromise.value = none ↔ connection.connecting = true)
    ∧ (connection.mConnectionCompletedPromise.value = some true → connection.session ≠ .offline)
    ∧ connection.mConnectionClosedPromise.Unused
    ∧ connection.disconnecting = false

def Closing (connection : Connection) : Prop :=
  connection.mConnectionCompletedPromise.Unused
    ∧ connection.connecting = false
    ∧ (connection.mConnectionClosedPromise.value = none ↔ connection.disconnecting = true)

end Connection

def ResetStep.Holds (step : ResetStep) (connection : Connection) : Prop :=
  match step with
  | .renewCompleted => connection.Quiet
  | .checkEstablished | .disconnect | .clear => connection.Fresh
  | .getFuture => connection.Closing ∧ connection.mConnectionClosedPromise.retrieved = false
  | .wait => connection.Closing
  | .renewClosed =>
    connection.mConnectionCompletedPromise.Unused ∧ connection.connecting = false
      ∧ connection.disconnecting = false

def AttemptStep.Holds (step : AttemptStep) (connection : Connection) : Prop :=
  match step with
  | .connect => connection.Fresh
  | .establish | .getFuture =>
    connection.Completing ∧ connection.mConnectionCompletedPromise.retrieved = false
  | .wait => connection.Completing
  | .accept => connection.Quiet ∧ connection.session ≠ .offline
  | .reset step => step.Holds connection

def AttemptStep.accepting (step : AttemptStep) (connection : Connection) : Prop :=
  match step with
  | .establish | .getFuture | .wait => connection.mConnectionCompletedPromise.value = some true
  | .accept => True
  | .connect | .reset _ => False

inductive Position where
  | fresh
  | attempt (step : AttemptStep)
  | reset (step : ResetStep)
  | quiet

namespace Position

def Holds (position : Position) (connection : Connection) : Prop :=
  match position with
  | .fresh => connection.Fresh
  | .attempt step => step.Holds connection
  | .reset step => step.Holds connection
  | .quiet => connection.Quiet

def accepting (position : Position) (connection : Connection) : Prop :=
  match position with
  | .attempt step => step.accepting connection
  | _ => False

end Position

def RetryWorker.position (worker : RetryWorker) (connected : Bool) : Position :=
  match worker with
  | .absent => if connected then .quiet else .fresh
  | .entry | .start | .checkStop | .wait | .backoff => .fresh
  | .attempt step => .attempt step
  | .subscribe _ | .exit | .ended => .quiet

def MainThread.position (mainThread : MainThread) : Option Position :=
  match mainThread with
  | .attempt step => some (.attempt step)
  | .reset step => some (.reset step)
  | _ => none

def AwsIotConnectivityModule.position (module : AwsIotConnectivityModule) : Position :=
  module.mainThread.position.getD (module.mRetryThread.worker.position module.connected)

namespace Connection

variable {connection : Connection}

theorem resetConnection_spec {step : ResetStep} (h : step.Holds connection) (answer : Bool)
    : ∃ next progress,
        connection.resetConnection step answer = some (next, progress)
          ∧ next.mConnected = connection.mConnected ∧ next.session = connection.session
          ∧ next.overtaken = connection.overtaken
          ∧ match progress with
            | .running step' => step'.Holds next
            | .returned _ => next.Fresh := by
  cases step with
  | renewCompleted => exact ⟨_, _, rfl, rfl, rfl, rfl, ⟨rfl, rfl⟩, h⟩
  | checkEstablished =>
    refine ⟨_, _, rfl, rfl, rfl, rfl, ?_⟩
    cases connection.mConnectionEstablished with
    | true => exact h
    | false => exact h
  | disconnect =>
    obtain ⟨hcompleted, hclosed, hconnecting, _⟩ := h
    cases answer with
    | true => exact ⟨_, _, rfl, rfl, rfl, rfl, ⟨hcompleted, hconnecting, iff_of_true hclosed.1 rfl⟩, hclosed.2⟩
    | false => exact ⟨_, _, rfl, rfl, rfl, rfl, hcompleted, hclosed, hconnecting, by assumption⟩
  | getFuture =>
    obtain ⟨⟨hcompleted, hconnecting, hclosed⟩, hretrieved⟩ := h
    unfold resetConnection Promise.getFuture
    dsimp only
    rw [hretrieved]
    exact ⟨_, _, rfl, rfl, rfl, rfl, hcompleted, hconnecting, hclosed⟩
  | wait =>
    obtain ⟨hcompleted, hconnecting, hclosed⟩ := h
    refine ⟨_, _, rfl, rfl, rfl, rfl, ?_⟩
    dsimp only
    split
    . next hvalue =>
      refine ⟨hcompleted, hconnecting, ?_⟩
      cases hdisconnecting : connection.disconnecting with
      | true =>
        rw [hclosed.mpr hdisconnecting] at hvalue
        cases hvalue
      | false => rfl
    . exact ⟨hcompleted, hconnecting, hclosed⟩
  | renewClosed =>
    obtain ⟨hcompleted, hconnecting, hdisconnecting⟩ := h
    exact ⟨_, _, rfl, rfl, rfl, rfl, hcompleted, ⟨rfl, rfl⟩, hconnecting, hdisconnecting⟩
  | clear => exact ⟨_, _, rfl, rfl, rfl, rfl, h⟩

theorem attempt_spec {step : AttemptStep} (h : step.Holds connection) (answer : Bool)
    : ∃ next progress,
        connection.attempt step answer = some (next, progress) ∧ next.session = connection.session
          ∧ match progress with
            | .running step' =>
              step'.Holds next ∧ (step.accepting connection → step'.accepting next)
                ∧ next.mConnected = connection.mConnected ∧ next.overtaken = connection.overtaken
            | .returned .SUCCESS =>
              next.Quiet ∧ next.session ≠ .offline ∧ next.mConnected = true
                ∧ (next.session = .interrupted → next.overtaken = true)
            | .returned .RETRY =>
              next.Fresh ∧ ¬ step.accepting connection
                ∧ next.mConnected = connection.mConnected ∧ next.overtaken = connection.overtaken
            | .returned .ABORT => False := by
  cases step with
  | connect =>
    cases answer with
    | true =>
      obtain ⟨hcompleted, hclosed, _, hdisconnecting⟩ := h
      refine ⟨_, _, rfl, rfl, ⟨⟨iff_of_true hcompleted.1 rfl, ?_, hclosed, hdisconnecting⟩, hcompleted.2⟩, ?_⟩
      . intro haccepted
        rw [hcompleted.1] at haccepted
        cases haccepted
      . exact ⟨fun haccepting => haccepting.elim, rfl, rfl⟩
    | false => exact ⟨_, _, rfl, rfl, h, id, rfl, rfl⟩
  | establish => exact ⟨_, _, rfl, rfl, h, id, rfl, rfl⟩
  | getFuture =>
    obtain ⟨hcompleting, hretrieved⟩ := h
    unfold attempt Promise.getFuture
    dsimp only
    rw [hretrieved]
    exact ⟨_, _, rfl, rfl, hcompleting, id, rfl, rfl⟩
  | wait =>
    unfold attempt
    dsimp only
    cases hvalue : connection.mConnectionCompletedPromise.value with
    | none => exact ⟨_, _, rfl, rfl, h, id, rfl, rfl⟩
    | some accepted =>
      obtain ⟨hconnecting, haccepted, hclosed, hdisconnecting⟩ := h
      have hquiet : connection.Quiet := by
        refine ⟨hclosed, ?_, hdisconnecting⟩
        cases howed : connection.connecting with
        | true =>
          rw [hconnecting.mpr howed] at hvalue
          cases hvalue
        | false => rfl
      cases accepted with
      | true => exact ⟨_, _, rfl, rfl, ⟨hquiet, haccepted hvalue⟩, fun _ => trivial, rfl, rfl⟩
      | false =>
        refine ⟨_, _, rfl, rfl, hquiet, ?_, rfl, rfl⟩
        intro haccepting
        unfold AttemptStep.accepting at haccepting
        rw [hvalue] at haccepting
        cases haccepting
  | accept =>
    obtain ⟨hquiet, hsession⟩ := h
    exact ⟨_, _, rfl, rfl, hquiet, hsession, rfl, fun hinterrupted => decide_eq_true hinterrupted⟩
  | reset step =>
    obtain ⟨next, progress, heq, hconnected, hsession, hovertaken, hnext⟩ := resetConnection_spec h answer
    unfold attempt
    dsimp only
    rw [heq]
    refine ⟨_, _, rfl, hsession, ?_⟩
    cases progress with
    | running step' => exact ⟨hnext, id, hconnected, hovertaken⟩
    | returned result => exact ⟨hnext, id, hconnected, hovertaken⟩

section Callbacks

theorem connecting_of_reset {step : ResetStep} (h : step.Holds connection) : connection.connecting = false := by
  cases step with
  | renewCompleted => exact h.2.1
  | checkEstablished => exact h.2.2.1
  | disconnect => exact h.2.2.1
  | getFuture => exact h.1.2.1
  | wait => exact h.2.1
  | renewClosed => exact h.2.1
  | clear => exact h.2.2.1

theorem completing_of_connecting {step : AttemptStep} (h : step.Holds connection)
    (hconnecting : connection.connecting = true)
    : connection.Completing
        ∧ (step.accepting connection ↔ connection.mConnectionCompletedPromise.value = some true)
        ∧ ∀ next : Connection, next.Completing →
            next.mConnectionCompletedPromise.retrieved = connection.mConnectionCompletedPromise.retrieved →
              step.Holds next
                ∧ (step.accepting next ↔ next.mConnectionCompletedPromise.value = some true) := by
  have hidle {P : Prop} (howed : connection.connecting = false) : P := by
    rw [howed] at hconnecting
    cases hconnecting
  cases step with
  | connect => exact hidle h.2.2.1
  | establish => exact ⟨h.1, Iff.rfl, fun next hnext hretrieved => ⟨⟨hnext, hretrieved.trans h.2⟩, Iff.rfl⟩⟩
  | getFuture => exact ⟨h.1, Iff.rfl, fun next hnext hretrieved => ⟨⟨hnext, hretrieved.trans h.2⟩, Iff.rfl⟩⟩
  | wait => exact ⟨h, Iff.rfl, fun next hnext _ => ⟨hnext, Iff.rfl⟩⟩
  | accept => exact hidle h.1.2.1
  | reset step => exact hidle (connecting_of_reset h)

theorem Completing.onConnectionCompleted (h : connection.Completing) (hconnecting : connection.connecting = true)
    (errorCode returnCode : Nat)
    : ∃ next,
        connection.onConnectionCompleted errorCode returnCode = some next ∧ next.Completing
          ∧ next.mConnectionCompletedPromise.retrieved = connection.mConnectionCompletedPromise.retrieved
          ∧ next.mConnected = connection.mConnected ∧ next.overtaken = connection.overtaken
          ∧ (next.session = connection.session
              ∨ next.session = .online ∧ next.mConnectionCompletedPromise.value = some true) := by
  obtain ⟨howed, _, hclosed, hdisconnecting⟩ := h
  have hvalue := howed.mpr hconnecting
  unfold Connection.onConnectionCompleted Promise.setValue
  rw [hvalue]
  cases haccepted : (decide (errorCode = 0) && decide (returnCode = AWS_MQTT_CONNECT_ACCEPTED)) with
  | true =>
    refine ⟨_, rfl, ⟨?_, fun _ => Session.noConfusion, hclosed, hdisconnecting⟩, rfl, rfl, rfl, Or.inr ⟨rfl, rfl⟩⟩
    exact iff_of_false (fun hnone => by cases hnone) (fun hfalse => by cases hfalse)
  | false =>
    refine ⟨_, rfl, ⟨?_, (fun htrue => by cases htrue), hclosed, hdisconnecting⟩, rfl, rfl, rfl, Or.inl rfl⟩
    exact iff_of_false (fun hnone => by cases hnone) (fun hfalse => by cases hfalse)

theorem onConnectionCompleted_spec {position : Position} (h : position.Holds connection)
    (hconnecting : connection.connecting = true) (errorCode returnCode : Nat)
    : ∃ next,
        connection.onConnectionCompleted errorCode returnCode = some next ∧ position.Holds next
          ∧ next.mConnected = connection.mConnected ∧ next.overtaken = connection.overtaken
          ∧ (next.session = connection.session ∧ ¬ position.accepting connection
              ∨ next.session = .online ∧ position.accepting next) := by
  have hidle {P : Prop} (howed : connection.connecting = false) : P := by
    rw [howed] at hconnecting
    cases hconnecting
  cases position with
  | fresh => exact hidle h.2.2.1
  | quiet => exact hidle h.2.1
  | reset step => exact hidle (connecting_of_reset h)
  | attempt step =>
    obtain ⟨hcompleting, haccepting, hholds⟩ := completing_of_connecting h hconnecting
    obtain ⟨next, heq, hnext, hretrieved, hconnected, hovertaken, hsession⟩ :=
      hcompleting.onConnectionCompleted hconnecting errorCode returnCode
    obtain ⟨hstep, haccepted⟩ := hholds next hnext hretrieved
    refine ⟨next, heq, hstep, hconnected, hovertaken, hsession.imp ?_ ?_⟩
    . intro hsame
      refine ⟨hsame, fun hpending => ?_⟩
      have hvalue := hcompleting.1.mpr hconnecting
      rw [haccepting.mp hpending] at hvalue
      cases hvalue
    . exact fun ⟨honline, hvalue⟩ => ⟨honline, haccepted.mpr hvalue⟩

theorem holds_congr (next : Connection) {position : Position} (h : position.Holds connection)
    (hpromises : next.mConnectionCompletedPromise = connection.mConnectionCompletedPromise
      ∧ next.mConnectionClosedPromise = connection.mConnectionClosedPromise)
    (howed : next.connecting = connection.connecting ∧ next.disconnecting = connection.disconnecting)
    (hsession : connection.session ≠ .offline → next.session ≠ .offline)
    : position.Holds next ∧ (position.accepting connection → position.accepting next) := by
  obtain ⟨hcompleted, hclosed⟩ := hpromises
  obtain ⟨hconnecting, hdisconnecting⟩ := howed
  have hquiet (hq : connection.Quiet) : next.Quiet := by
    unfold Quiet at hq ⊢
    rw [hclosed, hconnecting, hdisconnecting]
    exact hq
  have hfresh (hf : connection.Fresh) : next.Fresh := by
    unfold Fresh
    rw [hcompleted]
    exact ⟨hf.1, hquiet hf.2⟩
  have hcompleting (hc : connection.Completing) : next.Completing := by
    unfold Completing
    rw [hcompleted, hclosed, hconnecting, hdisconnecting]
    exact ⟨hc.1, fun haccepted => hsession (hc.2.1 haccepted), hc.2.2⟩
  have hclosing (hc : connection.Closing) : next.Closing := by
    unfold Closing
    rw [hcompleted, hclosed, hconnecting, hdisconnecting]
    exact hc
  have hreset {step : ResetStep} (hstep : step.Holds connection) : step.Holds next := by
    cases step with
    | renewCompleted => exact hquiet hstep
    | checkEstablished => exact hfresh hstep
    | disconnect => exact hfresh hstep
    | getFuture => exact ⟨hclosing hstep.1, by rw [hclosed]; exact hstep.2⟩
    | wait => exact hclosing hstep
    | renewClosed =>
      unfold ResetStep.Holds
      dsimp only
      rw [hcompleted, hconnecting, hdisconnecting]
      exact hstep
    | clear => exact hfresh hstep
  cases position with
  | fresh => exact ⟨hfresh h, id⟩
  | quiet => exact ⟨hquiet h, id⟩
  | reset step => exact ⟨hreset h, id⟩
  | attempt step =>
    cases step with
    | connect => exact ⟨hfresh h, id⟩
    | establish =>
      refine ⟨⟨hcompleting h.1, by rw [hcompleted]; exact h.2⟩, fun haccepting => ?_⟩
      exact (congrArg Promise.value hcompleted).trans haccepting
    | getFuture =>
      refine ⟨⟨hcompleting h.1, by rw [hcompleted]; exact h.2⟩, fun haccepting => ?_⟩
      exact (congrArg Promise.value hcompleted).trans haccepting
    | wait => exact ⟨hcompleting h, fun haccepting => (congrArg Promise.value hcompleted).trans haccepting⟩
    | accept => exact ⟨⟨hquiet h.1, hsession h.2⟩, id⟩
    | reset step => exact ⟨hreset h, id⟩

theorem onDisconnect_spec {position : Position} (h : position.Holds connection)
    (hdisconnecting : connection.disconnecting = true)
    : ∃ next,
        connection.onDisconnect = some next ∧ position.Holds next ∧ next.mConnected = connection.mConnected
          ∧ next.session = .offline := by
  have hidle {P : Prop} (howed : connection.disconnecting = false) : P := by
    rw [howed] at hdisconnecting
    cases hdisconnecting
  have hreset {step : ResetStep} (hstep : step.Holds connection)
      : ∃ next,
          connection.onDisconnect = some next ∧ step.Holds next ∧ next.mConnected = connection.mConnected
            ∧ next.session = .offline := by
    have hclosed (hclosing : connection.Closing)
        : ∃ next,
            connection.onDisconnect = some next ∧ next.Closing
              ∧ next.mConnectionClosedPromise.retrieved = connection.mConnectionClosedPromise.retrieved
              ∧ next.mConnected = connection.mConnected ∧ next.session = .offline := by
      obtain ⟨hcompleted, hconnecting, howed⟩ := hclosing
      unfold onDisconnect Promise.setValue
      rw [howed.mpr hdisconnecting]
      refine ⟨_, rfl, ⟨hcompleted, hconnecting, ?_⟩, rfl, rfl, rfl⟩
      exact iff_of_false (fun hnone => by cases hnone) (fun hfalse => by cases hfalse)
    cases step with
    | renewCompleted => exact hidle hstep.2.2
    | checkEstablished => exact hidle hstep.2.2.2
    | disconnect => exact hidle hstep.2.2.2
    | getFuture =>
      obtain ⟨next, heq, hnext, hretrieved, hconnected, hsession⟩ := hclosed hstep.1
      exact ⟨next, heq, ⟨hnext, hretrieved.trans hstep.2⟩, hconnected, hsession⟩
    | wait =>
      obtain ⟨next, heq, hnext, _, hconnected, hsession⟩ := hclosed hstep
      exact ⟨next, heq, hnext, hconnected, hsession⟩
    | renewClosed => exact hidle hstep.2.2
    | clear => exact hidle hstep.2.2.2
  cases position with
  | fresh => exact hidle h.2.2.2
  | quiet => exact hidle h.2.2
  | reset step => exact hreset h
  | attempt step =>
    cases step with
    | connect => exact hidle h.2.2.2
    | establish => exact hidle h.1.2.2.2
    | getFuture => exact hidle h.1.2.2.2
    | wait => exact hidle h.2.2.2
    | accept => exact hidle h.1.2.2
    | reset step => exact hreset h

end Callbacks

end Connection

end OffboardConnectivityAwsIot
