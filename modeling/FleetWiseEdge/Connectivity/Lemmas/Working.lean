import FleetWiseEdge.Connectivity.Lemmas.Connection

namespace OffboardConnectivityAwsIot

def MainThread.waits (mainThread : MainThread) : Bool :=
  match mainThread with
  | .idle | .stopStore | .stopNotify | .release | .join => true
  | _ => false

def MainThread.stopping (mainThread : MainThread) : Bool :=
  match mainThread with
  | .stopStore | .stopNotify | .release | .join => true
  | _ => false

def MainThread.connects (mainThread : MainThread) : Bool :=
  match mainThread with
  | .attempt _ | .subscribe _ => true
  | _ => false

namespace AwsIotConnectivityModule

variable {module next : AwsIotConnectivityModule}

/--
One thread at a time works on the connection, the promises are as its next step needs them, and `mConnected`
follows the session.
-/
structure Working (module : AwsIotConnectivityModule) : Prop where
  holds : module.position.Holds module.connection
  alone : module.mRetryThread.worker = .absent ∨ module.mainThread.waits = true
  joined : module.mainThread.stopping = true → module.mRetryThread.worker ≠ .absent
  called
    : module.connected = false →
        module.mRetryThread.worker = .absent ∧ module.mainThread.connects = false
          ∧ module.connection.session = .offline
  loop : module.connection.session ≠ .offline → module.eventLoop = .idle
  online
    : module.connection.session = .online →
        module.connection.mConnected = true ∨ module.position.accepting module.connection
  alive
    : module.connection.mConnected = true →
        module.connection.session = .online
          ∨ (module.connection.session = .interrupted ∧ module.connection.overtaken = true)
          ∨ module.eventLoop = .closing

namespace Working

theorem position_of_waits (hwaits : module.mainThread.waits = true)
    : module.position = module.mRetryThread.worker.position module.connected := by
  unfold position
  cases hmain : module.mainThread with
  | idle => rfl
  | stopStore => rfl
  | stopNotify => rfl
  | release => rfl
  | join => rfl
  | _ =>
    rw [hmain] at hwaits
    cases hwaits

theorem new (channels : List (String × Bool)) : (AwsIotConnectivityModule.new channels).Working where
  holds := ⟨⟨rfl, rfl⟩, ⟨rfl, rfl⟩, rfl, rfl⟩
  alone := Or.inl rfl
  joined := fun hstopping => by cases hstopping
  called := fun _ => ⟨rfl, rfl, rfl⟩
  loop := fun _ => rfl
  online := fun honline => by cases honline
  alive := fun halive => by cases halive

section Retry

variable (h : module.Working) (hworker : module.mRetryThread.worker ≠ .absent)

include h hworker

theorem position_of_worker
    : module.position = module.mRetryThread.worker.position true ∧ module.connected = true
        ∧ module.mainThread.waits = true := by
  have hwaits := h.alone.resolve_left hworker
  have hconnected : module.connected = true := by
    cases hcalled : module.connected with
    | true => rfl
    | false => exact absurd (h.called hcalled).1 hworker
  refine ⟨?_, hconnected, hwaits⟩
  rw [position_of_waits hwaits, hconnected]

theorem ofRetry (hnext : next.mRetryThread.worker ≠ .absent)
    (hthreads : next.mainThread = module.mainThread ∧ next.eventLoop = module.eventLoop
      ∧ next.connected = module.connected)
    (hsession : next.connection.session = module.connection.session)
    (hholds : (next.mRetryThread.worker.position true).Holds next.connection)
    (honline : module.connection.mConnected = true ∨ module.position.accepting module.connection →
      next.connection.mConnected = true ∨ (next.mRetryThread.worker.position true).accepting next.connection)
    (halive : next.connection.mConnected = true →
      next.connection.session = .online
        ∨ (next.connection.session = .interrupted ∧ next.connection.overtaken = true)
        ∨ module.eventLoop = .closing)
    : next.Working := by
  obtain ⟨_, hconnected, hwaits⟩ := h.position_of_worker hworker
  obtain ⟨hmain, hloop, hcalled⟩ := hthreads
  have hposition : next.position = next.mRetryThread.worker.position true := by
    rw [position_of_waits (by rw [hmain]; exact hwaits), hcalled, hconnected]
  constructor
  . rw [hposition]
    exact hholds
  . rw [hmain]
    exact Or.inr hwaits
  . exact fun _ => hnext
  . intro hnot
    rw [hcalled, hconnected] at hnot
    cases hnot
  . rw [hsession, hloop]
    exact h.loop
  . rw [hposition, hsession]
    exact fun hsessionOnline => honline (h.online hsessionOnline)
  . rw [hloop]
    exact halive

theorem ofRetry_same (hnext : next.mRetryThread.worker ≠ .absent)
    (hthreads : next.mainThread = module.mainThread ∧ next.eventLoop = module.eventLoop
      ∧ next.connected = module.connected)
    (hsame : next.connection = module.connection)
    (hposition : next.mRetryThread.worker.position true = module.mRetryThread.worker.position true)
    : next.Working := by
  have hposition' := (h.position_of_worker hworker).1
  apply h.ofRetry hworker hnext hthreads
  . rw [hsame]
  . rw [hposition, ← hposition', hsame]
    exact h.holds
  . rw [hposition, ← hposition', hsame]
    exact id
  . rw [hsame]
    exact h.alive

end Retry

theorem retryStep (h : module.Working) (answer : Bool)
    : ∃ next, module.retryStep answer = some next ∧ next.Working := by
  unfold AwsIotConnectivityModule.retryStep
  cases hworker : module.mRetryThread.worker with
  | absent => exact ⟨module, rfl, h⟩
  | ended => exact ⟨module, rfl, h⟩
  | entry =>
    dsimp only
    cases module.mRetryThread.mDone with
    | true =>
      refine ⟨_, rfl, h.ofRetry (by simp [hworker]) RetryWorker.noConfusion ⟨rfl, rfl, rfl⟩ rfl ?_ ?_ h.alive⟩
      . have hholds := h.holds
        rw [(h.position_of_worker (by simp [hworker])).1, hworker] at hholds
        exact hholds.2
      . rw [(h.position_of_worker (by simp [hworker])).1, hworker]
        exact id
    | false =>
      refine ⟨_, rfl, h.ofRetry_same (by simp [hworker]) RetryWorker.noConfusion ⟨rfl, rfl, rfl⟩ rfl ?_⟩
      rw [hworker]
      rfl
  | start =>
    refine ⟨_, rfl, h.ofRetry_same (by simp [hworker]) RetryWorker.noConfusion ⟨rfl, rfl, rfl⟩ rfl ?_⟩
    rw [hworker]
    rfl
  | checkStop =>
    dsimp only
    split
    . refine ⟨_, rfl, h.ofRetry (by simp [hworker]) RetryWorker.noConfusion ⟨rfl, rfl, rfl⟩ rfl ?_ ?_ h.alive⟩
      . have hholds := h.holds
        rw [(h.position_of_worker (by simp [hworker])).1, hworker] at hholds
        exact hholds.2
      . rw [(h.position_of_worker (by simp [hworker])).1, hworker]
        exact id
    . refine ⟨_, rfl, h.ofRetry (by simp [hworker]) RetryWorker.noConfusion ⟨rfl, rfl, rfl⟩ rfl ?_ ?_ h.alive⟩
      . have hholds := h.holds
        rw [(h.position_of_worker (by simp [hworker])).1, hworker] at hholds
        exact hholds
      . rw [(h.position_of_worker (by simp [hworker])).1, hworker]
        exact id
  | attempt step =>
    have hposition := (h.position_of_worker (by simp [hworker])).1
    have hholds := h.holds
    rw [hposition, hworker] at hholds
    obtain ⟨connection, progress, heq, hsession, hprogress⟩ := Connection.attempt_spec hholds answer
    dsimp only
    rw [heq]
    cases progress with
    | running step' =>
      obtain ⟨hnext, haccepting, hconnected, hovertaken⟩ := hprogress
      refine ⟨_, rfl, h.ofRetry (by simp [hworker]) RetryWorker.noConfusion ⟨rfl, rfl, rfl⟩ hsession hnext ?_ ?_⟩
      . rw [hposition, hworker]
        exact Or.imp (fun halive => hconnected.trans halive) haccepting
      . intro halive
        dsimp only [setWorker] at halive ⊢
        rw [hsession, hovertaken]
        exact h.alive (hconnected.symm.trans halive)
    | returned result =>
      cases result with
      | SUCCESS =>
        obtain ⟨hquiet, honline, hconnected, hovertaken⟩ := hprogress
        refine ⟨_, rfl, h.ofRetry (by simp [hworker]) RetryWorker.noConfusion ⟨rfl, rfl, rfl⟩ hsession hquiet ?_ ?_⟩
        . exact fun _ => Or.inl hconnected
        . intro _
          dsimp only [afterAttempt]
          cases hnow : connection.session with
          | offline => exact absurd hnow honline
          | online => exact Or.inl rfl
          | interrupted => exact Or.inr (Or.inl ⟨rfl, hovertaken hnow⟩)
      | RETRY =>
        obtain ⟨hfresh, haccepting, hconnected, hovertaken⟩ := hprogress
        refine ⟨_, rfl, h.ofRetry (by simp [hworker]) RetryWorker.noConfusion ⟨rfl, rfl, rfl⟩ hsession hfresh ?_ ?_⟩
        . rw [hposition, hworker]
          exact fun hbefore => Or.inl (hconnected.trans (hbefore.resolve_right haccepting))
        . intro halive
          dsimp only [afterAttempt] at halive ⊢
          rw [hsession, hovertaken]
          exact h.alive (hconnected.symm.trans halive)
      | ABORT => exact hprogress.elim
  | wait =>
    refine ⟨_, rfl, h.ofRetry_same (by simp [hworker]) RetryWorker.noConfusion ⟨rfl, rfl, rfl⟩ rfl ?_⟩
    rw [hworker]
    rfl
  | backoff =>
    refine ⟨_, rfl, h.ofRetry_same (by simp [hworker]) RetryWorker.noConfusion ⟨rfl, rfl, rfl⟩ rfl ?_⟩
    rw [hworker]
    rfl
  | subscribe step =>
    dsimp only
    cases (module.subscriptions.onFinished step module.isAlive answer).2 with
    | running step' =>
      refine ⟨_, rfl, h.ofRetry_same (by simp [hworker]) RetryWorker.noConfusion ⟨rfl, rfl, rfl⟩ rfl ?_⟩
      rw [hworker]
      rfl
    | returned result =>
      refine ⟨_, rfl, h.ofRetry_same (by simp [hworker]) RetryWorker.noConfusion ⟨rfl, rfl, rfl⟩ rfl ?_⟩
      rw [hworker]
      rfl
  | exit =>
    refine ⟨_, rfl, h.ofRetry_same (by simp [hworker]) RetryWorker.noConfusion ⟨rfl, rfl, rfl⟩ rfl ?_⟩
    rw [hworker]
    rfl

section Main

theorem ofMain (h : module.Working)
    (hworker : module.mRetryThread.worker = .absent ∧ next.mRetryThread.worker = .absent)
    (hmain : next.mainThread.stopping = false ∧ (next.mainThread.connects = true → module.connected = true))
    (hsame : next.eventLoop = module.eventLoop ∧ next.connected = module.connected)
    (hsession : next.connection.session = module.connection.session)
    (hholds : next.position.Holds next.connection)
    (honline : module.connection.mConnected = true ∨ module.position.accepting module.connection →
      next.connection.mConnected = true ∨ next.position.accepting next.connection)
    (halive : next.connection.mConnected = true →
      next.connection.session = .online
        ∨ (next.connection.session = .interrupted ∧ next.connection.overtaken = true)
        ∨ module.eventLoop = .closing)
    : next.Working := by
  obtain ⟨hloop, hcalled⟩ := hsame
  constructor
  . exact hholds
  . exact Or.inl hworker.2
  . intro hstopping
    rw [hmain.1] at hstopping
    cases hstopping
  . rw [hcalled, hsession]
    intro hnot
    refine ⟨hworker.2, ?_, (h.called hnot).2.2⟩
    cases hconnects : next.mainThread.connects with
    | true =>
      rw [hmain.2 hconnects] at hnot
      cases hnot
    | false => rfl
  . rw [hsession, hloop]
    exact h.loop
  . rw [hsession]
    exact fun hsessionOnline => honline (h.online hsessionOnline)
  . rw [hloop]
    exact halive

theorem quiet_of_none (h : module.Working) (hmain : module.mainThread.position = none)
    (hworker : module.mRetryThread.worker = .absent)
    : module.connection.Quiet ∧ ¬ module.position.accepting module.connection := by
  have hholds := h.holds
  have hposition : module.position = if module.connected then .quiet else .fresh := by
    unfold position
    rw [hmain, hworker]
    rfl
  rw [hposition] at hholds ⊢
  cases hconnected : module.connected with
  | true =>
    rw [hconnected] at hholds
    exact ⟨hholds, id⟩
  | false =>
    rw [hconnected] at hholds
    exact ⟨hholds.2, id⟩

theorem holds_of_fresh (hmain : module.mainThread.position = none)
    (hworker : module.mRetryThread.worker = .absent) (hfresh : module.connection.Fresh)
    : module.position.Holds module.connection := by
  have hposition : module.position = if module.connected then .quiet else .fresh := by
    unfold position
    rw [hmain, hworker]
    rfl
  rw [hposition]
  split
  . exact hfresh.2
  . exact hfresh

theorem absent_of_main (h : module.Working) (hwaits : module.mainThread.waits = false)
    : module.mRetryThread.worker = .absent := by
  apply h.alone.resolve_right
  rw [hwaits]
  exact Bool.false_ne_true

theorem connected_of_main (h : module.Working) (hconnects : module.mainThread.connects = true)
    : module.connected = true := by
  cases hcalled : module.connected with
  | true => rfl
  | false =>
    rw [(h.called hcalled).2.1] at hconnects
    cases hconnects

theorem mainAttempt (h : module.Working) {step : AttemptStep} (hmain : module.mainThread = .attempt step)
    (answer : Bool)
    : ∃ next, module.mainStep answer = some next ∧ next.Working := by
  have hworker := h.absent_of_main (by rw [hmain]; rfl)
  have hconnected := h.connected_of_main (by rw [hmain]; rfl)
  have hposition : module.position = .attempt step := by
    unfold position
    rw [hmain]
    rfl
  have hholds := h.holds
  rw [hposition] at hholds
  obtain ⟨connection, progress, heq, hsession, hprogress⟩ := Connection.attempt_spec hholds answer
  unfold AwsIotConnectivityModule.mainStep
  rw [hmain]
  dsimp only
  rw [heq]
  cases progress with
  | running step' =>
    obtain ⟨hnext, haccepting, hmConnected, hovertaken⟩ := hprogress
    refine ⟨_, rfl, h.ofMain ⟨hworker, hworker⟩ ⟨rfl, fun _ => hconnected⟩ ⟨rfl, rfl⟩ hsession hnext ?_ ?_⟩
    . rw [hposition]
      exact Or.imp (fun halive => hmConnected.trans halive) haccepting
    . intro halive
      dsimp only at halive ⊢
      rw [hsession, hovertaken]
      exact h.alive (hmConnected.symm.trans halive)
  | returned result =>
    cases result with
    | SUCCESS =>
      obtain ⟨hquiet, honline, hmConnected, hovertaken⟩ := hprogress
      refine ⟨_, rfl, h.ofMain ⟨hworker, hworker⟩ ⟨rfl, fun _ => hconnected⟩ ⟨rfl, rfl⟩ hsession ?_ ?_ ?_⟩
      . unfold position
        dsimp only [MainThread.position]
        rw [hworker, hconnected]
        exact hquiet
      . exact fun _ => Or.inl hmConnected
      . intro _
        dsimp only
        cases hnow : connection.session with
        | offline => exact absurd hnow honline
        | online => exact Or.inl rfl
        | interrupted => exact Or.inr (Or.inl ⟨rfl, hovertaken hnow⟩)
    | RETRY =>
      obtain ⟨hfresh, haccepting, hmConnected, hovertaken⟩ := hprogress
      refine ⟨_, rfl, h.ofMain ⟨hworker, hworker⟩ ⟨rfl, fun hnot => by cases hnot⟩ ⟨rfl, rfl⟩ hsession ?_ ?_ ?_⟩
      . exact holds_of_fresh rfl hworker hfresh
      . rw [hposition]
        exact fun hbefore => Or.inl (hmConnected.trans (hbefore.resolve_right haccepting))
      . intro halive
        dsimp only at halive ⊢
        rw [hsession, hovertaken]
        exact h.alive (hmConnected.symm.trans halive)
    | ABORT => exact hprogress.elim

theorem mainReset (h : module.Working) {step : ResetStep} (hmain : module.mainThread = .reset step)
    (answer : Bool)
    : ∃ next, module.mainStep answer = some next ∧ next.Working := by
  have hworker := h.absent_of_main (by rw [hmain]; rfl)
  have hposition : module.position = .reset step := by
    unfold position
    rw [hmain]
    rfl
  have hholds := h.holds
  rw [hposition] at hholds
  obtain ⟨connection, progress, heq, hmConnected, hsession, hovertaken, hnext⟩ :=
    Connection.resetConnection_spec hholds answer
  have hbefore {P : Prop}
      : module.connection.mConnected = true ∨ module.position.accepting module.connection →
          connection.mConnected = true ∨ P := by
    rw [hposition]
    exact fun hbefore => Or.inl (hmConnected.trans (hbefore.resolve_right id))
  have halive : connection.mConnected = true →
      connection.session = .online ∨ (connection.session = .interrupted ∧ connection.overtaken = true)
        ∨ module.eventLoop = .closing := by
    intro halive
    rw [hsession, hovertaken]
    exact h.alive (hmConnected.symm.trans halive)
  unfold AwsIotConnectivityModule.mainStep
  rw [hmain]
  dsimp only
  rw [heq]
  cases progress with
  | running step' =>
    refine ⟨_, rfl, h.ofMain ⟨hworker, hworker⟩ ⟨rfl, fun hnot => by cases hnot⟩ ⟨rfl, rfl⟩ hsession hnext ?_ ?_⟩
    . exact hbefore
    . exact halive
  | returned result =>
    refine ⟨_, rfl, h.ofMain ⟨hworker, hworker⟩ ⟨rfl, fun hnot => by cases hnot⟩ ⟨rfl, rfl⟩ hsession ?_ ?_ ?_⟩
    . exact holds_of_fresh rfl hworker hnext
    . exact hbefore
    . exact halive

theorem ofSame (h : module.Working) (hconnection : next.connection = module.connection)
    (hposition : next.position = module.position)
    (hsame : next.eventLoop = module.eventLoop ∧ next.connected = module.connected)
    (halone : next.mRetryThread.worker = .absent ∨ next.mainThread.waits = true)
    (hjoined : next.mainThread.stopping = true → next.mRetryThread.worker ≠ .absent)
    (hcalled : module.connected = false →
      next.mRetryThread.worker = .absent ∧ next.mainThread.connects = false)
    : next.Working := by
  obtain ⟨hloop, hconnected⟩ := hsame
  constructor
  . rw [hposition, hconnection]
    exact h.holds
  . exact halone
  . exact hjoined
  . rw [hconnected, hconnection]
    intro hnot
    have ⟨hworker, hconnects⟩ := hcalled hnot
    exact ⟨hworker, hconnects, (h.called hnot).2.2⟩
  . rw [hconnection, hloop]
    exact h.loop
  . rw [hposition, hconnection]
    exact h.online
  . rw [hconnection, hloop]
    exact h.alive

theorem mainStep (h : module.Working) (answer : Bool)
    : ∃ next, module.mainStep answer = some next ∧ next.Working := by
  cases hmain : module.mainThread with
  | idle =>
    refine ⟨module, ?_, h⟩
    unfold AwsIotConnectivityModule.mainStep
    rw [hmain]
  | attempt step => exact h.mainAttempt hmain answer
  | subscribe step =>
    have hworker := h.absent_of_main (by rw [hmain]; rfl)
    have hconnected := h.connected_of_main (by rw [hmain]; rfl)
    unfold AwsIotConnectivityModule.mainStep
    rw [hmain]
    dsimp only
    cases (module.subscriptions.onFinished step module.isAlive answer).2 with
    | running step' =>
      refine ⟨_, rfl, h.ofSame rfl ?_ ⟨rfl, rfl⟩ (Or.inl hworker) (fun hnot => by cases hnot) ?_⟩
      . unfold position
        rw [hmain]
        rfl
      . intro hnot
        rw [hconnected] at hnot
        cases hnot
    | returned result =>
      refine ⟨_, rfl, h.ofSame rfl ?_ ⟨rfl, rfl⟩ (Or.inl hworker) (fun hnot => by cases hnot) ?_⟩
      . unfold position
        rw [hmain]
        rfl
      . intro hnot
        rw [hconnected] at hnot
        cases hnot
  | stopStore =>
    have hjoined := h.joined (by rw [hmain]; rfl)
    unfold AwsIotConnectivityModule.mainStep
    rw [hmain]
    refine ⟨_, rfl, h.ofSame rfl ?_ ⟨rfl, rfl⟩ (Or.inr rfl) (fun _ => hjoined) ?_⟩
    . unfold position
      rw [hmain]
      rfl
    . exact fun hnot => ⟨(h.called hnot).1, rfl⟩
  | stopNotify =>
    have hjoined := h.joined (by rw [hmain]; rfl)
    unfold AwsIotConnectivityModule.mainStep
    rw [hmain]
    refine ⟨_, rfl, h.ofSame rfl ?_ ⟨rfl, rfl⟩ (Or.inr rfl) (fun _ => hjoined) ?_⟩
    . unfold position
      rw [hmain]
      rfl
    . exact fun hnot => ⟨(h.called hnot).1, rfl⟩
  | release =>
    have hjoined := h.joined (by rw [hmain]; rfl)
    unfold AwsIotConnectivityModule.mainStep
    rw [hmain]
    refine ⟨_, rfl, h.ofSame rfl ?_ ⟨rfl, rfl⟩ (Or.inr rfl) (fun _ => hjoined) ?_⟩
    . unfold position
      rw [hmain]
      rfl
    . exact fun hnot => ⟨(h.called hnot).1, rfl⟩
  | join =>
    have hjoined := h.joined (by rw [hmain]; rfl)
    unfold AwsIotConnectivityModule.mainStep
    rw [hmain]
    dsimp only
    split
    . next hworker =>
      obtain ⟨hposition, hconnected, _⟩ := h.position_of_worker hjoined
      refine ⟨_, rfl, h.ofSame rfl ?_ ⟨rfl, rfl⟩ (Or.inl rfl) (fun hnot => by cases hnot) (fun _ => ⟨rfl, rfl⟩)⟩
      rw [hposition, hworker]
      unfold position setWorker
      dsimp only [MainThread.position, RetryWorker.position]
      rw [hconnected]
      rfl
    . exact ⟨module, rfl, h⟩
  | stopped =>
    have hworker := h.absent_of_main (by rw [hmain]; rfl)
    obtain ⟨hquiet, haccepting⟩ := h.quiet_of_none (by rw [hmain]; rfl) hworker
    unfold AwsIotConnectivityModule.mainStep
    rw [hmain]
    refine ⟨_, rfl, h.ofMain ⟨hworker, hworker⟩ ⟨rfl, fun hnot => by cases hnot⟩ ⟨rfl, rfl⟩ rfl hquiet ?_ h.alive⟩
    exact fun hbefore => Or.inl (hbefore.resolve_right haccepting)
  | reset step => exact h.mainReset hmain answer

end Main

section Events

theorem ofCallback (h : module.Working) {connection : Connection} {eventLoop : EventLoop}
    (hholds : module.position.Holds connection)
    (hcalled : module.connected = false → connection.session = .offline)
    (hloop : connection.session ≠ .offline → eventLoop = .idle)
    (honline : connection.session = .online → connection.mConnected = true ∨ module.position.accepting connection)
    (halive : connection.mConnected = true →
      connection.session = .online ∨ (connection.session = .interrupted ∧ connection.overtaken = true)
        ∨ eventLoop = .closing)
    : ({ module with connection, eventLoop } : AwsIotConnectivityModule).Working where
  holds := hholds
  alone := h.alone
  joined := h.joined
  called := fun hnot => ⟨(h.called hnot).1, (h.called hnot).2.1, hcalled hnot⟩
  loop := hloop
  online := honline
  alive := halive

theorem connect (h : module.Working) (hmain : module.mainThread = .idle) (hconnected : module.connected = false)
    (created asynchronous : Bool)
    : (module.connect created asynchronous).Working := by
  obtain ⟨hworker, _, hsession⟩ := h.called hconnected
  have hfresh : module.connection.Fresh := by
    have hholds := h.holds
    unfold position at hholds
    rw [hmain, hworker, hconnected] at hholds
    exact hholds
  have hoffline {P : Prop} (honline : module.connection.session ≠ .offline) : P := absurd hsession honline
  unfold AwsIotConnectivityModule.connect
  cases created with
  | false =>
    simp only [Bool.not_false, if_true]
    constructor
    . unfold position
      dsimp only
      rw [hmain, hworker]
      exact hfresh.2
    . exact Or.inl hworker
    . dsimp only
      rw [hmain]
      exact fun hstopping => by cases hstopping
    . exact fun hnot => by cases hnot
    . exact hoffline
    . exact fun honline => hoffline (by rw [show module.connection.session = .online from honline]; simp)
    . exact fun halive => by cases halive
  | true =>
    cases asynchronous with
    | true =>
      simp only [Bool.not_true, Bool.false_eq_true, if_false, if_true]
      constructor
      . unfold position
        dsimp only
        rw [hmain]
        exact hfresh
      . exact Or.inr (by rw [hmain]; rfl)
      . exact fun _ => RetryWorker.noConfusion
      . exact fun hnot => by cases hnot
      . exact hoffline
      . exact fun honline => hoffline (by rw [show module.connection.session = .online from honline]; simp)
      . exact fun halive => by cases halive
    | false =>
      simp only [Bool.not_true, Bool.false_eq_true, if_false]
      constructor
      . exact hfresh
      . exact Or.inl hworker
      . exact fun hstopping => by cases hstopping
      . exact fun hnot => by cases hnot
      . exact hoffline
      . exact fun honline => hoffline (by rw [show module.connection.session = .online from honline]; simp)
      . exact fun halive => by cases halive

theorem disconnect (h : module.Working) (hmain : module.mainThread = .idle) : module.disconnect.Working := by
  unfold AwsIotConnectivityModule.disconnect
  split
  . next hworker =>
    obtain ⟨hquiet, haccepting⟩ := h.quiet_of_none (by rw [hmain]; rfl) hworker
    refine h.ofMain ⟨hworker, hworker⟩ ⟨rfl, fun hnot => by cases hnot⟩ ⟨rfl, rfl⟩ rfl hquiet ?_ h.alive
    exact fun hbefore => Or.inl (hbefore.resolve_right haccepting)
  . next hworker =>
    refine h.ofSame rfl ?_ ⟨rfl, rfl⟩ (Or.inr rfl) (fun _ => hworker) fun hnot => ⟨(h.called hnot).1, rfl⟩
    unfold position
    rw [hmain]
    rfl

theorem ofSubscriptions (h : module.Working) (subscriptions : Subscriptions)
    : ({ module with subscriptions } : AwsIotConnectivityModule).Working :=
  ⟨h.holds, h.alone, h.joined, h.called, h.loop, h.online, h.alive⟩

theorem not_accepting (h : module.Working) (hconnected : module.connected = false) (connection : Connection)
    : ¬ module.position.accepting connection := by
  obtain ⟨hworker, hconnects, _⟩ := h.called hconnected
  unfold position
  rw [hworker, hconnected]
  cases hmain : module.mainThread with
  | attempt step =>
    rw [hmain] at hconnects
    cases hconnects
  | _ => exact id

theorem step (h : module.Working)
    (hacked : ∀ i, module.subscriptions.subscribing = some i →
      module.subscriptions.subscribeFinishedPromise.value = none)
    (event : ConnectivityEvent)
    : ∃ next, module.step event = some next ∧ next.Working := by
  unfold AwsIotConnectivityModule.step
  cases event with
  | connect created asynchronous =>
    dsimp only
    split
    . next hmain =>
      cases hconnected : module.connected with
      | true => exact ⟨module, rfl, h⟩
      | false => exact ⟨_, rfl, h.connect hmain hconnected created asynchronous⟩
    . exact ⟨module, rfl, h⟩
  | disconnect =>
    dsimp only
    split
    . next hmain => exact ⟨_, rfl, h.disconnect hmain⟩
    . exact ⟨module, rfl, h⟩
  | main answer => exact h.mainStep answer
  | retry answer => exact h.retryStep answer
  | onConnectionCompleted errorCode returnCode =>
    dsimp only
    split
    . next howed =>
      obtain ⟨hloop, hconnecting⟩ := howed
      obtain ⟨connection, heq, hholds, hmConnected, hovertaken, hsession⟩ :=
        Connection.onConnectionCompleted_spec h.holds hconnecting errorCode returnCode
      rw [heq]
      refine ⟨_, rfl, h.ofCallback hholds ?_ (fun _ => hloop) ?_ ?_⟩
      . intro hnot
        cases hsession with
        | inl hsame => exact hsame.1.trans (h.called hnot).2.2
        | inr haccepted => exact absurd haccepted.2 (h.not_accepting hnot connection)
      . intro honline
        rw [hmConnected]
        cases hsession with
        | inl hsame =>
          exact Or.inl ((h.online (hsame.1.symm.trans honline)).resolve_right hsame.2)
        | inr haccepted => exact Or.inr haccepted.2
      . intro halive
        cases hsession with
        | inl hsame =>
          rw [hsame.1, hovertaken]
          exact h.alive (hmConnected.symm.trans halive)
        | inr haccepted => exact Or.inl haccepted.1
    . exact ⟨module, rfl, h⟩
  | onInterrupted =>
    dsimp only
    split
    . next hsession =>
      refine ⟨_, rfl, h.ofCallback ?_ ?_ ?_ ?_ ?_⟩
      . exact (Connection.holds_congr module.connection.onInterrupted h.holds ⟨rfl, rfl⟩ ⟨rfl, rfl⟩
          fun _ => Session.noConfusion).1
      . intro hnot
        rw [(h.called hnot).2.2] at hsession
        exact absurd hsession.2 Session.noConfusion
      . exact fun _ => hsession.1
      . exact fun honline => by cases honline
      . exact fun halive => by cases halive
    . exact ⟨module, rfl, h⟩
  | onResumed =>
    dsimp only
    split
    . next hsession =>
      refine ⟨_, rfl, h.ofCallback ?_ ?_ ?_ ?_ ?_⟩
      . exact (Connection.holds_congr module.connection.onResumed h.holds ⟨rfl, rfl⟩ ⟨rfl, rfl⟩
          fun _ => Session.noConfusion).1
      . intro hnot
        rw [(h.called hnot).2.2] at hsession
        exact absurd hsession.2 Session.noConfusion
      . exact fun _ => hsession.1
      . exact fun _ => Or.inl rfl
      . exact fun _ => Or.inl rfl
    . exact ⟨module, rfl, h⟩
  | onDisconnect =>
    dsimp only
    split
    . next howed =>
      obtain ⟨connection, heq, hholds, hmConnected, hsession⟩ := Connection.onDisconnect_spec h.holds howed.2
      rw [heq]
      refine ⟨_, rfl, h.ofCallback hholds (fun _ => hsession) (fun hnot => absurd hsession hnot) ?_ ?_⟩
      . intro honline
        rw [hsession] at honline
        cases honline
      . exact fun _ => Or.inr (Or.inr rfl)
    . exact ⟨module, rfl, h⟩
  | onSubAck packetId qos errorCode =>
    dsimp only
    split
    . next i _ hsubscribing =>
      unfold Subscriptions.onSubAck Promise.setValue
      rw [hacked i hsubscribing]
      dsimp only
      split
      . exact ⟨_, rfl, h.ofSubscriptions _⟩
      . exact ⟨_, rfl, h.ofSubscriptions _⟩
    . exact ⟨module, rfl, h⟩
  | callback =>
    refine ⟨_, rfl, ?_⟩
    unfold callbackStep
    split
    . exact h
    . next hloop =>
      refine h.ofCallback ?_ (fun hnot => (h.called hnot).2.2) ?_ ?_ ?_
      . exact (Connection.holds_congr { module.connection with mConnected := false } h.holds ⟨rfl, rfl⟩
          ⟨rfl, rfl⟩ id).1
      . intro hsession
        have hidle := h.loop hsession
        rw [hloop] at hidle
        cases hidle
      . intro honline
        have hidle := h.loop (by rw [show module.connection.session = .online from honline]; simp)
        rw [hloop] at hidle
        cases hidle
      . exact fun halive => by cases halive
    . next hloop =>
      refine h.ofCallback ?_ (fun hnot => (h.called hnot).2.2) ?_ ?_ ?_
      . exact (Connection.holds_congr { module.connection with mConnectionEstablished := false } h.holds
          ⟨rfl, rfl⟩ ⟨rfl, rfl⟩ id).1
      . exact fun _ => rfl
      . intro honline
        have hidle := h.loop (by rw [show module.connection.session = .online from honline]; simp)
        rw [hloop] at hidle
        cases hidle
      . intro halive
        have hbefore := h.alive halive
        rw [hloop] at hbefore
        exact hbefore.imp_right fun hrest => Or.inl (hrest.resolve_right EventLoop.noConfusion)

end Events

end Working

end AwsIotConnectivityModule

end OffboardConnectivityAwsIot
