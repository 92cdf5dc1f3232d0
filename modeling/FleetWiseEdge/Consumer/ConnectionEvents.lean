import FleetWiseEdge.Lib.Machine
import FleetWiseEdge.Consumer.Lemmas.Binder

namespace DataInspection

open DataManagement Machine

abbrev Callbacks := List (VehicleDataSourceID × VehicleDataSourceState)

def Callbacks.states (callbacks : Callbacks) (id : VehicleDataSourceID) : List VehicleDataSourceState :=
  (callbacks.filter fun callback => callback.1 = id).map Prod.snd

theorem Callbacks.states_append {callbacks : Callbacks} {id id' : VehicleDataSourceID}
    {state : VehicleDataSourceState}
    : states (callbacks ++ [(id, state)]) id'
        =
      if id = id' then callbacks.states id' ++ [state] else callbacks.states id' := by
  unfold states
  rw [List.filter_append, List.map_append]
  split
  . next heq => simp [heq]
  . next hne => simp [hne]

namespace VehicleDataSourceBinder

variable {Dictionary : Type}

def callback (event : BinderEvent Dictionary) (callbacks : Callbacks) : Callbacks :=
  match event with
  | .onVehicleDataSourceConnected id => callbacks ++ [(id, .CONNECTED)]
  | .onVehicleDataSourceDisconnected id => callbacks ++ [(id, .DISCONNECTED)]
  | .wakeUp => []
  | _ => callbacks

def callbackStep (state : VehicleDataSourceBinder Dictionary × Callbacks)
    (event : BinderEvent Dictionary)
    : VehicleDataSourceBinder Dictionary × Callbacks :=
  (state.1.step event, callback event state.2)

/--
When the worker has taken the pending events, a bound consumer is connected iff the last callback for its
source was a connect. Without a callback it is what it was.
-/
def LatestEventWins (state : VehicleDataSourceBinder Dictionary × Callbacks)
    (event : BinderEvent Dictionary)
    : Prop :=
  event = .wakeUp → ∀ (id : VehicleDataSourceID) consumer,
    state.1.mDataSourcesToConsumers[id]? = some consumer →
      ∃ consumer', state.1.wakeUp.mDataSourcesToConsumers[id]? = some consumer'
        ∧
      match (state.2.states id).getLast? with
      | none => consumer' = consumer
      | some last => consumer'.isAlive = true ↔ last = .CONNECTED

def FirstEventIsLatest (state : VehicleDataSourceBinder Dictionary × Callbacks)
    (event : BinderEvent Dictionary)
    : Prop :=
  event = .wakeUp → ∀ (id : VehicleDataSourceID) consumer,
    state.1.mDataSourcesToConsumers[id]? = some consumer →
      (state.2.states id).head? = (state.2.states id).getLast?

structure PendingFirst (state : VehicleDataSourceBinder Dictionary × Callbacks) : Prop where
  wakes : state.1.Wakes
  first : ∀ id, id ≠ INVALID_DATA_SOURCE_ID →
    state.1.mDataSourceStates[id]? = (state.2.states id).head?
  kinds : ∀ id kind, kind ∈ state.2.states id → kind ≠ .INVALID_STATE

variable {binder : VehicleDataSourceBinder Dictionary} {callbacks : Callbacks}

theorem signalState_pending {id id' : VehicleDataSourceID} {state : VehicleDataSourceState}
    (hvalid : id' ≠ INVALID_DATA_SOURCE_ID)
    : (binder.signalState id state).mDataSourceStates[id']?
        =
      if id = id' then binder.mDataSourceStates[id']?.or (some state)
      else binder.mDataSourceStates[id']? := by
  unfold signalState
  split
  . next hinvalid =>
    have hne : id ≠ id' := by
      rw [hinvalid]
      exact hvalid.symm
    rw [if_neg hne]
  . dsimp only
    rw [Std.ExtTreeMap.getElem?_insertIfNew]
    cases hstate : binder.mDataSourceStates[id']? with
    | none =>
      split
      . next h =>
        have heq : id = id' := by simpa using h.1
        simp [heq]
      . next h =>
        have hne : id ≠ id' := by
          intro heq
          apply h
          simp [heq, Std.ExtTreeMap.mem_iff_isSome_getElem?, hstate]
        simp [hne]
    | some pending =>
      split
      . next h =>
        have heq : id = id' := by simpa using h.1
        have habsent := h.2
        simp [heq, Std.ExtTreeMap.mem_iff_isSome_getElem?, hstate] at habsent
      . simp

theorem PendingFirst.signalState (h : PendingFirst (binder, callbacks)) (id : VehicleDataSourceID)
    (state : VehicleDataSourceState) (hkind : state ≠ .INVALID_STATE)
    : PendingFirst (binder.signalState id state, callbacks ++ [(id, state)]) := by
  constructor
  . exact h.wakes.signalState id state
  . intro id' hvalid
    dsimp only
    rw [signalState_pending hvalid, Callbacks.states_append]
    have hfirst := h.first id' hvalid
    dsimp only at hfirst
    split
    . rw [hfirst, List.head?_append]
      rfl
    . exact hfirst
  . intro id' kind hmem
    dsimp only at hmem
    rw [Callbacks.states_append] at hmem
    split at hmem
    . rw [List.mem_append] at hmem
      cases hmem with
      | inl hold => exact h.kinds id' kind hold
      | inr hnew =>
        rw [List.mem_singleton] at hnew
        rw [hnew]
        exact hkind
    . exact h.kinds id' kind hmem

theorem PendingFirst.other (h : PendingFirst (binder, callbacks))
    {binder' : VehicleDataSourceBinder Dictionary} (hwakes : binder'.Wakes)
    (hstates : binder'.mDataSourceStates = binder.mDataSourceStates)
    : PendingFirst (binder', callbacks) := by
  constructor
  . exact hwakes
  . intro id hvalid
    dsimp only
    rw [hstates]
    exact h.first id hvalid
  . exact h.kinds

theorem PendingFirst.step (h : PendingFirst (binder, callbacks)) (event : BinderEvent Dictionary)
    : PendingFirst (callbackStep (binder, callbacks) event) := by
  have hwakes := h.wakes.step event
  cases event with
  | addVehicleDataSource id protocol =>
    apply h.other hwakes
    have ⟨_, heq⟩ := addVehicleDataSource_consumers binder id protocol
    dsimp only [VehicleDataSourceBinder.step]
    rw [heq]
  | removeVehicleDataSource id =>
    apply h.other hwakes
    have ⟨_, heq⟩ := removeVehicleDataSource_consumers binder id
    dsimp only [VehicleDataSourceBinder.step]
    rw [heq]
  | bindConsumerToVehicleDataSource consumer id =>
    apply h.other hwakes
    dsimp only [VehicleDataSourceBinder.step]
    cases bind_consumers binder consumer id with
    | inl heq => rw [heq.1]
    | inr hbound =>
      have ⟨_, heq, _⟩ := hbound
      rw [heq]
  | unBindConsumerFromVehicleDataSource id =>
    apply h.other hwakes
    dsimp only [VehicleDataSourceBinder.step]
    cases unBind_consumers binder id with
    | inl heq => rw [heq]
    | inr heq => rw [heq]
  | onVehicleDataSourceConnected id => exact h.signalState id .CONNECTED nofun
  | onVehicleDataSourceDisconnected id => exact h.signalState id .DISCONNECTED nofun
  | onChangeOfActiveDictionary dictionary networkProtocol => exact h.other hwakes rfl
  | wakeUp =>
    constructor
    . exact hwakes
    . intro id _
      exact h.wakes.wakeUp_mDataSourceStates
    . intro id kind hmem
      exact absurd hmem (List.not_mem_nil)

theorem PendingFirst.latestEventWins_iff (h : PendingFirst (binder, callbacks))
    (event : BinderEvent Dictionary)
    : LatestEventWins (binder, callbacks) event ↔ FirstEventIsLatest (binder, callbacks) event := by
  unfold LatestEventWins FirstEventIsLatest
  apply imp_congr_right
  intro _
  apply forall_congr'
  intro id
  apply forall_congr'
  intro consumer
  apply imp_congr_right
  intro hconsumer
  dsimp only at hconsumer ⊢
  have hvalid : id ≠ INVALID_DATA_SOURCE_ID := by
    intro hinvalid
    rw [hinvalid, h.wakes.valid] at hconsumer
    contradiction
  have hfirst := h.first id hvalid
  have hkinds := h.kinds id
  dsimp only at hfirst hkinds
  have hafter := h.wakes.wakeUp_consumers id
  rw [hconsumer, hfirst] at hafter
  rw [hafter]
  cases hlast : (callbacks.states id).getLast? with
  | none =>
    rw [List.getLast?_eq_none_iff] at hlast
    simp [hlast]
  | some last =>
    cases hhead : (callbacks.states id).head? with
    | none =>
      rw [List.head?_eq_none_iff] at hhead
      simp [hhead] at hlast
    | some first =>
      have hfirstKind := hkinds first (List.mem_of_head? hhead)
      have hlastKind := hkinds last (List.mem_of_getLast? hlast)
      cases first with
      | INVALID_STATE => contradiction
      | CONNECTED => cases last <;> simp_all
      | DISCONNECTED => cases last <;> simp_all

/--
In a run of the binder the last callback decides each time the worker wakes up iff it is each time of the
same kind as the first one.
-/
theorem latest_event_wins (events : List (BinderEvent Dictionary))
    : Always LatestEventWins callbackStep ({}, []) events
        ↔
      Always FirstEventIsLatest callbackStep ({}, []) events := by
  apply always_congr_while PendingFirst
  . intro state event h
    exact h.latestEventWins_iff event
  . intro state event h _
    exact h.step event
  . constructor
    . exact wakes_initial
    . intro id _
      simp [Callbacks.states]
    . intro id kind hmem
      exact absurd hmem (List.not_mem_nil)

def flap : List (BinderEvent Nat) :=
  [.addVehicleDataSource 1 .RAW_SOCKET, .bindConsumerToVehicleDataSource {} 1,
    .onVehicleDataSourceDisconnected 1, .onVehicleDataSourceConnected 1]

theorem latest_event_loses
    : ¬∀ events : List (BinderEvent Nat), Always LatestEventWins callbackStep ({}, []) events := by
  intro h
  have hwins := always_split (h (flap ++ [.wakeUp])) rfl 1
    ⟨.RAW_SOCKET, true, true, none⟩ (by decide +kernel)
  have hafter
      : (flap.foldl callbackStep ({}, [])).1.wakeUp.mDataSourcesToConsumers[1]?
          =
        some ⟨.RAW_SOCKET, false, true, none⟩ := by
    decide +kernel
  rw [hafter] at hwins
  have hlast : ((flap.foldl callbackStep ({}, [])).2.states 1).getLast? = some .CONNECTED := rfl
  simp [hlast] at hwins

end VehicleDataSourceBinder

end DataInspection
