import FleetWiseEdge.Lib.KeyedList
import FleetWiseEdge.Consumer.Impl.VehicleDataSourceBinder

namespace DataInspection

open DataManagement

variable {Dictionary : Type}

def CANDataConsumer.afterState (consumer : CANDataConsumer Dictionary)
    (state : Option VehicleDataSourceState)
    : CANDataConsumer Dictionary :=
  match state with
  | some .CONNECTED => if consumer.isAlive then consumer else consumer.start
  | some .DISCONNECTED => consumer.stop
  | _ => consumer

def CANDataConsumer.afterDictionary (consumer : CANDataConsumer Dictionary)
    (dictionary : Option Dictionary) (networkProtocol : VehicleDataSourceProtocol)
    : CANDataConsumer Dictionary :=
  if networkProtocol = consumer.mDataSourceProtocol then
    match dictionary with
    | some dictionary => consumer.resumeDataConsumption (some dictionary)
    | none => consumer.suspendDataConsumption
  else
    consumer

@[simp]
theorem CANDataConsumer.afterState_none (consumer : CANDataConsumer Dictionary)
    : consumer.afterState none = consumer :=
  rfl

@[simp]
theorem CANDataConsumer.afterState_connected (consumer : CANDataConsumer Dictionary)
    : (consumer.afterState (some .CONNECTED)).isAlive = true := by
  unfold afterState
  dsimp only
  split
  . next halive => exact halive
  . rfl

@[simp]
theorem CANDataConsumer.afterState_disconnected (consumer : CANDataConsumer Dictionary)
    : (consumer.afterState (some .DISCONNECTED)).isAlive = false :=
  rfl

namespace VehicleDataSourceBinder

variable {binder : VehicleDataSourceBinder Dictionary} {id id' : VehicleDataSourceID}

theorem applyState_mDataSourceStates {sourceID : VehicleDataSourceID × VehicleDataSourceState}
    : (binder.applyState sourceID).mDataSourceStates = binder.mDataSourceStates
        ∧
      (binder.applyState sourceID).mWait = binder.mWait := by
  unfold applyState
  split
  . unfold reConnectConsumer
    split
    . exact ⟨rfl, rfl⟩
    . split <;> exact ⟨rfl, rfl⟩
  . unfold disconnectConsumer
    split <;> exact ⟨rfl, rfl⟩
  . exact ⟨rfl, rfl⟩

theorem reConnectConsumer_consumers
    : (binder.reConnectConsumer id).1.mDataSourcesToConsumers[id']?
        =
      if id = id' then
        binder.mDataSourcesToConsumers[id']?.map fun consumer => consumer.afterState (some .CONNECTED)
      else
        binder.mDataSourcesToConsumers[id']? := by
  unfold reConnectConsumer
  split
  . next hnone =>
    split
    . next heq => simp [← heq, hnone]
    . rfl
  . next consumer hconsumer =>
    split
    . next hdead =>
      dsimp only
      rw [Std.ExtTreeMap.getElem?_insert]
      split
      . next heq => simp_all [CANDataConsumer.connect, CANDataConsumer.afterState]
      . next hne => simp_all
    . next halive =>
      split
      . next heq => simp_all [CANDataConsumer.afterState]
      . rfl

theorem disconnectConsumer_consumers
    : (binder.disconnectConsumer id).1.mDataSourcesToConsumers[id']?
        =
      if id = id' then
        binder.mDataSourcesToConsumers[id']?.map fun consumer =>
          consumer.afterState (some .DISCONNECTED)
      else
        binder.mDataSourcesToConsumers[id']? := by
  unfold disconnectConsumer
  split
  . next hnone =>
    split
    . next heq => simp [← heq, hnone]
    . rfl
  . next consumer hconsumer =>
    dsimp only
    rw [Std.ExtTreeMap.getElem?_insert]
    split
    . next heq => simp_all [CANDataConsumer.disconnect, CANDataConsumer.afterState]
    . next hne => simp_all

theorem applyState_consumers {state : VehicleDataSourceState}
    : (binder.applyState (id, state)).mDataSourcesToConsumers[id']?
        =
      if id = id' then
        binder.mDataSourcesToConsumers[id']?.map fun consumer => consumer.afterState (some state)
      else
        binder.mDataSourcesToConsumers[id']? := by
  unfold applyState
  cases state with
  | CONNECTED => apply reConnectConsumer_consumers
  | DISCONNECTED => apply disconnectConsumer_consumers
  | INVALID_STATE => simp [CANDataConsumer.afterState]

theorem applyStates_consumers {states : List (VehicleDataSourceID × VehicleDataSourceState)}
    (hnodup : (states.map Prod.fst).Nodup)
    : (states.foldl applyState binder).mDataSourcesToConsumers[id]?
        =
      binder.mDataSourcesToConsumers[id]?.map fun consumer =>
        consumer.afterState ((KeyedList.lookup Prod.fst id states).map Prod.snd) := by
  induction states generalizing binder with
  | nil => simp
  | cons head rest ih =>
    obtain ⟨id', state⟩ := head
    rw [List.map_cons, List.nodup_cons] at hnodup
    rw [List.foldl_cons, ih hnodup.2, applyState_consumers, KeyedList.lookup_cons]
    split
    . next heq =>
      have hrest : KeyedList.lookup Prod.fst id rest = none := by
        rw [KeyedList.lookup_eq_none_iff, ← heq]
        exact hnodup.1
      rw [hrest]
      simp [Function.comp_def]
    . rfl

theorem lookup_toList (states : IdsToStates)
    : (KeyedList.lookup Prod.fst id states.toList).map Prod.snd = states[id]? := by
  have hnodup : (states.toList.map Prod.fst).Nodup := by
    rw [Std.ExtTreeMap.map_fst_toList_eq_keys]
    exact Std.ExtTreeMap.nodup_keys
  cases hstate : states[id]? with
  | none =>
    have hnone : KeyedList.lookup Prod.fst id states.toList = none := by
      rw [KeyedList.lookup_eq_none_iff, Std.ExtTreeMap.map_fst_toList_eq_keys]
      rw [Std.ExtTreeMap.mem_keys, Std.ExtTreeMap.mem_iff_isSome_getElem?, hstate]
      simp
    rw [hnone]
    rfl
  | some state =>
    have hmem := Std.ExtTreeMap.mem_toList_iff_getElem?_eq_some.mpr hstate
    have hlookup := KeyedList.lookup_of_mem hnodup hmem
    dsimp only at hlookup
    rw [hlookup]
    rfl

theorem applyStates_mDataSourceStates
    (states : List (VehicleDataSourceID × VehicleDataSourceState))
    : (states.foldl applyState binder).mDataSourceStates = binder.mDataSourceStates
        ∧
      (states.foldl applyState binder).mWait = binder.mWait := by
  induction states generalizing binder with
  | nil => exact ⟨rfl, rfl⟩
  | cons head rest ih =>
    have hhead := @applyState_mDataSourceStates _ binder head
    rw [List.foldl_cons]
    rw [ih.1, ih.2]
    exact hhead

/--
No callback is pending that the worker has not been woken up for, and none is for an invalid source.
-/
structure Wakes (binder : VehicleDataSourceBinder Dictionary) : Prop where
  notified : ∀ (id : VehicleDataSourceID) state, binder.mDataSourceStates[id]? = some state →
    binder.mWait.mNotify = true
  valid : binder.mDataSourcesToConsumers[INVALID_DATA_SOURCE_ID]? = none

theorem Wakes.wakeUp_consumers (h : binder.Wakes) (id : VehicleDataSourceID)
    : binder.wakeUp.mDataSourcesToConsumers[id]?
        =
      binder.mDataSourcesToConsumers[id]?.map fun consumer =>
        consumer.afterState binder.mDataSourceStates[id]? := by
  unfold wakeUp
  split
  . next hblocked =>
    rw [Platform.Signal.waitWithPredicate_eq_none] at hblocked
    cases hstate : binder.mDataSourceStates[id]? with
    | none => simp
    | some state =>
      have hnotified := h.notified id state hstate
      simp [hblocked] at hnotified
  . dsimp only
    rw [applyStates_consumers]
    . rw [lookup_toList]
    . rw [Std.ExtTreeMap.map_fst_toList_eq_keys]
      exact Std.ExtTreeMap.nodup_keys

theorem Wakes.wakeUp_mDataSourceStates (h : binder.Wakes)
    : binder.wakeUp.mDataSourceStates[id]? = none := by
  unfold wakeUp
  split
  . next hblocked =>
    rw [Platform.Signal.waitWithPredicate_eq_none] at hblocked
    cases hstate : binder.mDataSourceStates[id]? with
    | none => rfl
    | some state =>
      have hnotified := h.notified id state hstate
      simp [hblocked] at hnotified
  . dsimp only
    rw [(applyStates_mDataSourceStates _).1]
    simp

theorem bind_consumers (binder : VehicleDataSourceBinder Dictionary)
    (consumer : CANDataConsumer Dictionary) (id : VehicleDataSourceID)
    : let bound := binder.bindConsumerToVehicleDataSource consumer id
      bound.1 = binder ∧ bound.2 = false
        ∨
      ∃ protocol,
        bound.1 = { binder with
          mDataSourcesToConsumers := binder.mDataSourcesToConsumers.insert id
            (CANDataConsumer.start { consumer with mDataSourceProtocol := protocol }) }
          ∧ bound.2 = true ∧ id ≠ INVALID_DATA_SOURCE_ID := by
  intro bound
  unfold bound bindConsumerToVehicleDataSource
  split
  . left
    exact ⟨rfl, rfl⟩
  . next hvalid =>
    split
    . left
      exact ⟨rfl, rfl⟩
    . next protocol _ =>
      split
      . left
        exact ⟨rfl, rfl⟩
      . right
        exact ⟨protocol, rfl, rfl, hvalid⟩

theorem unBind_consumers (binder : VehicleDataSourceBinder Dictionary) (id : VehicleDataSourceID)
    : (binder.unBindConsumerFromVehicleDataSource id).1 = binder
        ∨
      (binder.unBindConsumerFromVehicleDataSource id).1
        = { binder with mDataSourcesToConsumers := binder.mDataSourcesToConsumers.erase id } := by
  unfold unBindConsumerFromVehicleDataSource
  split
  . left
    rfl
  . split
    . left
      rfl
    . right
      rfl

theorem addVehicleDataSource_consumers (binder : VehicleDataSourceBinder Dictionary)
    (id : VehicleDataSourceID) (protocol : VehicleDataSourceProtocol)
    : ∃ mIdsToDataSources,
        (binder.addVehicleDataSource id protocol).1 = { binder with mIdsToDataSources } := by
  unfold addVehicleDataSource
  split
  . exact ⟨_, rfl⟩
  . split <;> exact ⟨_, rfl⟩

theorem removeVehicleDataSource_consumers (binder : VehicleDataSourceBinder Dictionary)
    (id : VehicleDataSourceID)
    : ∃ mIdsToDataSources,
        (binder.removeVehicleDataSource id).1 = { binder with mIdsToDataSources } := by
  unfold removeVehicleDataSource
  split
  . exact ⟨_, rfl⟩
  . split <;> exact ⟨_, rfl⟩

theorem signalState_consumers (binder : VehicleDataSourceBinder Dictionary)
    (id : VehicleDataSourceID) (state : VehicleDataSourceState)
    : (binder.signalState id state).mDataSourcesToConsumers = binder.mDataSourcesToConsumers := by
  unfold signalState
  split <;> rfl

theorem onChangeOfActiveDictionary_consumers {dictionary : Option Dictionary}
    {networkProtocol : VehicleDataSourceProtocol}
    : (binder.onChangeOfActiveDictionary dictionary networkProtocol).mDataSourcesToConsumers[id]?
        =
      binder.mDataSourcesToConsumers[id]?.map fun consumer =>
        consumer.afterDictionary dictionary networkProtocol := by
  unfold onChangeOfActiveDictionary
  dsimp only
  rw [Std.ExtTreeMap.getElem?_map]
  rfl

theorem Wakes.signalState (h : binder.Wakes) (id : VehicleDataSourceID)
    (state : VehicleDataSourceState)
    : (binder.signalState id state).Wakes := by
  unfold VehicleDataSourceBinder.signalState
  split
  . exact h
  . constructor
    . intro _ _ _
      rfl
    . exact h.valid

theorem Wakes.step (h : binder.Wakes) (event : BinderEvent Dictionary) : (binder.step event).Wakes := by
  unfold VehicleDataSourceBinder.step
  cases event with
  | addVehicleDataSource id protocol =>
    have ⟨_, heq⟩ := addVehicleDataSource_consumers binder id protocol
    dsimp only
    rw [heq]
    exact ⟨h.notified, h.valid⟩
  | removeVehicleDataSource id =>
    have ⟨_, heq⟩ := removeVehicleDataSource_consumers binder id
    dsimp only
    rw [heq]
    exact ⟨h.notified, h.valid⟩
  | bindConsumerToVehicleDataSource consumer id =>
    dsimp only
    cases bind_consumers binder consumer id with
    | inl heq =>
      rw [heq.1]
      exact h
    | inr hbound =>
      have ⟨_, heq, _, hvalid⟩ := hbound
      rw [heq]
      constructor
      . exact h.notified
      . have hkept := h.valid
        simp [Std.ExtTreeMap.getElem?_insert, hvalid, hkept]
  | unBindConsumerFromVehicleDataSource id =>
    dsimp only
    cases unBind_consumers binder id with
    | inl heq =>
      rw [heq]
      exact h
    | inr heq =>
      rw [heq]
      constructor
      . exact h.notified
      . have hkept := h.valid
        simp [Std.ExtTreeMap.getElem?_erase, hkept]
  | onVehicleDataSourceConnected id => exact h.signalState id .CONNECTED
  | onVehicleDataSourceDisconnected id => exact h.signalState id .DISCONNECTED
  | onChangeOfActiveDictionary dictionary networkProtocol =>
    constructor
    . exact h.notified
    . dsimp only
      rw [onChangeOfActiveDictionary_consumers, h.valid]
      rfl
  | wakeUp =>
    constructor
    . intro id state hstate
      rw [h.wakeUp_mDataSourceStates] at hstate
      contradiction
    . dsimp only
      rw [h.wakeUp_consumers, h.valid]
      rfl

theorem wakes_initial : (({} : VehicleDataSourceBinder Dictionary)).Wakes := by
  constructor
  . intro id state hstate
    simp at hstate
  . simp

end VehicleDataSourceBinder

end DataInspection
