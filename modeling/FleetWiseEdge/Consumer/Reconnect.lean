import FleetWiseEdge.Lib.Machine
import FleetWiseEdge.Consumer.Lemmas.Binder

namespace DataInspection

open DataManagement Machine

namespace CANDataConsumer

variable {Dictionary : Type}

def Heard (consumer : CANDataConsumer Dictionary)
    (last : Option (Option Dictionary))
    : Prop :=
  match last with
  | some (some dictionary) =>
    consumer.mShouldSleep = false ∧ consumer.mDecoderDictionaryConstPtr = some dictionary
  | _ => consumer.mShouldSleep = true

variable {consumer : CANDataConsumer Dictionary} {last : Option (Option Dictionary)}

theorem heard_start (h : ∀ dictionary, last ≠ some (some dictionary))
    : Heard consumer.start last := by
  match last with
  | none => rfl
  | some none => rfl
  | some (some dictionary) => exact absurd rfl (h dictionary)

theorem heard_afterDictionary (dictionary : Option Dictionary)
    (networkProtocol : VehicleDataSourceProtocol) (h : Heard consumer last)
    : Heard (consumer.afterDictionary dictionary networkProtocol)
        (if networkProtocol = consumer.mDataSourceProtocol then some dictionary else last) := by
  unfold afterDictionary
  split
  . cases dictionary with
    | none => rfl
    | some dictionary => exact ⟨rfl, rfl⟩
  . exact h

theorem afterDictionary_protocol (dictionary : Option Dictionary)
    (networkProtocol : VehicleDataSourceProtocol)
    : (consumer.afterDictionary dictionary networkProtocol).mDataSourceProtocol
        =
      consumer.mDataSourceProtocol := by
  unfold afterDictionary
  split
  . cases dictionary <;> rfl
  . rfl

theorem afterState_protocol (state : Option VehicleDataSourceState)
    : (consumer.afterState state).mDataSourceProtocol = consumer.mDataSourceProtocol := by
  unfold afterState
  split
  . split <;> rfl
  . rfl
  . rfl

theorem heard_afterState {state : Option VehicleDataSourceState}
    (hlate : consumer.isAlive = false → state = some .CONNECTED →
      ∀ dictionary, last ≠ some (some dictionary))
    (h : Heard consumer last)
    : Heard (consumer.afterState state) last := by
  unfold afterState
  split
  . split
    . exact h
    . next hdead =>
      apply heard_start
      apply hlate
      . simpa using hdead
      . rfl
  . exact h
  . exact h

end CANDataConsumer

namespace VehicleDataSourceBinder

variable {Dictionary : Type}

/--
The last dictionary delivered for a protocol since a source got its consumer, `some none` is a null one.
-/
abbrev Delivered (Dictionary : Type) :=
  VehicleDataSourceID → VehicleDataSourceProtocol → Option (Option Dictionary)

def deliver (binder : VehicleDataSourceBinder Dictionary) (delivered : Delivered Dictionary)
    (event : BinderEvent Dictionary)
    : Delivered Dictionary :=
  match event with
  | .bindConsumerToVehicleDataSource consumer id =>
    if (binder.bindConsumerToVehicleDataSource consumer id).2 then
      Function.update delivered id fun _ => none
    else
      delivered
  | .onChangeOfActiveDictionary dictionary networkProtocol =>
    fun id protocol => if networkProtocol = protocol then some dictionary else delivered id protocol
  | _ => delivered

def deliveryStep (state : VehicleDataSourceBinder Dictionary × Delivered Dictionary)
    (event : BinderEvent Dictionary)
    : VehicleDataSourceBinder Dictionary × Delivered Dictionary :=
  (state.1.step event, deliver state.1 state.2 event)

def ReconnectedResume (state : VehicleDataSourceBinder Dictionary × Delivered Dictionary)
    (event : BinderEvent Dictionary)
    : Prop :=
  event = .wakeUp → ∀ (id : VehicleDataSourceID) consumer,
    state.1.wakeUp.mDataSourcesToConsumers[id]? = some consumer → consumer.isAlive = true →
      (consumer.mShouldSleep = false
          ↔
        ∃ dictionary, state.2 id consumer.mDataSourceProtocol = some (some dictionary))
        ∧
      ∀ dictionary, state.2 id consumer.mDataSourceProtocol = some (some dictionary) →
        consumer.mDecoderDictionaryConstPtr = some dictionary

def NoLateReconnect (state : VehicleDataSourceBinder Dictionary × Delivered Dictionary)
    (event : BinderEvent Dictionary)
    : Prop :=
  event = .wakeUp → ∀ (id : VehicleDataSourceID) consumer,
    state.1.mDataSourcesToConsumers[id]? = some consumer → consumer.isAlive = false →
      state.1.mDataSourceStates[id]? = some .CONNECTED →
        ∀ dictionary, state.2 id consumer.mDataSourceProtocol ≠ some (some dictionary)

structure AllHeard (state : VehicleDataSourceBinder Dictionary × Delivered Dictionary) : Prop where
  wakes : state.1.Wakes
  heard : ∀ (id : VehicleDataSourceID) consumer,
    state.1.mDataSourcesToConsumers[id]? = some consumer →
      consumer.Heard (state.2 id consumer.mDataSourceProtocol)

variable {binder : VehicleDataSourceBinder Dictionary} {delivered : Delivered Dictionary}

theorem AllHeard.wakeUp (h : AllHeard (binder, delivered))
    (hlate : NoLateReconnect (binder, delivered) .wakeUp)
    : AllHeard (binder.wakeUp, delivered) := by
  constructor
  . exact h.wakes.step .wakeUp
  . intro id consumer' hconsumer'
    dsimp only at hconsumer' ⊢
    rw [h.wakes.wakeUp_consumers, Option.map_eq_some_iff] at hconsumer'
    have ⟨consumer, hconsumer, heq⟩ := hconsumer'
    rw [← heq, CANDataConsumer.afterState_protocol]
    apply CANDataConsumer.heard_afterState
    . exact hlate rfl id consumer hconsumer
    . exact h.heard id consumer hconsumer

theorem AllHeard.bind (h : AllHeard (binder, delivered)) (consumer : CANDataConsumer Dictionary)
    (id : VehicleDataSourceID)
    : AllHeard (deliveryStep (binder, delivered) (.bindConsumerToVehicleDataSource consumer id)) := by
  have hwakes := h.wakes.step (.bindConsumerToVehicleDataSource consumer id)
  unfold deliveryStep deliver
  dsimp only
  cases bind_consumers binder consumer id with
  | inl hkept =>
    rw [if_neg (by simp [hkept.2])]
    dsimp only [VehicleDataSourceBinder.step]
    rw [hkept.1]
    exact h
  | inr hbound =>
    have ⟨protocol, heq, hnew, _⟩ := hbound
    rw [if_pos hnew]
    constructor
    . exact hwakes
    . intro id' consumer' hconsumer'
      dsimp only [VehicleDataSourceBinder.step] at hconsumer' ⊢
      rw [heq] at hconsumer'
      dsimp only at hconsumer'
      rw [Std.ExtTreeMap.getElem?_insert] at hconsumer'
      split at hconsumer'
      . next hsame =>
        have hid : id = id' := by simpa using hsame
        rw [Option.some.injEq] at hconsumer'
        rw [← hconsumer', hid, Function.update_self]
        rfl
      . next hother =>
        have hid : id' ≠ id := by
          intro hid
          simp [hid] at hother
        rw [Function.update_of_ne hid]
        exact h.heard id' consumer' hconsumer'

theorem AllHeard.unBind (h : AllHeard (binder, delivered)) (id : VehicleDataSourceID)
    : AllHeard (deliveryStep (binder, delivered) (.unBindConsumerFromVehicleDataSource id)) := by
  have hwakes := h.wakes.step (.unBindConsumerFromVehicleDataSource id)
  unfold deliveryStep deliver
  dsimp only [VehicleDataSourceBinder.step] at hwakes ⊢
  cases unBind_consumers binder id with
  | inl hkept =>
    rw [hkept]
    exact h
  | inr hgone =>
    constructor
    . exact hwakes
    . intro id' consumer' hconsumer'
      dsimp only at hconsumer' ⊢
      rw [hgone] at hconsumer'
      dsimp only at hconsumer'
      rw [Std.ExtTreeMap.getElem?_erase] at hconsumer'
      split at hconsumer'
      . contradiction
      . exact h.heard id' consumer' hconsumer'

theorem AllHeard.dictionary (h : AllHeard (binder, delivered)) (dictionary : Option Dictionary)
    (networkProtocol : VehicleDataSourceProtocol)
    : AllHeard (deliveryStep (binder, delivered)
        (.onChangeOfActiveDictionary dictionary networkProtocol)) := by
  constructor
  . exact h.wakes.step (.onChangeOfActiveDictionary dictionary networkProtocol)
  . intro id consumer' hconsumer'
    dsimp only [deliveryStep, deliver, VehicleDataSourceBinder.step] at hconsumer' ⊢
    rw [onChangeOfActiveDictionary_consumers, Option.map_eq_some_iff] at hconsumer'
    have ⟨consumer, hconsumer, heq⟩ := hconsumer'
    rw [← heq, CANDataConsumer.afterDictionary_protocol]
    apply CANDataConsumer.heard_afterDictionary
    exact h.heard id consumer hconsumer

theorem AllHeard.other (h : AllHeard (binder, delivered))
    {binder' : VehicleDataSourceBinder Dictionary} (hwakes : binder'.Wakes)
    (hconsumers : binder'.mDataSourcesToConsumers = binder.mDataSourcesToConsumers)
    : AllHeard (binder', delivered) := by
  constructor
  . exact hwakes
  . dsimp only
    rw [hconsumers]
    exact h.heard

theorem AllHeard.step (h : AllHeard (binder, delivered)) (event : BinderEvent Dictionary)
    (hlate : NoLateReconnect (binder, delivered) event)
    : AllHeard (deliveryStep (binder, delivered) event) := by
  have hwakes := h.wakes.step event
  cases event with
  | addVehicleDataSource id protocol =>
    apply h.other hwakes
    have ⟨_, heq⟩ := addVehicleDataSource_consumers binder id protocol
    dsimp only [VehicleDataSourceBinder.step]
    rw [heq]
  | removeVehicleDataSource id =>
    apply h.other hwakes
    have ⟨_, heq⟩ := removeVehicleDataSource_consumers binder id
    dsimp only [VehicleDataSourceBinder.step]
    rw [heq]
  | bindConsumerToVehicleDataSource consumer id => exact h.bind consumer id
  | unBindConsumerFromVehicleDataSource id => exact h.unBind id
  | onVehicleDataSourceConnected id =>
    exact h.other hwakes (signalState_consumers binder id .CONNECTED)
  | onVehicleDataSourceDisconnected id =>
    exact h.other hwakes (signalState_consumers binder id .DISCONNECTED)
  | onChangeOfActiveDictionary dictionary networkProtocol => exact h.dictionary dictionary networkProtocol
  | wakeUp => exact h.wakeUp hlate

theorem AllHeard.reconnectedResume_iff (h : AllHeard (binder, delivered))
    (event : BinderEvent Dictionary)
    : ReconnectedResume (binder, delivered) event ↔ NoLateReconnect (binder, delivered) event := by
  constructor
  . intro hresume hevent id consumer hconsumer hdead hpending dictionary hlast
    have hafter := h.wakes.wakeUp_consumers id
    dsimp only at hconsumer hpending hlast
    rw [hconsumer, hpending] at hafter
    have hstarted : consumer.afterState (some .CONNECTED) = consumer.start := by
      unfold CANDataConsumer.afterState
      simp [hdead]
    have hawake := (hresume hevent id consumer.start (hstarted ▸ hafter) rfl).1.mpr ⟨dictionary, hlast⟩
    contradiction
  . intro hlate hevent id consumer hconsumer _
    rw [hevent] at hlate
    have hheard := (h.wakeUp hlate).heard id consumer hconsumer
    dsimp only at hheard ⊢
    unfold CANDataConsumer.Heard at hheard
    split at hheard
    . next dictionary hlast =>
      rw [hlast]
      simp [hheard]
    . next hnot =>
      have hnone : ∀ dictionary, delivered id consumer.mDataSourceProtocol ≠ some (some dictionary) :=
        hnot
      simp [hheard, hnone]

/--
In a run of the binder each connected consumer is awake when the last dictionary says so iff the worker
never reconnects a consumer for which a dictionary is there already.
-/
theorem reconnected_sources_resume (events : List (BinderEvent Dictionary))
    : Always ReconnectedResume deliveryStep ({}, fun _ _ => none) events
        ↔
      Always NoLateReconnect deliveryStep ({}, fun _ _ => none) events := by
  apply always_congr_while AllHeard
  . intro state event h
    exact h.reconnectedResume_iff event
  . intro state event h hlate
    exact h.step event hlate
  . constructor
    . exact wakes_initial
    . intro id consumer hconsumer
      simp at hconsumer

def reconnect : List (BinderEvent Nat) :=
  [.addVehicleDataSource 1 .RAW_SOCKET, .bindConsumerToVehicleDataSource {} 1,
    .onChangeOfActiveDictionary (some 7) .RAW_SOCKET, .onVehicleDataSourceDisconnected 1, .wakeUp,
    .onVehicleDataSourceConnected 1]

theorem reconnected_source_sleeps
    : ¬∀ events : List (BinderEvent Nat),
        Always ReconnectedResume deliveryStep ({}, fun _ _ => none) events := by
  intro h
  have hresume := always_split (h (reconnect ++ [.wakeUp])) rfl 1
    ⟨.RAW_SOCKET, true, true, some 7⟩ (by decide +kernel) rfl
  have hawake := hresume.1.mpr ⟨7, rfl⟩
  contradiction

end VehicleDataSourceBinder

end DataInspection
