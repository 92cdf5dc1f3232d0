import FleetWiseEdge.Lib.Machine
import FleetWiseEdge.Upload.Lemmas.Engine
import FleetWiseEdge.Upload.RoundTrip

/-!
This module contains the proofs about data that is collected while there is no connection: none of it is lost,
and when it is sent twice.
-/

namespace ExecutionManagement

open DataInspection DataManagement OffboardConnectivity PersistencyManagement

namespace IoTFleetWiseEngine

variable {V : Type} {libraries : Libraries V} {connectivity : Nat → Connectivity}
variable {engine : IoTFleetWiseEngine V} {base : Nat}

section Transmitted

variable {attempt : Attempt} {k count : Nat}

theorem transmitted_of_success (h : attempt.results = List.replicate count .Success)
    : attempt.transmitted k = true ↔ attempt.first ≤ k ∧ k < attempt.first + count := by
  simp only [Attempt.transmitted, h, List.getElem?_replicate, Bool.decide_and, Bool.and_eq_true,
    decide_eq_true_eq]
  constructor
  . intro hk
    have hlt : k - attempt.first < count := by
      by_contra hge
      simp [hge] at hk
    omega
  . intro hk
    have hlt : k - attempt.first < count := by omega
    simp [hlt, hk.1]

theorem transmitted_of_failure {res : ConnectivityError} (hres : res ≠ .Success)
    (h : attempt.results = [res])
    : attempt.transmitted k = false := by
  simp only [Attempt.transmitted, h, decide_eq_false_iff_not, not_and]
  intro _
  cases k - attempt.first with
  | zero => simpa using hres
  | succ n => simp

end Transmitted

section Tracks

variable {snappy : Snappy}

theorem Tracks.of_channel {next : IoTFleetWiseEngine V} (h : Tracks snappy engine base)
    (hattempts : next.attempts = engine.attempts)
    (hchannel : ∃ records,
      AwsIotChannel.Tracks snappy base engine.channel.stored next.channel records)
    : Tracks snappy next base := by
  have ⟨records, htracks⟩ := hchannel
  constructor
  . exact ⟨records, htracks.represents, htracks.pending, htracks.base_le, List.nil_prefix⟩
  . intro attempt hmem
    rw [hattempts] at hmem
    apply List.IsPrefix.trans (h.retrieved attempt hmem)
    apply List.IsPrefix.drop htracks.keeps
  . rw [hattempts]
    exact h.done

theorem Tracks.channel_self (h : Tracks snappy engine base)
    : ∃ records, AwsIotChannel.Tracks snappy base engine.channel.stored engine.channel records := by
  have ⟨records, htracks⟩ := h.channel
  exact ⟨records, htracks.represents, htracks.pending, htracks.base_le, List.prefix_refl _⟩

theorem Tracks.send (h : Tracks libraries.toSnappy engine base) (data : TriggeredCollectionSchemeData V)
    : Tracks libraries.toSnappy (step libraries connectivity engine (.send data)) base := by
  apply h.of_channel
  . rfl
  . apply DataCollectionSender.send_invariant
      (fun channel => ∃ records,
        AwsIotChannel.Tracks libraries.toSnappy base engine.channel.stored channel records)
    . intro channel buf params hchannel
      have ⟨records, htracks⟩ := hchannel
      apply htracks.send
    . exact h.channel_self

theorem Tracks.storeDocument (h : Tracks libraries.toSnappy engine base) {buf : Bytes}
    {dataType : DataType} (hdocument : dataType ≠ .EDGE_TO_CLOUD_PAYLOAD)
    : Tracks libraries.toSnappy
        (step libraries connectivity engine (.storeDocument buf dataType hdocument)) base := by
  have ⟨records, htracks⟩ := h.channel_self
  have hrepresents : PayloadManager.Represents libraries.toSnappy
      (engine.channel.persistency.write .good buf dataType).1 records := by
    have hrep := htracks.represents
    unfold CacheAndPersist.write
    split
    . exact hrep
    . cases dataType with
      | EDGE_TO_CLOUD_PAYLOAD => contradiction
      | DEFAULT_DATA_TYPE => exact hrep
      | COLLECTION_SCHEME_LIST => exact ⟨hrep.content, hrep.small, hrep.sizes⟩
      | DECODER_MANIFEST => exact ⟨hrep.content, hrep.small, hrep.sizes⟩
  apply h.of_channel
  . rfl
  . exact ⟨records, hrepresents, htracks.pending, htracks.base_le, htracks.keeps⟩

section Attempt

variable {next : IoTFleetWiseEngine V} {results : List ConnectivityError} {sends : Nat}

theorem Tracks.retrieved_attempt (h : Tracks snappy engine base)
    (hattempts
      : next.attempts = engine.attempts ++ [⟨base, engine.channel.stored.drop base, results⟩])
    (hstored : next.channel.stored = engine.channel.stored)
    : ∀ attempt ∈ next.attempts, attempt.retrieved <+: next.channel.stored.drop attempt.first := by
  intro attempt hmem
  rw [hstored]
  rw [hattempts, List.mem_append, List.mem_singleton] at hmem
  cases hmem with
  | inl hold => apply h.retrieved attempt hold
  | inr hnew => rw [hnew]

theorem Tracks.failed (h : Tracks snappy engine base)
    (hattempts
      : next.attempts = engine.attempts ++ [⟨base, engine.channel.stored.drop base, results⟩])
    (hchannel : next.channel = { engine.channel with sends })
    : Tracks snappy next base := by
  have ⟨records, htracks⟩ := h.channel
  constructor
  . rw [hchannel]
    exact ⟨records, htracks.represents, htracks.pending, htracks.base_le, htracks.keeps⟩
  . apply h.retrieved_attempt hattempts
    rw [hchannel]
  . intro k hk
    have ⟨attempt, hmem, htransmitted⟩ := h.done k hk
    rw [hattempts]
    exact ⟨attempt, by simp [hmem], htransmitted⟩

theorem Tracks.sent (h : Tracks snappy engine base)
    (hresults : results = List.replicate (engine.channel.stored.drop base).length .Success)
    (hattempts
      : next.attempts = engine.attempts ++ [⟨base, engine.channel.stored.drop base, results⟩])
    (hchannel : next.channel = { engine.channel with
      sends
      persistency := { engine.channel.persistency with mCollectedDataFile := [] } })
    : Tracks snappy next engine.channel.stored.length := by
  constructor
  . rw [hchannel]
    exists []
    constructor
    . apply PayloadManager.represents_nil
      rfl
    . simp
    . simp
    . apply List.nil_prefix
  . apply h.retrieved_attempt hattempts
    rw [hchannel]
  . intro k hk
    rw [hattempts]
    by_cases hold : k < base
    . have ⟨attempt, hmem, htransmitted⟩ := h.done k hold
      exact ⟨attempt, by simp [hmem], htransmitted⟩
    . exists ⟨base, engine.channel.stored.drop base, results⟩
      constructor
      . simp
      . rw [transmitted_of_success hresults]
        dsimp only
        rw [List.length_drop]
        omega

end Attempt

theorem Tracks.step (h : Tracks libraries.toSnappy engine base)
    (hsnappy : ∀ payload, libraries.Uncompress (libraries.Compress payload) = some payload)
    (event : UploadEvent V)
    : ∃ base', Tracks libraries.toSnappy (step libraries connectivity engine event) base' := by
  cases event with
  | send data => exact ⟨base, h.send data⟩
  | checkAndSendRetrievedData memory =>
    cases @Tracks.attemptCases _ _ connectivity _ _ h hsnappy memory with
    | nothing hpending hnext =>
      exists base
      unfold IoTFleetWiseEngine.step
      dsimp only
      rw [hnext]
      exact h
    | failed sends hlast hattempts hchannel => exact ⟨base, h.failed hattempts hchannel⟩
    | sent sends hresults hattempts hchannel => exact ⟨_, h.sent hresults hattempts hchannel⟩
  | storeDocument buf dataType hdocument => exact ⟨base, h.storeDocument hdocument⟩
  | restart maxMessageCount canIDTranslator =>
    exists base
    apply h.of_channel
    . rfl
    . exact h.channel_self

theorem tracks_new (mTopicName : String) (mMaximumIotSDKHeapMemoryBytes : Nat)
    (mMaxPersistencePartitionSize : { size : Nat // size < 2 ^ 64 }) (maxMessageCount : Nat)
    (canIDTranslator : CANInterfaceIDTranslator)
    : Tracks snappy
        (new mTopicName mMaximumIotSDKHeapMemoryBytes mMaxPersistencePartitionSize maxMessageCount
          canIDTranslator : IoTFleetWiseEngine V) 0 := by
  constructor
  . exists []
    constructor
    . apply PayloadManager.represents_nil
      rfl
    . rfl
    . simp
    . apply List.nil_prefix
  . intro attempt hmem
    cases hmem
  . omega

end Tracks

/--
In every run from an empty persistency each payload that was stored is retrieved, in its place, unless an
attempt has transmitted it. What an attempt retrieved are the payloads that were stored from its `first` on.
-/
theorem no_loss (libraries : Libraries V) (connectivity : Nat → Connectivity) (mTopicName : String)
    (mMaximumIotSDKHeapMemoryBytes : Nat) (mMaxPersistencePartitionSize : { size : Nat // size < 2 ^ 64 })
    (maxMessageCount : Nat) (canIDTranslator : CANInterfaceIDTranslator) (events : List (UploadEvent V))
    (hsnappy : ∀ payload, libraries.Uncompress (libraries.Compress payload) = some payload)
    : let engine := run libraries connectivity
        (new mTopicName mMaximumIotSDKHeapMemoryBytes mMaxPersistencePartitionSize maxMessageCount
          canIDTranslator) events
      (∀ attempt ∈ engine.attempts, attempt.retrieved <+: engine.channel.stored.drop attempt.first)
        ∧
      (∀ k < engine.channel.stored.length,
        (∃ attempt ∈ engine.attempts, attempt.transmitted k = true)
        ∨ (∃ first ≤ k, ∀ memory,
          PayloadManager.retrieveData libraries.toSnappy engine.channel.persistency .good memory
            = (.SUCCESS, engine.channel.stored.drop first))) := by
  intro engine
  have htracks : ∃ base, Tracks libraries.toSnappy engine base := by
    apply List.foldlRecOn (motive := fun engine => ∃ base, Tracks libraries.toSnappy engine base)
    . exact ⟨0, tracks_new mTopicName mMaximumIotSDKHeapMemoryBytes mMaxPersistencePartitionSize
        maxMessageCount canIDTranslator⟩
    . intro engine h event _
      have ⟨base, htracks⟩ := h
      apply htracks.step hsnappy
  have ⟨base, htracks⟩ := htracks
  have ⟨records, hchannel⟩ := htracks.channel
  constructor
  . exact htracks.retrieved
  . intro k hk
    by_cases hdone : k < base
    . left
      apply htracks.done k hdone
    . right
      exists base
      constructor
      . omega
      . intro memory
        rw [hchannel.represents.retrieveData hsnappy, hchannel.pending]
        rw [if_neg]
        intro hnil
        have hpending := hchannel.pending
        rw [hnil] at hpending
        have hlength := congrArg List.length hpending
        simp only [List.map_nil, List.length_nil, List.length_drop] at hlength
        omega

/--
The connection, once it has let the first of the retrieved payloads through, lets all of them through.
-/
def Unbroken (libraries : Libraries V) (connectivity : Nat → Connectivity)
    (engine : IoTFleetWiseEngine V) (event : UploadEvent V)
    : Prop :=
  match event with
  | .checkAndSendRetrievedData memory =>
    let payloads :=
      (PayloadManager.retrieveData libraries.toSnappy engine.channel.persistency .good memory).2
    ∀ i (_ : i < payloads.length),
      engine.channel.Admits (connectivity engine.channel.sends) payloads[0] →
        engine.channel.Admits (connectivity (engine.channel.sends + i)) payloads[i]
  | _ => True

instance (libraries : Libraries V) (connectivity : Nat → Connectivity) (engine : IoTFleetWiseEngine V)
    (event : UploadEvent V)
    : Decidable (Unbroken libraries connectivity engine event) := by
  cases event <;> unfold Unbroken <;> infer_instance

def transmissions (engine : IoTFleetWiseEngine V) (k : Nat) : Nat :=
  (engine.attempts.filter fun attempt => attempt.transmitted k).length

/--
No payload was transmitted twice, and none of those that are still stored was transmitted at all.
-/
structure Once (engine : IoTFleetWiseEngine V) (base : Nat) : Prop where
  once : ∀ k, engine.transmissions k ≤ 1
  fresh : ∀ k, base ≤ k → engine.transmissions k = 0

section Once

theorem Once.of_attempts {next : IoTFleetWiseEngine V} (h : Once engine base)
    (hattempts : next.attempts = engine.attempts)
    : Once next base := by
  constructor
  . intro k
    rw [transmissions, hattempts]
    apply h.once
  . intro k hk
    rw [transmissions, hattempts]
    apply h.fresh k hk

theorem transmissions_append {next : IoTFleetWiseEngine V} {attempt : Attempt}
    (hattempts : next.attempts = engine.attempts ++ [attempt]) (k : Nat)
    : next.transmissions k = engine.transmissions k + (if attempt.transmitted k then 1 else 0) := by
  rw [transmissions, hattempts, List.filter_append, List.length_append]
  cases htransmitted : attempt.transmitted k <;> simp [transmissions, htransmitted]

theorem Once.failed {next : IoTFleetWiseEngine V} {attempt : Attempt} (h : Once engine base)
    (hattempts : next.attempts = engine.attempts ++ [attempt])
    (hnone : ∀ k, attempt.transmitted k = false)
    : Once next base := by
  constructor
  . intro k
    rw [transmissions_append hattempts, hnone k]
    apply h.once
  . intro k hk
    rw [transmissions_append hattempts, hnone k]
    apply h.fresh k hk

theorem Once.sent {next : IoTFleetWiseEngine V} {pending : List Bytes}
    {results : List ConnectivityError} (h : Once engine base)
    (hattempts : next.attempts = engine.attempts ++ [⟨base, pending, results⟩])
    (hresults : results = List.replicate pending.length .Success)
    : Once next (base + pending.length) := by
  have htransmitted (k : Nat) : (⟨base, pending, results⟩ : Attempt).transmitted k = true
      ↔ base ≤ k ∧ k < base + pending.length := transmitted_of_success hresults
  constructor
  . intro k
    have honce := h.once k
    rw [transmissions_append hattempts]
    by_cases hnew : base ≤ k
    . have hfresh := h.fresh k hnew
      split <;> omega
    . rw [if_neg]
      . exact honce
      . rw [htransmitted]
        omega
  . intro k hk
    have hfresh := h.fresh k (by omega)
    rw [transmissions_append hattempts, if_neg]
    . exact hfresh
    . rw [htransmitted]
      omega

theorem Unbroken.failed {memory : Nat → UInt8} {pending : List Bytes}
    (h : Unbroken libraries connectivity engine (.checkAndSendRetrievedData memory))
    (hretrieved
      : (PayloadManager.retrieveData libraries.toSnappy engine.channel.persistency .good memory).2
        = pending)
    (hlast
      : (transmitAll libraries connectivity engine.mDataCollectionSender pending).2.getLast?.getD .Success
        ≠ .Success)
    : ∃ res, res ≠ .Success
        ∧ (transmitAll libraries connectivity engine.mDataCollectionSender pending).2 = [res] := by
  unfold Unbroken at h
  dsimp only at h
  simp only [hretrieved] at h
  cases pending with
  | nil => simp [transmitAll] at hlast
  | cons payload payloads =>
    by_cases hadmits : engine.channel.Admits (connectivity engine.channel.sends) payload
    . have hall := @transmitAll_of_admits _ connectivity engine.mDataCollectionSender _ libraries
        (fun i hi => h i hi hadmits)
      rw [hall] at hlast
      simp [List.getLast?_replicate] at hlast
    . apply transmitAll_cons_failure libraries payloads hadmits

theorem Tracks.retrieveData_snd (h : Tracks libraries.toSnappy engine base)
    (hsnappy : ∀ payload, libraries.Uncompress (libraries.Compress payload) = some payload)
    (memory : Nat → UInt8)
    : (PayloadManager.retrieveData libraries.toSnappy engine.channel.persistency .good memory).2
        =
      engine.channel.stored.drop base := by
  have ⟨records, hchannel⟩ := h.channel
  rw [hchannel.represents.retrieveData hsnappy, ← hchannel.pending]
  split
  . rename_i hnil
    rw [hnil]
    rfl
  . rfl

theorem Once.step (honce : Once engine base) (htracks : Tracks libraries.toSnappy engine base)
    (hsnappy : ∀ payload, libraries.Uncompress (libraries.Compress payload) = some payload)
    {event : UploadEvent V} (hunbroken : Unbroken libraries connectivity engine event)
    : ∃ base', Tracks libraries.toSnappy (step libraries connectivity engine event) base'
        ∧ Once (step libraries connectivity engine event) base' := by
  cases event with
  | send data =>
    exists base
    constructor
    . apply htracks.send
    . apply honce.of_attempts
      rfl
  | storeDocument buf dataType hdocument =>
    exists base
    constructor
    . apply htracks.storeDocument hdocument
    . apply honce.of_attempts
      rfl
  | restart maxMessageCount canIDTranslator =>
    exists base
    constructor
    . apply htracks.of_channel
      . rfl
      . exact htracks.channel_self
    . apply honce.of_attempts
      rfl
  | checkAndSendRetrievedData memory =>
    have hretrieved := htracks.retrieveData_snd hsnappy memory
    cases @Tracks.attemptCases _ _ connectivity _ _ htracks hsnappy memory with
    | nothing hpending hnext =>
      exists base
      unfold IoTFleetWiseEngine.step
      dsimp only
      rw [hnext]
      exact ⟨htracks, honce⟩
    | failed sends hlast hattempts hchannel =>
      have ⟨res, hres, hresults⟩ := hunbroken.failed hretrieved hlast
      exists base
      constructor
      . apply htracks.failed hattempts hchannel
      . apply honce.failed hattempts
        intro k
        apply transmitted_of_failure hres hresults
    | sent sends hresults hattempts hchannel =>
      have ⟨records, hbase⟩ := htracks.channel
      have hlength : base + (engine.channel.stored.drop base).length = engine.channel.stored.length := by
        have := hbase.base_le
        rw [List.length_drop]
        omega
      exists engine.channel.stored.length
      constructor
      . apply htracks.sent hresults hattempts hchannel
      . rw [← hlength]
        apply honce.sent hattempts hresults

end Once

/--
In every run in which no attempt breaks off after its first payload, each stored payload is transmitted at
most once.
-/
theorem no_duplication (libraries : Libraries V) (connectivity : Nat → Connectivity)
    (mTopicName : String) (mMaximumIotSDKHeapMemoryBytes : Nat)
    (mMaxPersistencePartitionSize : { size : Nat // size < 2 ^ 64 }) (maxMessageCount : Nat)
    (canIDTranslator : CANInterfaceIDTranslator) (events : List (UploadEvent V))
    (hsnappy : ∀ payload, libraries.Uncompress (libraries.Compress payload) = some payload)
    (hunbroken : Machine.Always (Unbroken libraries connectivity) (step libraries connectivity)
      (new mTopicName mMaximumIotSDKHeapMemoryBytes mMaxPersistencePartitionSize maxMessageCount
        canIDTranslator) events)
    (k : Nat)
    : (run libraries connectivity
        (new mTopicName mMaximumIotSDKHeapMemoryBytes mMaxPersistencePartitionSize maxMessageCount
          canIDTranslator) events).transmissions k
        ≤
      1 := by
  have hrun := Machine.always_invariant
    (fun engine => ∃ base, Tracks libraries.toSnappy engine base ∧ Once engine base)
    (fun engine event hok h => by
      have ⟨base, htracks, honce⟩ := h
      apply honce.step htracks hsnappy hok)
    ⟨0, tracks_new mTopicName mMaximumIotSDKHeapMemoryBytes mMaxPersistencePartitionSize
      maxMessageCount canIDTranslator, by constructor <;> intros <;> simp [transmissions, new]⟩
    hunbroken
  have ⟨base, _, honce⟩ := hrun
  apply honce.once

section Example

def librariesUpload : Libraries Rat where
  toSnappy := PayloadManager.snappyExample
  SerializeToString := fun payload =>
    some ([0x18, UInt8.ofNat payload.collection_event_id]
      ++ payload.captured_signals.flatMap fun signal =>
        [0x2a, 11, 0x10, UInt8.ofNat signal.signal_id, 0x19, 0, 0, 0, 0, 0, 0, 0, 0])

def collectedUpload (eventID : Nat) : TriggeredCollectionSchemeData Rat where
  metaData := { persist := true }
  triggerTime := 0
  signals := [{ signalID := 7, receiveTime := 0, value := 0 }]
  canFrames := []
  mDTCInfo := {}
  mGeohashInfo := {}
  eventID

def engineUpload : IoTFleetWiseEngine Rat :=
  new "topic" 0 PayloadManager.persistencyExample.mMaxPersistencePartitionSize 0 .empty

def eventsUpload : List (UploadEvent Rat) :=
  [.send (collectedUpload 1), .send (collectedUpload 2), .checkAndSendRetrievedData fun _ => 0,
    .checkAndSendRetrievedData fun _ => 0]

def aliveIn (calls : List Nat) : Nat → Connectivity := fun n => ⟨calls.contains n, 0⟩

theorem no_loss_two
    : let engine := run librariesUpload (aliveIn [2]) engineUpload eventsUpload
      (∀ attempt ∈ engine.attempts, attempt.retrieved <+: engine.channel.stored.drop attempt.first)
        ∧
      (∀ k < engine.channel.stored.length,
        (∃ attempt ∈ engine.attempts, attempt.transmitted k = true)
        ∨ (∃ first ≤ k, ∀ memory,
          PayloadManager.retrieveData librariesUpload.toSnappy engine.channel.persistency .good memory
            = (.SUCCESS, engine.channel.stored.drop first))) := by
  apply no_loss
  exact PayloadManager.uncompress_snappyExample

-- In the third call of `send` the connection is there, in the fourth it is lost: the first payload is sent
-- again.
theorem no_duplication_broken
    : (∀ payload, librariesUpload.Uncompress (librariesUpload.Compress payload) = some payload)
        ∧
      (run librariesUpload (aliveIn [2, 4, 5]) engineUpload eventsUpload).transmissions 0 = 2 := by
  constructor
  . exact PayloadManager.uncompress_snappyExample
  . decide

theorem no_duplication_unbroken
    : (run librariesUpload (aliveIn [3, 4]) engineUpload eventsUpload).transmissions 0 ≤ 1 := by
  apply no_duplication
  . exact PayloadManager.uncompress_snappyExample
  . decide

end Example

end IoTFleetWiseEngine

end ExecutionManagement
