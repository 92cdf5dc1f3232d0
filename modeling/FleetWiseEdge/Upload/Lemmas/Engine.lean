import FleetWiseEdge.Upload.Lemmas.Channel
import Mathlib.Data.List.Infix

namespace DataManagement

open DataInspection OffboardConnectivity

namespace DataCollectionSender

variable {V σ : Type} {libraries : Libraries V} {channel : ISender σ}
variable {sender : DataCollectionSender V σ} {data : TriggeredCollectionSchemeData V}

section Invariant

variable (P : σ → Prop) (hsend : ∀ s buf params, P s → P (channel.send s buf params).1)

include hsend

theorem transmitOutput_invariant (h : P sender.mSender)
    : P (transmitOutput libraries channel sender).1.mSender := by
  unfold transmitOutput
  dsimp only
  split
  . exact h
  . apply hsend
    exact h

theorem serializeAndTransmit_invariant (h : P sender.mSender)
    : P (sender.serializeAndTransmit libraries channel).mSender := by
  unfold serializeAndTransmit
  dsimp only
  cases libraries.SerializeToString sender.mProtoWriter.mVehicleData with
  | none => exact h
  | some mProtoOutput =>
    apply transmitOutput_invariant P hsend
    exact h

theorem flushIfFull_invariant {setupNext : DataCollectionProtoWriter V → DataCollectionProtoWriter V}
    (h : P sender.mSender)
    : P (flushIfFull libraries channel data sender setupNext).mSender := by
  unfold flushIfFull
  split
  . apply serializeAndTransmit_invariant P hsend h
  . exact h

omit hsend in
theorem foldl_invariant {α : Type} {append : DataCollectionSender V σ → α → DataCollectionSender V σ}
    (happend : ∀ sender a, P sender.mSender → P (append sender a).mSender) (h : P sender.mSender)
    (as : List α)
    : P (as.foldl append sender).mSender := by
  induction as generalizing sender with
  | nil => exact h
  | cons a as ih => apply ih (happend sender a h)

theorem appendDTCInfo_invariant (h : P sender.mSender)
    : P (appendDTCInfo libraries channel data sender).mSender := by
  unfold appendDTCInfo
  split
  . apply foldl_invariant
    . intro sender dtc h
      apply flushIfFull_invariant P hsend
      exact h
    . exact h
  . exact h

theorem appendGeohashInfo_invariant (h : P sender.mSender)
    : P (appendGeohashInfo libraries channel data sender).mSender := by
  unfold appendGeohashInfo
  split
  . apply flushIfFull_invariant P hsend
    exact h
  . exact h

theorem send_invariant (h : P sender.mSender) : P (sender.send libraries channel data).mSender := by
  have hready : P (appendGeohashInfo libraries channel data (appendDTCInfo libraries channel data
      (data.canFrames.foldl (appendCanFrame libraries channel data)
        (data.signals.foldl (appendSignal libraries channel data)
          (({ sender with mCollectionEventID := data.eventID }.setCollectionSchemeParameters
            data).setupVehicleData data))))).mSender := by
    apply appendGeohashInfo_invariant P hsend
    apply appendDTCInfo_invariant P hsend
    apply foldl_invariant
    . intro sender canFrame h
      apply flushIfFull_invariant P hsend
      exact h
    . apply foldl_invariant
      . intro sender signal h
        apply flushIfFull_invariant P hsend
        exact h
      . exact h
  unfold send
  dsimp only
  split
  . apply serializeAndTransmit_invariant P hsend hready
  . exact hready

end Invariant

end DataCollectionSender

end DataManagement

namespace ExecutionManagement

open DataManagement OffboardConnectivity PersistencyManagement

def Attempt.transmitted (attempt : Attempt) (k : Nat) : Bool :=
  attempt.first ≤ k ∧ attempt.results[k - attempt.first]? = some .Success

namespace IoTFleetWiseEngine

variable {V : Type} {libraries : Libraries V} {connectivity : Nat → Connectivity}

section TransmitAll

variable {sender : DataCollectionSender V AwsIotChannel} {payload : Bytes} {payloads : List Bytes}

variable (libraries connectivity) in
theorem transmitAll_sender (sender : DataCollectionSender V AwsIotChannel) (payloads : List Bytes)
    : (transmitAll libraries connectivity sender payloads).1
        =
      { sender with
        mSender := { sender.mSender with
          sends :=
            sender.mSender.sends + (transmitAll libraries connectivity sender payloads).2.length } } := by
  induction payloads generalizing sender with
  | nil => rfl
  | cons payload payloads ih =>
    unfold transmitAll DataCollectionSender.transmit AwsIotChannel.sender
    dsimp only
    rw [AwsIotChannel.send_retrieved]
    split
    . rfl
    . dsimp only
      rw [ih]
      simp only [List.length_cons]
      rw [Nat.add_assoc, Nat.add_comm 1]

theorem transmitAll_cons_success
    (h : sender.mSender.Admits (connectivity sender.mSender.sends) payload)
    : (transmitAll libraries connectivity sender (payload :: payloads)).2
        =
      .Success :: (transmitAll libraries connectivity
        { sender with mSender := { sender.mSender with sends := sender.mSender.sends + 1 } } payloads).2 := by
  have hsuccess := (AwsIotChannel.send_eq_success_iff libraries.toSnappy .good _ _ _ {}).mpr h
  rw [transmitAll]
  unfold DataCollectionSender.transmit AwsIotChannel.sender
  dsimp only
  rw [AwsIotChannel.send_retrieved, hsuccess]
  rfl

theorem transmitAll_cons_failure (libraries : Libraries V) (payloads : List Bytes)
    (h : ¬sender.mSender.Admits (connectivity sender.mSender.sends) payload)
    : ∃ res, res ≠ .Success
        ∧ (transmitAll libraries connectivity sender (payload :: payloads)).2 = [res] := by
  have hfailure := mt (AwsIotChannel.send_eq_success_iff libraries.toSnappy .good _ _ _ {}).mp h
  rw [transmitAll]
  unfold DataCollectionSender.transmit AwsIotChannel.sender
  dsimp only
  rw [if_pos hfailure]
  exact ⟨_, hfailure, rfl⟩

theorem transmitAll_of_last
    (h : (transmitAll libraries connectivity sender payloads).2.getLast?.getD .Success = .Success)
    : (transmitAll libraries connectivity sender payloads).2
        =
      List.replicate payloads.length .Success := by
  induction payloads generalizing sender with
  | nil => rfl
  | cons payload payloads ih =>
    by_cases hadmits : sender.mSender.Admits (connectivity sender.mSender.sends) payload
    . rw [transmitAll_cons_success hadmits] at h ⊢
      rw [List.getLast?_cons, Option.getD_some] at h
      rw [ih h]
      rfl
    . have ⟨res, hres, hresults⟩ :=
        transmitAll_cons_failure libraries payloads hadmits
      rw [hresults] at h
      contradiction

theorem transmitAll_of_admits (libraries : Libraries V)
    (h : ∀ i (hi : i < payloads.length),
      sender.mSender.Admits (connectivity (sender.mSender.sends + i)) payloads[i])
    : (transmitAll libraries connectivity sender payloads).2
        =
      List.replicate payloads.length .Success := by
  induction payloads generalizing sender with
  | nil => rfl
  | cons payload payloads ih =>
    have hfirst : sender.mSender.Admits (connectivity sender.mSender.sends) payload := h 0 (by simp)
    rw [transmitAll_cons_success hfirst, ih]
    . rfl
    . intro i hi
      have hnext := h (i + 1) (by simpa using hi)
      have hsends : sender.mSender.sends + (i + 1) = sender.mSender.sends + 1 + i := by omega
      simp only [List.getElem_cons_succ, hsends] at hnext
      exact hnext

end TransmitAll

structure Tracks (snappy : Snappy) (engine : IoTFleetWiseEngine V) (base : Nat) : Prop where
  channel : ∃ records, AwsIotChannel.Tracks snappy base [] engine.channel records
  retrieved : ∀ attempt ∈ engine.attempts, attempt.retrieved <+: engine.channel.stored.drop attempt.first
  done : ∀ k < base, ∃ attempt ∈ engine.attempts, attempt.transmitted k = true

inductive AttemptCases (engine : IoTFleetWiseEngine V) (base : Nat) (pending : List Bytes)
    (results : List ConnectivityError) (next : IoTFleetWiseEngine V)
    : Prop where
  | nothing (hpending : pending = []) (hnext : next = engine)
  | failed (sends : Nat)
    (hlast : results.getLast?.getD .Success ≠ .Success)
    (hattempts : next.attempts = engine.attempts ++ [⟨base, pending, results⟩])
    (hchannel : next.channel = { engine.channel with sends })
  | sent (sends : Nat)
    (hresults : results = List.replicate pending.length .Success)
    (hattempts : next.attempts = engine.attempts ++ [⟨base, pending, results⟩])
    (hchannel : next.channel = { engine.channel with
      sends
      persistency := { engine.channel.persistency with mCollectedDataFile := [] } })

theorem Tracks.attemptCases {engine : IoTFleetWiseEngine V} {base : Nat}
    (h : Tracks libraries.toSnappy engine base)
    (hsnappy : ∀ payload, libraries.Uncompress (libraries.Compress payload) = some payload)
    (memory : Nat → UInt8)
    : AttemptCases engine base (engine.channel.stored.drop base)
        (transmitAll libraries connectivity engine.mDataCollectionSender
          (engine.channel.stored.drop base)).2
        (checkAndSendRetrievedData libraries connectivity memory engine).1 := by
  have ⟨records, htracks⟩ := h.channel
  have hretrieve := htracks.represents.retrieveData hsnappy memory
  have hpending := htracks.pending
  have hbase := htracks.base_le
  unfold checkAndSendRetrievedData
  dsimp only
  rw [hretrieve]
  by_cases hrecords : records = []
  . rw [if_pos hrecords]
    rw [hrecords] at hpending
    apply AttemptCases.nothing hpending.symm rfl
  . have hfirst : engine.channel.stored.length - (engine.channel.stored.drop base).length = base := by
      rw [List.length_drop]
      omega
    rw [if_neg hrecords]
    dsimp only
    rw [hpending, hfirst]
    have hsender := transmitAll_sender libraries connectivity engine.mDataCollectionSender
      (engine.channel.stored.drop base)
    split
    . rename_i hlast
      apply AttemptCases.sent
      . apply transmitAll_of_last hlast
      . rfl
      . unfold withPersistency
        unfold IoTFleetWiseEngine.channel at hsender ⊢
        dsimp only
        rw [hsender]
        rfl
    . rename_i hlast
      apply AttemptCases.failed
      . exact hlast
      . rfl
      . unfold IoTFleetWiseEngine.channel at hsender ⊢
        dsimp only
        rw [hsender]

end IoTFleetWiseEngine

end ExecutionManagement
