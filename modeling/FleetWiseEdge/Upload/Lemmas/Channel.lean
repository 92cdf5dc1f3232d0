import FleetWiseEdge.Upload.Impl.Engine
import FleetWiseEdge.Upload.Lemmas.PayloadManager

namespace OffboardConnectivity

open PersistencyManagement PayloadManager

section Storing

variable {snappy : Snappy} {persistency : CacheAndPersist} {payload : Bytes}
variable {params : CollectionSchemeParams}

theorem PayloadManager.storeData_of_not_persisted
    (h : (PayloadManager.storeData snappy persistency .good payload params).2 = false)
    : (PayloadManager.storeData snappy persistency .good payload params).1 = persistency := by
  unfold PayloadManager.storeData at h ⊢
  split at h
  . rename_i hpersist
    rw [if_pos hpersist]
    dsimp only at h ⊢
    split at h
    . rename_i hcompressed
      rw [if_pos hcompressed]
    . rename_i hcompressed
      rw [if_neg hcompressed]
      cases hprepare : preparePayload _ (compressedData snappy payload params) params with
      | none => rfl
      | some writeBuffer =>
        simp only [hprepare] at h ⊢
        unfold CacheAndPersist.write at h ⊢
        split
        . rfl
        . rename_i hsize
          rw [if_neg hsize] at h
          simp [CacheAndPersist.file?] at h
  . rename_i hpersist
    rw [if_neg hpersist]

theorem PayloadManager.storeData_of_not_persist (access : FileAccess) (h : params.persist = false)
    : PayloadManager.storeData snappy persistency access payload params = (persistency, false) := by
  rw [PayloadManager.storeData, if_neg (by simp [h])]

end Storing

namespace AwsIotChannel

def Admits (channel : AwsIotChannel) (found : Connectivity) (buf : Bytes) : Prop :=
  channel.isTopicValid ∧ buf.length ≠ 0 ∧ buf.length ≤ getMaxSendSize ∧ found.isAlive
    ∧ (channel.mMaximumIotSDKHeapMemoryBytes = 0
      ∨ found.currentMemoryUsage ≤ channel.mMaximumIotSDKHeapMemoryBytes)

instance (channel : AwsIotChannel) (found : Connectivity) (buf : Bytes)
    : Decidable (channel.Admits found buf) :=
  inferInstanceAs (Decidable (_ ∧ _))

variable {snappy : Snappy} {access : FileAccess} {connectivity : Nat → Connectivity}
variable {channel : AwsIotChannel} {buf : Bytes} {params : CollectionSchemeParams}

section Send

variable (snappy access connectivity channel buf params)

theorem send_eq_success_iff
    : (channel.send snappy access connectivity buf params).2 = .Success
        ↔
      channel.Admits (connectivity channel.sends) buf := by
  unfold send sendWith Admits isTopicValid
  dsimp only
  split
  . rename_i htopic
    simp only [Bool.not_eq_true'] at htopic
    simp [htopic]
  . rename_i htopic
    split
    . rename_i hsize
      simp [hsize]
    . rename_i hsize
      split
      . rename_i hlong
        simp only [reduceCtorEq, false_iff, not_and]
        omega
      . rename_i hlong
        split
        . rename_i halive
          simp only [Bool.not_eq_true'] at halive
          simp [halive]
        . rename_i halive
          split
          . rename_i hquota
            simp only [reduceCtorEq, false_iff, not_and, not_or]
            intros
            omega
          . rename_i hquota
            simp_all
            omega

theorem send_channel
    : (channel.send snappy access connectivity buf params).1 = { channel with sends := channel.sends + 1 }
        ∨
      (channel.send snappy access connectivity buf params).1
        = { channel with sends := channel.sends + 1 }.storeData snappy access buf params := by
  unfold send sendWith
  dsimp only
  split
  . exact .inl rfl
  . split
    . exact .inl rfl
    . split
      . exact .inl rfl
      . split
        . exact .inr rfl
        . split
          . exact .inr rfl
          . exact .inl rfl

theorem storeData_cases
    : (channel.storeData snappy .good buf params = channel)
        ∨
      ((PayloadManager.storeData snappy channel.persistency .good buf params).2 = true
        ∧
      channel.storeData snappy .good buf params
        = { channel with
            persistency := (PayloadManager.storeData snappy channel.persistency .good buf params).1
            stored := channel.stored ++ [buf] }) := by
  unfold storeData
  split
  . dsimp only
    cases hpersisted : (PayloadManager.storeData snappy channel.persistency .good buf params).2 with
    | true => exact .inr ⟨rfl, rfl⟩
    | false =>
      rw [PayloadManager.storeData_of_not_persisted hpersisted]
      exact .inl rfl
  . exact .inl rfl

end Send

theorem send_retrieved
    : (channel.send snappy access connectivity buf {}).1 = { channel with sends := channel.sends + 1 } := by
  cases send_channel snappy access connectivity channel buf {} with
  | inl h => exact h
  | inr h =>
    rw [h, storeData]
    split
    . rw [PayloadManager.storeData_of_not_persist access rfl]
      rfl
    . rfl

/--
The payload file holds the payloads that were stored from number `base` on, with all that was stored before.
-/
structure Tracks (snappy : Snappy) (base : Nat) (before : List Bytes) (channel : AwsIotChannel)
    (records : List Stored)
    : Prop where
  represents : Represents snappy channel.persistency records
  pending : records.map (·.payload) = channel.stored.drop base
  base_le : base ≤ channel.stored.length
  keeps : before <+: channel.stored

theorem Tracks.send {base : Nat} {before : List Bytes} {records : List Stored}
    (h : Tracks snappy base before channel records)
    : ∃ records, Tracks snappy base before (channel.send snappy .good connectivity buf params).1 records := by
  cases send_channel snappy .good connectivity channel buf params with
  | inl heq =>
    rw [heq]
    exact ⟨records, h.represents, h.pending, h.base_le, h.keeps⟩
  | inr heq =>
    rw [heq]
    cases storeData_cases snappy { channel with sends := channel.sends + 1 } buf params with
    | inl hsame =>
      rw [hsame]
      exact ⟨records, h.represents, h.pending, h.base_le, h.keeps⟩
    | inr hstored =>
      have hlength := h.base_le
      rw [hstored.2]
      exists records ++ [⟨buf, params⟩]
      constructor
      . apply h.represents.storeData hstored.1
      . simp only [List.map_append, List.map_cons, List.map_nil]
        rw [h.pending, List.drop_append_of_le_length hlength]
      . simp only [List.length_append]
        omega
      . apply List.IsPrefix.trans h.keeps
        apply List.prefix_append

end AwsIotChannel

end OffboardConnectivity
