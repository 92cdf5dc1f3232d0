import FleetWiseEdge.Upload.Impl.PayloadManager

namespace OffboardConnectivity

open PersistencyManagement

theorem PayloadHeader.length_toBytes (header : PayloadHeader)
    : header.toBytes.length = PayloadHeader.sizeof := by
  simp [PayloadHeader.toBytes, PayloadHeader.sizeof]

theorem PayloadHeader.ofBytes_toBytes {header : PayloadHeader} (h : header.size < 2 ^ 64)
    : PayloadHeader.ofBytes header.toBytes = header := by
  have hsize : LittleEndian.decode (LittleEndian.encode 8 header.size) = header.size := by
    apply LittleEndian.decode_encode
    omega
  cases header with
  | mk compressionRequired size =>
    cases compressionRequired <;> simpa [PayloadHeader.toBytes, PayloadHeader.ofBytes] using hsize

namespace PayloadManager

structure Stored where
  payload : Bytes
  params : CollectionSchemeParams
  deriving DecidableEq, Repr

section Frames

variable (snappy : Snappy)

def Stored.header (stored : Stored) : PayloadHeader where
  compressionRequired := stored.params.compression
  size := (compressedData snappy stored.payload stored.params).length

def Stored.frame (stored : Stored) : Bytes :=
  (stored.header snappy).toBytes ++ compressedData snappy stored.payload stored.params

def frames (records : List Stored) : Bytes := records.flatMap (·.frame snappy)

theorem Stored.length_frame (stored : Stored)
    : (stored.frame snappy).length
        =
      PayloadHeader.sizeof + (compressedData snappy stored.payload stored.params).length := by
  simp [Stored.frame, PayloadHeader.length_toBytes]

theorem length_le_frames (records : List Stored) : records.length ≤ (frames snappy records).length := by
  induction records with
  | nil => simp
  | cons stored records ih =>
    have hlength := stored.length_frame snappy
    have hsizeof : PayloadHeader.sizeof = 9 := rfl
    simp only [frames, List.flatMap_cons, List.length_cons, List.length_append] at ih ⊢
    omega

variable {snappy}

@[simp]
theorem frames_nil : frames snappy [] = [] := rfl

@[simp]
theorem frames_cons {stored : Stored} {records : List Stored}
    : frames snappy (stored :: records) = stored.frame snappy ++ frames snappy records := by
  simp [frames]

@[simp]
theorem frames_append {records records' : List Stored}
    : frames snappy (records ++ records') = frames snappy records ++ frames snappy records' := by
  simp [frames]

end Frames

section Parse

variable {snappy : Snappy} (hsnappy : ∀ payload, snappy.Uncompress (snappy.Compress payload) = some payload)
variable {readBuffer : Nat → UInt8} {bytes : Bytes}

theorem readBytes_eq (hbuffer : ∀ i (h : i < bytes.length), readBuffer i = bytes[i]) {pos count : Nat}
    (hle : pos + count ≤ bytes.length)
    : readBytes readBuffer pos count = (bytes.drop pos).take count := by
  apply List.ext_getElem
  . simp only [readBytes, List.length_map, List.length_range, List.length_take, List.length_drop]
    omega
  . intro i hi hi'
    simp only [readBytes, List.length_map, List.length_range] at hi
    simp only [readBytes, List.getElem_map, List.getElem_range, List.getElem_take, List.getElem_drop]
    apply hbuffer

theorem readBytes_middle (hbuffer : ∀ i (h : i < bytes.length), readBuffer i = bytes[i])
    {front part back : Bytes} (h : bytes = front ++ (part ++ back))
    : readBytes readBuffer front.length part.length = part := by
  rw [readBytes_eq hbuffer]
  . rw [h, List.drop_left, List.take_left]
  . rw [h]
    simp only [List.length_append]
    omega

include hsnappy

theorem parse_frames (hbuffer : ∀ i (h : i < bytes.length), readBuffer i = bytes[i])
    {records : List Stored} {front : Bytes} {fuel : Nat} {data : List Bytes}
    (hbytes : bytes = front ++ frames snappy records)
    (hsmall : ∀ stored ∈ records, (stored.header snappy).size < 2 ^ 64) (hfuel : records.length ≤ fuel)
    : parse snappy readBuffer bytes.length fuel front.length data
        =
      (.SUCCESS, data ++ records.map (·.payload)) := by
  induction records generalizing front fuel data with
  | nil =>
    have hend : bytes.length = front.length := by simp [hbytes]
    cases fuel with
    | zero => simp [parse]
    | succ fuel => simp [parse, hend]
  | cons stored records ih =>
    cases fuel with
    | zero => simp at hfuel
    | succ fuel =>
      have hlength := stored.length_frame snappy
      have hsizeof : PayloadHeader.sizeof = 9 := rfl
      have htotal : bytes.length = front.length + (stored.frame snappy).length
          + (frames snappy records).length := by
        simp only [hbytes, frames_cons, List.length_append]
        omega
      have hsplit : bytes = front ++ ((stored.header snappy).toBytes
          ++ (compressedData snappy stored.payload stored.params ++ frames snappy records)) := by
        simp [hbytes, Stored.frame]
      have hheader : readBytes readBuffer front.length PayloadHeader.sizeof
          = (stored.header snappy).toBytes := by
        rw [← (stored.header snappy).length_toBytes]
        apply readBytes_middle hbuffer hsplit
      have hdata : readBytes readBuffer (front.length + PayloadHeader.sizeof)
          (compressedData snappy stored.payload stored.params).length
            = compressedData snappy stored.payload stored.params := by
        rw [← (stored.header snappy).length_toBytes, ← List.length_append]
        apply @readBytes_middle _ _ hbuffer _ _ (frames snappy records)
        simp [hsplit]
      have hmin : min (stored.header snappy).size
          (bytes.length - (front.length + PayloadHeader.sizeof))
            = (compressedData snappy stored.payload stored.params).length := by
        unfold Stored.header
        dsimp only
        omega
      have hnext : front.length + PayloadHeader.sizeof
          + (compressedData snappy stored.payload stored.params).length
            = (front ++ stored.frame snappy).length := by
        rw [List.length_append, hlength]
        omega
      have hrest := @ih (front ++ stored.frame snappy) fuel (data ++ [stored.payload])
        (by simp [hbytes]) (fun other hmem => hsmall other (by simp [hmem])) (by simpa using hfuel)
      rw [parse, if_pos (by omega)]
      dsimp only
      rw [hheader, PayloadHeader.ofBytes_toBytes (hsmall stored (by simp))]
      rw [hmin, hdata, hnext]
      cases hcompression : stored.params.compression with
      | true =>
        rw [if_pos (by simp [Stored.header, hcompression])]
        simp only [compressedData, hcompression, if_true]
        rw [hrest]
        simp
      | false =>
        rw [if_neg (by simp [Stored.header, hcompression])]
        simp only [compressedData, hcompression, Bool.false_eq_true, if_false, hsnappy]
        rw [hrest]
        simp

end Parse

structure Represents (snappy : Snappy) (persistency : CacheAndPersist) (records : List Stored) : Prop where
  content : persistency.mCollectedDataFile = frames snappy records
  small : records ≠ [] →
    (frames snappy records).length < persistency.mMaxPersistencePartitionSize
  sizes : ∀ stored ∈ records, (stored.header snappy).size < 2 ^ 64

section Represents

variable {snappy : Snappy} {persistency : CacheAndPersist} {records : List Stored}

theorem represents_nil (h : persistency.mCollectedDataFile = []) : Represents snappy persistency [] := by
  constructor
  . exact h
  . simp
  . simp

theorem write_payload {access : FileAccess} {buf : Bytes}
    (h : (persistency.write access buf .EDGE_TO_CLOUD_PAYLOAD).2 = .SUCCESS)
    : (persistency.write access buf .EDGE_TO_CLOUD_PAYLOAD).1
          =
        { persistency with mCollectedDataFile := persistency.mCollectedDataFile ++ buf }
        ∧
      (persistency.mCollectedDataFile ++ buf).length < persistency.mMaxPersistencePartitionSize := by
  unfold CacheAndPersist.write at h ⊢
  split at h
  . cases h
  . rename_i hsize
    rw [if_neg hsize]
    simp only [CacheAndPersist.getSize, CacheAndPersist.file?, CacheAndPersist.setFile] at hsize h ⊢
    rw [List.length_append]
    cases access with
    | good =>
      constructor
      . rfl
      . omega
    | notOpen => cases h
    | failed moved => cases h

theorem storeData_of_persisted {access : FileAccess} {payload : Bytes} {params : CollectionSchemeParams}
    (h : (storeData snappy persistency access payload params).2 = true)
    : (storeData snappy persistency access payload params).1
          =
        { persistency with
          mCollectedDataFile := persistency.mCollectedDataFile ++ Stored.frame snappy ⟨payload, params⟩ }
        ∧
      (persistency.mCollectedDataFile ++ Stored.frame snappy ⟨payload, params⟩).length
        < persistency.mMaxPersistencePartitionSize := by
  unfold storeData at h ⊢
  split at h
  . rename_i hpersist
    rw [if_pos hpersist]
    dsimp only at h ⊢
    split at h
    . cases h
    . rename_i hcompressed
      rw [if_neg hcompressed]
      have hroom : preparePayload ((compressedData snappy payload params).length + PayloadHeader.sizeof)
          (compressedData snappy payload params) params
            = some (Stored.frame snappy ⟨payload, params⟩) := by
        rw [preparePayload, if_neg (by omega)]
        rfl
      rw [hroom] at h ⊢
      dsimp only at h ⊢
      apply write_payload
      simpa using h
  . cases h

theorem Represents.storeData (hrep : Represents snappy persistency records) {access : FileAccess}
    {payload : Bytes} {params : CollectionSchemeParams}
    (h : (storeData snappy persistency access payload params).2 = true)
    : Represents snappy (storeData snappy persistency access payload params).1
        (records ++ [⟨payload, params⟩]) := by
  have ⟨hstore, hsmall⟩ := storeData_of_persisted h
  have hmax := persistency.mMaxPersistencePartitionSize.property
  have hframes : frames snappy (records ++ [⟨payload, params⟩])
      = persistency.mCollectedDataFile ++ Stored.frame snappy ⟨payload, params⟩ := by
    simp [hrep.content]
  rw [hstore]
  constructor
  . rw [hframes]
  . intro _
    rw [hframes]
    exact hsmall
  . intro stored hmem
    simp only [List.mem_append, List.mem_singleton] at hmem
    cases hmem with
    | inl hold => apply hrep.sizes stored hold
    | inr hnew =>
      rw [hnew]
      rw [List.length_append, Stored.length_frame] at hsmall
      simp only [Stored.header] at hsmall ⊢
      omega

theorem Represents.retrieveData (hrep : Represents snappy persistency records)
    (hsnappy : ∀ payload, snappy.Uncompress (snappy.Compress payload) = some payload)
    (memory : Nat → UInt8)
    : retrieveData snappy persistency .good memory
        =
      if records = [] then (.EMPTY, []) else (.SUCCESS, records.map (·.payload)) := by
  have hsize : persistency.getSize .EDGE_TO_CLOUD_PAYLOAD = (frames snappy records).length := by
    rw [← hrep.content]
    rfl
  unfold PayloadManager.retrieveData
  dsimp only
  rw [hsize]
  cases records with
  | nil => simp
  | cons stored records =>
    have hlength := length_le_frames snappy (stored :: records)
    have hsmall := hrep.small (by simp)
    have hread : persistency.read .good (frames snappy (stored :: records)).length
        .EDGE_TO_CLOUD_PAYLOAD = (.SUCCESS, frames snappy (stored :: records)) := by
      unfold CacheAndPersist.read
      rw [hsize]
      simp only [CacheAndPersist.file?, hrep.content]
      rw [if_neg]
      . rw [List.take_of_length_le]
        omega
      . simp only [List.length_cons] at hlength
        omega
    simp only [List.length_cons] at hlength
    rw [if_neg (by omega), hread]
    simp only [ne_eq, not_true_eq_false, if_false, List.cons_ne_nil]
    have hbuffer : ∀ i (hi : i < (frames snappy (stored :: records)).length),
        (frames snappy (stored :: records)).getD i (memory i)
          = (frames snappy (stored :: records))[i] := by
      intro i hi
      rw [List.getD_eq_getElem?_getD, List.getElem?_eq_getElem hi, Option.getD_some]
    have hparse := @parse_frames snappy hsnappy
      (fun i => (frames snappy (stored :: records)).getD i (memory i)) (frames snappy (stored :: records))
      hbuffer (stored :: records) []
      (frames snappy (stored :: records)).length [] rfl hrep.sizes (by simpa using hlength)
    simpa using hparse

end Represents

end PayloadManager

end OffboardConnectivity
