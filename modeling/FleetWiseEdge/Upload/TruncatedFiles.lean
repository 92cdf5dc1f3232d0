import FleetWiseEdge.Upload.Lemmas.PayloadManager

/-!
This module contains what `retrieveData` does with any content of the payload file: which bytes the loop over
the headers reads, which payloads it cuts short, and the files on which it does neither of it badly.
-/

namespace OffboardConnectivity

open PersistencyManagement

namespace PayloadManager

section Visits

variable (snappy : Snappy) (readBuffer : Nat → UInt8) (readSize : Nat)

/--
A pass of the loop: where the header is, what is in it, how many bytes were taken for the payload, and the
payload unless it could not be uncompressed.
-/
structure Visit where
  pos : Nat
  payloadHdr : PayloadHeader
  count : Nat
  payloadData : Option Bytes
  deriving DecidableEq, Repr

def visitAt (pos : Nat) : Visit :=
  let payloadHdr := PayloadHeader.ofBytes (readBytes readBuffer pos PayloadHeader.sizeof)
  let count := min payloadHdr.size (readSize - (pos + PayloadHeader.sizeof))
  let dataString := readBytes readBuffer (pos + PayloadHeader.sizeof) count
  ⟨pos, payloadHdr, count,
    if payloadHdr.compressionRequired then some dataString else snappy.Uncompress dataString⟩

def Visit.next (visit : Visit) : Nat := visit.pos + PayloadHeader.sizeof + visit.count

def visits (pos : Nat) : List Visit :=
  if pos < readSize then
    let visit := visitAt snappy readBuffer readSize pos
    match visit.payloadData with
    | none => [visit]
    | some _ => visit :: visits visit.next
  else
    []
termination_by readSize - pos
decreasing_by
  simp only [Visit.next, visitAt, PayloadHeader.sizeof]
  omega

variable {snappy} {readBuffer} {readSize} {pos : Nat}

theorem visits_of_lt (hpos : pos < readSize)
    : visits snappy readBuffer readSize pos
        =
      visitAt snappy readBuffer readSize pos
        :: if (visitAt snappy readBuffer readSize pos).payloadData.isSome then
          visits snappy readBuffer readSize (visitAt snappy readBuffer readSize pos).next
        else
          [] := by
  rw [visits, if_pos hpos]
  dsimp only
  cases (visitAt snappy readBuffer readSize pos).payloadData with
  | none => rfl
  | some payloadData => rfl

theorem visits_of_not_lt (hpos : ¬pos < readSize) : visits snappy readBuffer readSize pos = [] := by
  rw [visits, if_neg hpos]

theorem parse_visit (hpos : pos < readSize) (fuel : Nat) (data : List Bytes)
    : parse snappy readBuffer readSize (fuel + 1) pos data
        =
      match (visitAt snappy readBuffer readSize pos).payloadData with
      | none => (.INVALID_DATA, data)
      | some payloadData =>
        parse snappy readBuffer readSize fuel (visitAt snappy readBuffer readSize pos).next
          (data ++ [payloadData]) := by
  rw [parse, if_pos hpos]
  unfold Visit.next visitAt
  dsimp only
  split
  . rfl
  . rfl

-- The loop does what its passes say, however much fuel is left.
theorem parse_eq {fuel : Nat} (hfuel : readSize - pos ≤ fuel) (data : List Bytes)
    : parse snappy readBuffer readSize fuel pos data
        =
      (if (visits snappy readBuffer readSize pos).all (·.payloadData.isSome) then .SUCCESS else .INVALID_DATA,
        data ++ (visits snappy readBuffer readSize pos).filterMap (·.payloadData)) := by
  induction fuel generalizing pos data with
  | zero =>
    have hpos : ¬pos < readSize := by omega
    rw [visits_of_not_lt hpos]
    simp [parse]
  | succ fuel ih =>
    by_cases hpos : pos < readSize
    . have hnext : readSize - (visitAt snappy readBuffer readSize pos).next ≤ fuel := by
        simp only [Visit.next, visitAt, PayloadHeader.sizeof]
        omega
      rw [parse_visit hpos, visits_of_lt hpos, List.all_cons, List.filterMap_cons]
      cases (visitAt snappy readBuffer readSize pos).payloadData with
      | none => simp
      | some payloadData => simp [ih hnext]
    . rw [visits_of_not_lt hpos, parse, if_neg hpos]
      simp

end Visits

section Files

variable (snappy : Snappy)

/--
The walk over the loaded bytes reaches their end behind a complete record while there is no more in the file,
or before that a record that is not uncompressed.
-/
def endsSafely (whole : Bool) (bytes : Bytes) : Bool :=
  if bytes = [] then
    whole
  else if bytes.length < PayloadHeader.sizeof then
    false
  else
    let payloadHdr := PayloadHeader.ofBytes (bytes.take PayloadHeader.sizeof)
    let rest := bytes.drop PayloadHeader.sizeof
    if payloadHdr.size ≤ rest.length then
      if !payloadHdr.compressionRequired ∧ (snappy.Uncompress (rest.take payloadHdr.size)).isNone then
        true
      else
        endsSafely whole (rest.drop payloadHdr.size)
    else
      whole && !payloadHdr.compressionRequired && (snappy.Uncompress rest).isNone
termination_by bytes.length
decreasing_by
  rename_i hnil hlength _ _
  have := List.length_pos_iff.mpr hnil
  simp only [List.length_drop, PayloadHeader.sizeof] at hlength ⊢
  omega

variable {snappy} {bytes : Bytes} {readBuffer : Nat → UInt8} {readSize : Nat}

/--
A pass reads loaded bytes only, and it does not hand out a payload that it cut short.
-/
structure Visit.Sound (bytes : Bytes) (visit : Visit) : Prop where
  inside : visit.next ≤ bytes.length
  complete : visit.payloadData.isSome = true → visit.count = visit.payloadHdr.size

theorem visitAt_header (hbuffer : ∀ i (h : i < bytes.length), readBuffer i = bytes[i]) {pos : Nat}
    (hheader : pos + PayloadHeader.sizeof ≤ bytes.length)
    : (visitAt snappy readBuffer readSize pos).payloadHdr
        =
      PayloadHeader.ofBytes ((bytes.drop pos).take PayloadHeader.sizeof) := by
  unfold visitAt
  rw [readBytes_eq hbuffer hheader]

theorem visitAt_payload (hbuffer : ∀ i (h : i < bytes.length), readBuffer i = bytes[i]) {pos : Nat}
    (hinside : (visitAt snappy readBuffer readSize pos).next ≤ bytes.length)
    : (visitAt snappy readBuffer readSize pos).payloadData.isNone
        =
      (!(visitAt snappy readBuffer readSize pos).payloadHdr.compressionRequired
        && (snappy.Uncompress (((bytes.drop pos).drop PayloadHeader.sizeof).take
          (visitAt snappy readBuffer readSize pos).count)).isNone) := by
  have hdata := readBytes_eq hbuffer hinside
  rw [← List.drop_drop] at hdata
  unfold visitAt at hdata ⊢
  dsimp only at hdata ⊢
  rw [hdata]
  split
  . rename_i hcompression
    rw [hcompression]
    rfl
  . rename_i hcompression
    rw [Bool.not_eq_true] at hcompression
    rw [hcompression]
    rfl

section Record

variable (hbuffer : ∀ i (h : i < bytes.length), readBuffer i = bytes[i]) {pos : Nat} {visit : Visit}
  (hvisit : visitAt snappy readBuffer readSize pos = visit)

include hvisit

theorem count_eq : visit.count = min visit.payloadHdr.size (readSize - (pos + PayloadHeader.sizeof)) := by
  rw [← hvisit]
  rfl

theorem next_eq : visit.next = pos + PayloadHeader.sizeof + visit.count := by
  rw [← hvisit]
  rfl

theorem sound_of_complete (hle : bytes.length ≤ readSize)
    (hsize : pos + PayloadHeader.sizeof + visit.payloadHdr.size ≤ bytes.length)
    : visit.count = visit.payloadHdr.size ∧ visit.Sound bytes := by
  have hcount := count_eq hvisit
  have hnext := next_eq hvisit
  have hcomplete : visit.count = visit.payloadHdr.size := by omega
  exact ⟨hcomplete, by omega, fun _ => hcomplete⟩

theorem payloadData_of_cut (hsize : ¬pos + PayloadHeader.sizeof + visit.payloadHdr.size ≤ bytes.length)
    (hsound : visit.Sound bytes)
    : visit.payloadData = none := by
  have hnext := next_eq hvisit
  have hinside := hsound.inside
  cases hdata : visit.payloadData with
  | none => rfl
  | some payloadData =>
    have := hsound.complete (by rw [hdata]; rfl)
    omega

include hbuffer

theorem sound_iff_of_cut (hle : bytes.length ≤ readSize) (hheader : pos + PayloadHeader.sizeof ≤ bytes.length)
    (hsize : ¬pos + PayloadHeader.sizeof + visit.payloadHdr.size ≤ bytes.length)
    : visit.Sound bytes
        ↔
      (decide (bytes.length = readSize) && !visit.payloadHdr.compressionRequired
        && (snappy.Uncompress (bytes.drop (pos + PayloadHeader.sizeof))).isNone) = true := by
  have hcount := count_eq hvisit
  have hnext := next_eq hvisit
  by_cases hwhole : bytes.length = readSize
  . have hcut : visit.count = (bytes.drop (pos + PayloadHeader.sizeof)).length := by
      rw [List.length_drop]
      omega
    have hinside : visit.next ≤ bytes.length := by omega
    have hpayload := @visitAt_payload snappy bytes readBuffer readSize hbuffer pos
    rw [hvisit] at hpayload
    have hpayload := hpayload hinside
    rw [List.drop_drop, hcut, List.take_length] at hpayload
    rw [decide_eq_true hwhole, Bool.true_and, ← hpayload, Option.isNone_iff_eq_none]
    constructor
    . exact payloadData_of_cut hvisit hsize
    . intro hnone
      exact ⟨hinside, fun h => by simp [hnone] at h⟩
  . -- the buffer behind the loaded bytes is read
    refine iff_of_false (fun hsound => ?_) (by simp [hwhole])
    have := hsound.inside
    omega

theorem endsSafely_record (hle : bytes.length ≤ readSize) (hheader : pos + PayloadHeader.sizeof ≤ bytes.length)
    (whole : Bool)
    : endsSafely snappy whole (bytes.drop pos)
        =
      if pos + PayloadHeader.sizeof + visit.payloadHdr.size ≤ bytes.length then
        visit.payloadData.isNone || endsSafely snappy whole (bytes.drop visit.next)
      else
        whole && !visit.payloadHdr.compressionRequired
          && (snappy.Uncompress (bytes.drop (pos + PayloadHeader.sizeof))).isNone := by
  have hsizeof : PayloadHeader.sizeof = 9 := rfl
  have hdrop : (bytes.drop pos).length = bytes.length - pos := List.length_drop
  have hrest : (bytes.drop (pos + PayloadHeader.sizeof)).length = bytes.length - (pos + PayloadHeader.sizeof) :=
    List.length_drop
  have hne : bytes.drop pos ≠ [] := by
    rw [← List.length_pos_iff]
    omega
  have hlong : ¬(bytes.drop pos).length < PayloadHeader.sizeof := by omega
  have hloaded := @visitAt_header snappy bytes readBuffer readSize hbuffer pos hheader
  have hpayload := @visitAt_payload snappy bytes readBuffer readSize hbuffer pos
  rw [hvisit] at hloaded hpayload
  rw [List.drop_drop] at hpayload
  rw [endsSafely, if_neg hne, if_neg hlong]
  dsimp only
  rw [← hloaded, List.drop_drop]
  by_cases hsize : pos + PayloadHeader.sizeof + visit.payloadHdr.size ≤ bytes.length
  . have ⟨hcomplete, hsound⟩ := sound_of_complete hvisit hle hsize
    have hpayload := hpayload hsound.inside
    rw [if_pos hsize, if_pos (by omega), List.drop_drop, next_eq hvisit, hpayload, hcomplete]
    split
    . rename_i huncompressed
      rw [← Bool.and_eq_true] at huncompressed
      rw [huncompressed, Bool.true_or]
    . rename_i huncompressed
      rw [← Bool.and_eq_true, Bool.not_eq_true] at huncompressed
      rw [huncompressed, Bool.false_or]
  . rw [if_neg hsize, if_neg (by omega)]

end Record

theorem endsSafely_short {pos : Nat} {whole : Bool} (hheader : ¬pos + PayloadHeader.sizeof ≤ bytes.length)
    (hmore : bytes.length ≤ pos → whole = false)
    : endsSafely snappy whole (bytes.drop pos) = false := by
  rw [endsSafely]
  split
  . rename_i hnil
    exact hmore (List.drop_eq_nil_iff.mp hnil)
  . rename_i hsome
    have hpos := List.length_pos_iff.mpr hsome
    rw [List.length_drop] at hpos
    rw [if_pos (by rw [List.length_drop]; omega)]

-- By induction on the bytes that are left of the buffer.
theorem visits_sound_iff (hbuffer : ∀ i (h : i < bytes.length), readBuffer i = bytes[i])
    (hle : bytes.length ≤ readSize) {pos : Nat} (hpos : pos ≤ bytes.length)
    : (∀ visit ∈ visits snappy readBuffer readSize pos, visit.Sound bytes)
        ↔
      endsSafely snappy (decide (bytes.length = readSize)) (bytes.drop pos) = true := by
  induction hleft : readSize - pos using Nat.strong_induction_on generalizing pos with
  | _ left ih =>
    by_cases hend : pos < readSize
    . rw [visits_of_lt hend, List.forall_mem_cons]
      generalize hvisit : visitAt snappy readBuffer readSize pos = visit
      have hcount := count_eq hvisit
      have hnext := next_eq hvisit
      have hsizeof : PayloadHeader.sizeof = 9 := rfl
      by_cases hheader : pos + PayloadHeader.sizeof ≤ bytes.length
      . rw [endsSafely_record hbuffer hvisit hle hheader]
        by_cases hsize : pos + PayloadHeader.sizeof + visit.payloadHdr.size ≤ bytes.length
        . have ⟨_, hsound⟩ := sound_of_complete hvisit hle hsize
          rw [if_pos hsize, and_iff_right hsound]
          cases hdata : visit.payloadData with
          | none => simp
          | some payloadData =>
            have hrest := ih (readSize - visit.next) (by omega) hsound.inside rfl
            rw [Option.isSome_some, if_pos rfl, Option.isNone_some, Bool.false_or]
            exact hrest
        . rw [if_neg hsize, ← sound_iff_of_cut hbuffer hvisit hle hheader hsize]
          constructor
          . exact fun h => h.1
          . intro hsound
            rw [payloadData_of_cut hvisit hsize hsound]
            simp [hsound]
      . -- the header is read behind the loaded bytes
        have houtside : ¬visit.Sound bytes := by
          intro hsound
          have := hsound.inside
          omega
        rw [endsSafely_short hheader (by simp; omega)]
        exact iff_of_false (fun h => houtside h.1) Bool.false_ne_true
    . have hwhole : bytes.length = readSize := by omega
      rw [visits_of_not_lt hend, List.drop_of_length_le (by omega), endsSafely, if_pos rfl]
      simp [hwhole]

end Files

section Retrieval

variable (snappy : Snappy) (persistency : CacheAndPersist) (access : FileAccess) (memory : Nat → UInt8)

def fileSize : Nat := persistency.getSize .EDGE_TO_CLOUD_PAYLOAD

def loadedBytes : Bytes := (persistency.read access (fileSize persistency) .EDGE_TO_CLOUD_PAYLOAD).2

def loadedBuffer (i : Nat) : UInt8 := (loadedBytes persistency access).getD i (memory i)

def visited : List Visit :=
  if fileSize persistency = 0
    ∨ (persistency.read access (fileSize persistency) .EDGE_TO_CLOUD_PAYLOAD).1 ≠ .SUCCESS
  then
    []
  else
    visits snappy (loadedBuffer persistency access memory) (fileSize persistency) 0

structure Tolerates : Prop where
  terminates : ∀ fuel, fileSize persistency ≤ fuel
    → parse snappy (loadedBuffer persistency access memory) (fileSize persistency) fuel 0 []
      = parse snappy (loadedBuffer persistency access memory) (fileSize persistency) (fileSize persistency) 0 []
  handsOut : (retrieveData snappy persistency access memory).2
    = (visited snappy persistency access memory).filterMap (·.payloadData)
  inside : ∀ visit ∈ visited snappy persistency access memory,
    visit.next ≤ (loadedBytes persistency access).length
  complete : ∀ visit ∈ visited snappy persistency access memory, visit.payloadData.isSome = true
    → visit.count = visit.payloadHdr.size

def SafeFile : Prop :=
  access ≠ .good
    ∨
  persistency.mCollectedDataFile.take persistency.mMaxPersistencePartitionSize = []
    ∨
  endsSafely snappy
    (decide (persistency.mCollectedDataFile.length ≤ persistency.mMaxPersistencePartitionSize))
    (persistency.mCollectedDataFile.take persistency.mMaxPersistencePartitionSize) = true

theorem retrieveData_eq
    : retrieveData snappy persistency access memory
        =
      if fileSize persistency = 0 then
        (.EMPTY, [])
      else if (persistency.read access (fileSize persistency) .EDGE_TO_CLOUD_PAYLOAD).1 ≠ .SUCCESS then
        ((persistency.read access (fileSize persistency) .EDGE_TO_CLOUD_PAYLOAD).1, [])
      else
        (if (visited snappy persistency access memory).all (·.payloadData.isSome) then .SUCCESS
          else .INVALID_DATA,
          (visited snappy persistency access memory).filterMap (·.payloadData)) := by
  unfold retrieveData
  dsimp only
  change (if fileSize persistency = 0 then _ else _) = _
  split
  . rfl
  . rename_i hsize
    change (if (persistency.read access (fileSize persistency) .EDGE_TO_CLOUD_PAYLOAD).1 ≠ .SUCCESS then
      _ else _) = _
    split
    . rfl
    . rename_i hread
      have hvisited : visited snappy persistency access memory
          = visits snappy (loadedBuffer persistency access memory) (fileSize persistency) 0 := by
        unfold visited
        rw [if_neg (by tauto)]
      rw [hvisited]
      exact parse_eq (by omega) []

variable {snappy} {persistency} {access} {memory}

theorem handsOut_visited
    : (retrieveData snappy persistency access memory).2
        =
      (visited snappy persistency access memory).filterMap (·.payloadData) := by
  rw [retrieveData_eq]
  split
  . rename_i hsize
    simp [visited, hsize]
  . split
    . rename_i hread
      simp [visited, hread]
    . rfl

theorem tolerates_iff
    : Tolerates snappy persistency access memory
        ↔
      ∀ visit ∈ visited snappy persistency access memory, visit.Sound (loadedBytes persistency access) := by
  constructor
  . intro h visit hvisit
    exact ⟨h.inside visit hvisit, h.complete visit hvisit⟩
  . intro h
    refine ⟨?_, handsOut_visited, fun visit hvisit => (h visit hvisit).inside,
      fun visit hvisit => (h visit hvisit).complete⟩
    intro fuel hfuel
    rw [parse_eq hfuel, parse_eq (by omega)]

theorem visited_eq_nil
    (h : (persistency.read access (fileSize persistency) .EDGE_TO_CLOUD_PAYLOAD).1 ≠ .SUCCESS)
    : visited snappy persistency access memory = [] := by
  unfold visited
  exact if_pos (Or.inr h)

theorem read_fails (h : access ≠ .good)
    : (persistency.read access (fileSize persistency) .EDGE_TO_CLOUD_PAYLOAD).1 ≠ .SUCCESS := by
  unfold CacheAndPersist.read CacheAndPersist.file?
  cases access with
  | good => contradiction
  | notOpen => simp
  | failed moved =>
    dsimp only
    split <;> simp

theorem read_good_eq (h : persistency.mCollectedDataFile.take persistency.mMaxPersistencePartitionSize ≠ [])
    : persistency.read .good (fileSize persistency) .EDGE_TO_CLOUD_PAYLOAD
        =
      (.SUCCESS, persistency.mCollectedDataFile.take persistency.mMaxPersistencePartitionSize) := by
  have hlength := List.length_pos_iff.mpr h
  rw [List.length_take] at hlength
  unfold CacheAndPersist.read CacheAndPersist.file? fileSize CacheAndPersist.getSize CacheAndPersist.file?
  dsimp only
  rw [if_neg (by omega), min_comm persistency.mMaxPersistencePartitionSize.val, ← min_assoc, min_self]
  rw [min_comm, ← List.take_take, List.take_length]

theorem read_good_empty (h : persistency.mCollectedDataFile.take persistency.mMaxPersistencePartitionSize = [])
    : (persistency.read .good (fileSize persistency) .EDGE_TO_CLOUD_PAYLOAD).1 ≠ .SUCCESS := by
  have hlength := congrArg List.length h
  rw [List.length_take, List.length_nil] at hlength
  unfold CacheAndPersist.read CacheAndPersist.file? fileSize CacheAndPersist.getSize CacheAndPersist.file?
  dsimp only
  rw [if_pos hlength]
  simp

variable (snappy) (persistency) (access) (memory)

theorem retrieveData_tolerates_iff
    : Tolerates snappy persistency access memory ↔ SafeFile snappy persistency access := by
  rw [tolerates_iff]
  unfold SafeFile
  by_cases haccess : access = .good
  . subst haccess
    by_cases hnil : persistency.mCollectedDataFile.take persistency.mMaxPersistencePartitionSize = []
    . rw [visited_eq_nil (read_good_empty hnil)]
      simp [hnil]
    . have hread := read_good_eq hnil
      have hbytes : loadedBytes persistency .good
          = persistency.mCollectedDataFile.take persistency.mMaxPersistencePartitionSize := by
        unfold loadedBytes
        rw [hread]
      have hsize : fileSize persistency = persistency.mCollectedDataFile.length := rfl
      have hpos := List.length_pos_iff.mpr hnil
      have hloaded : (loadedBytes persistency .good).length
          = min persistency.mMaxPersistencePartitionSize.val persistency.mCollectedDataFile.length := by
        rw [hbytes, List.length_take]
      rw [List.length_take] at hpos
      have hvisited : visited snappy persistency .good memory
          = visits snappy (loadedBuffer persistency .good memory) (fileSize persistency) 0 := by
        unfold visited
        rw [hread, if_neg (by simp; omega)]
      have hbuffer : ∀ i (h : i < (loadedBytes persistency .good).length),
          loadedBuffer persistency .good memory i = (loadedBytes persistency .good)[i] := by
        intro i hi
        unfold loadedBuffer
        rw [List.getD_eq_getElem?_getD, List.getElem?_eq_getElem hi, Option.getD_some]
      have hiff := @visits_sound_iff snappy _ _ (fileSize persistency) hbuffer (by omega) 0 (Nat.zero_le _)
      have hwhole : ((loadedBytes persistency .good).length = fileSize persistency)
          = (persistency.mCollectedDataFile.length ≤ persistency.mMaxPersistencePartitionSize) := by
        rw [hloaded, hsize, eq_iff_iff]
        omega
      rw [List.drop_zero] at hiff
      simp only [hwhole] at hiff
      rw [hvisited, hiff, hbytes]
      simp [hnil]
  . rw [visited_eq_nil (read_fails haccess)]
    simp [haccess]

def cutFile : CacheAndPersist where
  mCollectedDataFile := [1, 5, 0, 0, 0, 0, 0, 0, 0, 0xAA, 0xBB]
  mMaxPersistencePartitionSize := ⟨1024, by decide⟩

example : retrieveData ⟨id, some⟩ cutFile .good (fun _ => 0) = (.SUCCESS, [[0xAA, 0xBB]]) := by
  decide

theorem not_tolerates_cutFile : ¬Tolerates ⟨id, some⟩ cutFile .good (fun _ => 0) := by
  intro h
  have hvisited : visitAt ⟨id, some⟩ (loadedBuffer cutFile .good fun _ => 0) 11 0
      ∈ visited ⟨id, some⟩ cutFile .good fun _ => 0 := by
    have hsize : fileSize cutFile = 11 := rfl
    unfold visited
    rw [if_neg (by decide), hsize, visits_of_lt (by decide)]
    exact List.mem_cons_self
  have hcomplete := h.complete _ hvisited (by decide)
  revert hcomplete
  decide

end Retrieval

end PayloadManager

end OffboardConnectivity
