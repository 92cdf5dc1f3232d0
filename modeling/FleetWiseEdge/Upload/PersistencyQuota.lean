import FleetWiseEdge.Upload.Impl.Persistency
import FleetWiseEdge.Lib.Machine

namespace PersistencyManagement

inductive Operation where
  | write (bufPtr : Option Bytes) (dataType : DataType)
  | erase (dataType : DataType)
  deriving DecidableEq, Repr

namespace Operation

def dataType (op : Operation) : DataType :=
  match op with
  | .write _ dataType => dataType
  | .erase dataType => dataType

def content (op : Operation) (old : Bytes) : Bytes :=
  match op with
  | .write bufPtr dataType => (if dataType = .EDGE_TO_CLOUD_PAYLOAD then old else []) ++ bufPtr.getD []
  | .erase _ => []

theorem foldl_content {ops : List Operation} (h : ∀ op ∈ ops, ∀ old, op.content old = old ++ op.content [])
    (old : Bytes)
    : ops.foldl (fun old op => op.content old) old = old ++ ops.flatMap fun op => op.content [] := by
  induction ops generalizing old with
  | nil => simp
  | cons op ops ih =>
    rw [List.foldl_cons, List.flatMap_cons, h op (by simp), ih fun op' hop' => h op' (by simp [hop'])]
    rw [List.append_assoc]

end Operation

namespace CacheAndPersist

def apply (persistency : CacheAndPersist) (op : Operation) : CacheAndPersist × ErrorCode :=
  match op with
  | .write bufPtr dataType => persistency.writePointer .good bufPtr dataType
  | .erase dataType => persistency.erase .good dataType

def step (persistency : CacheAndPersist) (op : Operation) : CacheAndPersist × List (Operation × ErrorCode) :=
  ((persistency.apply op).1, [(op, (persistency.apply op).2)])

def total (persistency : CacheAndPersist) : Nat :=
  persistency.mCollectionSchemeListFile.length + persistency.mDecoderManifestFile.length
    + persistency.mCollectedDataFile.length

section Files

variable {persistency : CacheAndPersist} {dataType : DataType} {old new : Bytes}

theorem file?_setFile_self (h : persistency.file? dataType = some old)
    : (persistency.setFile dataType new).file? dataType = some new := by
  cases dataType with
  | DEFAULT_DATA_TYPE => contradiction
  | _ => rfl

theorem file?_setFile_of_ne {other : DataType} (h : other ≠ dataType)
    : (persistency.setFile dataType new).file? other = persistency.file? other := by
  cases dataType <;> cases other <;> first | rfl | contradiction

theorem total_setFile (h : persistency.file? dataType = some old)
    : (persistency.setFile dataType new).total + old.length = persistency.total + new.length := by
  unfold total
  cases dataType with
  | DEFAULT_DATA_TYPE => contradiction
  | _ =>
    have := Option.some_inj.mp h
    simp only [setFile, ← this]
    omega

@[simp]
theorem max_setFile
    : (persistency.setFile dataType new).mMaxPersistencePartitionSize
        =
      persistency.mMaxPersistencePartitionSize := by
  cases dataType <;> rfl

theorem length_le_total (h : persistency.file? dataType = some old) : old.length ≤ persistency.total := by
  have := @total_setFile persistency dataType old [] h
  rw [List.length_nil] at this
  omega

end Files

section Apply

variable {persistency : CacheAndPersist}

theorem apply_cases (persistency : CacheAndPersist) (op : Operation)
    : (∃ code, code ≠ .SUCCESS ∧ persistency.apply op = (persistency, code))
        ∨
      ∃ old, persistency.file? op.dataType = some old
        ∧ persistency.apply op = (persistency.setFile op.dataType (op.content old), .SUCCESS)
        ∧ (persistency.total + (op.content []).length < persistency.mMaxPersistencePartitionSize
          ∨ op.content old = []) := by
  cases op with
  | write bufPtr dataType =>
    unfold apply writePointer Operation.dataType Operation.content
    cases bufPtr with
    | none => exact Or.inl ⟨.INVALID_DATA, by decide, rfl⟩
    | some buf =>
      dsimp only
      unfold write
      split
      . exact Or.inl ⟨.MEMORY_FULL, by decide, rfl⟩
      . rename_i hquota
        cases hfile : persistency.file? dataType with
        | none => exact Or.inl ⟨.INVALID_DATATYPE, by decide, rfl⟩
        | some old =>
          refine Or.inr ⟨old, rfl, rfl, Or.inl ?_⟩
          simp only [getSize, file?] at hquota
          unfold total
          simp
          omega
  | erase dataType =>
    unfold apply erase Operation.dataType
    dsimp only
    cases hfile : persistency.file? dataType with
    | none => exact Or.inl ⟨.INVALID_DATATYPE, by decide, rfl⟩
    | some old => exact Or.inr ⟨old, rfl, rfl, Or.inr rfl⟩

def InQuota (persistency : CacheAndPersist) : Prop :=
  persistency.total < persistency.mMaxPersistencePartitionSize

instance (persistency : CacheAndPersist) : Decidable persistency.InQuota :=
  inferInstanceAs (Decidable (persistency.total < persistency.mMaxPersistencePartitionSize))

theorem length_content (op : Operation) (old : Bytes)
    : (op.content old).length ≤ old.length + (op.content []).length := by
  unfold Operation.content
  cases op with
  | write bufPtr dataType =>
    dsimp only
    split <;> simp
  | erase dataType => simp

theorem InQuota.apply (h : persistency.InQuota) (op : Operation) : (persistency.apply op).1.InQuota := by
  unfold InQuota at h ⊢
  obtain ⟨code, _, heq⟩ | ⟨old, hfile, heq, hroom⟩ := apply_cases persistency op
  . rw [heq]
    exact h
  . rw [heq]
    have htotal := @total_setFile persistency _ old (op.content old) hfile
    have hlength := length_content op old
    dsimp only
    rw [max_setFile]
    cases hroom with
    | inl hroom => omega
    | inr hnil =>
      rw [hnil, List.length_nil] at htotal
      rw [hnil]
      omega

theorem apply_rejected {op : Operation} (h : (persistency.apply op).2 ≠ .SUCCESS)
    : (persistency.apply op).1 = persistency := by
  obtain ⟨code, _, heq⟩ | ⟨old, _, heq, _⟩ := apply_cases persistency op
  . rw [heq]
  . rw [heq] at h
    contradiction

theorem apply_success {op : Operation} (h : (persistency.apply op).2 = .SUCCESS)
    : ∃ old, persistency.file? op.dataType = some old
        ∧ (persistency.apply op).1.file? op.dataType = some (op.content old)
        ∧ ∀ other, other ≠ op.dataType → (persistency.apply op).1.file? other = persistency.file? other := by
  obtain ⟨code, hcode, heq⟩ | ⟨old, hfile, heq, _⟩ := apply_cases persistency op
  . rw [heq] at h
    contradiction
  . rw [heq]
    exact ⟨old, hfile, file?_setFile_self hfile, fun other hne => file?_setFile_of_ne hne⟩

end Apply

section Runs

variable {persistency : CacheAndPersist} {dataType : DataType}

def after (persistency : CacheAndPersist) (ops : List Operation) : CacheAndPersist :=
  (Machine.run step persistency ops).1

def log (persistency : CacheAndPersist) (ops : List Operation) : List (Operation × ErrorCode) :=
  (Machine.run step persistency ops).2

theorem InQuota.after (h : persistency.InQuota) (ops : List Operation) : (persistency.after ops).InQuota :=
  Machine.run_invariant InQuota (fun _ _ => True) (fun _ op _ hquota => hquota.apply op) h Machine.always_true

def successes (dataType : DataType) (log : List (Operation × ErrorCode)) : List Operation :=
  (log.filter fun entry => entry.1.dataType = dataType ∧ entry.2 = .SUCCESS).map Prod.fst

theorem file?_after (ops : List Operation)
    : (persistency.after ops).file? dataType
        =
      (persistency.file? dataType).map fun old =>
        (successes dataType (persistency.log ops)).foldl (fun old op => op.content old) old := by
  induction ops generalizing persistency with
  | nil =>
    change persistency.file? dataType = (persistency.file? dataType).map fun old => old
    rw [Option.map_id']
  | cons op ops ih =>
    have hcons : persistency.log (op :: ops)
        = (op, (persistency.apply op).2) :: (persistency.apply op).1.log ops := rfl
    have hafter : persistency.after (op :: ops) = (persistency.apply op).1.after ops := rfl
    rw [hafter, hcons, ih]
    unfold successes
    by_cases hsuccess : (persistency.apply op).2 = .SUCCESS
    . have ⟨old, hfile, hnew, hother⟩ := apply_success hsuccess
      by_cases hown : op.dataType = dataType
      . subst hown
        rw [hnew, hfile, List.filter_cons_of_pos (by simp [hsuccess])]
        rfl
      . rw [hother dataType (Ne.symm hown), List.filter_cons_of_neg (by simp [hown])]
    . rw [apply_rejected hsuccess, List.filter_cons_of_neg (by simp [hsuccess])]

def written (dataType : DataType) (log : List (Operation × ErrorCode)) : Bytes :=
  (successes dataType log).flatMap fun op => op.content []

theorem mem_of_mem_successes {op : Operation} {ops : List Operation}
    (h : op ∈ successes dataType (persistency.log ops))
    : op ∈ ops ∧ op.dataType = dataType := by
  obtain ⟨entry, hentry, rfl⟩ := List.mem_map.mp h
  rw [List.mem_filter, decide_eq_true_eq] at hentry
  refine ⟨?_, hentry.2.1⟩
  have hmem := hentry.1
  clear h hentry
  induction ops generalizing persistency with
  | nil => contradiction
  | cons op' ops ih =>
    cases List.mem_cons.mp hmem with
    | inl heq =>
      rw [heq]
      exact List.mem_cons_self
    | inr hrest => exact List.mem_cons_of_mem _ (ih hrest)

theorem payloads_after {old : Bytes} (hfile : persistency.file? .EDGE_TO_CLOUD_PAYLOAD = some old)
    {ops : List Operation} (hops : .erase .EDGE_TO_CLOUD_PAYLOAD ∉ ops)
    : (persistency.after ops).file? .EDGE_TO_CLOUD_PAYLOAD
        =
      some (old ++ written .EDGE_TO_CLOUD_PAYLOAD (persistency.log ops)) := by
  have hwrites : ∀ op ∈ successes .EDGE_TO_CLOUD_PAYLOAD (persistency.log ops),
      ∀ old, op.content old = old ++ op.content [] := by
    intro op hop old
    have ⟨hmem, htype⟩ := mem_of_mem_successes hop
    unfold Operation.dataType at htype
    cases op with
    | write bufPtr dataType => simp_all [Operation.content]
    | erase dataType => exact absurd (htype ▸ hmem) hops
  rw [file?_after, hfile, Option.map_some]
  rw [Operation.foldl_content hwrites]
  rfl

theorem overwritten_after {buf : Bytes} (htype : dataType ≠ .EDGE_TO_CLOUD_PAYLOAD)
    (hsuccess : (persistency.apply (.write (some buf) dataType)).2 = .SUCCESS) {ops : List Operation}
    (hops : successes dataType ((persistency.apply (.write (some buf) dataType)).1.log ops) = [])
    : ((persistency.apply (.write (some buf) dataType)).1.after ops).file? dataType = some buf := by
  have ⟨old, _, hnew, _⟩ := apply_success hsuccess
  change _ = some ((if dataType = .EDGE_TO_CLOUD_PAYLOAD then old else []) ++ buf) at hnew
  rw [if_neg htype, List.nil_append] at hnew
  rw [file?_after, hops]
  change (_ : CacheAndPersist).file? dataType = _ at hnew
  rw [hnew]
  rfl

def readResult (content : Bytes) (size : Nat) : ErrorCode × Bytes :=
  if content = [] then (.EMPTY, []) else (.SUCCESS, content.take size)

theorem InQuota.read (h : persistency.InQuota) {content : Bytes}
    (hfile : persistency.file? dataType = some content) (size : Nat)
    : persistency.read .good size dataType = readResult content size := by
  have hle := length_le_total hfile
  unfold InQuota at h
  have hsize : persistency.getSize dataType = content.length := by
    unfold getSize
    rw [hfile]
  unfold CacheAndPersist.read readResult
  rw [hfile]
  dsimp only
  rw [hsize, Nat.min_eq_right (by omega), ← List.take_take, List.take_length]
  simp only [List.length_eq_zero_iff]

theorem persistency_quota (hquota : persistency.InQuota) (ops : List Operation)
    : (persistency.after ops).InQuota
        ∧
      (∀ op, ((persistency.after ops).apply op).2 ≠ .SUCCESS
        → ((persistency.after ops).apply op).1 = persistency.after ops)
        ∧
      (∀ op other, other ≠ op.dataType
        → ((persistency.after ops).apply op).1.file? other = (persistency.after ops).file? other)
        ∧
      (∀ buf dataType later size, dataType ≠ .EDGE_TO_CLOUD_PAYLOAD
        → ((persistency.after ops).apply (.write (some buf) dataType)).2 = .SUCCESS
        → successes dataType (((persistency.after ops).apply (.write (some buf) dataType)).1.log later) = []
        → (((persistency.after ops).apply (.write (some buf) dataType)).1.after later).read .good size dataType
          = readResult buf size)
        ∧
      (∀ later size, .erase .EDGE_TO_CLOUD_PAYLOAD ∉ later
        → (((persistency.after ops).apply (.erase .EDGE_TO_CLOUD_PAYLOAD)).1.after later).read .good size
            .EDGE_TO_CLOUD_PAYLOAD
          = readResult
            (written .EDGE_TO_CLOUD_PAYLOAD
              (((persistency.after ops).apply (.erase .EDGE_TO_CLOUD_PAYLOAD)).1.log later)) size)
        ∧
      ∀ size, .erase .EDGE_TO_CLOUD_PAYLOAD ∉ ops
        → (persistency.after ops).read .good size .EDGE_TO_CLOUD_PAYLOAD
          = readResult
            (persistency.mCollectedDataFile ++ written .EDGE_TO_CLOUD_PAYLOAD (persistency.log ops)) size := by
  have hreached := hquota.after ops
  refine ⟨hreached, ?_, ?_, ?_, ?_, ?_⟩
  . intro op h
    exact apply_rejected h
  . intro op other hne
    by_cases hsuccess : ((persistency.after ops).apply op).2 = .SUCCESS
    . have ⟨_, _, _, hother⟩ := apply_success hsuccess
      exact hother other hne
    . rw [apply_rejected hsuccess]
  . intro buf dataType later size htype hsuccess hlater
    exact ((hreached.apply _).after later).read (overwritten_after htype hsuccess hlater) size
  . intro later size hlater
    exact ((hreached.apply _).after later).read (payloads_after rfl hlater) size
  . intro size hops
    exact hreached.read (payloads_after rfl hops) size

theorem persistency_quota_rejected
    : (after ⟨[], [], [], 8, by decide⟩
        [.write (some [1, 2, 3]) .EDGE_TO_CLOUD_PAYLOAD, .write (some [4, 5, 6, 7, 8]) .DECODER_MANIFEST,
          .write (some [9]) .EDGE_TO_CLOUD_PAYLOAD]).read .good 100 .EDGE_TO_CLOUD_PAYLOAD
        =
      (.SUCCESS, [1, 2, 3, 9]) :=
  (persistency_quota (by decide) _).2.2.2.2.2 100 (by decide)

end Runs

end CacheAndPersist

end PersistencyManagement
