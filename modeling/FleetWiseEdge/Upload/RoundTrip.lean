import FleetWiseEdge.Upload.Lemmas.PayloadManager

namespace OffboardConnectivity

open PersistencyManagement

namespace PayloadManager

structure StoreCall where
  access : FileAccess
  payload : Bytes
  params : CollectionSchemeParams
  deriving DecidableEq, Repr

def storeAll (snappy : Snappy) (persistency : CacheAndPersist) (calls : List StoreCall)
    : CacheAndPersist × List Bool :=
  match calls with
  | [] => (persistency, [])
  | call :: calls =>
    let (persistency, isDataPersisted) :=
      storeData snappy persistency call.access call.payload call.params
    let (persistency, results) := storeAll snappy persistency calls
    (persistency, isDataPersisted :: results)

theorem Represents.storeAll {snappy : Snappy} {persistency : CacheAndPersist} {records : List Stored}
    {calls : List StoreCall} (hrep : Represents snappy persistency records)
    (h : ∀ isDataPersisted ∈ (storeAll snappy persistency calls).2, isDataPersisted = true)
    : Represents snappy (storeAll snappy persistency calls).1
        (records ++ calls.map fun call => ⟨call.payload, call.params⟩) := by
  induction calls generalizing persistency records with
  | nil => simpa [PayloadManager.storeAll] using hrep
  | cons call calls ih =>
    simp only [PayloadManager.storeAll, List.mem_cons, forall_eq_or_imp] at h ⊢
    have hnext := ih (hrep.storeData h.1) h.2
    simpa using hnext

/--
Any payloads, stored one after the other into an empty file, are retrieved complete and in order.
-/
theorem retrieveData_storeAll (snappy : Snappy) (persistency : CacheAndPersist) (calls : List StoreCall)
    (memory : Nat → UInt8)
    (hsnappy : ∀ payload, snappy.Uncompress (snappy.Compress payload) = some payload)
    (hempty : persistency.mCollectedDataFile = []) (hcalls : calls ≠ [])
    (hpersisted : ∀ isDataPersisted ∈ (storeAll snappy persistency calls).2, isDataPersisted = true)
    : retrieveData snappy (storeAll snappy persistency calls).1 .good memory
        =
      (.SUCCESS, calls.map (·.payload)) := by
  have hrep := (represents_nil hempty).storeAll hpersisted
  rw [hrep.retrieveData hsnappy]
  cases calls with
  | nil => contradiction
  | cons call calls => simp

section Example

/--
What snappy makes of at most fifteen bytes: the length and, if there are any, the tag of a literal and the bytes
themselves.
-/
def snappyExample : Snappy where
  Compress := fun payload =>
    match payload with
    | [] => [0]
    | byte :: bytes => UInt8.ofNat (bytes.length + 1) :: UInt8.ofNat (bytes.length * 4) :: byte :: bytes
  Uncompress := fun data => some (data.drop 2)

theorem uncompress_snappyExample (payload : Bytes)
    : snappyExample.Uncompress (snappyExample.Compress payload) = some payload := by
  cases payload <;> rfl

def persistencyExample : CacheAndPersist where
  mMaxPersistencePartitionSize := ⟨131072, by decide⟩

theorem retrieveData_storeAll_three
    : retrieveData snappyExample
          (storeAll snappyExample persistencyExample
            [⟨.good, [1, 2, 3], { persist := true }⟩,
              ⟨.good, [9], { persist := true, compression := true }⟩,
              ⟨.good, [], { persist := true, compression := true }⟩]).1
          .good (fun _ => 0)
        =
      (.SUCCESS, [[1, 2, 3], [9], []]) := by
  apply retrieveData_storeAll
  . exact uncompress_snappyExample
  . rfl
  . simp
  . decide

end Example

end PayloadManager

end OffboardConnectivity
