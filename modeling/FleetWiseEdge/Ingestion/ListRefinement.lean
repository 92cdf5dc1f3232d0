import FleetWiseEdge.Ingestion.MessageConditions

namespace DataManagement

open CollectionSchemesMsg DataInspection CollectionSchemeIngestion

namespace CollectionSchemeIngestionList

variable {V : Type} [InspectionValue V]

inductive ListCall where
  | copyData (inputBuffer : Option (List UInt8))
  | build
  deriving DecidableEq, Repr

def Members.step (parseFromArray : List UInt8 → Option (CollectionSchemes V)) (s : Members V) (call : ListCall)
    : Members V × List Bool :=
  match call with
  | .copyData inputBuffer =>
    let (s, copied) := s.copyData inputBuffer
    (s, [copied])
  | .build =>
    let (s, built) := s.build parseFromArray
    (s, [built])

def acceptable (data : List UInt8) : Bool :=
  data.length ≠ 0 && data.length ≤ COLLECTION_SCHEME_LIST_BYTE_SIZE_LIMIT

def stepDocument (parseFromArray : List UInt8 → Option (CollectionSchemes V)) (memory : Nat → Nat → Nat)
    (document : CollectionSchemeIngestionList V) (call : ListCall)
    : CollectionSchemeIngestionList V × List Bool :=
  match call with
  | .copyData none => ({ document with mReady := false }, [false])
  | .copyData (some data) =>
    if acceptable data then
      ({ content := contentOf parseFromArray memory data }, [true])
    else
      ({ document with mReady := false }, [false])
  | .build =>
    let (document, built) := document.build
    (document, [built])

structure Represents (parseFromArray : List UInt8 → Option (CollectionSchemes V)) (memory : Nat → Nat → Nat)
    (s : Members V) (document : CollectionSchemeIngestionList V)
    : Prop where
  content : document.content = contentOf parseFromArray memory s.mProtoBinaryData
  ready : document.mReady = s.mReady
  built : s.mReady = true →
    document.content = some (s.mVectorCollectionSchemePtr.mapIdx fun i pICPPtr => pICPPtr.collectionScheme (memory i))
  origin : ∀ pICPPtr ∈ s.mVectorCollectionSchemePtr, ∃ scheme,
    (copyData scheme).build.2 = true ∧ pICPPtr = (copyData scheme).build.1

variable {parseFromArray : List UInt8 → Option (CollectionSchemes V)} {memory : Nat → Nat → Nat}
variable {s : Members V} {document : CollectionSchemeIngestionList V}

theorem Represents.copyData (h : Represents parseFromArray memory s document)
    (inputBuffer : Option (List UInt8))
    : Represents parseFromArray memory (s.copyData inputBuffer).1
          (stepDocument parseFromArray memory document (.copyData inputBuffer)).1
        ∧
      (stepDocument parseFromArray memory document (.copyData inputBuffer)).2 = [(s.copyData inputBuffer).2] := by
  have hrefused : Represents parseFromArray memory { s with mReady := false } { document with mReady := false } :=
    ⟨h.content, rfl, nofun, h.origin⟩
  cases inputBuffer with
  | none => exact ⟨hrefused, rfl⟩
  | some data =>
    unfold stepDocument Members.copyData
    dsimp only
    by_cases hempty : data.length = 0
    . have hnot : ¬acceptable data = true := by simp [acceptable, hempty]
      rw [if_pos hempty, if_neg hnot]
      exact ⟨hrefused, rfl⟩
    . rw [if_neg hempty]
      by_cases hlimit : COLLECTION_SCHEME_LIST_BYTE_SIZE_LIMIT < data.length
      . have hnot : ¬acceptable data = true := by simp [acceptable, hlimit]
        rw [if_pos hlimit, if_neg hnot]
        exact ⟨hrefused, rfl⟩
      . have haccept : acceptable data = true := by
          simp only [acceptable, ne_eq, decide_not, Bool.and_eq_true, Bool.not_eq_true', decide_eq_false_iff_not,
            decide_eq_true_eq]
          omega
        rw [if_neg hlimit, if_pos haccept]
        exact ⟨⟨rfl, rfl, nofun, h.origin⟩, rfl⟩

theorem Represents.build (h : Represents parseFromArray memory s document)
    : Represents parseFromArray memory (s.build parseFromArray).1 document.build.1
        ∧
      document.build.2 = (s.build parseFromArray).2 := by
  have hcontent := h.content
  unfold CollectionSchemeIngestionList.build Members.build
  unfold contentOf at hcontent
  by_cases hempty : s.mProtoBinaryData.isEmpty
  . rw [if_pos hempty] at hcontent ⊢
    rw [hcontent]
    exact ⟨h, rfl⟩
  . rw [if_neg hempty] at hcontent ⊢
    cases hparse : parseFromArray s.mProtoBinaryData with
    | none =>
      rw [hparse] at hcontent
      rw [hcontent]
      exact ⟨h, rfl⟩
    | some message =>
      rw [hparse, Option.map_some] at hcontent
      rw [hcontent]
      refine ⟨⟨hcontent.symm.trans h.content, rfl, fun _ => rfl, ?_⟩, rfl⟩
      intro pICPPtr hmem
      have ⟨scheme, _, hbuilt⟩ := mem_buildAll.mp hmem
      exact ⟨scheme, hbuilt⟩

theorem Represents.step (h : Represents parseFromArray memory s document) (call : ListCall)
    : Represents parseFromArray memory (s.step parseFromArray call).1
          (stepDocument parseFromArray memory document call).1
        ∧
      (stepDocument parseFromArray memory document call).2 = (s.step parseFromArray call).2 := by
  cases call with
  | copyData inputBuffer => exact h.copyData inputBuffer
  | build => exact ⟨h.build.1, congrArg ([·]) h.build.2⟩

theorem Represents.run (h : Represents parseFromArray memory s document) (calls : List ListCall)
    : Represents parseFromArray memory (Machine.run (Members.step parseFromArray) s calls).1
          (Machine.run (stepDocument parseFromArray memory) document calls).1
        ∧
      (Machine.run (stepDocument parseFromArray memory) document calls).2
        = (Machine.run (Members.step parseFromArray) s calls).2 := by
  induction calls generalizing s document with
  | nil => exact ⟨h, rfl⟩
  | cons call calls ih =>
    have ⟨hstep, hresult⟩ := h.step call
    have ⟨hrun, hresults⟩ := ih hstep
    rw [Machine.run_cons, Machine.run_cons]
    exact ⟨hrun, by rw [hresult, hresults]⟩

theorem Represents.getCollectionSchemes (h : Represents parseFromArray memory s document)
    : document.getCollectionSchemes
        =
      s.getCollectionSchemes.mapIdx fun i pICPPtr => pICPPtr.collectionScheme (memory i) := by
  unfold CollectionSchemeIngestionList.getCollectionSchemes Members.getCollectionSchemes
  rw [h.ready]
  cases hready : s.mReady with
  | false => rfl
  | true => simp [h.built hready]

theorem Represents.mem_getCollectionSchemes (h : Represents parseFromArray memory s document)
    {pICPPtr : CollectionSchemeIngestion V} (hmem : pICPPtr ∈ s.getCollectionSchemes)
    : ∃ scheme, (CollectionSchemeIngestion.copyData scheme).build.2 = true
        ∧ pICPPtr = (CollectionSchemeIngestion.copyData scheme).build.1 := by
  unfold Members.getCollectionSchemes at hmem
  split at hmem
  . exact h.origin pICPPtr hmem
  . cases hmem

/--
Whatever is copied and built in whatever order, the calls have the results that they have on the document, the
collection schemes are those of the document, and all of them have their IDs and end after they start.
-/
theorem members_refine_document (parseFromArray : List UInt8 → Option (CollectionSchemes V))
    (memory : Nat → Nat → Nat) (calls : List ListCall)
    : let list := Machine.run (Members.step parseFromArray) {} calls
      let document := Machine.run (stepDocument parseFromArray memory) { content := none } calls
      list.2 = document.2
        ∧ document.1.getCollectionSchemes
          = (list.1.getCollectionSchemes.mapIdx fun i pICPPtr => pICPPtr.collectionScheme (memory i))
        ∧ ∀ c ∈ document.1.getCollectionSchemes,
          c.collectionSchemeID ≠ "" ∧ c.decoderManifestID ≠ "" ∧ c.startTime ≤ c.expiryTime := by
  have hinit : Represents parseFromArray memory ({} : Members V) { content := none } :=
    ⟨rfl, rfl, nofun, nofun⟩
  have ⟨hrun, hresults⟩ := hinit.run calls
  refine ⟨hresults.symm, hrun.getCollectionSchemes, ?_⟩
  intro c hc
  rw [hrun.getCollectionSchemes, List.mem_mapIdx] at hc
  have ⟨i, hi, hscheme⟩ := hc
  have ⟨scheme, hbuilt, hobject⟩ := hrun.mem_getCollectionSchemes (List.getElem_mem hi)
  have ⟨hid, hmanifest, htime, hbuild⟩ := Ingested.build_eq hbuilt
  rw [← hscheme, hobject, hbuild]
  exact ⟨hid, hmanifest, htime⟩

end CollectionSchemeIngestionList

end DataManagement
