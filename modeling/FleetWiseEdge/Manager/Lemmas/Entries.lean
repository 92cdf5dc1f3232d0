import FleetWiseEdge.Manager.Lemmas.Timeline

/-!
This module contains what the functions of the collection scheme manager do under one ID: a list with distinct
IDs is processed ID by ID.
-/

namespace DataManagement

open Cpp DataInspection

namespace CollectionSchemeManager

variable {V : Type} {s : CollectionSchemeManager V} {c : CollectionScheme V} {currTime : Nat} {id : String}
variable {collectionSchemeList : List (CollectionScheme V)} {ret : Bool}

/--
What the two maps have under an ID: the enabled and the idle collection scheme.
-/
abbrev Entry (V : Type) := Option (CollectionScheme V) × Option (CollectionScheme V)

def entryAt (s : CollectionSchemeManager V) (id : String) : Entry V :=
  (s.mEnabledCollectionSchemeMap[id]?, s.mIdleCollectionSchemeMap[id]?)

theorem entryAt_of_empty (henabled : s.mEnabledCollectionSchemeMap = ∅)
    (hidle : s.mIdleCollectionSchemeMap = ∅) (id : String)
    : s.entryAt id = (none, none) := by
  simp [entryAt, henabled, hidle]

def rebuiltEntry (currTime : Nat) (c : CollectionScheme V) (entry : Entry V) : Entry V :=
  if c.startTime > currTime then
    (entry.1, some c)
  else if c.expiryTime > currTime then
    (some c, entry.2)
  else
    entry

def updatedEntry (currTime : Nat) (c : CollectionScheme V) (entry : Entry V) : Entry V :=
  match entry with
  | (some curr, idle) =>
    if c.expiryTime ≤ currTime then
      (none, idle)
    else if c.expiryTime ≠ curr.expiryTime then
      (some c, idle)
    else
      (some curr, idle)
  | (none, some curr) =>
    if c.startTime ≤ currTime ∧ c.expiryTime > currTime then
      (some c, none)
    else if c.startTime > currTime ∧ (c.startTime ≠ curr.startTime ∨ c.expiryTime ≠ curr.expiryTime) then
      (none, some c)
    else
      (none, some curr)
  | (none, none) =>
    if c.startTime ≤ currTime ∧ c.expiryTime > currTime then
      (some c, none)
    else if c.startTime > currTime then
      (none, some c)
    else
      (none, none)

theorem updatedEntry_none {entry : Entry V} (h : updatedEntry currTime c entry = (none, none))
    : c.expiryTime ≤ currTime := by
  unfold updatedEntry at h
  split at h
  . split at h
    . assumption
    . split at h <;> simp at h
  . split at h
    . simp at h
    . split at h <;> simp at h
  . split at h
    . simp at h
    . split at h
      . simp at h
      . omega

theorem updatedEntry_enabled {entry : Entry V} {e : CollectionScheme V}
    (h : (updatedEntry currTime c entry).1 = some e)
    : e.startTime ≤ currTime ∨ ∃ curr, entry.1 = some curr ∧ (e = c ∨ e = curr) := by
  unfold updatedEntry at h
  split at h
  . next curr idle =>
    apply Or.inr
    exists curr
    split at h
    . cases h
    . split at h <;> simp_all
  . split at h
    . cases h
      omega
    . split at h <;> cases h
  . split at h
    . cases h
      omega
    . split at h <;> cases h

theorem updateScheme_entryAt
    : (s.updateScheme currTime c).1.entryAt id
        =
      if c.collectionSchemeID = id then updatedEntry currTime c (s.entryAt id) else s.entryAt id := by
  unfold updateScheme entryAt
  dsimp only
  by_cases heq : c.collectionSchemeID = id
  . rw [if_pos heq, ← heq]
    unfold updatedEntry
    cases henabled : s.mEnabledCollectionSchemeMap[c.collectionSchemeID]? with
    | some curr =>
      dsimp only
      split
      . simp
      . split <;> simp [henabled]
    | none =>
      cases hidle : s.mIdleCollectionSchemeMap[c.collectionSchemeID]? with
      | some curr =>
        dsimp only
        split
        . simp
        . split <;> simp [henabled, hidle]
      | none =>
        dsimp only
        split
        . simp [hidle]
        . split <;> simp [henabled, hidle]
  . rw [if_neg heq]
    repeat' split
    all_goals simp [heq]

def schemeOf (collectionSchemeList : List (CollectionScheme V)) (id : String)
    : Option (CollectionScheme V) :=
  collectionSchemeList.find? fun c => c.collectionSchemeID = id

theorem schemeOf_eq_none_iff
    : schemeOf collectionSchemeList id = none ↔ ∀ c ∈ collectionSchemeList, c.collectionSchemeID ≠ id := by
  simp [schemeOf]

theorem mem_of_schemeOf (h : schemeOf collectionSchemeList id = some c)
    : c ∈ collectionSchemeList ∧ c.collectionSchemeID = id := by
  constructor
  . apply List.mem_of_find?_eq_some h
  . simpa using List.find?_some h

theorem schemeOf_of_mem (hnodup : (collectionSchemeList.map (·.collectionSchemeID)).Nodup)
    (hc : c ∈ collectionSchemeList)
    : schemeOf collectionSchemeList c.collectionSchemeID = some c := by
  cases hfind : schemeOf collectionSchemeList c.collectionSchemeID with
  | none => exact absurd rfl (schemeOf_eq_none_iff.mp hfind c hc)
  | some c' =>
    have ⟨hmem, hid⟩ := mem_of_schemeOf hfind
    rw [List.inj_on_of_nodup_map hnodup hmem hc hid]

theorem schemeOf_cons {rest : List (CollectionScheme V)}
    : schemeOf (c :: rest) id = if c.collectionSchemeID = id then some c else schemeOf rest id := by
  unfold schemeOf
  rw [List.find?_cons]
  by_cases heq : c.collectionSchemeID = id <;> simp [heq]

section Loops

def entryAfter (f : CollectionScheme V → Entry V → Entry V) (collectionSchemeList : List (CollectionScheme V))
    (id : String) (entry : Entry V)
    : Entry V :=
  match schemeOf collectionSchemeList id with
  | none => entry
  | some c => f c entry

def schemesOf (collectionSchemeList : List (CollectionScheme V)) (id : String)
    : List (CollectionScheme V) :=
  collectionSchemeList.filter fun c => c.collectionSchemeID = id

def foldEntry (f : CollectionScheme V → Entry V → Entry V) (collectionSchemeList : List (CollectionScheme V))
    (id : String) (entry : Entry V)
    : Entry V :=
  (schemesOf collectionSchemeList id).foldl (fun entry c => f c entry) entry

theorem foldEntry_cons {f : CollectionScheme V → Entry V → Entry V} {rest : List (CollectionScheme V)}
    {entry : Entry V}
    : foldEntry f (c :: rest) id entry
        =
      foldEntry f rest id (if c.collectionSchemeID = id then f c entry else entry) := by
  unfold foldEntry schemesOf
  rw [List.filter_cons]
  by_cases heq : c.collectionSchemeID = id <;> simp [heq]

theorem schemesOf_eq_nil_iff
    : schemesOf collectionSchemeList id = [] ↔ id ∉ collectionSchemeList.map (·.collectionSchemeID) := by
  simp [schemesOf]

theorem foldEntry_eq_entryAfter {f : CollectionScheme V → Entry V → Entry V} {entry : Entry V}
    (hnodup : (collectionSchemeList.map (·.collectionSchemeID)).Nodup)
    : foldEntry f collectionSchemeList id entry = entryAfter f collectionSchemeList id entry := by
  induction collectionSchemeList generalizing entry with
  | nil => rfl
  | cons c rest ih =>
    have ⟨hnew, hrest⟩ := List.nodup_cons.mp hnodup
    rw [foldEntry_cons]
    unfold entryAfter
    rw [schemeOf_cons]
    by_cases heq : c.collectionSchemeID = id
    . rw [if_pos heq, if_pos heq]
      have hnew : id ∉ rest.map (·.collectionSchemeID) := heq ▸ hnew
      unfold foldEntry
      rw [schemesOf_eq_nil_iff.mpr hnew]
      rfl
    . rw [if_neg heq, if_neg heq]
      exact ih hrest

theorem updateLoop_foldEntry (currTime : Nat) (ret : Bool)
    (hmanifest : ∀ c ∈ collectionSchemeList, c.decoderManifestID = s.currentDecoderManifestID)
    : ∃ s' ret', updateLoop currTime collectionSchemeList ret s = (s', some ret')
        ∧ ∀ id, s'.entryAt id = foldEntry (updatedEntry currTime) collectionSchemeList id (s.entryAt id) := by
  induction collectionSchemeList generalizing s ret with
  | nil => exact ⟨s, ret, rfl, fun _ => rfl⟩
  | cons c rest ih =>
    unfold updateLoop
    have hc : ¬c.decoderManifestID ≠ s.currentDecoderManifestID := by
      simp [hmanifest c List.mem_cons_self]
    rw [if_neg hc]
    have hmanifest' (c' : CollectionScheme V) (hc' : c' ∈ rest)
        : c'.decoderManifestID = (s.updateScheme currTime c).1.currentDecoderManifestID := by
      rw [updateScheme_currentDecoderManifestID]
      apply hmanifest c' (List.mem_cons_of_mem _ hc')
    obtain ⟨s', ret', hloop, hentries⟩ := ih (ret || (s.updateScheme currTime c).2) hmanifest'
    refine ⟨s', ret', hloop, ?_⟩
    intro id
    rw [hentries, updateScheme_entryAt, foldEntry_cons]

theorem updateLoop_entryAt (currTime : Nat) (ret : Bool)
    (hnodup : (collectionSchemeList.map (·.collectionSchemeID)).Nodup)
    (hmanifest : ∀ c ∈ collectionSchemeList, c.decoderManifestID = s.currentDecoderManifestID)
    : ∃ s' ret', updateLoop currTime collectionSchemeList ret s = (s', some ret')
        ∧ ∀ id, s'.entryAt id = entryAfter (updatedEntry currTime) collectionSchemeList id (s.entryAt id) := by
  have ⟨s', ret', hloop, hentries⟩ := updateLoop_foldEntry currTime ret hmanifest
  refine ⟨s', ret', hloop, ?_⟩
  intro id
  rw [hentries, foldEntry_eq_entryAfter hnodup]

theorem updateLoop_mismatch (currTime : Nat) (ret : Bool)
    (hmismatch : ∃ c ∈ collectionSchemeList, c.decoderManifestID ≠ s.currentDecoderManifestID)
    : ∃ s', updateLoop currTime collectionSchemeList ret s = (s', none)
        ∧ s'.mEnabledCollectionSchemeMap = ∅ ∧ s'.mIdleCollectionSchemeMap = ∅ := by
  induction collectionSchemeList generalizing s ret with
  | nil => simp at hmismatch
  | cons c rest ih =>
    unfold updateLoop
    split
    . exact ⟨_, rfl, cleanupCollectionSchemes_empty⟩
    . next hc =>
      obtain ⟨c', hc', hne⟩ := hmismatch
      have hrest : ∃ c' ∈ rest,
          c'.decoderManifestID ≠ (s.updateScheme currTime c).1.currentDecoderManifestID := by
        rw [updateScheme_currentDecoderManifestID]
        cases List.mem_cons.mp hc' with
        | inl heq =>
          rw [heq] at hne
          exact absurd hne hc
        | inr hmem => exact ⟨c', hmem, hne⟩
      apply ih _ hrest

theorem rebuildLoop_foldEntry
    (hmanifest : ∀ c ∈ collectionSchemeList, c.decoderManifestID = s.currentDecoderManifestID)
    : (rebuildLoop currTime collectionSchemeList ret s).1.entryAt id
        =
      foldEntry (rebuiltEntry currTime) collectionSchemeList id (s.entryAt id) := by
  induction collectionSchemeList generalizing s ret with
  | nil => rfl
  | cons c rest ih =>
    have hmanifest' (c' : CollectionScheme V) (hc' : c' ∈ rest)
        : c'.decoderManifestID = s.currentDecoderManifestID :=
      hmanifest c' (List.mem_cons_of_mem _ hc')
    unfold rebuildLoop
    have hc : ¬c.decoderManifestID ≠ s.currentDecoderManifestID := by
      simp [hmanifest c List.mem_cons_self]
    rw [if_neg hc, foldEntry_cons]
    dsimp only
    split
    . next hlt =>
      refine (ih ?_).trans ?_
      . exact hmanifest'
      . congr 1
        by_cases heq : c.collectionSchemeID = id <;> simp [entryAt, rebuiltEntry, hlt, heq]
    . next hge =>
      split
      . next hlt =>
        refine (ih ?_).trans ?_
        . exact hmanifest'
        . congr 1
          by_cases heq : c.collectionSchemeID = id <;> simp [entryAt, rebuiltEntry, hge, hlt, heq]
      . next hge' =>
        refine (ih ?_).trans ?_
        . exact hmanifest'
        . congr 1
          simp [rebuiltEntry, hge, hge']

theorem rebuildLoop_entryAt (hnodup : (collectionSchemeList.map (·.collectionSchemeID)).Nodup)
    (hmanifest : ∀ c ∈ collectionSchemeList, c.decoderManifestID = s.currentDecoderManifestID)
    : (rebuildLoop currTime collectionSchemeList ret s).1.entryAt id
        =
      entryAfter (rebuiltEntry currTime) collectionSchemeList id (s.entryAt id) := by
  rw [rebuildLoop_foldEntry hmanifest, foldEntry_eq_entryAfter hnodup]

theorem rebuildLoop_mismatch (hmismatch : ∃ c ∈ collectionSchemeList, c.decoderManifestID ≠ s.currentDecoderManifestID)
    : (rebuildLoop currTime collectionSchemeList ret s).1.mEnabledCollectionSchemeMap = ∅
        ∧ (rebuildLoop currTime collectionSchemeList ret s).1.mIdleCollectionSchemeMap = ∅
        ∧ (rebuildLoop currTime collectionSchemeList ret s).2 = false := by
  induction collectionSchemeList generalizing s ret with
  | nil => simp at hmismatch
  | cons c rest ih =>
    unfold rebuildLoop
    split
    . exact ⟨cleanupCollectionSchemes_empty.1, cleanupCollectionSchemes_empty.2, rfl⟩
    . next hc =>
      obtain ⟨c', hc', hne⟩ := hmismatch
      have hrest : ∃ c ∈ rest, c.decoderManifestID ≠ s.currentDecoderManifestID := by
        cases List.mem_cons.mp hc' with
        | inl heq =>
          rw [heq] at hne
          exact absurd hne hc
        | inr hmem => exact ⟨c', hmem, hne⟩
      dsimp only
      split
      . apply ih
        exact hrest
      . split
        . apply ih
          exact hrest
        . apply ih hrest

end Loops

theorem removeMissing_entryAt {newCollectionSchemeIDs : List String}
    : (s.removeMissing newCollectionSchemeIDs).1.entryAt id
        =
      if id ∈ newCollectionSchemeIDs then s.entryAt id else (none, none) := by
  simp only [removeMissing, entryAt, SchemeMap.getElem?_filter, List.contains_iff_mem]
  split <;> rfl

theorem updateMapsandTimeLine_entryAt (currTime : Nat) (id : String)
    {list : CollectionSchemeIngestionList V}
    (hlist : s.mCollectionSchemeList = some list)
    (hnodup : (list.getCollectionSchemes.map (·.collectionSchemeID)).Nodup)
    (hmanifest : ∀ c ∈ list.getCollectionSchemes, c.decoderManifestID = s.currentDecoderManifestID)
    : (s.updateMapsandTimeLine currTime).1.entryAt id
        =
      match schemeOf list.getCollectionSchemes id with
      | none => (none, none)
      | some c => updatedEntry currTime c (s.entryAt id) := by
  have ⟨s', ret, hloop, hentries⟩ :=
    updateLoop_entryAt currTime false hnodup hmanifest
  unfold updateMapsandTimeLine
  simp only [hlist, hloop, removeMissing_entryAt, hentries, entryAfter, List.mem_map]
  cases hfind : schemeOf list.getCollectionSchemes id with
  | none =>
    have hnone := schemeOf_eq_none_iff.mp hfind
    rw [if_neg]
    intro ⟨c, hc, heq⟩
    exact hnone c hc heq
  | some c =>
    rw [if_pos ⟨c, mem_of_schemeOf hfind⟩]

end CollectionSchemeManager

end DataManagement
