import FleetWiseEdge.Manager.Lemmas.Documents
import FleetWiseEdge.Manager.Lemmas.Entries
import Mathlib.Data.List.TakeWhile

/-!
This module contains the comparison of `rebuildMapsandTimeLine` and `updateMapsandTimeLine` on empty maps. They
can only differ where a list repeats an ID.
-/

namespace DataManagement

open Cpp DataInspection

section Stretch

variable {α κ : Type} [DecidableEq κ] {key : α → κ} {a b : α} {rest : List α}

/--
The elements at the head of the list that have the key of the first one form a stretch. This is its last
element, the one it started with in a list of the newest ones first.
-/
def stretchStart (key : α → κ) (newestFirst : List α) : Option α :=
  match newestFirst with
  | [] => none
  | a :: older => (a :: older.takeWhile fun b => key b = key a).getLast?

theorem stretchStart_key (h : stretchStart key (a :: rest) = some b) : key b = key a := by
  have hmem : b ∈ a :: rest.takeWhile fun b => key b = key a := List.mem_of_getLast? h
  cases List.mem_cons.mp hmem with
  | inl heq => rw [heq]
  | inr htail => simpa using List.mem_takeWhile_imp htail

theorem stretchStart_cons
    : stretchStart key (a :: rest)
        =
      match stretchStart key rest with
      | none => some a
      | some b => if key a = key b then some b else some a := by
  cases rest with
  | nil => rfl
  | cons c older =>
    cases hstart : stretchStart key (c :: older) with
    | none => simp [stretchStart] at hstart
    | some b =>
      have hkey := stretchStart_key hstart
      unfold stretchStart at hstart ⊢
      dsimp only at hstart ⊢
      rw [List.takeWhile_cons]
      by_cases heq : key c = key a
      . rw [if_pos (by simpa using heq), if_pos (by rw [hkey, heq]), List.getLast?_cons_cons, ← hstart, heq]
      . rw [if_neg (by simpa using heq), if_neg (by rw [hkey]; exact Ne.symm heq)]
        rfl

end Stretch

namespace CollectionSchemeManager

variable {V : Type} {s : CollectionSchemeManager V} {c : CollectionScheme V} {currTime : Nat}
variable {schemes : List (CollectionScheme V)}

def isWaiting (currTime : Nat) (c : CollectionScheme V) : Bool := c.startTime > currTime

def isRunning (currTime : Nat) (c : CollectionScheme V) : Bool :=
  c.startTime ≤ currTime && c.expiryTime > currTime

/--
For the collection schemes of one ID, the last one of the list first. Either none of them is running, and the
last one that waits is the one with which the times it has started to be repeated. Or none of them waits, the
last one is running if any is, and it is the one with which its expiry time started to be repeated.
-/
def RepeatsAgree (currTime : Nat) (schemes : List (CollectionScheme V)) : Prop :=
  (∀ c ∈ schemes, isRunning currTime c = false)
      ∧ stretchStart (fun c => (c.startTime, c.expiryTime)) (schemes.filter (isWaiting currTime))
        = (schemes.filter (isWaiting currTime)).head?
    ∨
  (∀ c ∈ schemes, isWaiting currTime c = false)
      ∧ stretchStart (·.expiryTime) (schemes.takeWhile (isRunning currTime))
        = (schemes.filter (isRunning currTime)).head?

instance [DecidableEq V] (currTime : Nat) (schemes : List (CollectionScheme V))
    : Decidable (RepeatsAgree currTime schemes) :=
  inferInstanceAs (Decidable (_ ∨ _))

def rebuiltFrom (currTime : Nat) (schemes : List (CollectionScheme V)) : Entry V :=
  schemes.foldr (rebuiltEntry currTime) (none, none)

def updatedFrom (currTime : Nat) (schemes : List (CollectionScheme V)) : Entry V :=
  schemes.foldr (updatedEntry currTime) (none, none)

theorem rebuiltFrom_eq (currTime : Nat) (schemes : List (CollectionScheme V))
    : rebuiltFrom currTime schemes
        =
      ((schemes.filter (isRunning currTime)).head?, (schemes.filter (isWaiting currTime)).head?) := by
  unfold rebuiltFrom
  induction schemes with
  | nil => rfl
  | cons c older ih =>
    rw [List.foldr_cons, ih]
    unfold rebuiltEntry
    split
    . next hstart =>
      have hwaiting : isWaiting currTime c = true := by simpa [isWaiting] using hstart
      have hrunning : isRunning currTime c = false := by simp [isRunning]; omega
      simp [hwaiting, hrunning]
    . next hstart =>
      have hwaiting : isWaiting currTime c = false := by simpa [isWaiting] using hstart
      split
      . next hstop =>
        have hrunning : isRunning currTime c = true := by simp [isRunning]; omega
        simp [hwaiting, hrunning]
      . next hstop =>
        have hrunning : isRunning currTime c = false := by simp [isRunning]; omega
        simp [hwaiting, hrunning]

theorem updatedFrom_exclusive (currTime : Nat) (schemes : List (CollectionScheme V))
    : (updatedFrom currTime schemes).1 = none ∨ (updatedFrom currTime schemes).2 = none := by
  unfold updatedFrom
  induction schemes with
  | nil => exact Or.inl rfl
  | cons c older ih =>
    rw [List.foldr_cons]
    generalize older.foldr (updatedEntry currTime) (none, none) = entry at ih
    unfold updatedEntry
    split
    . next curr idle =>
      have hidle : idle = none := by simpa using ih
      rw [hidle]
      split
      . exact Or.inl rfl
      . split <;> exact Or.inr rfl
    . split
      . exact Or.inr rfl
      . split <;> exact Or.inl rfl
    . split
      . exact Or.inr rfl
      . split <;> exact Or.inl rfl

theorem updatedFrom_of_notRunning (h : ∀ c ∈ schemes, isRunning currTime c = false)
    : updatedFrom currTime schemes
        =
      (none, stretchStart (fun c => (c.startTime, c.expiryTime)) (schemes.filter (isWaiting currTime))) := by
  unfold updatedFrom
  induction schemes with
  | nil => rfl
  | cons c older ih =>
    rw [List.foldr_cons, ih fun c' hc' => h c' (List.mem_cons_of_mem _ hc')]
    have hrunning : ¬(c.startTime ≤ currTime ∧ c.expiryTime > currTime) := by
      have := h c List.mem_cons_self
      simpa [isRunning] using this
    by_cases hstart : c.startTime > currTime
    . have hwaiting : isWaiting currTime c = true := by simpa [isWaiting] using hstart
      rw [List.filter_cons_of_pos hwaiting, stretchStart_cons]
      unfold updatedEntry
      cases stretchStart (fun c => (c.startTime, c.expiryTime)) (older.filter (isWaiting currTime)) with
      | none =>
        dsimp only
        rw [if_neg hrunning, if_pos hstart]
      | some curr =>
        dsimp only
        rw [if_neg hrunning]
        by_cases hsame : (c.startTime, c.expiryTime) = (curr.startTime, curr.expiryTime)
        . rw [if_pos hsame]
          rw [Prod.mk.injEq] at hsame
          rw [if_neg (by omega)]
        . rw [if_neg hsame]
          rw [Prod.mk.injEq] at hsame
          rw [if_pos (by omega)]
    . have hwaiting : ¬isWaiting currTime c = true := by simpa [isWaiting] using hstart
      rw [List.filter_cons_of_neg hwaiting]
      unfold updatedEntry
      cases stretchStart (fun c => (c.startTime, c.expiryTime)) (older.filter (isWaiting currTime)) with
      | none =>
        dsimp only
        rw [if_neg hrunning, if_neg hstart]
      | some curr =>
        dsimp only
        rw [if_neg hrunning, if_neg (fun h => hstart h.1)]

theorem updatedFrom_of_notWaiting (h : ∀ c ∈ schemes, isWaiting currTime c = false)
    : updatedFrom currTime schemes
        =
      (stretchStart (·.expiryTime) (schemes.takeWhile (isRunning currTime)), none) := by
  unfold updatedFrom
  induction schemes with
  | nil => rfl
  | cons c older ih =>
    rw [List.foldr_cons, ih fun c' hc' => h c' (List.mem_cons_of_mem _ hc')]
    have hstart : c.startTime ≤ currTime := by
      have := h c List.mem_cons_self
      simpa [isWaiting] using this
    by_cases hstop : c.expiryTime > currTime
    . have hrunning : isRunning currTime c = true := by simp [isRunning, hstart, hstop]
      rw [List.takeWhile_cons_of_pos hrunning, stretchStart_cons]
      unfold updatedEntry
      cases stretchStart (·.expiryTime) (older.takeWhile (isRunning currTime)) with
      | none =>
        dsimp only
        rw [if_pos ⟨hstart, hstop⟩]
      | some curr =>
        dsimp only
        rw [if_neg (by omega)]
        by_cases hsame : c.expiryTime = curr.expiryTime
        . rw [if_pos hsame, if_neg (fun hne => hne hsame)]
        . rw [if_neg hsame, if_pos hsame]
    . have hrunning : ¬isRunning currTime c = true := by simp [isRunning, hstop]
      rw [List.takeWhile_cons_of_neg hrunning]
      unfold updatedEntry
      cases stretchStart (·.expiryTime) (older.takeWhile (isRunning currTime)) with
      | none =>
        dsimp only
        rw [if_neg (fun h => hstop h.2), if_neg (by omega)]
        rfl
      | some curr =>
        dsimp only
        rw [if_pos (by omega)]
        rfl

theorem filter_eq_nil_of_false {p : CollectionScheme V → Bool} (h : ∀ c ∈ schemes, p c = false)
    : schemes.filter p = [] := by
  rw [List.filter_eq_nil_iff]
  intro c hc
  simp [h c hc]

theorem rebuiltFrom_eq_updatedFrom_iff (currTime : Nat) (schemes : List (CollectionScheme V))
    : rebuiltFrom currTime schemes = updatedFrom currTime schemes ↔ RepeatsAgree currTime schemes := by
  rw [rebuiltFrom_eq]
  unfold RepeatsAgree
  by_cases hrunning : ∀ c ∈ schemes, isRunning currTime c = false
  . rw [updatedFrom_of_notRunning hrunning, filter_eq_nil_of_false hrunning, Prod.mk.injEq]
    constructor
    . intro h
      exact Or.inl ⟨hrunning, h.2.symm⟩
    . intro h
      refine ⟨rfl, ?_⟩
      cases h with
      | inl h => exact h.2.symm
      | inr h =>
        rw [filter_eq_nil_of_false h.1]
        rfl
  . by_cases hwaiting : ∀ c ∈ schemes, isWaiting currTime c = false
    . rw [updatedFrom_of_notWaiting hwaiting, filter_eq_nil_of_false hwaiting, Prod.mk.injEq]
      constructor
      . intro h
        exact Or.inr ⟨hwaiting, h.1.symm⟩
      . intro h
        cases h with
        | inl h => exact absurd h.1 hrunning
        | inr h => exact ⟨h.2.symm, rfl⟩
    . -- only a rebuild has the ID in both maps
      constructor
      . intro h
        have hexclusive := updatedFrom_exclusive currTime schemes
        rw [← h] at hexclusive
        simp only [List.head?_eq_none_iff, List.filter_eq_nil_iff, Bool.not_eq_true] at hexclusive
        cases hexclusive with
        | inl hno => exact absurd hno hrunning
        | inr hno => exact absurd hno hwaiting
      . intro h
        cases h with
        | inl h => exact absurd h.1 hrunning
        | inr h => exact absurd h.1 hwaiting

theorem repeatsAgree_nil : RepeatsAgree currTime ([] : List (CollectionScheme V)) :=
  Or.inl ⟨by simp, rfl⟩

theorem repeatsAgree_singleton : RepeatsAgree currTime [c] := by
  rw [← rebuiltFrom_eq_updatedFrom_iff]
  unfold rebuiltFrom updatedFrom
  simp only [List.foldr_cons, List.foldr_nil]
  unfold rebuiltEntry updatedEntry
  dsimp only
  split
  . rw [if_neg (by omega)]
  . split
    . rw [if_pos (by omega)]
    . rw [if_neg (by omega)]

section Loops

variable {collectionSchemeList : List (CollectionScheme V)} {ret : Bool} {id : String}

theorem foldEntry_none (f : CollectionScheme V → Entry V → Entry V)
    : foldEntry f collectionSchemeList id (none, none)
        =
      (schemesOf collectionSchemeList id).reverse.foldr f (none, none) := by
  unfold foldEntry
  rw [List.foldr_reverse]

theorem rebuildLoop_ret
    (hmanifest : ∀ c ∈ collectionSchemeList, c.decoderManifestID = s.currentDecoderManifestID)
    : (rebuildLoop currTime collectionSchemeList ret s).2
        =
      (ret || collectionSchemeList.any (isRunning currTime)) := by
  induction collectionSchemeList generalizing s ret with
  | nil => simp [rebuildLoop]
  | cons c rest ih =>
    have hmanifest' (c' : CollectionScheme V) (hc' : c' ∈ rest)
        : c'.decoderManifestID = s.currentDecoderManifestID :=
      hmanifest c' (List.mem_cons_of_mem _ hc')
    have hc : ¬c.decoderManifestID ≠ s.currentDecoderManifestID := by
      simp [hmanifest c List.mem_cons_self]
    unfold rebuildLoop
    rw [if_neg hc, List.any_cons]
    dsimp only
    split
    . next hstart =>
      have hrunning : isRunning currTime c = false := by simp [isRunning]; omega
      rw [hrunning, Bool.false_or]
      apply ih
      exact hmanifest'
    . split
      . have hrunning : isRunning currTime c = true := by simp [isRunning]; omega
        rw [hrunning, Bool.true_or, Bool.or_true]
        refine (ih ?_).trans (Bool.true_or _)
        exact hmanifest'
      . have hrunning : isRunning currTime c = false := by simp [isRunning]; omega
        rw [hrunning, Bool.false_or]
        exact ih hmanifest'

theorem updateScheme_ret (currTime : Nat) (c : CollectionScheme V)
    (h : ∀ (id : String) e, s.mEnabledCollectionSchemeMap[id]? = some e → ret = true)
    : (ret || (s.updateScheme currTime c).2) = (ret || isRunning currTime c)
        ∧
      ∀ (id : String) e, (s.updateScheme currTime c).1.mEnabledCollectionSchemeMap[id]? = some e →
        (ret || isRunning currTime c) = true := by
  cases ret with
  | true => simp
  | false =>
    have hnone : ∀ id : String, s.mEnabledCollectionSchemeMap[id]? = none := by
      intro id
      cases henabled : s.mEnabledCollectionSchemeMap[id]? with
      | none => rfl
      | some e => cases h id e henabled
    unfold updateScheme
    dsimp only
    rw [hnone]
    simp only [Bool.false_or]
    by_cases hrunning : c.startTime ≤ currTime ∧ c.expiryTime > currTime
    . have hrunning' : isRunning currTime c = true := by simpa [isRunning] using hrunning
      cases hidle : s.mIdleCollectionSchemeMap[c.collectionSchemeID]? with
      | none => simp [hrunning, hrunning']
      | some curr => simp [hrunning, hrunning']
    . have hrunning' : isRunning currTime c = false := by simpa [isRunning] using hrunning
      cases hidle : s.mIdleCollectionSchemeMap[c.collectionSchemeID]? with
      | none =>
        dsimp only
        rw [if_neg hrunning, hrunning']
        split <;> simp [hnone]
      | some curr =>
        dsimp only
        rw [if_neg hrunning, hrunning']
        split <;> simp [hnone]

theorem updateLoop_ret {s' : CollectionSchemeManager V} {ret' : Bool}
    (h : ∀ (id : String) e, s.mEnabledCollectionSchemeMap[id]? = some e → ret = true)
    (hloop : updateLoop currTime collectionSchemeList ret s = (s', some ret'))
    : ret' = (ret || collectionSchemeList.any (isRunning currTime)) := by
  induction collectionSchemeList generalizing s ret with
  | nil =>
    cases hloop
    simp
  | cons c rest ih =>
    unfold updateLoop at hloop
    split at hloop
    . cases hloop
    . obtain ⟨hret, henabled⟩ := updateScheme_ret currTime c h
      dsimp only at hloop
      rw [hret] at hloop
      rw [ih henabled hloop, List.any_cons, Bool.or_assoc]

end Loops

section Empty

variable {list : CollectionSchemeIngestionList V}

theorem rebuildMapsandTimeLine_of_empty (currTime : Nat)
    (hlist : s.mCollectionSchemeList = some list)
    (hmanifest : ∀ c ∈ list.getCollectionSchemes, c.decoderManifestID = s.currentDecoderManifestID)
    (henabled : s.mEnabledCollectionSchemeMap = ∅) (hidle : s.mIdleCollectionSchemeMap = ∅)
    : (∀ id, (s.rebuildMapsandTimeLine currTime).1.entryAt id
          = rebuiltFrom currTime (schemesOf list.getCollectionSchemes id).reverse)
        ∧
      (s.rebuildMapsandTimeLine currTime).2 = list.getCollectionSchemes.any (isRunning currTime) := by
  unfold rebuildMapsandTimeLine
  rw [hlist]
  constructor
  . intro id
    dsimp only
    rw [rebuildLoop_foldEntry hmanifest, entryAt_of_empty henabled hidle, foldEntry_none]
    rfl
  . exact (rebuildLoop_ret hmanifest).trans (Bool.false_or _)

theorem updateMapsandTimeLine_of_empty (currTime : Nat)
    (hlist : s.mCollectionSchemeList = some list)
    (hmanifest : ∀ c ∈ list.getCollectionSchemes, c.decoderManifestID = s.currentDecoderManifestID)
    (henabled : s.mEnabledCollectionSchemeMap = ∅) (hidle : s.mIdleCollectionSchemeMap = ∅)
    : (∀ id, (s.updateMapsandTimeLine currTime).1.entryAt id
          = updatedFrom currTime (schemesOf list.getCollectionSchemes id).reverse)
        ∧
      (s.updateMapsandTimeLine currTime).2 = list.getCollectionSchemes.any (isRunning currTime) := by
  have ⟨s', ret', hloop, hentries⟩ := updateLoop_foldEntry currTime false hmanifest
  have hret : ret' = list.getCollectionSchemes.any (isRunning currTime) := by
    refine (updateLoop_ret ?_ hloop).trans (Bool.false_or _)
    intro id e he
    simp [henabled] at he
  have hentry : ∀ id, s'.entryAt id
      = updatedFrom currTime (schemesOf list.getCollectionSchemes id).reverse := by
    intro id
    rw [hentries, entryAt_of_empty henabled hidle, foldEntry_none]
    rfl
  have hmissing : ∀ id, id ∉ list.getCollectionSchemes.map (·.collectionSchemeID) →
      s'.entryAt id = (none, none) := by
    intro id hid
    rw [hentry, schemesOf_eq_nil_iff.mpr hid]
    rfl
  unfold updateMapsandTimeLine
  rw [hlist]
  dsimp only
  rw [hloop]
  dsimp only
  constructor
  . intro id
    rw [removeMissing_entryAt]
    split
    . exact hentry id
    . next hid => rw [← hentry, hmissing id hid]
  . have hremoved : (s'.removeMissing
        (list.getCollectionSchemes.map (·.collectionSchemeID))).2 = false := by
      unfold removeMissing
      dsimp only
      rw [List.any_eq_false]
      intro id hid
      have ⟨e, he⟩ := SchemeMap.mem_keys_iff.mp hid
      by_cases hmem : id ∈ list.getCollectionSchemes.map (·.collectionSchemeID)
      . simpa using hmem
      . have hnone := congrArg Prod.fst (hmissing id hmem)
        unfold entryAt at hnone
        rw [he] at hnone
        cases hnone
    rw [hremoved, Bool.or_false, hret]

end Empty

def SameMaps (s s' : CollectionSchemeManager V) : Prop :=
  s.mEnabledCollectionSchemeMap = s'.mEnabledCollectionSchemeMap
    ∧ s.mIdleCollectionSchemeMap = s'.mIdleCollectionSchemeMap

theorem sameMaps_iff {s' : CollectionSchemeManager V}
    : SameMaps s s' ↔ ∀ id, s.entryAt id = s'.entryAt id := by
  unfold SameMaps entryAt
  constructor
  . intro h id
    rw [h.1, h.2]
  . intro h
    constructor
    . apply Std.ExtTreeMap.ext_getElem?
      intro id
      exact congrArg Prod.fst (h id)
    . apply Std.ExtTreeMap.ext_getElem?
      intro id
      exact congrArg Prod.snd (h id)

theorem schemesOf_of_nodup {collectionSchemeList : List (CollectionScheme V)} {id : String}
    (hnodup : (collectionSchemeList.map (·.collectionSchemeID)).Nodup)
    : schemesOf collectionSchemeList id = (schemeOf collectionSchemeList id).toList := by
  induction collectionSchemeList with
  | nil => rfl
  | cons c rest ih =>
    have ⟨hnew, hrest⟩ := List.nodup_cons.mp hnodup
    rw [schemeOf_cons]
    unfold schemesOf
    by_cases heq : c.collectionSchemeID = id
    . have hnew : id ∉ rest.map (·.collectionSchemeID) := heq ▸ hnew
      have hnil : schemesOf rest id = [] := schemesOf_eq_nil_iff.mpr hnew
      unfold schemesOf at hnil
      simp [heq, hnil]
    . rw [List.filter_cons_of_neg (by simpa using heq), if_neg heq]
      exact ih hrest

theorem repeatsAgree_of_nodup {collectionSchemeList : List (CollectionScheme V)}
    (hnodup : (collectionSchemeList.map (·.collectionSchemeID)).Nodup) (id : String)
    : RepeatsAgree currTime (schemesOf collectionSchemeList id).reverse := by
  rw [schemesOf_of_nodup hnodup]
  cases schemeOf collectionSchemeList id with
  | none => exact repeatsAgree_nil
  | some c => exact repeatsAgree_singleton

def collectionSchemes (s : CollectionSchemeManager V) : List (CollectionScheme V) :=
  (s.mCollectionSchemeList.map (·.getCollectionSchemes)).getD []

theorem sameMaps_rebuild_update_iff (currTime : Nat) (henabled : s.mEnabledCollectionSchemeMap = ∅)
    (hidle : s.mIdleCollectionSchemeMap = ∅)
    : (s.rebuildMapsandTimeLine currTime).2 = (s.updateMapsandTimeLine currTime).2
        ∧
      (SameMaps (s.rebuildMapsandTimeLine currTime).1 (s.updateMapsandTimeLine currTime).1
        ↔
      (∃ c ∈ s.collectionSchemes, c.decoderManifestID ≠ s.currentDecoderManifestID)
        ∨ ∀ id, RepeatsAgree currTime (schemesOf s.collectionSchemes id).reverse) := by
  unfold collectionSchemes
  cases hlist : s.mCollectionSchemeList with
  | none =>
    unfold rebuildMapsandTimeLine updateMapsandTimeLine
    rw [hlist]
    refine ⟨rfl, iff_of_true ⟨rfl, rfl⟩ (Or.inr ?_)⟩
    intro id
    exact repeatsAgree_nil
  | some list =>
    rw [Option.map_some, Option.getD_some]
    by_cases hmanifest : ∃ c ∈ list.getCollectionSchemes, c.decoderManifestID ≠ s.currentDecoderManifestID
    . have ⟨s', hloop, henabled', hidle'⟩ := updateLoop_mismatch currTime false hmanifest
      have ⟨hrebuilt, hrebuilt', hret⟩ := @rebuildLoop_mismatch V s currTime list.getCollectionSchemes false
        hmanifest
      unfold rebuildMapsandTimeLine updateMapsandTimeLine
      rw [hlist]
      dsimp only
      rw [hloop]
      refine ⟨hret, iff_of_true ⟨?_, ?_⟩ (Or.inl hmanifest)⟩
      . exact hrebuilt.trans henabled'.symm
      . exact hrebuilt'.trans hidle'.symm
    . have hmatch : ∀ c ∈ list.getCollectionSchemes, c.decoderManifestID = s.currentDecoderManifestID := by
        simpa using hmanifest
      have ⟨hrebuilt, hret⟩ :=
        rebuildMapsandTimeLine_of_empty currTime hlist hmatch henabled hidle
      have ⟨hupdated, hret'⟩ :=
        updateMapsandTimeLine_of_empty currTime hlist hmatch henabled hidle
      refine ⟨hret.trans hret'.symm, ?_⟩
      rw [sameMaps_iff]
      simp only [hmanifest, false_or, hrebuilt, hupdated, rebuiltFrom_eq_updatedFrom_iff]

/--
On empty maps both functions return the same. They also lead to the same maps if no ID is repeated, or if a
collection scheme needs another manifest, and otherwise exactly if the repeated IDs agree.
-/
theorem rebuild_update (s : CollectionSchemeManager V) (currTime : Nat)
    (henabled : s.mEnabledCollectionSchemeMap = ∅) (hidle : s.mIdleCollectionSchemeMap = ∅)
    : (s.rebuildMapsandTimeLine currTime).2 = (s.updateMapsandTimeLine currTime).2
        ∧
      ((s.collectionSchemes.map (·.collectionSchemeID)).Nodup →
        SameMaps (s.rebuildMapsandTimeLine currTime).1 (s.updateMapsandTimeLine currTime).1)
        ∧
      (SameMaps (s.rebuildMapsandTimeLine currTime).1 (s.updateMapsandTimeLine currTime).1
        ↔
      (∃ c ∈ s.collectionSchemes, c.decoderManifestID ≠ s.currentDecoderManifestID)
        ∨ ∀ id, RepeatsAgree currTime (schemesOf s.collectionSchemes id).reverse) := by
  have ⟨hret, hiff⟩ := sameMaps_rebuild_update_iff currTime henabled hidle
  refine ⟨hret, ?_, hiff⟩
  intro hnodup
  exact hiff.mpr (Or.inr (repeatsAgree_of_nodup hnodup))

def twoCampaigns (second : CollectionScheme Rat) : CollectionSchemeManager Rat where
  currentDecoderManifestID := "m"
  mCheckinIntervalInMsec := 1000
  mCollectionSchemeList := some { content := some [campaign "c" "m" 0 100, second], mReady := true }

theorem rebuild_update_distinct
    : SameMaps ((twoCampaigns (campaign "d" "m" 100 200)).rebuildMapsandTimeLine 50).1
        ((twoCampaigns (campaign "d" "m" 100 200)).updateMapsandTimeLine 50).1 :=
  (rebuild_update (twoCampaigns (campaign "d" "m" 100 200)) 50 rfl rfl).2.1 (by decide)

theorem rebuild_update_repeated
    : ¬SameMaps ((twoCampaigns (campaign "c" "m" 100 200)).rebuildMapsandTimeLine 50).1
        ((twoCampaigns (campaign "c" "m" 100 200)).updateMapsandTimeLine 50).1 := by
  rw [(sameMaps_rebuild_update_iff 50 rfl rfl).2]
  intro h
  cases h with
  | inl hmanifest =>
    revert hmanifest
    decide
  | inr hagree => exact absurd (hagree "c") (by decide)

end CollectionSchemeManager

end DataManagement
