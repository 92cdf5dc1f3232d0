import FleetWiseEdge.Manager.Lemmas.CheckTimeLine
import FleetWiseEdge.Manager.Lemmas.Entries

/-!
This module contains how the maps of the collection scheme manager follow the last list and the last decoder
manifest, whatever they were before.
-/

namespace DataManagement

open Cpp DataInspection

/--
What the enabled and the idle map should be, given the last list, the ID of the last manifest and the time.
-/
structure Stateless {V : Type} (collectionSchemeList : List (CollectionScheme V)) (manifestID : String)
    (currTime : Nat) (s : CollectionSchemeManager V)
    : Prop where
  mismatch : (∃ c ∈ collectionSchemeList, c.decoderManifestID ≠ manifestID) →
    ∀ id : String, s.mEnabledCollectionSchemeMap[id]? = none ∧ s.mIdleCollectionSchemeMap[id]? = none
  enabled : (∀ c ∈ collectionSchemeList, c.decoderManifestID = manifestID) →
    ∀ id : String, s.mEnabledCollectionSchemeMap[id]?.isSome
      ↔ ∃ c ∈ collectionSchemeList, c.collectionSchemeID = id ∧ c.startTime ≤ currTime
        ∧ currTime < c.expiryTime
  idle : (∀ c ∈ collectionSchemeList, c.decoderManifestID = manifestID) →
    ∀ id : String, s.mIdleCollectionSchemeMap[id]?.isSome
      ↔ ∃ c ∈ collectionSchemeList, c.collectionSchemeID = id ∧ currTime < c.startTime

namespace CollectionSchemeManager

variable {V : Type} {start stop : String → Nat} {s s' : CollectionSchemeManager V} {now currTime : Nat}
variable {collectionSchemeList : List (CollectionScheme V)} {manifestID : String}

structure Timed (start stop : String → Nat) (c : CollectionScheme V) : Prop where
  valid : Valid c
  start_eq : c.startTime = start c.collectionSchemeID
  stop_eq : c.expiryTime = stop c.collectionSchemeID

theorem Timed.isValid : ∀ c : CollectionScheme V, Timed start stop c → Valid c :=
  fun _ h => h.valid

def Started (now : Nat) (s : CollectionSchemeManager V) : Prop :=
  ∀ (id : String) c, s.mEnabledCollectionSchemeMap[id]? = some c → c.startTime ≤ now

/--
The maps belong to the list and the manifest, apart from what is due since the last check.
-/
structure Follows (now : Nat) (collectionSchemeList : List (CollectionScheme V)) (manifestID : String)
    (s : CollectionSchemeManager V)
    : Prop where
  mismatch : (∃ c ∈ collectionSchemeList, c.decoderManifestID ≠ manifestID) →
    ∀ id, s.entryAt id = (none, none)
  missing : ∀ id, schemeOf collectionSchemeList id = none → s.entryAt id = (none, none)
  known : (∀ c ∈ collectionSchemeList, c.decoderManifestID = manifestID) → ∀ c ∈ collectionSchemeList,
    s.entryAt c.collectionSchemeID = (none, none) → c.expiryTime ≤ now

theorem Follows.mono (h : Follows now collectionSchemeList manifestID s) (hle : now ≤ currTime)
    : Follows currTime collectionSchemeList manifestID s := by
  constructor
  . apply h.mismatch
  . apply h.missing
  . intro hmanifest c hc hnone
    apply (h.known hmanifest c hc hnone).trans hle

theorem Follows.congr (h : Follows now collectionSchemeList manifestID s)
    (hsame : ∀ id, s'.entryAt id = s.entryAt id)
    : Follows now collectionSchemeList manifestID s' := by
  constructor
  . intro hmismatch id
    rw [hsame]
    apply h.mismatch hmismatch
  . intro id hmissing
    rw [hsame]
    apply h.missing id hmissing
  . intro hmanifest c hc hnone
    rw [hsame] at hnone
    apply h.known hmanifest c hc hnone

theorem Started.mono (h : Started now s) (hle : now ≤ currTime) : Started currTime s := by
  intro id c hc
  apply (h id c hc).trans hle

theorem started_of_empty (h : ∀ id, s.entryAt id = (none, none)) : Started now s := by
  intro id c hc
  have hid := congrArg Prod.fst (h id)
  simp only [entryAt, hc] at hid
  cases hid

theorem follows_of_empty (hmanifest : ∃ c ∈ collectionSchemeList, c.decoderManifestID ≠ manifestID)
    (h : ∀ id, s.entryAt id = (none, none))
    : Follows now collectionSchemeList manifestID s := by
  constructor
  . intro _
    apply h
  . intro id _
    apply h
  . intro hmatch
    have ⟨c, hc, hne⟩ := hmanifest
    exact absurd (hmatch c hc) hne

/--
After a check nothing is due, and the maps are a function of the list, the manifest and the time.
-/
theorem Follows.stateless (h : Follows currTime collectionSchemeList manifestID s)
    (htimely : Timely (Timed start stop) s) (hstarted : Started currTime s) (hquiet : Quiet s currTime)
    (hlist : ValidList (Timed start stop) collectionSchemeList)
    : Stateless collectionSchemeList manifestID currTime s := by
  -- the loaded scheme has the times of the scheme of the list
  have hsame {id : String} {c : CollectionScheme V}
      (hloaded : Loaded (Timed start stop) s.currentDecoderManifestID id c)
      : c.startTime = start id ∧ c.expiryTime = stop id := by
    rw [hloaded.valid.start_eq, hloaded.valid.stop_eq, hloaded.id_eq]
    exact ⟨rfl, rfl⟩
  have hmem (id : String) (hentry : s.entryAt id ≠ (none, none))
      : ∃ c ∈ collectionSchemeList, c.collectionSchemeID = id := by
    cases hfind : schemeOf collectionSchemeList id with
    | none => exact absurd (h.missing id hfind) hentry
    | some c => exact ⟨c, mem_of_schemeOf hfind⟩
  have htimes (c : CollectionScheme V) (hc : c ∈ collectionSchemeList)
      : c.startTime = start c.collectionSchemeID ∧ c.expiryTime = stop c.collectionSchemeID
        ∧ c.startTime ≤ c.expiryTime := by
    have htimed := hlist.valid c hc
    exact ⟨htimed.start_eq, htimed.stop_eq, htimed.valid.start_le⟩
  constructor
  . intro hmismatch id
    exact Prod.mk.inj (h.mismatch hmismatch id)
  . intro hmanifest id
    constructor
    . intro henabled
      obtain ⟨e, he⟩ := Option.isSome_iff_exists.mp henabled
      obtain ⟨c, hc, hid⟩ := hmem id (by simp [entryAt, he])
      have hloaded := hsame (htimely.enabled he).1
      obtain ⟨hstart, hstop, _⟩ := htimes c hc
      have hlow := hstarted id e he
      have hhigh := hquiet.enabled id e he
      rw [hid] at hstart hstop
      exact ⟨c, hc, hid, by omega, by omega⟩
    . rintro ⟨c, hc, hid, hlow, hhigh⟩
      obtain ⟨hstart, hstop, _⟩ := htimes c hc
      rw [Option.isSome_iff_ne_none]
      intro henabled
      cases hidle : s.mIdleCollectionSchemeMap[id]? with
      | none =>
        have hexpired := h.known hmanifest c hc (by rw [hid, entryAt, henabled, hidle])
        omega
      | some e =>
        have hloaded := hsame (htimely.idle hidle).1
        have hlater := hquiet.idle id e hidle
        rw [hid] at hstart
        omega
  . intro hmanifest id
    constructor
    . intro hidle
      obtain ⟨e, he⟩ := Option.isSome_iff_exists.mp hidle
      obtain ⟨c, hc, hid⟩ := hmem id (by simp [entryAt, he])
      have hloaded := hsame (htimely.idle he).1
      obtain ⟨hstart, _, _⟩ := htimes c hc
      have hlater := hquiet.idle id e he
      rw [hid] at hstart
      exact ⟨c, hc, hid, by omega⟩
    . rintro ⟨c, hc, hid, hlater⟩
      obtain ⟨hstart, hstop, hle⟩ := htimes c hc
      rw [Option.isSome_iff_ne_none]
      intro hidle
      cases henabled : s.mEnabledCollectionSchemeMap[id]? with
      | none =>
        have hexpired := h.known hmanifest c hc (by rw [hid, entryAt, henabled, hidle])
        omega
      | some e =>
        have hloaded := hsame (htimely.enabled henabled).1
        have hlow := hstarted id e henabled
        rw [hid] at hstart
        omega

section CheckTimeLine

variable {ret ret' : Bool} {fuel : Nat}

theorem TimeLinePass.entryAt (hpass : TimeLinePass currTime s ret s' ret') (id : String)
    : s'.entryAt id = s.entryAt id
      ∨ (∃ c, s.mEnabledCollectionSchemeMap[id]? = some c ∧ c.expiryTime ≤ currTime
          ∧ s'.entryAt id = (none, s.mIdleCollectionSchemeMap[id]?))
      ∨ ∃ c, s.mIdleCollectionSchemeMap[id]? = some c ∧ c.startTime ≤ currTime
          ∧ s'.entryAt id = (some c, none) := by
  cases hpass with
  | checkin time htop hdue =>
    have hsame := serveCheckin_same s currTime
    apply Or.inl
    simp [CollectionSchemeManager.entryAt, hsame.enabled, hsame.idle]
  | stale e htop hid hstale => exact Or.inl rfl
  | disable id' c htop hid hc hdue =>
    by_cases heq : id' = id
    . rw [heq] at hc
      apply Or.inr
      apply Or.inl
      exists c
      simp [CollectionSchemeManager.entryAt, heq, hc, hdue]
    . apply Or.inl
      simp [CollectionSchemeManager.entryAt, heq]
  | enable id' c htop hid henabled hc hdue =>
    by_cases heq : id' = id
    . rw [heq] at hc
      apply Or.inr
      apply Or.inr
      exists c
      simp [CollectionSchemeManager.entryAt, heq, hc, hdue]
    . apply Or.inl
      simp [CollectionSchemeManager.entryAt, heq]

theorem TimeLinePass.manifest (hpass : TimeLinePass currTime s ret s' ret')
    : s'.currentDecoderManifestID = s.currentDecoderManifestID := by
  cases hpass with
  | checkin time htop hdue => exact (serveCheckin_same s currTime).manifest
  | _ => rfl

theorem Started.pass (h : Started currTime s) (hpass : TimeLinePass currTime s ret s' ret')
    : Started currTime s' := by
  intro id c hc
  rcases hpass.entryAt id with hsame | ⟨c', _, _, hnone⟩ | ⟨c', hidle, hdue, hnew⟩
  . apply h id c
    rw [← hc]
    exact (congrArg Prod.fst hsame).symm
  . have hfst := congrArg Prod.fst hnone
    simp [CollectionSchemeManager.entryAt, hc] at hfst
  . have hfst := congrArg Prod.fst hnew
    simp only [CollectionSchemeManager.entryAt, hc, Option.some_inj] at hfst
    rw [hfst]
    exact hdue

theorem Follows.pass (h : Follows currTime collectionSchemeList manifestID s)
    (htimely : Timely (Timed start stop) s) (hlist : ValidList (Timed start stop) collectionSchemeList)
    (hpass : TimeLinePass currTime s ret s' ret')
    : Follows currTime collectionSchemeList manifestID s' := by
  have hempty (id : String) (hnone : s.entryAt id = (none, none)) : s'.entryAt id = (none, none) := by
    have ⟨henabled, hidle⟩ := Prod.mk.inj hnone
    rcases hpass.entryAt id with hsame | ⟨c', hc', _, _⟩ | ⟨c', hc', _, _⟩
    . rw [hsame, hnone]
    . rw [henabled] at hc'
      cases hc'
    . rw [hidle] at hc'
      cases hc'
  constructor
  . intro hmismatch id
    apply hempty id
    apply h.mismatch hmismatch
  . intro id hmissing
    apply hempty id
    apply h.missing id hmissing
  . intro hmanifest c hc hnone
    rcases hpass.entryAt c.collectionSchemeID with hsame | ⟨c', hc', hdue, _⟩ | ⟨c', _, _, hnew⟩
    . apply h.known hmanifest c hc
      rw [← hsame, hnone]
    . have hloaded := (htimely.enabled hc').1
      have hstop := (hlist.valid c hc).stop_eq
      rw [hstop, ← hloaded.id_eq, ← hloaded.valid.stop_eq]
      exact hdue
    . rw [hnone] at hnew
      cases hnew

structure Current (start stop : String → Nat) (now : Nat) (collectionSchemeList : List (CollectionScheme V))
    (manifestID : String) (s : CollectionSchemeManager V)
    : Prop where
  timely : Timely (Timed start stop) s
  manifest : s.currentDecoderManifestID = manifestID
  started : Started now s
  follows : Follows now collectionSchemeList manifestID s

theorem Current.checkTimeLine (h : Current start stop now collectionSchemeList manifestID s)
    (hlist : ValidList (Timed start stop) collectionSchemeList) (hnow : now ≤ currTime)
    (hcheck : s.checkTimeLine fuel currTime = some (s', ret))
    : Current start stop currTime collectionSchemeList manifestID s' := by
  have hlater : Current start stop currTime collectionSchemeList manifestID s :=
    ⟨h.timely, h.manifest, h.started.mono hnow, h.follows.mono hnow⟩
  have ⟨hcurrent, _⟩ := checkTimeLine_invariant
    (fun t _ => Current start stop currTime collectionSchemeList manifestID t) ?_ hcheck hlater
  . exact hcurrent
  . intro t t' ret ret' h hpass
    constructor
    . apply h.timely.pass Timed.isValid hpass
    . apply hpass.manifest.trans h.manifest
    . apply h.started.pass hpass
    . apply h.follows.pass h.timely hlist hpass

end CheckTimeLine

section Manifest

theorem rebuildLoop_currentDecoderManifestID {ret : Bool}
    : (rebuildLoop currTime collectionSchemeList ret s).1.currentDecoderManifestID
        =
      s.currentDecoderManifestID := by
  induction collectionSchemeList generalizing s ret with
  | nil => rfl
  | cons c rest ih =>
    unfold rebuildLoop
    split
    . apply cleanupCollectionSchemes_currentDecoderManifestID
    . dsimp only
      split
      . apply ih
      . split
        . apply ih
        . apply ih

theorem rebuildMapsandTimeLine_currentDecoderManifestID
    : (s.rebuildMapsandTimeLine currTime).1.currentDecoderManifestID = s.currentDecoderManifestID := by
  unfold rebuildMapsandTimeLine
  split
  . rfl
  . apply rebuildLoop_currentDecoderManifestID

theorem updateLoop_currentDecoderManifestID {ret : Bool}
    : (updateLoop currTime collectionSchemeList ret s).1.currentDecoderManifestID
        =
      s.currentDecoderManifestID := by
  induction collectionSchemeList generalizing s ret with
  | nil => rfl
  | cons c rest ih =>
    unfold updateLoop
    split
    . apply cleanupCollectionSchemes_currentDecoderManifestID
    . apply ih.trans
      apply updateScheme_currentDecoderManifestID

theorem updateMapsandTimeLine_currentDecoderManifestID
    : (s.updateMapsandTimeLine currTime).1.currentDecoderManifestID = s.currentDecoderManifestID := by
  unfold updateMapsandTimeLine
  split
  . rfl
  . next l _ =>
    have hloop : (updateLoop currTime l.getCollectionSchemes false s).1.currentDecoderManifestID
        = s.currentDecoderManifestID :=
      updateLoop_currentDecoderManifestID
    split
    . next heq =>
      rw [heq] at hloop
      exact hloop
    . next heq =>
      rw [heq] at hloop
      exact hloop

end Manifest

section Lists

variable {list : CollectionSchemeIngestionList V}

theorem current_rebuild (hlist : s.mCollectionSchemeList = some list)
    (hbuilt : list.getCollectionSchemes = collectionSchemeList)
    (hmanifestID : s.currentDecoderManifestID = manifestID)
    (hvalid : ValidList (Timed start stop) collectionSchemeList)
    (hloaded : s.isCollectionSchemeLoaded = false)
    : Current start stop currTime collectionSchemeList manifestID
        (s.rebuildMapsandTimeLine currTime).1 := by
  rw [← hmanifestID]
  rw [← hbuilt] at hvalid ⊢
  have ⟨henabled, hidle⟩ := isEmpty_of_isCollectionSchemeLoaded hloaded
  have hbefore := entryAt_of_empty henabled hidle
  have htimely : Timely (Timed start stop) (s.rebuildMapsandTimeLine currTime).1 := by
    apply Timely.rebuildMapsandTimeLine ?_ hloaded
    intro l hl
    rw [hlist, Option.mem_def, Option.some_inj] at hl
    rw [← hl]
    exact hvalid
  have hrebuild : s.rebuildMapsandTimeLine currTime = rebuildLoop currTime list.getCollectionSchemes false s := by
    simp [rebuildMapsandTimeLine, hlist]
  by_cases hmanifest : ∃ c ∈ list.getCollectionSchemes, c.decoderManifestID ≠ s.currentDecoderManifestID
  . have hafter (id : String) : (s.rebuildMapsandTimeLine currTime).1.entryAt id = (none, none) := by
      rw [hrebuild]
      apply entryAt_of_empty
      . exact (rebuildLoop_mismatch hmanifest).1
      . exact (rebuildLoop_mismatch hmanifest).2.1
    refine ⟨htimely, rebuildMapsandTimeLine_currentDecoderManifestID, started_of_empty hafter, ?_⟩
    exact follows_of_empty hmanifest hafter
  . have hmatch : ∀ c ∈ list.getCollectionSchemes, c.decoderManifestID = s.currentDecoderManifestID := by
      simpa using hmanifest
    have hafter (id : String)
        : (s.rebuildMapsandTimeLine currTime).1.entryAt id
            = entryAfter (rebuiltEntry currTime) list.getCollectionSchemes id (none, none) := by
      rw [hrebuild, rebuildLoop_entryAt hvalid.nodup hmatch, hbefore]
    refine ⟨htimely, rebuildMapsandTimeLine_currentDecoderManifestID, ?_, ?_⟩
    . intro id e he
      have hentry := congrArg Prod.fst (hafter id)
      simp only [entryAt, he, entryAfter] at hentry
      split at hentry
      . cases hentry
      . simp only [rebuiltEntry] at hentry
        split at hentry
        . cases hentry
        . next hstart =>
          split at hentry
          . cases hentry
            omega
          . cases hentry
    . constructor
      . intro hmismatch
        exact absurd hmismatch hmanifest
      . intro id hmissing
        rw [hafter, entryAfter, hmissing]
      . intro _ c hc hnone
        rw [hafter, entryAfter, schemeOf_of_mem hvalid.nodup hc] at hnone
        simp only [rebuiltEntry] at hnone
        split at hnone
        . simp at hnone
        . split at hnone
          . simp at hnone
          . omega

theorem current_update (hlist : s.mCollectionSchemeList = some list)
    (hbuilt : list.getCollectionSchemes = collectionSchemeList)
    (hmanifestID : s.currentDecoderManifestID = manifestID)
    (hvalid : ValidList (Timed start stop) collectionSchemeList)
    (htimely : Timely (Timed start stop) s) (hstarted : Started currTime s)
    : Current start stop currTime collectionSchemeList manifestID
        (s.updateMapsandTimeLine currTime).1 := by
  rw [← hmanifestID]
  rw [← hbuilt] at hvalid ⊢
  have htimelyAfter : Timely (Timed start stop) (s.updateMapsandTimeLine currTime).1 := by
    apply htimely.updateMapsandTimeLine
    intro l hl
    rw [hlist, Option.mem_def, Option.some_inj] at hl
    rw [← hl]
    exact hvalid
  by_cases hmanifest : ∃ c ∈ list.getCollectionSchemes, c.decoderManifestID ≠ s.currentDecoderManifestID
  . have hafter (id : String) : (s.updateMapsandTimeLine currTime).1.entryAt id = (none, none) := by
      obtain ⟨s', hloop, henabled, hidle⟩ := updateLoop_mismatch currTime false hmanifest
      simp only [updateMapsandTimeLine, hlist, hloop]
      apply entryAt_of_empty henabled hidle
    refine ⟨htimelyAfter, updateMapsandTimeLine_currentDecoderManifestID, started_of_empty hafter, ?_⟩
    exact follows_of_empty hmanifest hafter
  . have hmatch : ∀ c ∈ list.getCollectionSchemes, c.decoderManifestID = s.currentDecoderManifestID := by
      simpa using hmanifest
    have hafter := fun id => updateMapsandTimeLine_entryAt currTime id hlist hvalid.nodup hmatch
    refine ⟨htimelyAfter, updateMapsandTimeLine_currentDecoderManifestID, ?_, ?_⟩
    . intro id e he
      have hentry := congrArg Prod.fst (hafter id)
      simp only [entryAt, he] at hentry
      split at hentry
      . cases hentry
      . next c hfind =>
        obtain ⟨hc, hid⟩ := mem_of_schemeOf hfind
        cases updatedEntry_enabled hentry.symm with
        | inl hstart => exact hstart
        | inr hold =>
          obtain ⟨curr, hcurr, hor⟩ := hold
          have hcurrStart := hstarted id curr hcurr
          cases hor with
          | inl heq =>
            -- the new scheme has the start time of the one that is enabled
            have hloaded := (htimely.enabled hcurr).1
            have htimed := hvalid.valid c hc
            rw [heq, htimed.start_eq, hid, ← hloaded.id_eq, ← hloaded.valid.start_eq]
            exact hcurrStart
          | inr heq =>
            rw [heq]
            exact hcurrStart
    . constructor
      . intro hmismatch
        exact absurd hmismatch hmanifest
      . intro id hmissing
        rw [hafter, hmissing]
      . intro _ c hc hnone
        rw [hafter, schemeOf_of_mem hvalid.nodup hc] at hnone
        apply updatedEntry_none hnone

end Lists

end CollectionSchemeManager

end DataManagement
