import FleetWiseEdge.Manager.Lemmas.Documents
import FleetWiseEdge.Manager.Lemmas.CheckTimeLine
import FleetWiseEdge.Manager.Lemmas.Entries

namespace DataManagement

open Cpp DataInspection

namespace CollectionSchemeManager

variable {V : Type} {s s' : CollectionSchemeManager V} {currTime fuel : Nat}

def SameEnabled (s s' : CollectionSchemeManager V) : Prop :=
  ∀ id : String, s.mEnabledCollectionSchemeMap[id]?.isSome = s'.mEnabledCollectionSchemeMap[id]?.isSome

def Reports (fuel : Nat) (s : CollectionSchemeManager V) (c : ManagerCall V) : Prop :=
  ∀ s', ManagerCall.call fuel s c = some (s', some false) → SameEnabled s s'

def CleansUp (s : CollectionSchemeManager V) (c : ManagerCall V) : Prop :=
  match c with
  | .processDecoderManifest _ =>
    ∃ manifest ∈ s.mDecoderManifest, manifest.build.2 = true
      ∧ manifest.build.1.getID ≠ s.currentDecoderManifestID
  | .processCollectionScheme _ =>
    ∃ list ∈ s.mCollectionSchemeList, list.build.2 = true
      ∧ ∃ c ∈ list.build.1.getCollectionSchemes, c.decoderManifestID ≠ s.currentDecoderManifestID
  | _ => False

section Report

theorem sameEnabled_of_eq (h : s'.mEnabledCollectionSchemeMap = s.mEnabledCollectionSchemeMap)
    : SameEnabled s s' := by
  intro id
  rw [h]

theorem SameEnabled.trans {s'' : CollectionSchemeManager V} (h : SameEnabled s s') (h' : SameEnabled s' s'')
    : SameEnabled s s'' := by
  intro id
  rw [h id, h' id]

theorem sameEnabled_empty_iff (h : s'.mEnabledCollectionSchemeMap = ∅)
    : SameEnabled s s' ↔ s.mEnabledCollectionSchemeMap.isEmpty = true := by
  rw [SchemeMap.isEmpty_iff]
  unfold SameEnabled
  simp only [h, Std.ExtTreeMap.getElem?_empty, Option.isSome_none, Option.isSome_eq_false_iff,
    Option.isNone_iff_eq_none]

theorem rebuildLoop_reports {collectionSchemeList : List (CollectionScheme V)} {ret : Bool}
    (h : (rebuildLoop currTime collectionSchemeList ret s).2 = false)
    : (rebuildLoop currTime collectionSchemeList ret s).1.mEnabledCollectionSchemeMap = ∅
        ∨ ret = false ∧ (rebuildLoop currTime collectionSchemeList ret s).1.mEnabledCollectionSchemeMap
          = s.mEnabledCollectionSchemeMap := by
  induction collectionSchemeList generalizing s ret with
  | nil => exact Or.inr ⟨h, rfl⟩
  | cons c rest ih =>
    unfold rebuildLoop at h ⊢
    split
    . apply Or.inl
      apply cleanupCollectionSchemes_empty.1
    . next hmanifest =>
      rw [if_neg hmanifest] at h
      dsimp only at h ⊢
      split
      . next hstart =>
        rw [if_pos hstart] at h
        apply ih h
      . next hstart =>
        rw [if_neg hstart] at h
        split
        . next hstop =>
          rw [if_pos hstop] at h
          cases ih h with
          | inl hempty => apply Or.inl hempty
          | inr hret => cases hret.1
        . next hstop =>
          rw [if_neg hstop] at h
          apply ih h

theorem rebuildMapsandTimeLine_reports (h : (s.rebuildMapsandTimeLine currTime).2 = false)
    (hempty : s.mEnabledCollectionSchemeMap = ∅)
    : (s.rebuildMapsandTimeLine currTime).1.mEnabledCollectionSchemeMap = ∅ := by
  unfold rebuildMapsandTimeLine at h ⊢
  split
  . exact hempty
  . next list hlist =>
    simp only [hlist] at h
    cases rebuildLoop_reports h with
    | inl hnone => exact hnone
    | inr hsame => exact hsame.2.trans hempty

theorem updateScheme_reports {c : CollectionScheme V} (h : (s.updateScheme currTime c).2 = false)
    : SameEnabled s (s.updateScheme currTime c).1 := by
  unfold updateScheme at h ⊢
  dsimp only at h ⊢
  split
  . next curr _ henabled _ =>
    split
    . simp_all
    . split
      . intro id
        by_cases heq : c.collectionSchemeID = id
        . simp_all
        . simp [heq]
      . exact sameEnabled_of_eq rfl
  . split
    . simp_all
    . split <;> exact sameEnabled_of_eq rfl
  . split
    . simp_all
    . split <;> exact sameEnabled_of_eq rfl

theorem updateLoop_reports {collectionSchemeList : List (CollectionScheme V)} {ret : Bool}
    (h : updateLoop currTime collectionSchemeList ret s = (s', some false))
    : ret = false ∧ SameEnabled s s' := by
  induction collectionSchemeList generalizing s ret with
  | nil =>
    cases h
    exact ⟨rfl, sameEnabled_of_eq rfl⟩
  | cons c rest ih =>
    unfold updateLoop at h
    split at h
    . cases h
    . obtain ⟨hret, hsame⟩ := ih h
      rw [Bool.or_eq_false_iff] at hret
      exact ⟨hret.1, (updateScheme_reports hret.2).trans hsame⟩

theorem updateLoop_none {collectionSchemeList : List (CollectionScheme V)} {ret : Bool}
    (h : updateLoop currTime collectionSchemeList ret s = (s', none))
    : ∃ c ∈ collectionSchemeList, c.decoderManifestID ≠ s.currentDecoderManifestID := by
  induction collectionSchemeList generalizing s ret with
  | nil => cases h
  | cons c rest ih =>
    unfold updateLoop at h
    split at h
    . next hne => exact ⟨c, List.mem_cons_self, hne⟩
    . obtain ⟨c', hc', hne⟩ := ih h
      refine ⟨c', List.mem_cons_of_mem _ hc', ?_⟩
      intro heq
      apply hne
      rw [heq]
      exact updateScheme_currentDecoderManifestID.symm

theorem removeMissing_reports {newCollectionSchemeIDs : List String}
    (h : (s.removeMissing newCollectionSchemeIDs).2 = false)
    : SameEnabled s (s.removeMissing newCollectionSchemeIDs).1 := by
  intro id
  have hentry : (s.removeMissing newCollectionSchemeIDs).1.entryAt id
      = if id ∈ newCollectionSchemeIDs then s.entryAt id else (none, none) :=
    removeMissing_entryAt
  have hentry := congrArg Prod.fst hentry
  simp only [entryAt] at hentry
  rw [hentry]
  split
  . rfl
  . next hmissing =>
    cases hc : s.mEnabledCollectionSchemeMap[id]? with
    | none => rfl
    | some c =>
      have hkey := SchemeMap.mem_keys_iff.mpr ⟨c, hc⟩
      simp only [removeMissing, List.any_eq_false] at h
      have hcontains := h id hkey
      simp [hmissing] at hcontains

end Report

section Calls

theorem updateMapsandTimeLine_reports_iff (list : CollectionSchemeIngestionList V)
    (hlist : s.mCollectionSchemeList = some list)
    : ((s.updateMapsandTimeLine currTime).2 = false → SameEnabled s (s.updateMapsandTimeLine currTime).1)
        ↔
      (s.mEnabledCollectionSchemeMap.isEmpty = false →
        ¬∃ c ∈ list.getCollectionSchemes, c.decoderManifestID ≠ s.currentDecoderManifestID) := by
  unfold updateMapsandTimeLine
  simp only [hlist]
  split
  . next s' hloop =>
    have hmismatch := updateLoop_none hloop
    have ⟨s'', hloop', hempty, _⟩ := updateLoop_mismatch currTime false hmismatch
    rw [hloop] at hloop'
    cases hloop'
    simp only [forall_const, sameEnabled_empty_iff hempty, hmismatch, not_true_eq_false]
    cases s.mEnabledCollectionSchemeMap.isEmpty <;> simp
  . next s' ret hloop =>
    constructor
    . intro _ _ hmismatch
      have ⟨s'', hloop', _⟩ := updateLoop_mismatch currTime false hmismatch
      rw [hloop] at hloop'
      cases hloop'
    . intro _ hfalse
      dsimp only at hfalse ⊢
      rw [Bool.or_eq_false_iff] at hfalse
      rw [hfalse.1] at hloop
      apply (updateLoop_reports hloop).2.trans
      apply removeMissing_reports hfalse.2

theorem checkTimeLine_reports (h : s.checkTimeLine fuel currTime = some (s', false)) : SameEnabled s s' := by
  have hkeep (t t' : CollectionSchemeManager V) (ret ret' : Bool)
      (hsame : ret = false → SameEnabled s t) (hpass : TimeLinePass currTime t ret t' ret')
      : ret' = false → SameEnabled s t' := by
    cases hpass with
    | checkin time htop hdue =>
      intro hret
      apply (hsame hret).trans
      apply sameEnabled_of_eq
      exact (serveCheckin_same t currTime).enabled
    | stale e htop hid hstale =>
      intro hret
      apply (hsame hret).trans
      apply sameEnabled_of_eq rfl
    | disable id c htop hid hc hdue =>
      intro hret
      cases hret
    | enable id c htop hid henabled hc hdue =>
      intro hret
      cases hret
  have ⟨hreports, _⟩ := checkTimeLine_invariant (fun t ret => ret = false → SameEnabled s t) hkeep h
    (fun _ => sameEnabled_of_eq rfl)
  exact hreports rfl

theorem reports_iff_of_empty {ret : Bool} {cleansUp : Prop} (hempty : s.mEnabledCollectionSchemeMap = ∅)
    (hafter : ret = false → s'.mEnabledCollectionSchemeMap = ∅)
    : (ret = false → SameEnabled s s')
        ↔
      (s.mEnabledCollectionSchemeMap.isEmpty = false → ¬cleansUp) := by
  constructor
  . simp [hempty]
  . intro _ hfalse
    rw [sameEnabled_empty_iff (hafter hfalse)]
    simp [hempty]

theorem processDecoderManifest_reports_iff
    : ((s.processDecoderManifest currTime).2 = false → SameEnabled s (s.processDecoderManifest currTime).1)
        ↔
      (s.mEnabledCollectionSchemeMap.isEmpty = false → ¬CleansUp s (.processDecoderManifest currTime)) := by
  unfold processDecoderManifest CleansUp
  cases hmanifest : s.mDecoderManifest with
  | none => simp [sameEnabled_of_eq]
  | some manifest =>
    simp only [Option.map_some, Option.mem_def, Option.some_inj, exists_eq_left']
    split
    . next hfail =>
      rw [Bool.not_eq_true'] at hfail
      simp [hfail, sameEnabled_of_eq]
    . next hbuilt =>
      rw [Bool.not_eq_true', Bool.not_eq_false] at hbuilt
      split
      . next hsame => simp [hsame, sameEnabled_of_eq]
      . next hnew =>
        unfold acceptDecoderManifest
        dsimp only
        split
        . have hempty := cleanupCollectionSchemes_empty (s := { s with
            mDecoderManifest := some manifest.build.1
            currentDecoderManifestID := manifest.build.1.getID }.storeDecoderManifest)
          simp only [forall_const, sameEnabled_empty_iff hempty.1, hbuilt, hnew, ne_eq, not_false_eq_true, and_self,
            not_true_eq_false]
          cases s.mEnabledCollectionSchemeMap.isEmpty <;> simp
        . next hloaded =>
          have hempty : s.mEnabledCollectionSchemeMap = ∅ :=
            (isEmpty_of_isCollectionSchemeLoaded (Bool.eq_false_of_not_eq_true hloaded)).1
          apply reports_iff_of_empty hempty
          intro hfalse
          apply rebuildMapsandTimeLine_reports hfalse hempty

theorem processCollectionScheme_reports_iff
    : ((s.processCollectionScheme currTime).2 = false → SameEnabled s (s.processCollectionScheme currTime).1)
        ↔
      (s.mEnabledCollectionSchemeMap.isEmpty = false → ¬CleansUp s (.processCollectionScheme currTime)) := by
  unfold processCollectionScheme CleansUp
  cases hlist : s.mCollectionSchemeList with
  | none => simp [sameEnabled_of_eq]
  | some list =>
    simp only [Option.map_some, Option.mem_def, Option.some_inj, exists_eq_left']
    split
    . next hfail =>
      rw [Bool.not_eq_true'] at hfail
      simp [hfail, sameEnabled_of_eq]
    . next hbuilt =>
      rw [Bool.not_eq_true', Bool.not_eq_false] at hbuilt
      unfold acceptCollectionScheme
      dsimp only
      split
      . simp only [hbuilt, true_and]
        exact updateMapsandTimeLine_reports_iff list.build.1 rfl
      . next hloaded =>
        have hempty : s.mEnabledCollectionSchemeMap = ∅ :=
          (isEmpty_of_isCollectionSchemeLoaded (Bool.eq_false_of_not_eq_true hloaded)).1
        apply reports_iff_of_empty hempty
        intro hfalse
        apply rebuildMapsandTimeLine_reports hfalse hempty

theorem reports_iff (fuel : Nat) (s : CollectionSchemeManager V) (c : ManagerCall V)
    : Reports fuel s c ↔ (s.mEnabledCollectionSchemeMap.isEmpty = false → ¬CleansUp s c) := by
  unfold Reports ManagerCall.call
  cases c with
  | processDecoderManifest currTime =>
    rw [← processDecoderManifest_reports_iff]
    simp [Prod.ext_iff]
  | processCollectionScheme currTime =>
    rw [← processCollectionScheme_reports_iff]
    simp [Prod.ext_iff]
  | checkTimeLine currTime =>
    simp only [CleansUp, not_false_eq_true, implies_true, iff_true]
    intro s' h
    have ⟨(t, ret), hcheck, heq⟩ := Option.map_eq_some_iff.mp h
    cases heq
    apply checkTimeLine_reports hcheck
  | _ => simp [CleansUp]

end Calls

/--
In every run, the calls report the changes of the enabled map if and only if none of them cleans up a map in
which something is enabled.
-/
theorem change_reporting (config : ManagerConfig V) (fuel : Nat) (calls : List (ManagerCall V))
    : Machine.Always (fun state c => ∀ s, state = some s → Reports fuel s c) (ManagerCall.next fuel)
          (some (init config)) calls
        ↔
      Machine.Always
        (fun state c => ∀ s, state = some s → s.mEnabledCollectionSchemeMap.isEmpty = false → ¬CleansUp s c)
        (ManagerCall.next fuel) (some (init config)) calls := by
  apply Machine.always_congr
  intro state c
  apply forall_congr'
  intro s
  rw [reports_iff]

def otherManifestWaiting : List (ManagerCall Rat) :=
  [.onDecoderManifestUpdate (some (noSignals "m")),
    .onCollectionSchemeUpdate (some [campaign "c" "m" 0 200]),
    .updateAvailable, .processDecoderManifest 50, .processCollectionScheme 50,
    .onDecoderManifestUpdate (some (noSignals "n")), .updateAvailable]

theorem change_reporting_otherManifest
    : ¬∀ (config : ManagerConfig Rat) (fuel : Nat) (calls : List (ManagerCall Rat)),
        Machine.Always (fun state c => ∀ s, state = some s → Reports fuel s c) (ManagerCall.next fuel)
          (some (init config)) calls := by
  intro hclaim
  have hreports : ∀ s,
      otherManifestWaiting.foldl (ManagerCall.next 10) (some (init { checkinIntervalMsec := 1000 })) = some s →
        Reports 10 s (.processDecoderManifest 60) :=
    Machine.always_split
      (hclaim { checkinIntervalMsec := 1000 } 10 (otherManifestWaiting ++ [.processDecoderManifest 60]))
  have ⟨s, hrun, henabled, hcleansUp⟩
      : ∃ s, otherManifestWaiting.foldl (ManagerCall.next 10) (some (init { checkinIntervalMsec := 1000 }))
          = some s
        ∧ s.mEnabledCollectionSchemeMap.isEmpty = false ∧ CleansUp s (.processDecoderManifest 60) := by
    refine ⟨_, rfl, by decide +kernel, ?_⟩
    refine ⟨{ content := some (noSignals "n") }, rfl, rfl, ?_⟩
    decide +kernel
  exact (reports_iff 10 s (.processDecoderManifest 60)).mp (hreports s hrun) henabled hcleansUp

end CollectionSchemeManager

end DataManagement
