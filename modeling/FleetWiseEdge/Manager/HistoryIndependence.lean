import FleetWiseEdge.Manager.Lemmas.Documents
import FleetWiseEdge.Manager.Lemmas.Follows
import FleetWiseEdge.Manager.Timeline

namespace DataManagement

open Cpp DataInspection

structure Received (V : Type) where
  waitingList : Option (List (CollectionScheme V)) := none
  waitingManifest : Option String := none
  collectionSchemeList : List (CollectionScheme V) := []
  manifestID : String := ""

namespace Received

variable {V : Type}

def next (r : Received V) (e : WorkEvent V) : Received V :=
  match e with
  | .onCollectionSchemeUpdate content => { r with waitingList := content }
  | .onDecoderManifestUpdate content => { r with waitingManifest := content.map (·.arn) }
  | .process _ _ =>
    { collectionSchemeList := r.waitingList.getD r.collectionSchemeList
      manifestID := r.waitingManifest.getD r.manifestID }
  | .checkTimeLine _ => r
  -- what was not processed yet is lost
  | .restart _ _ _ => { r with waitingList := none, waitingManifest := none }

end Received

namespace WorkEvent

variable {V : Type}

def InOrder (now : Nat) (e : WorkEvent V) : Prop :=
  match e with
  | .process manifestTime listTime => now ≤ manifestTime ∧ manifestTime ≤ listTime
  | .checkTimeLine currTime => now ≤ currTime
  | .restart startTime manifestTime listTime =>
    now ≤ startTime ∧ startTime ≤ manifestTime ∧ manifestTime ≤ listTime
  | _ => True

def lastTime (now : Nat) (e : WorkEvent V) : Nat :=
  match e with
  | .process _ listTime => listTime
  | .checkTimeLine currTime => currTime
  | .restart _ _ listTime => listTime
  | _ => now

theorem le_lastTime {now : Nat} {e : WorkEvent V} (h : e.InOrder now) : now ≤ e.lastTime now := by
  cases e with
  | process manifestTime listTime => exact h.1.trans h.2
  | checkTimeLine currTime => exact h
  | restart startTime manifestTime listTime => exact h.1.trans (h.2.1.trans h.2.2)
  | onCollectionSchemeUpdate content => exact le_refl now
  | onDecoderManifestUpdate content => exact le_refl now

theorem le_foldl_lastTime {now : Nat} {events : List (WorkEvent V)}
    (h : Machine.Always InOrder lastTime now events)
    : now ≤ events.foldl lastTime now :=
  Machine.always_invariant (fun t => now ≤ t) (fun _ _ horder hle => hle.trans (le_lastTime horder))
    (le_refl now) h

end WorkEvent

namespace CollectionSchemeManager

variable {V : Type} {start stop : String → Nat} {persists : Prop} {s : CollectionSchemeManager V}
variable {now currTime : Nat} {list : List (CollectionScheme V)} {manifestID : String}
variable {newList : Option (List (CollectionScheme V))} {newManifest : Option String}

def StoredList (list : List (CollectionScheme V)) (p : SchemaPersistency V) : Prop :=
  p.collectionSchemeList = none ∧ list = [] ∨ ∃ mReady, p.collectionSchemeList = some ⟨some list, mReady⟩

def StoredManifest (manifestID : String) (p : SchemaPersistency V) : Prop :=
  p.decoderManifest = none ∧ manifestID = ""
    ∨ ∃ content mReady, p.decoderManifest = some ⟨some content, mReady⟩ ∧ content.arn = manifestID

structure TakenDocuments (persists : Prop) (list : List (CollectionScheme V)) (manifestID : String)
    (newList : Option (List (CollectionScheme V))) (newManifest : Option String) (d : Documents V)
    : Prop where
  lists : match newList with
    | none => d.mProcessCollectionScheme = false
      ∧ (d.mCollectionSchemeList = none ∧ list = [] ∨ d.mCollectionSchemeList = some ⟨some list, true⟩)
    | some new => d.mProcessCollectionScheme = true ∧ d.mCollectionSchemeList = some ⟨some new, false⟩
  manifests : match newManifest with
    | none => d.mProcessDecoderManifest = false
    | some new => d.mProcessDecoderManifest = true
      ∧ ∃ content, content.arn = new ∧ d.mDecoderManifest = some ⟨some content, false⟩
  stored : persists → d.mUseLocalDictionary = false
    ∧ ∃ p, d.mSchemaPersistency = some p ∧ (∀ n, p.results n = true)
      ∧ (newList = none → StoredList list p)
      ∧ (newManifest.getD manifestID = manifestID → StoredManifest manifestID p)

structure Taken (start stop : String → Nat) (persists : Prop) (now : Nat) (list : List (CollectionScheme V))
    (manifestID : String) (newList : Option (List (CollectionScheme V))) (newManifest : Option String)
    (s : CollectionSchemeManager V)
    : Prop where
  timely : Timely (Timed start stop) s
  manifest : s.currentDecoderManifestID = manifestID
  started : Started now s
  follows : newList = none → Follows now list manifestID s
  documents : TakenDocuments persists list manifestID newList newManifest s.documents

theorem Taken.mono (h : Taken start stop persists now list manifestID newList newManifest s)
    (hle : now ≤ currTime)
    : Taken start stop persists currTime list manifestID newList newManifest s := by
  constructor
  . exact h.timely
  . exact h.manifest
  . exact h.started.mono hle
  . intro hnone
    exact (h.follows hnone).mono hle
  . exact h.documents

section Manifest

variable {content : DecoderManifest V}

-- The manifest changes while collection schemes of another one are loaded.
theorem follows_cleanup {newID : String} (hloaded : s.isCollectionSchemeLoaded = true)
    (hfollows : Follows now list manifestID s) (hne : newID ≠ manifestID) {s' : CollectionSchemeManager V}
    (hempty : ∀ id, s'.entryAt id = (none, none))
    : Follows currTime list newID s' := by
  constructor
  . intro _
    exact hempty
  . intro id _
    apply hempty
  . intro hmatch c hc _
    -- all schemes of the list would need the new manifest, but then nothing was loaded
    have hmismatch : ∃ c ∈ list, c.decoderManifestID ≠ manifestID := by
      refine ⟨c, hc, ?_⟩
      rw [hmatch c hc]
      exact hne
    have hnone := hfollows.mismatch hmismatch
    have henabled : s.mEnabledCollectionSchemeMap.isEmpty = true := by
      rw [SchemeMap.isEmpty_iff]
      intro id
      exact congrArg Prod.fst (hnone id)
    have hidle : s.mIdleCollectionSchemeMap.isEmpty = true := by
      rw [SchemeMap.isEmpty_iff]
      intro id
      exact congrArg Prod.snd (hnone id)
    simp [isCollectionSchemeLoaded, henabled, hidle] at hloaded

theorem TakenDocuments.storeDecoderManifest
    (h : TakenDocuments persists list manifestID newList (some content.arn) s.documents)
    : TakenDocuments persists list content.arn newList none
        { s with
          mProcessDecoderManifest := false
          mDecoderManifest := some ⟨some content, true⟩
          currentDecoderManifestID := content.arn }.storeDecoderManifest.documents := by
  constructor
  . exact h.lists
  . rfl
  . intro hpersists
    have ⟨hlocal, p, hp, hresults, hlist, _⟩ := h.stored hpersists
    refine ⟨hlocal, ?_⟩
    have hp : s.mSchemaPersistency = some p := hp
    simp only [CollectionSchemeManager.documents, CollectionSchemeManager.storeDecoderManifest, hp,
      Option.map_some, Option.some_inj, exists_eq_left']
    simp only [SchemaPersistency.write, hresults, if_true]
    refine ⟨by simp, hlist, ?_⟩
    intro _
    exact Or.inr ⟨content, true, rfl, rfl⟩

theorem TakenDocuments.rebuild (h : TakenDocuments persists list manifestID newList newManifest s.documents)
    (hlist : ValidList (Timed start stop) list) (hloaded : s.isCollectionSchemeLoaded = false)
    (currTime : Nat)
    : ∃ built, (newList = none → built = list)
        ∧ Current start stop currTime built s.currentDecoderManifestID
          (s.rebuildMapsandTimeLine currTime).1 := by
  have hlists := h.lists
  cases newList with
  | some new =>
    refine ⟨[], by simp, ?_⟩
    exact current_rebuild hlists.2 rfl rfl validList_nil hloaded
  | none =>
    refine ⟨list, by simp, ?_⟩
    cases hlists.2 with
    | inr hsome =>
      have hsome : s.mCollectionSchemeList = some ⟨some list, true⟩ := hsome
      exact current_rebuild hsome rfl rfl hlist hloaded
    | inl hnone =>
      have hnoList : s.mCollectionSchemeList = none := hnone.1
      have ⟨henabled, hidle⟩ := isEmpty_of_isCollectionSchemeLoaded hloaded
      have hempty := entryAt_of_empty henabled hidle
      simp only [rebuildMapsandTimeLine, hnoList, hnone.2]
      constructor
      . apply timely_of_empty henabled hidle
      . rfl
      . apply started_of_empty hempty
      . constructor
        . intro _
          apply hempty
        . intro id _
          apply hempty
        . intro _ c hc
          cases hc

theorem Taken.acceptDecoderManifest
    (h : Taken start stop persists now list manifestID newList (some content.arn) s)
    (hlist : ValidList (Timed start stop) list) (hne : content.arn ≠ manifestID)
    : Taken start stop persists currTime list content.arn newList none
        ({ s with
          mProcessDecoderManifest := false
          mDecoderManifest := some ⟨some content, true⟩ }.acceptDecoderManifest content.arn currTime).1 := by
  have hdocuments := h.documents.storeDecoderManifest
  unfold CollectionSchemeManager.acceptDecoderManifest
  dsimp only
  split
  . next hloaded =>
    have hempty := entryAt_of_empty (cleanupCollectionSchemes_empty (s := { s with
      mProcessDecoderManifest := false
      mDecoderManifest := some ⟨some content, true⟩
      currentDecoderManifestID := content.arn }.storeDecoderManifest)).1 cleanupCollectionSchemes_empty.2
    constructor
    . apply timely_cleanupCollectionSchemes
    . apply cleanupCollectionSchemes_currentDecoderManifestID
    . apply started_of_empty hempty
    . intro hnone
      have hloaded : s.isCollectionSchemeLoaded = true := hloaded
      apply follows_cleanup hloaded (h.follows hnone) hne hempty
    . rw [cleanupCollectionSchemes_documents]
      exact hdocuments
  . next hloaded =>
    have hloaded := Bool.eq_false_of_not_eq_true hloaded
    have ⟨built, hbuilt, hcurrent⟩ := hdocuments.rebuild hlist hloaded currTime
    constructor
    . exact hcurrent.timely
    . exact hcurrent.manifest
    . exact hcurrent.started
    . intro hnone
      rw [← hbuilt hnone]
      exact hcurrent.follows
    . rw [rebuildMapsandTimeLine_documents]
      exact hdocuments

theorem Taken.processAvailableManifest
    (h : Taken start stop persists now list manifestID newList newManifest s)
    (hlist : ValidList (Timed start stop) list) (hnow : now ≤ currTime)
    : Taken start stop persists currTime list (newManifest.getD manifestID) newList none
        (s.processAvailableManifest currTime).1 := by
  have hmanifests := h.documents.manifests
  unfold CollectionSchemeManager.processAvailableManifest
  cases newManifest with
  | none =>
    have hflag : s.mProcessDecoderManifest = false := hmanifests
    simpa [hflag] using h.mono hnow
  | some new =>
    have ⟨hflag, content, harn, hdocument⟩ := hmanifests
    have hflag : s.mProcessDecoderManifest = true := hflag
    have hdocument : s.mDecoderManifest = some ⟨some content, false⟩ := hdocument
    have hid : DecoderManifestIngestion.getID ⟨some content, true⟩ = content.arn := rfl
    rw [← harn] at h ⊢
    simp only [hflag, if_true, processDecoderManifest, hdocument, Option.map_some, Option.getD_some,
      DecoderManifestIngestion.build, hid, Bool.not_true, Bool.false_eq_true, if_false]
    split
    . next hsame =>
      have hlater := h.mono hnow
      rw [h.manifest] at hsame
      constructor
      . exact hlater.timely
      . exact hlater.manifest.trans hsame.symm
      . exact hlater.started
      . intro hnone
        rw [hsame]
        apply (hlater.follows hnone).congr
        intro id
        rfl
      . have hdocuments := h.documents
        constructor
        . exact hdocuments.lists
        . rfl
        . intro hpersists
          have ⟨hlocal, p, hp, hresults, hstoredList, hstored⟩ := hdocuments.stored hpersists
          refine ⟨hlocal, p, hp, hresults, hstoredList, ?_⟩
          intro _
          rw [hsame]
          apply hstored
          exact hsame
    . next hne =>
      apply h.acceptDecoderManifest hlist
      rw [← h.manifest]
      exact hne

end Manifest

section List

variable {new : List (CollectionScheme V)}

theorem TakenDocuments.storeCollectionSchemeList
    (h : TakenDocuments persists list manifestID (some new) none s.documents)
    : TakenDocuments persists new manifestID none none
        { s with
          mProcessCollectionScheme := false
          mCollectionSchemeList := some ⟨some new, true⟩ }.storeCollectionSchemeList.documents := by
  constructor
  . exact ⟨rfl, Or.inr rfl⟩
  . exact h.manifests
  . intro hpersists
    have ⟨hlocal, p, hp, hresults, _, hmanifest⟩ := h.stored hpersists
    refine ⟨hlocal, ?_⟩
    have hp : s.mSchemaPersistency = some p := hp
    simp only [CollectionSchemeManager.documents, CollectionSchemeManager.storeCollectionSchemeList, hp,
      Option.map_some, Option.some_inj, exists_eq_left']
    simp only [SchemaPersistency.write, hresults, if_true]
    refine ⟨by simp, ?_, hmanifest⟩
    intro _
    exact Or.inr ⟨true, rfl⟩

theorem Taken.acceptCollectionScheme
    (h : Taken start stop persists now list manifestID (some new) none s)
    (hnew : ValidList (Timed start stop) new) (hnow : now ≤ currTime)
    : Taken start stop persists currTime new manifestID none none
        ({ s with
          mProcessCollectionScheme := false
          mCollectionSchemeList := some ⟨some new, true⟩ }.acceptCollectionScheme currTime).1 := by
  have hcurrent : Current start stop currTime new s.currentDecoderManifestID
      ({ s with
        mProcessCollectionScheme := false
        mCollectionSchemeList := some ⟨some new, true⟩ }.acceptCollectionScheme currTime).1 := by
    unfold CollectionSchemeManager.acceptCollectionScheme
    dsimp only
    split
    . exact current_update rfl rfl rfl hnew h.timely (h.started.mono hnow)
    . next hloaded => exact current_rebuild rfl rfl rfl hnew (Bool.eq_false_of_not_eq_true hloaded)
  constructor
  . exact hcurrent.timely
  . exact hcurrent.manifest.trans h.manifest
  . exact hcurrent.started
  . intro _
    rw [← h.manifest]
    exact hcurrent.follows
  . rw [acceptCollectionScheme_documents]
    exact h.documents.storeCollectionSchemeList

theorem Taken.processAvailableList
    (h : Taken start stop persists now list manifestID newList none s)
    (hnew : ∀ new ∈ newList, ValidList (Timed start stop) new) (hnow : now ≤ currTime)
    : Taken start stop persists currTime (newList.getD list) manifestID none none
        (s.processAvailableList currTime).1 := by
  have hlists := h.documents.lists
  unfold CollectionSchemeManager.processAvailableList
  cases newList with
  | none =>
    have hflag : s.mProcessCollectionScheme = false := hlists.1
    simpa [hflag] using h.mono hnow
  | some new =>
    have hflag : s.mProcessCollectionScheme = true := hlists.1
    have hdocument : s.mCollectionSchemeList = some ⟨some new, false⟩ := hlists.2
    simp only [hflag, if_true, processCollectionScheme, hdocument, Option.map_some, Option.getD_some,
      CollectionSchemeIngestionList.build, Bool.not_true, Bool.false_eq_true, if_false]
    apply h.acceptCollectionScheme (hnew new rfl) hnow

end List

section Work

variable {r : Received V}

structure Agrees (start stop : String → Nat) (persists : Prop) (now : Nat) (r : Received V)
    (s : CollectionSchemeManager V)
    : Prop where
  taken : Taken start stop persists now r.collectionSchemeList r.manifestID none none s
  waitingList : match r.waitingList with
    | none => s.mCollectionSchemeAvailable = false
    | some new => s.mCollectionSchemeAvailable = true ∧ s.mCollectionSchemeListInput = some ⟨some new, false⟩
  waitingManifest : match r.waitingManifest with
    | none => s.mDecoderManifestAvailable = false
    | some new => s.mDecoderManifestAvailable = true
      ∧ ∃ content, content.arn = new ∧ s.mDecoderManifestInput = some ⟨some content, false⟩
  valid : ValidList (Timed start stop) r.collectionSchemeList
  validWaiting : ∀ new ∈ r.waitingList, ValidList (Timed start stop) new

theorem Agrees.updateAvailable_documents (h : Agrees start stop persists now r s)
    : TakenDocuments persists r.collectionSchemeList r.manifestID r.waitingList r.waitingManifest
        s.updateAvailable.documents := by
  have hdocuments := h.taken.documents
  have hlists : s.mProcessCollectionScheme = false
      ∧ (s.mCollectionSchemeList = none ∧ r.collectionSchemeList = []
        ∨ s.mCollectionSchemeList = some ⟨some r.collectionSchemeList, true⟩) :=
    hdocuments.lists
  have hmanifests : s.mProcessDecoderManifest = false := hdocuments.manifests
  have hwaitingList := h.waitingList
  have hwaitingManifest := h.waitingManifest
  obtain ⟨hlist, hprocessList, hlocal, hpersistency⟩ := updateAvailable_lists (s := s)
  obtain ⟨hmanifest, hprocessManifest⟩ := updateAvailable_manifests (s := s)
  constructor
  . simp only [CollectionSchemeManager.documents, hlist, hprocessList]
    cases hr : r.waitingList with
    | none =>
      simp only [hr] at hwaitingList
      simpa [takeCollectionSchemeList, hwaitingList] using hlists
    | some new =>
      simp only [hr] at hwaitingList
      simp [takeCollectionSchemeList, hwaitingList]
  . simp only [CollectionSchemeManager.documents, hmanifest, hprocessManifest]
    cases hr : r.waitingManifest with
    | none =>
      simp only [hr] at hwaitingManifest
      simpa [takeDecoderManifest, hwaitingManifest] using hmanifests
    | some new =>
      simp only [hr] at hwaitingManifest
      obtain ⟨havailable, content, harn, hinput⟩ := hwaitingManifest
      simp only [takeDecoderManifest, havailable, hinput, Option.isSome_some, Bool.and_self, if_true, true_and]
      exact ⟨content, harn, rfl⟩
  . intro hpersists
    obtain ⟨huseLocal, p, hp, hresults, hstoredList, hstoredManifest⟩ := hdocuments.stored hpersists
    simp only [CollectionSchemeManager.documents, hlocal, hpersistency]
    exact ⟨huseLocal, p, hp, hresults, fun _ => hstoredList rfl, fun _ => hstoredManifest rfl⟩

theorem Agrees.updateAvailable (h : Agrees start stop persists now r s)
    : Taken start stop persists now r.collectionSchemeList r.manifestID r.waitingList r.waitingManifest
        s.updateAvailable := by
  have htaken := h.taken
  have hmaps : ∀ id, s.updateAvailable.entryAt id = s.entryAt id := by
    intro id
    rw [updateAvailable_eq]
    rfl
  constructor
  . rw [updateAvailable_eq]
    exact htaken.timely
  . rw [updateAvailable_eq]
    exact htaken.manifest
  . intro id c hc
    apply htaken.started id c
    rw [← hc]
    exact (congrArg Prod.fst (hmaps id)).symm
  . intro _
    exact (htaken.follows rfl).congr hmaps
  . apply h.updateAvailable_documents

theorem Taken.processAvailable {manifestTime listTime : Nat}
    (h : Taken start stop persists now list manifestID newList newManifest s)
    (hlist : ValidList (Timed start stop) list) (hnew : ∀ new ∈ newList, ValidList (Timed start stop) new)
    (hmanifestTime : now ≤ manifestTime) (hlistTime : manifestTime ≤ listTime)
    : Taken start stop persists listTime (newList.getD list) (newManifest.getD manifestID) none none
        (((s.processAvailableManifest manifestTime).1).processAvailableList listTime).1 := by
  apply (h.processAvailableManifest hlist hmanifestTime).processAvailableList hnew hlistTime

theorem prepareWork_documents {p : SchemaPersistency V} (persists : Prop) (startTime : Nat)
    (hlocal : s.mUseLocalDictionary = false) (hp : s.mSchemaPersistency = some p)
    (hresults : ∀ n, p.results n = true) (hstoredList : StoredList list p)
    (hstoredManifest : StoredManifest manifestID p)
    : ∃ newList newManifest, newList.getD [] = list ∧ newManifest.getD "" = manifestID
        ∧ (∀ new ∈ newList, new = list)
        ∧ TakenDocuments persists [] "" newList newManifest (s.restart.prepareWork startTime).documents := by
  have hlists : (s.restart.prepareWork startTime).mCollectionSchemeList
        = p.collectionSchemeList.map (fun l => { l with mReady := false })
      ∧ (s.restart.prepareWork startTime).mProcessCollectionScheme = p.collectionSchemeList.isSome := by
    cases hl : p.collectionSchemeList <;> cases hm : p.decoderManifest
    all_goals
      simp [prepareWork, prepareCheckinTimer, CollectionSchemeManager.restart, retrieveCollectionSchemeList,
        retrieveDecoderManifest, hlocal, hp, hl, hm]
  have hmanifests : (s.restart.prepareWork startTime).mDecoderManifest
        = p.decoderManifest.map (fun m => { m with mReady := false })
      ∧ (s.restart.prepareWork startTime).mProcessDecoderManifest = p.decoderManifest.isSome := by
    cases hl : p.collectionSchemeList <;> cases hm : p.decoderManifest
    all_goals
      simp [prepareWork, prepareCheckinTimer, CollectionSchemeManager.restart, retrieveCollectionSchemeList,
        retrieveDecoderManifest, hlocal, hp, hl, hm]
  have hprepared := prepared_prepareWork s.restart startTime
  have hpersistency : (s.restart.prepareWork startTime).mSchemaPersistency = some p :=
    hprepared.persistency.trans hp
  have huseLocal : (s.restart.prepareWork startTime).mUseLocalDictionary = false :=
    hprepared.useLocal.trans hlocal
  have hnewList : ∃ newList : Option (List (CollectionScheme V)), newList.getD [] = list
      ∧ (∀ new ∈ newList, new = list) ∧ (newList = none → StoredList [] p)
      ∧ match newList with
        | none => p.collectionSchemeList = none
        | some new => ∃ mReady, p.collectionSchemeList = some ⟨some new, mReady⟩ := by
    cases hstoredList with
    | inl hnone => exact ⟨none, hnone.2.symm, by simp, fun _ => Or.inl ⟨hnone.1, rfl⟩, hnone.1⟩
    | inr hsome => exact ⟨some list, rfl, by simp, by simp, hsome⟩
  have hnewManifest : ∃ newManifest : Option String, newManifest.getD "" = manifestID
      ∧ (newManifest.getD "" = "" → StoredManifest "" p)
      ∧ match newManifest with
        | none => p.decoderManifest = none
        | some new => ∃ content mReady, p.decoderManifest = some ⟨some content, mReady⟩ ∧ content.arn = new := by
    cases hstoredManifest with
    | inl hnone => exact ⟨none, hnone.2.symm, fun _ => Or.inl ⟨hnone.1, rfl⟩, hnone.1⟩
    | inr hsome =>
      refine ⟨some manifestID, rfl, ?_, hsome⟩
      intro hempty
      rw [Option.getD_some] at hempty
      rw [← hempty]
      exact Or.inr hsome
  obtain ⟨newList, hlist, hsame, hstoredList', hl⟩ := hnewList
  obtain ⟨newManifest, hmanifest, hstoredManifest', hm⟩ := hnewManifest
  refine ⟨newList, newManifest, hlist, hmanifest, hsame, ?_⟩
  constructor
  . cases newList with
    | none =>
      dsimp only at hl
      simp [CollectionSchemeManager.documents, hlists, hl]
    | some new =>
      obtain ⟨mReady, hl⟩ := hl
      simp [CollectionSchemeManager.documents, hlists, hl]
  . cases newManifest with
    | none =>
      dsimp only at hm
      simp [CollectionSchemeManager.documents, hmanifests, hm]
    | some new =>
      obtain ⟨content, mReady, hm, harn⟩ := hm
      simp [CollectionSchemeManager.documents, hmanifests, hm, harn]
  . intro _
    exact ⟨huseLocal, p, hpersistency, hresults, hstoredList', hstoredManifest'⟩

theorem Agrees.restart (h : Agrees start stop persists now r s) (startTime : Nat) (hpersists : persists)
    : ∃ newList newManifest, newList.getD [] = r.collectionSchemeList ∧ newManifest.getD "" = r.manifestID
        ∧ (∀ new ∈ newList, new = r.collectionSchemeList)
        ∧ Taken start stop persists now [] "" newList newManifest (s.restart.prepareWork startTime) := by
  have ⟨hlocal, p, hp, hresults, hstoredList, hstoredManifest⟩ := h.taken.documents.stored hpersists
  have ⟨newList, newManifest, hlist, hmanifest, hsame, hdocuments⟩ :=
    prepareWork_documents persists startTime hlocal hp hresults (hstoredList rfl) (hstoredManifest rfl)
  have hprepared := prepared_prepareWork s.restart startTime
  have hempty := entryAt_of_empty (s := s.restart.prepareWork startTime) hprepared.enabled hprepared.idle
  refine ⟨newList, newManifest, hlist, hmanifest, hsame, ?_⟩
  constructor
  . apply timely_of_empty hprepared.enabled hprepared.idle
  . exact hprepared.manifest
  . apply started_of_empty hempty
  . intro _
    constructor
    . intro _
      exact hempty
    . intro id _
      apply hempty
    . intro _ c hc
      cases hc
  . exact hdocuments

theorem agrees_start (config : ManagerConfig V) (startTime manifestTime listTime : Nat)
    (hempty : ∀ p ∈ config.schemaPersistencyPtr, p.collectionSchemeList = none ∧ p.decoderManifest = none)
    (hpersists : persists → config.useLocalDictionary = false
      ∧ ∃ p ∈ config.schemaPersistencyPtr, ∀ n, p.results n = true)
    : Agrees start stop persists listTime {} (Worker.start config startTime manifestTime listTime).manager := by
  have hlist : ((init config).prepareCheckinTimer startTime).mSchemaPersistency.bind (·.collectionSchemeList)
      = none := by
    rw [Option.bind_eq_none_iff]
    intro p hp
    exact (hempty p hp).1
  have hmanifest : ((init config).prepareCheckinTimer startTime).mSchemaPersistency.bind (·.decoderManifest)
      = none := by
    rw [Option.bind_eq_none_iff]
    intro p hp
    exact (hempty p hp).2
  have hprepare : (init config).prepareWork startTime = (init config).prepareCheckinTimer startTime := by
    simp [prepareWork, CollectionSchemeManager.retrieveCollectionSchemeList,
      CollectionSchemeManager.retrieveDecoderManifest, hlist, hmanifest]
  -- there is nothing to process
  have hstart : (Worker.start config startTime manifestTime listTime).manager
      = (init config).prepareCheckinTimer startTime := by
    unfold Worker.start
    rw [hprepare]
    rfl
  have hentries := entryAt_of_empty (s := (init config).prepareCheckinTimer startTime) rfl rfl
  rw [hstart]
  refine ⟨⟨timely_of_empty rfl rfl, rfl, started_of_empty hentries, ?_, ?_⟩, rfl, rfl, validList_nil, by simp⟩
  . intro _
    constructor
    . intro _
      exact hentries
    . intro id _
      apply hentries
    . intro _ c hc
      cases hc
  . constructor
    . exact ⟨rfl, Or.inl ⟨rfl, rfl⟩⟩
    . rfl
    . intro h
      have ⟨hlocal, p, hp, hresults⟩ := hpersists h
      have ⟨hnoList, hnoManifest⟩ := hempty p hp
      exact ⟨hlocal, p, hp, hresults, fun _ => Or.inl ⟨hnoList, rfl⟩, fun _ => Or.inl ⟨hnoManifest, rfl⟩⟩

def GoodEvent (start stop : String → Nat) (persists : Prop) (e : WorkEvent V) : Prop :=
  match e with
  | .onCollectionSchemeUpdate content => ∃ list, content = some list ∧ ValidList (Timed start stop) list
  | .onDecoderManifestUpdate content => ∃ manifest, content = some manifest
  | .restart _ _ _ => persists
  | _ => True

variable [InspectionValue V] {w w' : Worker V} {e : WorkEvent V} {events : List (WorkEvent V)} {fuel : Nat}

theorem run_none : (Machine.run (Worker.step fuel) none events).1 = none := by
  induction events with
  | nil => rfl
  | cons e es ih =>
    rw [Machine.run_cons]
    exact ih

theorem Agrees.step (h : Agrees start stop persists now r w.manager) (hgood : GoodEvent start stop persists e)
    (horder : e.InOrder now) (hstep : (Worker.step fuel (some w) e).1 = some w')
    : Agrees start stop persists (e.lastTime now) (r.next e) w'.manager := by
  have htaken := h.taken
  cases e with
  | onCollectionSchemeUpdate content =>
    obtain ⟨list, hcontent, hvalid⟩ := hgood
    cases hstep
    cases hcontent
    refine ⟨⟨htaken.timely, htaken.manifest, htaken.started, ?_, ?_⟩, ⟨rfl, rfl⟩, h.waitingManifest, h.valid, ?_⟩
    . intro hnone
      apply (htaken.follows hnone).congr
      intro id
      rfl
    . exact ⟨htaken.documents.lists, htaken.documents.manifests, htaken.documents.stored⟩
    . intro new hnew
      cases hnew
      exact hvalid
  | onDecoderManifestUpdate content =>
    obtain ⟨manifest, hcontent⟩ := hgood
    cases hstep
    cases hcontent
    refine ⟨⟨htaken.timely, htaken.manifest, htaken.started, ?_, ?_⟩, h.waitingList,
      ⟨rfl, manifest, rfl, rfl⟩, h.valid, h.validWaiting⟩
    . intro hnone
      apply (htaken.follows hnone).congr
      intro id
      rfl
    . exact ⟨htaken.documents.lists, htaken.documents.manifests, htaken.documents.stored⟩
  | process manifestTime listTime =>
    cases hstep
    have hprocessed := h.updateAvailable.processAvailable h.valid h.validWaiting horder.1 horder.2
    obtain ⟨havailable, havailable'⟩ := updateAvailable_available (s := w.manager)
    constructor
    . exact hprocessed
    . exact processAvailableList_available.1.trans (processAvailableManifest_available.1.trans havailable)
    . exact processAvailableList_available.2.trans (processAvailableManifest_available.2.trans havailable')
    . cases hr : r.waitingList with
      | none => simpa [Received.next, hr] using h.valid
      | some new => simpa [Received.next, hr] using h.validWaiting new hr
    . intro new hnew
      cases hnew
  | checkTimeLine currTime =>
    cases hcheck : w.checkTimeLine fuel currTime with
    | none => simp [Worker.step, hcheck] at hstep
    | some result =>
      simp only [Worker.step, hcheck, Option.some_inj] at hstep
      obtain ⟨⟨s', ret⟩, hmanager, heq⟩ := Option.map_eq_some_iff.mp hcheck
      rw [← hstep, ← heq]
      have hcurrent : Current start stop now r.collectionSchemeList r.manifestID w.manager :=
        ⟨htaken.timely, htaken.manifest, htaken.started, htaken.follows rfl⟩
      have hcurrent := hcurrent.checkTimeLine h.valid horder hmanager
      have hdocuments := checkTimeLine_documents hmanager
      refine ⟨⟨hcurrent.timely, hcurrent.manifest, hcurrent.started, fun _ => hcurrent.follows, ?_⟩, ?_, ?_,
        h.valid, h.validWaiting⟩
      . rw [hdocuments]
        exact htaken.documents
      . have havailable : s'.mCollectionSchemeAvailable = w.manager.mCollectionSchemeAvailable :=
          congrArg Documents.mCollectionSchemeAvailable hdocuments
        have hinput : s'.mCollectionSchemeListInput = w.manager.mCollectionSchemeListInput :=
          congrArg Documents.mCollectionSchemeListInput hdocuments
        dsimp only
        rw [havailable, hinput]
        exact h.waitingList
      . have havailable : s'.mDecoderManifestAvailable = w.manager.mDecoderManifestAvailable :=
          congrArg Documents.mDecoderManifestAvailable hdocuments
        have hinput : s'.mDecoderManifestInput = w.manager.mDecoderManifestInput :=
          congrArg Documents.mDecoderManifestInput hdocuments
        dsimp only
        rw [havailable, hinput]
        exact h.waitingManifest
  | restart startTime manifestTime listTime =>
    cases hstep
    obtain ⟨newList, newManifest, hlist, hmanifest, hsame, hstarted⟩ := h.restart startTime hgood
    have hvalid : ∀ new ∈ newList, ValidList (Timed start stop) new := by
      intro new hnew
      rw [hsame new hnew]
      exact h.valid
    have hprocessed := hstarted.processAvailable validList_nil hvalid (horder.1.trans horder.2.1) horder.2.2
    rw [hlist, hmanifest] at hprocessed
    have hprepared := prepared_prepareWork w.manager.restart startTime
    constructor
    . exact hprocessed
    . exact processAvailableList_available.1.trans
        (processAvailableManifest_available.1.trans hprepared.listAvailable)
    . exact processAvailableList_available.2.trans
        (processAvailableManifest_available.2.trans hprepared.manifestAvailable)
    . exact h.valid
    . intro new hnew
      cases hnew

theorem Agrees.run (h : Agrees start stop persists now r w.manager)
    (hgood : ∀ e ∈ events, GoodEvent start stop persists e)
    (horder : Machine.Always WorkEvent.InOrder WorkEvent.lastTime now events)
    (hrun : (Machine.run (Worker.step fuel) (some w) events).1 = some w')
    : Agrees start stop persists (events.foldl WorkEvent.lastTime now) (events.foldl Received.next r)
        w'.manager := by
  induction events generalizing now r w with
  | nil =>
    cases hrun
    exact h
  | cons e es ih =>
    rw [Machine.run_cons] at hrun
    cases hstep : (Worker.step fuel (some w) e).1 with
    | none =>
      rw [hstep, run_none] at hrun
      cases hrun
    | some next =>
      rw [hstep] at hrun
      have hnext : Agrees start stop persists (e.lastTime now) (r.next e) next.manager := by
        apply h.step ?_ horder.1 hstep
        apply hgood
        simp
      apply ih hnext ?_ horder.2 hrun
      intro e' he'
      apply hgood
      simp [he']

end Work

section Exists

theorem updateAvailable_interval : s.updateAvailable.mCheckinIntervalInMsec = s.mCheckinIntervalInMsec := by
  rw [updateAvailable_eq]
  rfl

theorem processAvailable_interval (w : Worker V) (manifestTime listTime : Nat)
    : (w.processAvailable manifestTime listTime).manager.mCheckinIntervalInMsec
        =
      w.manager.mCheckinIntervalInMsec := by
  have hlist (s : CollectionSchemeManager V)
      : (s.processAvailableList listTime).1.mCheckinIntervalInMsec = s.mCheckinIntervalInMsec := by
    unfold CollectionSchemeManager.processAvailableList
    split
    . apply processCollectionScheme_interval
    . rfl
  have hmanifest (s : CollectionSchemeManager V)
      : (s.processAvailableManifest manifestTime).1.mCheckinIntervalInMsec = s.mCheckinIntervalInMsec := by
    unfold CollectionSchemeManager.processAvailableManifest
    split
    . apply processDecoderManifest_interval
    . rfl
  exact (hlist _).trans (hmanifest _)

variable [InspectionValue V] {w w' : Worker V} {e : WorkEvent V} {events : List (WorkEvent V)} {fuel : Nat}

theorem step_interval (hstep : (Worker.step fuel (some w) e).1 = some w')
    : w'.manager.mCheckinIntervalInMsec = w.manager.mCheckinIntervalInMsec := by
  cases e with
  | onCollectionSchemeUpdate content =>
    cases hstep
    rfl
  | onDecoderManifestUpdate content =>
    cases hstep
    rfl
  | process manifestTime listTime =>
    cases hstep
    exact (processAvailable_interval _ _ _).trans updateAvailable_interval
  | checkTimeLine currTime =>
    cases hcheck : w.checkTimeLine fuel currTime with
    | none => simp [Worker.step, hcheck] at hstep
    | some result =>
      simp only [Worker.step, hcheck, Option.some_inj] at hstep
      have ⟨(s', ret), hmanager, heq⟩ := Option.map_eq_some_iff.mp hcheck
      rw [← hstep, ← heq]
      apply checkTimeLine_interval hmanager
  | restart startTime manifestTime listTime =>
    cases hstep
    exact (processAvailable_interval _ _ _).trans (prepared_prepareWork w.manager.restart startTime).interval

theorem step_exists {now last : Nat} (hinterval : 0 < w.manager.mCheckinIntervalInMsec)
    (hlast : e.lastTime now ≤ last) (htime : last + w.manager.mCheckinIntervalInMsec < 2 ^ 64)
    : ∃ enough w', ∀ fuel ≥ enough, (Worker.step fuel (some w) e).1 = some w' := by
  cases e with
  | checkTimeLine currTime =>
    have hlast : currTime ≤ last := hlast
    have ⟨(s', ret), hcheck⟩ := checkTimeLine_exists (s := w.manager) currTime hinterval (by omega)
    refine ⟨pending currTime w.manager.mTimeLine + 1, { manager := s' }, ?_⟩
    intro fuel hfuel
    simp [Worker.step, Worker.checkTimeLine, checkTimeLine_mono hcheck hfuel]
  | onCollectionSchemeUpdate content => exact ⟨0, _, fun _ _ => rfl⟩
  | onDecoderManifestUpdate content => exact ⟨0, _, fun _ _ => rfl⟩
  | process manifestTime listTime => exact ⟨0, _, fun _ _ => rfl⟩
  | restart startTime manifestTime listTime => exact ⟨0, _, fun _ _ => rfl⟩

theorem run_exists {now : Nat} (horder : Machine.Always WorkEvent.InOrder WorkEvent.lastTime now events)
    (hinterval : 0 < w.manager.mCheckinIntervalInMsec)
    (htime : events.foldl WorkEvent.lastTime now + w.manager.mCheckinIntervalInMsec < 2 ^ 64)
    : ∃ enough w', w'.manager.mCheckinIntervalInMsec = w.manager.mCheckinIntervalInMsec
        ∧ ∀ fuel ≥ enough, (Machine.run (Worker.step fuel) (some w) events).1 = some w' := by
  induction events generalizing now w with
  | nil => exact ⟨0, w, rfl, fun _ _ => rfl⟩
  | cons e es ih =>
    have hlater := WorkEvent.le_foldl_lastTime horder.2
    have ⟨enough, next, hstep⟩ := step_exists hinterval hlater htime
    have hnext := step_interval (hstep enough (le_refl enough))
    have ⟨enough', w', hw', hrun⟩ := ih (w := next) horder.2 (by omega) (by rw [hnext]; exact htime)
    refine ⟨max enough enough', w', hw'.trans hnext, ?_⟩
    intro fuel hfuel
    rw [Machine.run_cons, hstep fuel (by omega)]
    apply hrun
    omega

end Exists

def StoresDocuments (config : ManagerConfig V) : Prop :=
  config.useLocalDictionary = false ∧ ∃ p ∈ config.schemaPersistencyPtr, ∀ n, p.results n = true

/--
What is enabled and idle after a check depends on the last list, the last manifest and the time only, in
whatever order documents, checks and restarts came.
-/
theorem history_independence [InspectionValue V] (config : ManagerConfig V) (start stop : String → Nat)
    (hempty : ∀ p ∈ config.schemaPersistencyPtr, p.collectionSchemeList = none ∧ p.decoderManifest = none)
    (startTime manifestTime listTime : Nat) (events : List (WorkEvent V))
    (hgood : ∀ e ∈ events, GoodEvent start stop (StoresDocuments config) e)
    (horder : Machine.Always WorkEvent.InOrder WorkEvent.lastTime listTime events)
    (currTime : Nat) (hlast : events.foldl WorkEvent.lastTime listTime ≤ currTime)
    : let received := events.foldl Received.next {}
      (∀ fuel w s ret,
        (Machine.run (Worker.step fuel) (some (Worker.start config startTime manifestTime listTime)) events).1
            = some w →
        w.manager.checkTimeLine fuel currTime = some (s, ret) →
        Stateless received.collectionSchemeList received.manifestID currTime s)
      ∧ (currTime + (init config).mCheckinIntervalInMsec < 2 ^ 64 →
        ∃ enough w s ret, ∀ fuel ≥ enough,
          (Machine.run (Worker.step fuel) (some (Worker.start config startTime manifestTime listTime)) events).1
              = some w
            ∧ w.manager.checkTimeLine fuel currTime = some (s, ret)) := by
  have hprepared := prepared_prepareWork (init config) startTime
  have hstart : Agrees start stop (StoresDocuments config) listTime {}
      (Worker.start config startTime manifestTime listTime).manager := by
    apply agrees_start config startTime manifestTime listTime hempty
    intro h
    exact h
  constructor
  . intro fuel w s ret hrun hcheck
    have hagrees := hstart.run hgood horder hrun
    have htaken := hagrees.taken
    have hcurrent : Current start stop (events.foldl WorkEvent.lastTime listTime)
        (events.foldl Received.next {}).collectionSchemeList (events.foldl Received.next {}).manifestID
        w.manager :=
      ⟨htaken.timely, htaken.manifest, htaken.started, htaken.follows rfl⟩
    have hcurrent := hcurrent.checkTimeLine hagrees.valid hlast hcheck
    have hquiet := (htaken.timely.checkTimeLine Timed.isValid hcheck).2
    exact hcurrent.follows.stateless hcurrent.timely hcurrent.started hquiet hagrees.valid
  . intro htime
    have hinterval : 0 < (init config).mCheckinIntervalInMsec := by
      simp only [init]
      split
      . assumption
      . decide
    have hsame : (Worker.start config startTime manifestTime listTime).manager.mCheckinIntervalInMsec
        = (init config).mCheckinIntervalInMsec :=
      (processAvailable_interval _ _ _).trans hprepared.interval
    obtain ⟨enough, w, hw, hrun⟩ := run_exists (w := Worker.start config startTime manifestTime listTime) horder
      (by rw [hsame]; exact hinterval) (by rw [hsame]; omega)
    rw [hsame] at hw
    obtain ⟨⟨s, ret⟩, hcheck⟩ := checkTimeLine_exists (s := w.manager) currTime
      (by rw [hw]; exact hinterval) (by rw [hw]; exact htime)
    refine ⟨max enough (pending currTime w.manager.mTimeLine + 1), w, s, ret, ?_⟩
    intro fuel hfuel
    constructor
    . apply hrun
      omega
    . apply checkTimeLine_mono hcheck
      omega

def alwaysStores : ManagerConfig Rat where
  checkinIntervalMsec := 1000
  schemaPersistencyPtr := some { results := fun _ => true }

def lateCampaigns : List (CollectionScheme Rat) := [campaign "c" "m" 100 200, campaign "d" "m" 10 50]

def lateArrival : List (WorkEvent Rat) :=
  [.onCollectionSchemeUpdate (some lateCampaigns), .process 120 120, .checkTimeLine 130,
    .onDecoderManifestUpdate (some (noSignals "m")), .process 140 140, .checkTimeLine 150,
    .restart 160 160 160]

theorem lateArrival_enabled
    : ∃ w s ret, (Machine.run (Worker.step 10) (some (Worker.start alwaysStores 0 0 0)) lateArrival).1 = some w
        ∧ w.manager.checkTimeLine 10 170 = some (s, ret)
        ∧ s.mEnabledCollectionSchemeMap.keys = ["c"] := by
  refine ⟨_, _, _, rfl, rfl, ?_⟩
  decide +kernel

theorem lateArrival_good
    : ∀ e ∈ lateArrival,
        GoodEvent (fun id => if id = "c" then 100 else 10) (fun id => if id = "c" then 200 else 50)
          (StoresDocuments alwaysStores) e := by
  intro e he
  simp only [lateArrival, List.mem_cons, List.not_mem_nil, or_false] at he
  rcases he with rfl | rfl | rfl | rfl | rfl | rfl | rfl
  . refine ⟨lateCampaigns, rfl, by decide, ?_⟩
    intro c hc
    simp only [lateCampaigns, List.mem_cons, List.not_mem_nil, or_false] at hc
    cases hc with
    | inl h => rw [h]; exact ⟨⟨by decide, by decide⟩, by decide, by decide⟩
    | inr h => rw [h]; exact ⟨⟨by decide, by decide⟩, by decide, by decide⟩
  . trivial
  . trivial
  . exact ⟨noSignals "m", rfl⟩
  . trivial
  . trivial
  . exact ⟨rfl, _, rfl, fun _ => rfl⟩

theorem history_independence_late
    : ∃ w s ret, (Machine.run (Worker.step 10) (some (Worker.start alwaysStores 0 0 0)) lateArrival).1 = some w
        ∧ w.manager.checkTimeLine 10 170 = some (s, ret)
        ∧ s.mEnabledCollectionSchemeMap.keys = ["c"]
        ∧ Stateless lateCampaigns "m" 170 s := by
  have ⟨w, s, ret, hrun, hcheck, hkeys⟩ := lateArrival_enabled
  refine ⟨w, s, ret, hrun, hcheck, hkeys, ?_⟩
  apply (history_independence alwaysStores _ _ ?_ 0 0 0 lateArrival lateArrival_good ?_ 170 ?_).1 10 w s ret hrun hcheck
  . intro p hp
    cases hp
    exact ⟨rfl, rfl⟩
  . simp [lateArrival, Machine.Always, WorkEvent.InOrder, WorkEvent.lastTime]
  . decide

end CollectionSchemeManager

end DataManagement
