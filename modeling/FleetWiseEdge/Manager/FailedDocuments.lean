import FleetWiseEdge.Manager.Lemmas.Follows
import FleetWiseEdge.Manager.Lemmas.Documents

/-!
This module contains the comparison of a run with the one from which the documents that fail to build are
deleted, and the condition under which nobody sees a difference.
-/

namespace DataManagement

open Cpp DataInspection

section Fails

variable {V : Type}

def CollectionSchemeIngestionList.fails (list : Option (CollectionSchemeIngestionList V)) : Bool :=
  list.any fun l => !l.build.2

def DecoderManifestIngestion.fails (manifest : Option (DecoderManifestIngestion V)) : Bool :=
  manifest.any fun m => !m.build.2

theorem CollectionSchemeIngestionList.fails_iff {list : Option (CollectionSchemeIngestionList V)}
    : fails list = true ↔ ∃ mReady, list = some ⟨none, mReady⟩ := by
  match list with
  | none => simp [fails]
  | some ⟨none, mReady⟩ => simp [fails, build]
  | some ⟨some content, mReady⟩ => simp [fails, build]

theorem DecoderManifestIngestion.fails_iff {manifest : Option (DecoderManifestIngestion V)}
    : fails manifest = true ↔ ∃ mReady, manifest = some ⟨none, mReady⟩ := by
  match manifest with
  | none => simp [fails]
  | some ⟨none, mReady⟩ => simp [fails, build]
  | some ⟨some content, mReady⟩ => simp [fails, build]

def CollectionSchemeIngestionList.schemes (list : Option (CollectionSchemeIngestionList V))
    : List (CollectionScheme V) :=
  (list.map (·.getCollectionSchemes)).getD []

theorem CollectionSchemeIngestionList.schemes_of_fails {list : Option (CollectionSchemeIngestionList V)}
    (h : fails list = true)
    : schemes list = [] := by
  have ⟨mReady, hlist⟩ := fails_iff.mp h
  simp [schemes, hlist, getCollectionSchemes]

end Fails

/--
The documents that build: those that wait to be processed, and the list that was taken last.
-/
structure Built (V : Type) where
  waitingList : Option (List (CollectionScheme V)) := none
  waitingManifest : Option (DecoderManifest V) := none
  collectionSchemeList : List (CollectionScheme V) := []

namespace Built

variable {V : Type}

def ofWorker (w : Worker V) : Built V where
  collectionSchemeList := CollectionSchemeIngestionList.schemes w.manager.mCollectionSchemeList

def next (state : Option (Worker V)) (b : Built V) (e : WorkEvent V) : Built V :=
  match e with
  | .onCollectionSchemeUpdate content => { b with waitingList := content.or b.waitingList }
  | .onDecoderManifestUpdate content => { b with waitingManifest := content.or b.waitingManifest }
  | .process _ _ => { collectionSchemeList := b.waitingList.getD b.collectionSchemeList }
  | .checkTimeLine _ => b
  -- the next process knows what it has read from the storage
  | .restart startTime manifestTime listTime =>
    (state.map fun w => ofWorker (w.restart startTime manifestTime listTime)).getD {}

end Built

def WorkEvent.builds {V : Type} (e : WorkEvent V) : Bool :=
  match e with
  | .onCollectionSchemeUpdate content => content.isSome
  | .onDecoderManifestUpdate content => content.isSome
  | _ => true

namespace CollectionSchemeManager

variable {V : Type}

/--
No document that builds was overwritten by one that fails before it was taken.
-/
def NothingOverwritten (b : Built V) (s : CollectionSchemeManager V) : Prop :=
  (s.mCollectionSchemeAvailable = true → CollectionSchemeIngestionList.fails s.mCollectionSchemeListInput = true →
      b.waitingList = none)
    ∧ (s.mDecoderManifestAvailable = true → DecoderManifestIngestion.fails s.mDecoderManifestInput = true →
      b.waitingManifest = none)

/--
When a new manifest is accepted while the manager has a list that failed and nothing is loaded, the last list
that was built has nothing to load for this manifest.
-/
def NothingToRebuild (b : Built V) (currTime : Nat) (s : CollectionSchemeManager V) : Prop :=
  CollectionSchemeIngestionList.fails s.mCollectionSchemeList = true →
  s.mProcessDecoderManifest = true →
  s.isCollectionSchemeLoaded = false →
  ∀ content ∈ s.mDecoderManifest.bind (·.content), content.arn ≠ s.currentDecoderManifestID →
    ∀ c ∈ b.collectionSchemeList, c.decoderManifestID = content.arn →
      c.startTime ≤ currTime ∧ c.expiryTime ≤ currTime

def NoSignals (s : CollectionSchemeManager V) : Prop :=
  (∀ (id : String) c, s.mEnabledCollectionSchemeMap[id]? = some c → c.collectSignals = [])
    ∧ ∀ (id : String) c, s.mIdleCollectionSchemeMap[id]? = some c → c.collectSignals = []

end CollectionSchemeManager

def Worker.ManifestNotRead {V : Type} (currTime : Nat) (w : Worker V) : Prop :=
  DecoderManifestIngestion.fails w.manager.mDecoderManifest = true →
    w.manager.mUseLocalDictionary = true
      ∨ w.manager.NoSignals
      ∨ w.enabledCollectionSchemeMapChanged = false ∧ w.manager.Quiet currTime

/--
The condition on a step under which documents that failed before it have no effect on it.
-/
def WorkEvent.Harmless {V : Type} (state : Option (Worker V) × Built V) (e : WorkEvent V) : Prop :=
  ∀ w ∈ state.1,
    match e with
    | .process manifestTime _ =>
      w.manager.NothingOverwritten state.2 ∧ w.manager.updateAvailable.NothingToRebuild state.2 manifestTime
    | .checkTimeLine currTime => w.ManifestNotRead currTime
    | _ => True

namespace CollectionSchemeManager

variable {V : Type} {s : CollectionSchemeManager V} {d d' : Documents V} {b : Built V} {currTime : Nat}

section Similar

/--
The documents of the run with the documents that fail, and of the one without them. Where they differ the first
ones are documents that failed.
-/
structure Similar (d d' : Documents V) : Prop where
  persistency : d'.mSchemaPersistency = d.mSchemaPersistency
  useLocal : d'.mUseLocalDictionary = d.mUseLocalDictionary
  translator : d'.mCANIDTranslator = d.mCANIDTranslator
  list : d'.mCollectionSchemeList = d.mCollectionSchemeList
      ∧ d'.mProcessCollectionScheme = d.mProcessCollectionScheme
    ∨ CollectionSchemeIngestionList.fails d.mCollectionSchemeList = true ∧ d'.mProcessCollectionScheme = false
  manifest : d'.mDecoderManifest = d.mDecoderManifest ∧ d'.mProcessDecoderManifest = d.mProcessDecoderManifest
    ∨ DecoderManifestIngestion.fails d.mDecoderManifest = true ∧ d'.mProcessDecoderManifest = false

theorem Similar.refl (d : Documents V) : Similar d d :=
  ⟨rfl, rfl, rfl, Or.inl ⟨rfl, rfl⟩, Or.inl ⟨rfl, rfl⟩⟩

theorem rebuildLoop_over {collectionSchemeList : List (CollectionScheme V)}
    (hloaded : s.isCollectionSchemeLoaded = false)
    (hover : ∀ c ∈ collectionSchemeList, c.decoderManifestID = s.currentDecoderManifestID →
      c.startTime ≤ currTime ∧ c.expiryTime ≤ currTime)
    : rebuildLoop currTime collectionSchemeList false s = (s, false) := by
  induction collectionSchemeList with
  | nil => rfl
  | cons c rest ih =>
    unfold rebuildLoop
    split
    . have hempty : (s.mEnabledCollectionSchemeMap.isEmpty && s.mIdleCollectionSchemeMap.isEmpty) = true := by
        simpa [isCollectionSchemeLoaded] using hloaded
      unfold cleanupCollectionSchemes
      rw [if_pos hempty]
    . next hmanifest =>
      obtain ⟨hstart, hstop⟩ := hover c (by simp) (by simpa using hmanifest)
      dsimp only
      rw [if_neg (by omega), if_neg (by omega)]
      apply ih
      intro c' hc'
      apply hover c'
      simp [hc']

theorem rebuildMapsandTimeLine_over (hloaded : s.isCollectionSchemeLoaded = false)
    (hover : ∀ c ∈ CollectionSchemeIngestionList.schemes s.mCollectionSchemeList,
      c.decoderManifestID = s.currentDecoderManifestID → c.startTime ≤ currTime ∧ c.expiryTime ≤ currTime)
    : s.rebuildMapsandTimeLine currTime = (s, false) := by
  unfold rebuildMapsandTimeLine
  split
  . rfl
  . next list hlist =>
    apply rebuildLoop_over hloaded
    intro c hc
    apply hover c
    simpa [CollectionSchemeIngestionList.schemes, hlist] using hc

def SameRebuild (currTime : Nat) (id : String) (s : CollectionSchemeManager V) (d : Documents V) : Prop :=
  d.mCollectionSchemeList = s.mCollectionSchemeList
    ∨ CollectionSchemeIngestionList.fails s.mCollectionSchemeList = true
      ∧ (s.isCollectionSchemeLoaded = false →
        ∀ c ∈ CollectionSchemeIngestionList.schemes d.mCollectionSchemeList, c.decoderManifestID = id →
          c.startTime ≤ currTime ∧ c.expiryTime ≤ currTime)

theorem rebuildMapsandTimeLine_same (hloaded : s.isCollectionSchemeLoaded = false)
    (h : SameRebuild currTime s.currentDecoderManifestID s d)
    : (s.withDocuments d).rebuildMapsandTimeLine currTime
        =
      ((s.rebuildMapsandTimeLine currTime).1.withDocuments d, (s.rebuildMapsandTimeLine currTime).2) := by
  cases h with
  | inl hsame =>
    apply rebuildMapsandTimeLine_withDocuments
    rw [hsame]
  | inr hfails =>
    have hfirst : s.rebuildMapsandTimeLine currTime = (s, false) := by
      apply rebuildMapsandTimeLine_over hloaded
      rw [CollectionSchemeIngestionList.schemes_of_fails hfails.1]
      simp
    rw [hfirst]
    exact rebuildMapsandTimeLine_over (s := s.withDocuments d) hloaded (hfails.2 hloaded)

theorem acceptDecoderManifest_withDocuments {id : String} (h : SameRebuild currTime id s d)
    : (s.withDocuments d).acceptDecoderManifest id currTime
        =
      ((s.acceptDecoderManifest id currTime).1.withDocuments (s.withDocuments d).storeDecoderManifest.documents,
        (s.acceptDecoderManifest id currTime).2) := by
  have hsame : { s.withDocuments d with currentDecoderManifestID := id }.storeDecoderManifest
      = { s with currentDecoderManifestID := id }.storeDecoderManifest.withDocuments
        (s.withDocuments d).storeDecoderManifest.documents :=
    rfl
  have hloaded (s : CollectionSchemeManager V) (d : Documents V)
      : (s.withDocuments d).isCollectionSchemeLoaded = s.isCollectionSchemeLoaded :=
    rfl
  unfold acceptDecoderManifest
  dsimp only
  rw [hsame, hloaded]
  split
  . rw [cleanupCollectionSchemes_withDocuments]
  . next hempty =>
    apply rebuildMapsandTimeLine_same (by simpa using hempty)
    exact h

theorem acceptCollectionScheme_withDocuments (currTime : Nat)
    (hlist : d.mCollectionSchemeList = s.mCollectionSchemeList)
    : (s.withDocuments d).acceptCollectionScheme currTime
        =
      ((s.acceptCollectionScheme currTime).1.withDocuments (s.withDocuments d).storeCollectionSchemeList.documents,
        (s.acceptCollectionScheme currTime).2) := by
  have hsame : (s.withDocuments d).storeCollectionSchemeList
      = s.storeCollectionSchemeList.withDocuments (s.withDocuments d).storeCollectionSchemeList.documents :=
    rfl
  have hloaded (s : CollectionSchemeManager V) (d : Documents V)
      : (s.withDocuments d).isCollectionSchemeLoaded = s.isCollectionSchemeLoaded :=
    rfl
  unfold acceptCollectionScheme
  dsimp only
  rw [hsame, hloaded]
  split
  . apply updateMapsandTimeLine_withDocuments
    exact congrArg (Option.map (·.getCollectionSchemes)) hlist
  . apply rebuildMapsandTimeLine_withDocuments
    exact congrArg (Option.map (·.getCollectionSchemes)) hlist

theorem processAvailableManifest_fails (h : DecoderManifestIngestion.fails s.mDecoderManifest = true)
    : s.processAvailableManifest currTime = ({ s with mProcessDecoderManifest := false }, false) := by
  have ⟨mReady, hmanifest⟩ := DecoderManifestIngestion.fails_iff.mp h
  unfold processAvailableManifest processDecoderManifest
  cases hflag : s.mProcessDecoderManifest with
  | false => simp [← hflag]
  | true => simp [hmanifest, DecoderManifestIngestion.build]

theorem processAvailableList_fails (h : CollectionSchemeIngestionList.fails s.mCollectionSchemeList = true)
    : s.processAvailableList currTime = ({ s with mProcessCollectionScheme := false }, false) := by
  have ⟨mReady, hlist⟩ := CollectionSchemeIngestionList.fails_iff.mp h
  unfold processAvailableList processCollectionScheme
  cases hflag : s.mProcessCollectionScheme with
  | false => simp [← hflag]
  | true => simp [hlist, CollectionSchemeIngestionList.build]

theorem processAvailableManifest_content {content : DecoderManifest V} {mReady : Bool}
    (hprocess : s.mProcessDecoderManifest = true) (hmanifest : s.mDecoderManifest = some ⟨some content, mReady⟩)
    : s.processAvailableManifest currTime
        =
      if content.arn = s.currentDecoderManifestID then
        ({ s with mProcessDecoderManifest := false, mDecoderManifest := some ⟨some content, true⟩ }, false)
      else
        { s with
          mProcessDecoderManifest := false
          mDecoderManifest := some ⟨some content, true⟩ }.acceptDecoderManifest content.arn currTime := by
  simp [processAvailableManifest, processDecoderManifest, hprocess, hmanifest, DecoderManifestIngestion.build,
    DecoderManifestIngestion.getID, DecoderManifestIngestion.ready]

theorem processAvailableList_content {content : List (CollectionScheme V)} {mReady : Bool}
    (hprocess : s.mProcessCollectionScheme = true)
    (hlist : s.mCollectionSchemeList = some ⟨some content, mReady⟩)
    : s.processAvailableList currTime
        =
      { s with
        mProcessCollectionScheme := false
        mCollectionSchemeList := some ⟨some content, true⟩ }.acceptCollectionScheme currTime := by
  simp [processAvailableList, processCollectionScheme, hprocess, hlist, CollectionSchemeIngestionList.build]

theorem Similar.storeDecoderManifest (h : Similar s.documents d)
    (hmanifest : d.mDecoderManifest = s.mDecoderManifest)
    : Similar s.storeDecoderManifest.documents (s.withDocuments d).storeDecoderManifest.documents := by
  refine ⟨?_, h.useLocal, h.translator, h.list, h.manifest⟩
  have hpersistency : d.mSchemaPersistency = s.mSchemaPersistency := h.persistency
  simp [CollectionSchemeManager.storeDecoderManifest, documents, withDocuments, hpersistency, hmanifest]

theorem Similar.storeCollectionSchemeList (h : Similar s.documents d)
    (hlist : d.mCollectionSchemeList = s.mCollectionSchemeList)
    : Similar s.storeCollectionSchemeList.documents
        (s.withDocuments d).storeCollectionSchemeList.documents := by
  refine ⟨?_, h.useLocal, h.translator, h.list, h.manifest⟩
  have hpersistency : d.mSchemaPersistency = s.mSchemaPersistency := h.persistency
  simp [CollectionSchemeManager.storeCollectionSchemeList, documents, withDocuments, hpersistency, hlist]

theorem processAvailableManifest_similar (h : Similar s.documents d')
    (hrebuild : s.mProcessDecoderManifest = true →
      ∀ content ∈ s.mDecoderManifest.bind (·.content), content.arn ≠ s.currentDecoderManifestID →
        SameRebuild currTime content.arn s d')
    : ∃ d'', (s.withDocuments d').processAvailableManifest currTime
          =
        ((s.processAvailableManifest currTime).1.withDocuments d'', (s.processAvailableManifest currTime).2)
        ∧ Similar (s.processAvailableManifest currTime).1.documents d'' := by
  cases h.manifest with
  | inr hfails =>
    have ⟨hfails, hflag⟩ := hfails
    have hsecond : (s.withDocuments d').processAvailableManifest currTime = (s.withDocuments d', false) := by
      simp [processAvailableManifest, withDocuments, hflag]
    rw [processAvailableManifest_fails hfails, hsecond]
    exact ⟨d', rfl, h.persistency, h.useLocal, h.translator, h.list, Or.inr ⟨hfails, hflag⟩⟩
  | inl hsame =>
    have ⟨hmanifest, hflag⟩ := hsame
    cases hprocess : s.mProcessDecoderManifest with
    | false =>
      have hflag : d'.mProcessDecoderManifest = false := hflag.trans hprocess
      have hfirst : s.processAvailableManifest currTime = (s, false) := by
        simp [processAvailableManifest, hprocess]
      have hsecond : (s.withDocuments d').processAvailableManifest currTime = (s.withDocuments d', false) := by
        simp [processAvailableManifest, withDocuments, hflag]
      rw [hfirst, hsecond]
      exact ⟨d', rfl, h⟩
    | true =>
      have hflag : d'.mProcessDecoderManifest = true := hflag.trans hprocess
      match hold : s.mDecoderManifest with
      | none =>
        have hnone : d'.mDecoderManifest = none := hmanifest.trans hold
        refine ⟨{ d' with mProcessDecoderManifest := false }, ?_, ?_⟩
        . simp [processAvailableManifest, processDecoderManifest, withDocuments, hprocess, hflag, hold, hnone]
        . simp only [processAvailableManifest, processDecoderManifest, hprocess, hold, if_true, Option.map_none]
          exact ⟨h.persistency, h.useLocal, h.translator, h.list, Or.inl ⟨hnone, rfl⟩⟩
      | some ⟨none, mReady⟩ =>
        have hfails : DecoderManifestIngestion.fails s.mDecoderManifest = true :=
          DecoderManifestIngestion.fails_iff.mpr ⟨mReady, hold⟩
        have hfails' : DecoderManifestIngestion.fails (s.withDocuments d').mDecoderManifest = true :=
          DecoderManifestIngestion.fails_iff.mpr ⟨mReady, hmanifest.trans hold⟩
        rw [processAvailableManifest_fails hfails, processAvailableManifest_fails hfails']
        refine ⟨{ d' with mProcessDecoderManifest := false }, rfl, ?_⟩
        exact ⟨h.persistency, h.useLocal, h.translator, h.list, Or.inl ⟨hmanifest, rfl⟩⟩
      | some ⟨some content, mReady⟩ =>
        have hnew : (s.withDocuments d').mDecoderManifest = some ⟨some content, mReady⟩ := hmanifest.trans hold
        rw [processAvailableManifest_content hprocess hold, processAvailableManifest_content hflag hnew]
        have hbuilt : Similar
            { s with
              mProcessDecoderManifest := false
              mDecoderManifest := some ⟨some content, true⟩ }.documents
            { d' with
              mProcessDecoderManifest := false
              mDecoderManifest := some ⟨some content, true⟩ } :=
          ⟨h.persistency, h.useLocal, h.translator, h.list, Or.inl ⟨rfl, rfl⟩⟩
        have hcurrent : (s.withDocuments d').currentDecoderManifestID = s.currentDecoderManifestID := rfl
        rw [hcurrent]
        split
        . exact ⟨_, rfl, hbuilt⟩
        . next hother =>
          have hlists : SameRebuild currTime content.arn s d' := by
            apply hrebuild hprocess content ?_ hother
            simp [hold]
          have haccept := acceptDecoderManifest_withDocuments
            (s := { s with mProcessDecoderManifest := false, mDecoderManifest := some ⟨some content, true⟩ })
            (d := { d' with mProcessDecoderManifest := false, mDecoderManifest := some ⟨some content, true⟩ })
            hlists
          refine ⟨_, haccept, ?_⟩
          rw [acceptDecoderManifest_documents]
          apply hbuilt.storeDecoderManifest
          rfl

theorem processAvailableList_similar (h : Similar s.documents d') (currTime : Nat)
    : ∃ d'', (s.withDocuments d').processAvailableList currTime
          =
        ((s.processAvailableList currTime).1.withDocuments d'', (s.processAvailableList currTime).2)
        ∧ Similar (s.processAvailableList currTime).1.documents d'' := by
  cases h.list with
  | inr hfails =>
    have ⟨hfails, hflag⟩ := hfails
    have hsecond : (s.withDocuments d').processAvailableList currTime = (s.withDocuments d', false) := by
      simp [processAvailableList, withDocuments, hflag]
    rw [processAvailableList_fails hfails, hsecond]
    exact ⟨d', rfl, h.persistency, h.useLocal, h.translator, Or.inr ⟨hfails, hflag⟩, h.manifest⟩
  | inl hsame =>
    have ⟨hlist, hflag⟩ := hsame
    cases hprocess : s.mProcessCollectionScheme with
    | false =>
      have hflag : d'.mProcessCollectionScheme = false := hflag.trans hprocess
      have hfirst : s.processAvailableList currTime = (s, false) := by
        simp [processAvailableList, hprocess]
      have hsecond : (s.withDocuments d').processAvailableList currTime = (s.withDocuments d', false) := by
        simp [processAvailableList, withDocuments, hflag]
      rw [hfirst, hsecond]
      exact ⟨d', rfl, h⟩
    | true =>
      have hflag : d'.mProcessCollectionScheme = true := hflag.trans hprocess
      match hold : s.mCollectionSchemeList with
      | none =>
        have hnone : d'.mCollectionSchemeList = none := hlist.trans hold
        refine ⟨{ d' with mProcessCollectionScheme := false }, ?_, ?_⟩
        . simp [processAvailableList, processCollectionScheme, withDocuments, hprocess, hflag, hold, hnone]
        . simp only [processAvailableList, processCollectionScheme, hprocess, hold, if_true, Option.map_none]
          exact ⟨h.persistency, h.useLocal, h.translator, Or.inl ⟨hnone, rfl⟩, h.manifest⟩
      | some ⟨none, mReady⟩ =>
        have hfails : CollectionSchemeIngestionList.fails s.mCollectionSchemeList = true :=
          CollectionSchemeIngestionList.fails_iff.mpr ⟨mReady, hold⟩
        have hfails' : CollectionSchemeIngestionList.fails (s.withDocuments d').mCollectionSchemeList = true :=
          CollectionSchemeIngestionList.fails_iff.mpr ⟨mReady, hlist.trans hold⟩
        rw [processAvailableList_fails hfails, processAvailableList_fails hfails']
        refine ⟨{ d' with mProcessCollectionScheme := false }, rfl, ?_⟩
        exact ⟨h.persistency, h.useLocal, h.translator, Or.inl ⟨hlist, rfl⟩, h.manifest⟩
      | some ⟨some content, mReady⟩ =>
        have hnew : (s.withDocuments d').mCollectionSchemeList = some ⟨some content, mReady⟩ :=
          hlist.trans hold
        rw [processAvailableList_content hprocess hold, processAvailableList_content hflag hnew]
        have hbuilt : Similar
            { s with
              mProcessCollectionScheme := false
              mCollectionSchemeList := some ⟨some content, true⟩ }.documents
            { d' with
              mProcessCollectionScheme := false
              mCollectionSchemeList := some ⟨some content, true⟩ } :=
          ⟨h.persistency, h.useLocal, h.translator, Or.inl ⟨rfl, rfl⟩, h.manifest⟩
        have haccept := acceptCollectionScheme_withDocuments currTime
          (s := { s with mProcessCollectionScheme := false, mCollectionSchemeList := some ⟨some content, true⟩ })
          (d := { d' with mProcessCollectionScheme := false, mCollectionSchemeList := some ⟨some content, true⟩ })
          rfl
        refine ⟨_, haccept, ?_⟩
        rw [acceptCollectionScheme_documents]
        apply hbuilt.storeCollectionSchemeList
        rfl

end Similar

section Process

variable {manifestTime listTime : Nat}

structure Unaffected (b : Built V) (d d' : Documents V) : Prop where
  similar : Similar d d'
  listSettled : d'.mProcessCollectionScheme = false
  manifestSettled : d'.mProcessDecoderManifest = false
  built : CollectionSchemeIngestionList.schemes d'.mCollectionSchemeList = b.collectionSchemeList
  waitingList : match b.waitingList with
    | none => d'.mCollectionSchemeAvailable = false
    | some new => d'.mCollectionSchemeAvailable = true ∧ d'.mCollectionSchemeListInput = some ⟨some new, false⟩
  waitingManifest : match b.waitingManifest with
    | none => d'.mDecoderManifestAvailable = false
    | some new => d'.mDecoderManifestAvailable = true ∧ d'.mDecoderManifestInput = some ⟨some new, false⟩
  listInput : d.mCollectionSchemeAvailable = d'.mCollectionSchemeAvailable
      ∧ (d'.mCollectionSchemeAvailable = true → d.mCollectionSchemeListInput = d'.mCollectionSchemeListInput)
    ∨ d.mCollectionSchemeAvailable = true
      ∧ CollectionSchemeIngestionList.fails d.mCollectionSchemeListInput = true
  manifestInput : d.mDecoderManifestAvailable = d'.mDecoderManifestAvailable
      ∧ (d'.mDecoderManifestAvailable = true → d.mDecoderManifestInput = d'.mDecoderManifestInput)
    ∨ d.mDecoderManifestAvailable = true ∧ DecoderManifestIngestion.fails d.mDecoderManifestInput = true

theorem Unaffected.takeCollectionSchemeList (h : Unaffected b s.documents d') (hok : s.NothingOverwritten b)
    : (s.withDocuments d').takeCollectionSchemeList.mCollectionSchemeList
          = s.takeCollectionSchemeList.mCollectionSchemeList
        ∧ (s.withDocuments d').takeCollectionSchemeList.mProcessCollectionScheme
          = s.takeCollectionSchemeList.mProcessCollectionScheme
      ∨ CollectionSchemeIngestionList.fails s.takeCollectionSchemeList.mCollectionSchemeList = true
        ∧ (s.withDocuments d').takeCollectionSchemeList.mProcessCollectionScheme = false := by
  have hwaiting := h.waitingList
  have hsettled : (s.withDocuments d').mProcessCollectionScheme = false := h.listSettled
  cases hb : b.waitingList with
  | none =>
    simp only [hb] at hwaiting
    have hwaiting : (s.withDocuments d').mCollectionSchemeAvailable = false := hwaiting
    cases h.listInput with
    | inl hinput =>
      have havailable : s.mCollectionSchemeAvailable = false := hinput.1.trans hwaiting
      simp only [CollectionSchemeManager.takeCollectionSchemeList, hwaiting, havailable, Bool.false_and,
        Bool.false_eq_true, if_false]
      exact h.similar.list
    | inr hfails =>
      have ⟨mReady, hinput⟩ := CollectionSchemeIngestionList.fails_iff.mp hfails.2
      have hinput : s.mCollectionSchemeListInput = some ⟨none, mReady⟩ := hinput
      have havailable : s.mCollectionSchemeAvailable = true := hfails.1
      apply Or.inr
      simp [CollectionSchemeManager.takeCollectionSchemeList, hwaiting, hsettled, havailable, hinput,
        CollectionSchemeIngestionList.fails, CollectionSchemeIngestionList.build]
  | some new =>
    simp only [hb] at hwaiting
    cases h.listInput with
    | inl hinput =>
      have havailable' : (s.withDocuments d').mCollectionSchemeAvailable = true := hwaiting.1
      have hinput' : (s.withDocuments d').mCollectionSchemeListInput = some ⟨some new, false⟩ := hwaiting.2
      have havailable : s.mCollectionSchemeAvailable = true := hinput.1.trans hwaiting.1
      have hinput : s.mCollectionSchemeListInput = some ⟨some new, false⟩ :=
        (hinput.2 hwaiting.1).trans hwaiting.2
      apply Or.inl
      simp [CollectionSchemeManager.takeCollectionSchemeList, havailable, havailable', hinput, hinput']
    | inr hfails =>
      -- a list that builds was overwritten
      have hnone := hok.1 hfails.1 hfails.2
      rw [hb] at hnone
      cases hnone

theorem Unaffected.takeDecoderManifest (h : Unaffected b s.documents d') (hok : s.NothingOverwritten b)
    : (s.withDocuments d').takeDecoderManifest.mDecoderManifest = s.takeDecoderManifest.mDecoderManifest
        ∧ (s.withDocuments d').takeDecoderManifest.mProcessDecoderManifest
          = s.takeDecoderManifest.mProcessDecoderManifest
      ∨ DecoderManifestIngestion.fails s.takeDecoderManifest.mDecoderManifest = true
        ∧ (s.withDocuments d').takeDecoderManifest.mProcessDecoderManifest = false := by
  have hwaiting := h.waitingManifest
  have hsettled : (s.withDocuments d').mProcessDecoderManifest = false := h.manifestSettled
  cases hb : b.waitingManifest with
  | none =>
    simp only [hb] at hwaiting
    have hwaiting : (s.withDocuments d').mDecoderManifestAvailable = false := hwaiting
    cases h.manifestInput with
    | inl hinput =>
      have havailable : s.mDecoderManifestAvailable = false := hinput.1.trans hwaiting
      simp only [CollectionSchemeManager.takeDecoderManifest, hwaiting, havailable, Bool.false_and,
        Bool.false_eq_true, if_false]
      exact h.similar.manifest
    | inr hfails =>
      have ⟨mReady, hinput⟩ := DecoderManifestIngestion.fails_iff.mp hfails.2
      have hinput : s.mDecoderManifestInput = some ⟨none, mReady⟩ := hinput
      have havailable : s.mDecoderManifestAvailable = true := hfails.1
      apply Or.inr
      simp [CollectionSchemeManager.takeDecoderManifest, hwaiting, hsettled, havailable, hinput,
        DecoderManifestIngestion.fails, DecoderManifestIngestion.build]
  | some new =>
    simp only [hb] at hwaiting
    cases h.manifestInput with
    | inl hinput =>
      have havailable' : (s.withDocuments d').mDecoderManifestAvailable = true := hwaiting.1
      have hinput' : (s.withDocuments d').mDecoderManifestInput = some ⟨some new, false⟩ := hwaiting.2
      have havailable : s.mDecoderManifestAvailable = true := hinput.1.trans hwaiting.1
      have hinput : s.mDecoderManifestInput = some ⟨some new, false⟩ := (hinput.2 hwaiting.1).trans hwaiting.2
      apply Or.inl
      simp [CollectionSchemeManager.takeDecoderManifest, havailable, havailable', hinput, hinput']
    | inr hfails =>
      have hnone := hok.2 hfails.1 hfails.2
      rw [hb] at hnone
      cases hnone

theorem Unaffected.updateAvailable (h : Unaffected b s.documents d') (hok : s.NothingOverwritten b)
    : Similar s.updateAvailable.documents (s.withDocuments d').updateAvailable.documents := by
  have ⟨hlist, hprocessList, hlocal, hpersistency⟩ := updateAvailable_lists (s := s)
  have ⟨hlist', hprocessList', hlocal', hpersistency'⟩ := updateAvailable_lists (s := s.withDocuments d')
  have ⟨hmanifest, hprocessManifest⟩ := updateAvailable_manifests (s := s)
  have ⟨hmanifest', hprocessManifest'⟩ := updateAvailable_manifests (s := s.withDocuments d')
  have htranslator (s : CollectionSchemeManager V) : s.updateAvailable.mCANIDTranslator = s.mCANIDTranslator := by
    unfold CollectionSchemeManager.updateAvailable CollectionSchemeManager.takeDecoderManifest
      CollectionSchemeManager.takeCollectionSchemeList
    split <;> split <;> rfl
  simp only [documents]
  constructor
  . rw [hpersistency, hpersistency']
    exact h.similar.persistency
  . rw [hlocal, hlocal']
    exact h.similar.useLocal
  . rw [htranslator, htranslator]
    exact h.similar.translator
  . rw [hlist, hlist', hprocessList, hprocessList']
    exact h.takeCollectionSchemeList hok
  . rw [hmanifest, hmanifest', hprocessManifest, hprocessManifest']
    exact h.takeDecoderManifest hok

theorem schemes_processAvailableList
    : CollectionSchemeIngestionList.schemes (s.processAvailableList currTime).1.mCollectionSchemeList
        =
      if s.mProcessCollectionScheme then
        (s.mCollectionSchemeList.bind (·.content)).getD []
      else
        CollectionSchemeIngestionList.schemes s.mCollectionSchemeList := by
  cases hprocess : s.mProcessCollectionScheme with
  | false => simp [processAvailableList, hprocess]
  | true =>
    match hlist : s.mCollectionSchemeList with
    | none =>
      simp [processAvailableList, processCollectionScheme, hprocess, hlist, CollectionSchemeIngestionList.schemes]
    | some ⟨none, mReady⟩ =>
      have hfails : CollectionSchemeIngestionList.fails s.mCollectionSchemeList = true :=
        CollectionSchemeIngestionList.fails_iff.mpr ⟨mReady, hlist⟩
      rw [processAvailableList_fails hfails]
      exact CollectionSchemeIngestionList.schemes_of_fails hfails
    | some ⟨some content, mReady⟩ =>
      rw [processAvailableList_content hprocess hlist]
      have hdocuments := acceptCollectionScheme_documents
        { s with mProcessCollectionScheme := false, mCollectionSchemeList := some ⟨some content, true⟩ } currTime
      have hkept := congrArg Documents.mCollectionSchemeList hdocuments
      simp only [documents, CollectionSchemeManager.storeCollectionSchemeList] at hkept
      simp [hkept, CollectionSchemeIngestionList.schemes, CollectionSchemeIngestionList.getCollectionSchemes]

theorem Unaffected.schemes_process (h : Unaffected b s.documents d') (manifestTime listTime : Nat)
    : CollectionSchemeIngestionList.schemes
        ((((s.withDocuments d').updateAvailable.processAvailableManifest manifestTime).1.processAvailableList
          listTime).1.mCollectionSchemeList)
        =
      b.waitingList.getD b.collectionSchemeList := by
  obtain ⟨_, _, hmanifest⟩ := processAvailableManifest_documents (s.withDocuments d').updateAvailable manifestTime
  have hlist := congrArg Documents.mCollectionSchemeList hmanifest
  have hflag := congrArg Documents.mProcessCollectionScheme hmanifest
  simp only [documents] at hlist hflag
  obtain ⟨htake, hprocess, _⟩ := updateAvailable_lists (s := s.withDocuments d')
  rw [schemes_processAvailableList, hlist, hflag, htake, hprocess]
  have hwaiting := h.waitingList
  have hsettled : (s.withDocuments d').mProcessCollectionScheme = false := h.listSettled
  cases hb : b.waitingList with
  | none =>
    simp only [hb] at hwaiting
    have hwaiting : (s.withDocuments d').mCollectionSchemeAvailable = false := hwaiting
    simp only [CollectionSchemeManager.takeCollectionSchemeList, hwaiting, hsettled, Bool.false_and,
      Bool.false_eq_true, if_false]
    exact h.built
  | some new =>
    simp only [hb] at hwaiting
    have havailable : (s.withDocuments d').mCollectionSchemeAvailable = true := hwaiting.1
    have hinput : (s.withDocuments d').mCollectionSchemeListInput = some ⟨some new, false⟩ := hwaiting.2
    simp [CollectionSchemeManager.takeCollectionSchemeList, havailable, hinput]

theorem Unaffected.schemes_updateAvailable (h : Unaffected b s.documents d')
    (hprocess : (s.withDocuments d').updateAvailable.mProcessCollectionScheme = false)
    : CollectionSchemeIngestionList.schemes (s.withDocuments d').updateAvailable.mCollectionSchemeList
        =
      b.collectionSchemeList := by
  have ⟨htake, hflag, _⟩ := updateAvailable_lists (s := s.withDocuments d')
  rw [hflag] at hprocess
  rw [htake]
  have hwaiting := h.waitingList
  cases hb : b.waitingList with
  | none =>
    simp only [hb] at hwaiting
    have hwaiting : (s.withDocuments d').mCollectionSchemeAvailable = false := hwaiting
    simp only [CollectionSchemeManager.takeCollectionSchemeList, hwaiting, Bool.false_and, Bool.false_eq_true,
      if_false]
    exact h.built
  | some new =>
    simp only [hb] at hwaiting
    have havailable : (s.withDocuments d').mCollectionSchemeAvailable = true := hwaiting.1
    have hinput : (s.withDocuments d').mCollectionSchemeListInput = some ⟨some new, false⟩ := hwaiting.2
    simp [CollectionSchemeManager.takeCollectionSchemeList, havailable, hinput] at hprocess

theorem processAvailable_settled (s : CollectionSchemeManager V) (manifestTime listTime : Nat)
    : ((s.processAvailableManifest manifestTime).1.processAvailableList listTime).1.mProcessCollectionScheme = false
        ∧ ((s.processAvailableManifest manifestTime).1.processAvailableList listTime).1.mProcessDecoderManifest
          = false := by
  have ⟨_, _, hmanifest⟩ := processAvailableManifest_documents s manifestTime
  have ⟨_, _, hlist⟩ := processAvailableList_documents (s.processAvailableManifest manifestTime).1 listTime
  constructor
  . exact congrArg Documents.mProcessCollectionScheme hlist
  . have hkept := congrArg Documents.mProcessDecoderManifest hlist
    exact hkept.trans (congrArg Documents.mProcessDecoderManifest hmanifest)

theorem processAvailable_available (s : CollectionSchemeManager V) (manifestTime listTime : Nat)
    : ((s.processAvailableManifest manifestTime).1.processAvailableList listTime).1.mCollectionSchemeAvailable
          = s.mCollectionSchemeAvailable
        ∧ ((s.processAvailableManifest manifestTime).1.processAvailableList listTime).1.mDecoderManifestAvailable
          = s.mDecoderManifestAvailable := by
  constructor
  . exact processAvailableList_available.1.trans processAvailableManifest_available.1
  . exact processAvailableList_available.2.trans processAvailableManifest_available.2

theorem Unaffected.process {w : Worker V} (h : Unaffected b w.manager.documents d') (listTime : Nat)
    (hoverwritten : w.manager.NothingOverwritten b)
    (hnothing : w.manager.updateAvailable.NothingToRebuild b manifestTime)
    : ∃ d'', { w with manager := w.manager.withDocuments d' }.process manifestTime listTime
          =
        { w.process manifestTime listTime with
          manager := (w.process manifestTime listTime).manager.withDocuments d'' }
        ∧ Unaffected { collectionSchemeList := b.waitingList.getD b.collectionSchemeList }
          (w.process manifestTime listTime).manager.documents d'' := by
  have hsimilar := h.updateAvailable hoverwritten
  have hschemes := h.schemes_updateAvailable
  have hprocessed := h.schemes_process manifestTime listTime
  have ⟨havailable, havailable'⟩ := updateAvailable_available (s := w.manager)
  have ⟨hempty, hempty'⟩ := updateAvailable_available (s := w.manager.withDocuments d')
  have hsettled := processAvailable_settled (w.manager.withDocuments d').updateAvailable manifestTime listTime
  have hkept := processAvailable_available w.manager.updateAvailable manifestTime listTime
  have hkept' := processAvailable_available (w.manager.withDocuments d').updateAvailable manifestTime listTime
  rw [hempty, hempty'] at hkept'
  rw [havailable, havailable'] at hkept
  unfold Worker.process Worker.processAvailable
  dsimp only
  have hlists : w.manager.updateAvailable.mProcessDecoderManifest = true →
      ∀ content ∈ w.manager.updateAvailable.mDecoderManifest.bind (·.content),
        content.arn ≠ w.manager.updateAvailable.currentDecoderManifestID →
        SameRebuild manifestTime content.arn w.manager.updateAvailable
          (w.manager.withDocuments d').updateAvailable.documents := by
    intro hprocess content hcontent hne
    cases hsimilar.list with
    | inl hsame => exact Or.inl hsame.1
    | inr hfails =>
      apply Or.inr
      apply And.intro hfails.1
      intro hloaded c hc hid
      apply hnothing hfails.1 hprocess hloaded content hcontent hne c ?_ hid
      rw [← hschemes hfails.2]
      exact hc
  rw [updateAvailable_withDocuments] at hprocessed hsettled hkept' ⊢
  have ⟨d₁, hmanifest, hsimilar₁⟩ := processAvailableManifest_similar hsimilar hlists
  rw [hmanifest] at hprocessed hsettled hkept' ⊢
  have ⟨d₂, hlist, hsimilar₂⟩ := processAvailableList_similar hsimilar₁ listTime
  dsimp only at hprocessed hsettled hkept'
  rw [hlist] at hprocessed hsettled hkept'
  refine ⟨d₂, ?_, hsimilar₂, hsettled.1, hsettled.2, hprocessed, hkept'.1, hkept'.2, ?_, ?_⟩
  . dsimp only
    rw [hlist]
  . apply Or.inl
    constructor
    . exact hkept.1.trans hkept'.1.symm
    . intro htrue
      have hfalse : d₂.mCollectionSchemeAvailable = false := hkept'.1
      rw [hfalse] at htrue
      cases htrue
  . apply Or.inl
    constructor
    . exact hkept.2.trans hkept'.2.symm
    . intro htrue
      have hfalse : d₂.mDecoderManifestAvailable = false := hkept'.2
      rw [hfalse] at htrue
      cases htrue

end Process

section Check

variable {s' : CollectionSchemeManager V} {fuel : Nat} {ret : Bool}

theorem Quiet.checkTimeLine_unchanged (h : s.Quiet currTime) (hcheck : s.checkTimeLine fuel currTime = some (s', ret))
    : ret = false := by
  have ⟨⟨_, hret⟩, _⟩ := checkTimeLine_invariant (fun t ret => t.Quiet currTime ∧ ret = false) ?_ hcheck
    ⟨h, rfl⟩
  . exact hret
  . intro t t' ret ret' ⟨hquiet, hret⟩ hpass
    cases hpass with
    | checkin time htop hdue =>
      have hsame := serveCheckin_same t currTime
      refine ⟨⟨?_, ?_⟩, hret⟩
      . intro id c hc
        apply hquiet.enabled id c
        rw [← hsame.enabled]
        exact hc
      . intro id c hc
        apply hquiet.idle id c
        rw [← hsame.idle]
        exact hc
    | stale e htop hid hstale => exact ⟨⟨hquiet.enabled, hquiet.idle⟩, hret⟩
    | disable id c htop hid hc hdue =>
      have hlater := hquiet.enabled id c hc
      omega
    | enable id c htop hid henabled hc hdue =>
      have hlater := hquiet.idle id c hc
      omega

theorem NoSignals.checkTimeLine (h : s.NoSignals) (hcheck : s.checkTimeLine fuel currTime = some (s', ret))
    : s'.NoSignals := by
  have ⟨hnone, _⟩ := checkTimeLine_invariant (fun t _ => t.NoSignals) ?_ hcheck h
  . exact hnone
  . intro t t' ret ret' hsignals hpass
    constructor
    . intro id c hc
      rcases hpass.entryAt id with hsame | ⟨c', _, _, hnone⟩ | ⟨c', hidle, _, hnew⟩
      . apply hsignals.1 id c
        rw [← hc]
        exact (congrArg Prod.fst hsame).symm
      . have hfst := congrArg Prod.fst hnone
        simp [entryAt, hc] at hfst
      . have hfst := congrArg Prod.fst hnew
        simp only [entryAt, hc, Option.some_inj] at hfst
        rw [hfst]
        exact hsignals.2 id c' hidle
    . intro id c hc
      rcases hpass.entryAt id with hsame | ⟨c', _, _, hnone⟩ | ⟨c', _, _, hnew⟩
      . apply hsignals.2 id c
        rw [← hc]
        exact (congrArg Prod.snd hsame).symm
      . apply hsignals.2 id c
        rw [← hc]
        exact (congrArg Prod.snd hnone).symm
      . have hsnd := congrArg Prod.snd hnew
        simp [entryAt, hc] at hsnd

variable [InspectionValue V]

theorem extractDictionaries_of_noSignals {manifest manifest' : DecoderManifestIngestion V}
    {translator : CANInterfaceIDTranslator} {collectionSchemes : List (CollectionScheme V)}
    (h : ∀ c ∈ collectionSchemes, c.collectSignals = [])
    : extractDictionaries manifest translator collectionSchemes
        =
      extractDictionaries manifest' translator collectionSchemes := by
  unfold extractDictionaries
  rw [List.foldl_ext (addCollectionScheme manifest translator) (addCollectionScheme manifest' translator)]
  intro dictionaries c hc
  unfold addCollectionScheme
  rw [h c hc, List.foldl_nil, List.foldl_nil]

theorem extract_withDocuments (h : Similar s.documents d)
    (hmanifest : d.mDecoderManifest = s.mDecoderManifest ∨ s.mUseLocalDictionary = true ∨ s.NoSignals)
    : (s.withDocuments d).extract = s.extract := by
  have htranslator : d.mCANIDTranslator = s.mCANIDTranslator := h.translator
  have hlocal : d.mUseLocalDictionary = s.mUseLocalDictionary := h.useLocal
  unfold extract
  congr 1
  . simp [inspectionMatrixExtractor, withDocuments, htranslator]
  . simp only [withDocuments, hlocal, decoderDictionaryExtractor, htranslator]
    rcases hmanifest with hsame | hused | hsignals
    . rw [hsame]
    . rw [if_pos hused, if_pos hused]
    . rw [extractDictionaries_of_noSignals]
      intro c hc
      have ⟨id, hid⟩ := SchemeMap.mem_values_iff.mp hc
      exact hsignals.1 id c hid

end Check

section Work

variable {w : Worker V} {state state' : Option (Worker V)} {e : WorkEvent V} {fuel : Nat}

def Indistinguishable (state : Option (Worker V)) (b : Built V) (state' : Option (Worker V)) : Prop :=
  match state with
  | none => state' = none
  | some w => ∃ d, state' = some { w with manager := w.manager.withDocuments d }
    ∧ Unaffected b w.manager.documents d

theorem unaffected_prepared {config : CollectionSchemeManager V} {startTime manifestTime listTime : Nat}
    (hlist : config.mCollectionSchemeAvailable = false) (hmanifest : config.mDecoderManifestAvailable = false)
    (hw : { manager := config.prepareWork startTime : Worker V }.processAvailable manifestTime listTime = w)
    : Indistinguishable (some w) (Built.ofWorker w) (some w) := by
  have hprepared := prepared_prepareWork config startTime
  have hsettled := processAvailable_settled (config.prepareWork startTime) manifestTime listTime
  have ⟨havailable, havailable'⟩ :=
    processAvailable_available (config.prepareWork startTime) manifestTime listTime
  have hnone : w.manager.mCollectionSchemeAvailable = false := by
    rw [← hw]
    exact havailable.trans (hprepared.listAvailable.trans hlist)
  have hnone' : w.manager.mDecoderManifestAvailable = false := by
    rw [← hw]
    exact havailable'.trans (hprepared.manifestAvailable.trans hmanifest)
  refine ⟨w.manager.documents, rfl, .refl _, ?_, ?_, rfl, hnone, hnone', Or.inl ⟨rfl, fun _ => rfl⟩,
    Or.inl ⟨rfl, fun _ => rfl⟩⟩
  . rw [← hw]
    exact hsettled.1
  . rw [← hw]
    exact hsettled.2

theorem Unaffected.restart (h : Unaffected b s.documents d) : (s.withDocuments d).restart = s.restart := by
  have hpersistency : d.mSchemaPersistency = s.mSchemaPersistency := h.similar.persistency
  have hlocal : d.mUseLocalDictionary = s.mUseLocalDictionary := h.similar.useLocal
  have htranslator : d.mCANIDTranslator = s.mCANIDTranslator := h.similar.translator
  simp [CollectionSchemeManager.restart, withDocuments, hpersistency, hlocal, htranslator]

variable [InspectionValue V]

theorem Unaffected.checkTimeLine (h : Unaffected b w.manager.documents d) (fuel : Nat)
    (hread : w.ManifestNotRead currTime)
    : ({ w with manager := w.manager.withDocuments d }).checkTimeLine fuel currTime
        =
      (w.checkTimeLine fuel currTime).map fun (next, extraction) =>
        ({ next with manager := next.manager.withDocuments d }, extraction) := by
  unfold Worker.checkTimeLine
  dsimp only
  rw [checkTimeLine_withDocuments]
  cases hcheck : w.manager.checkTimeLine fuel currTime with
  | none => rfl
  | some result =>
    have (s', ret) := result
    have hdocuments := checkTimeLine_documents hcheck
    have hsimilar : Similar s'.documents d := by
      rw [hdocuments]
      exact h.similar
    simp only [Option.map_some, Option.some_inj, Prod.mk.injEq, true_and]
    cases hchanged : w.enabledCollectionSchemeMapChanged || ret with
    | false => rfl
    | true =>
      simp only [if_true, Option.some_inj]
      apply extract_withDocuments hsimilar
      cases h.similar.manifest with
      | inl hsame =>
        apply Or.inl
        rw [hsame.1]
        exact (congrArg Documents.mDecoderManifest hdocuments).symm
      | inr hfails =>
        apply Or.inr
        rcases hread hfails.1 with hlocal | hsignals | ⟨hunchanged, hquiet⟩
        . apply Or.inl
          exact (congrArg Documents.mUseLocalDictionary hdocuments).trans hlocal
        . exact Or.inr (hsignals.checkTimeLine hcheck)
        . have hret := hquiet.checkTimeLine_unchanged hcheck
          simp [hunchanged, hret] at hchanged

theorem Indistinguishable.skip (h : Indistinguishable state b state') (hfails : e.builds = false)
    : Indistinguishable (Worker.step fuel state e).1 (Built.next state b e) state'
        ∧ (Worker.step fuel state e).2 = [] := by
  cases state with
  | none =>
    cases e with
    | onCollectionSchemeUpdate content => exact ⟨h, rfl⟩
    | onDecoderManifestUpdate content => exact ⟨h, rfl⟩
    | process manifestTime listTime => cases hfails
    | checkTimeLine currTime => cases hfails
    | restart startTime manifestTime listTime => cases hfails
  | some w =>
    have ⟨d, hstate, hunaffected⟩ := h
    have hsimilar := hunaffected.similar
    cases e with
    | onCollectionSchemeUpdate content =>
      have hnone : content = none := by simpa [WorkEvent.builds] using hfails
      cases hnone
      refine ⟨⟨d, hstate, ?_⟩, rfl⟩
      exact ⟨⟨hsimilar.persistency, hsimilar.useLocal, hsimilar.translator, hsimilar.list, hsimilar.manifest⟩,
        hunaffected.listSettled, hunaffected.manifestSettled, hunaffected.built,
        hunaffected.waitingList, hunaffected.waitingManifest, Or.inr ⟨rfl, rfl⟩, hunaffected.manifestInput⟩
    | onDecoderManifestUpdate content =>
      have hnone : content = none := by simpa [WorkEvent.builds] using hfails
      cases hnone
      refine ⟨⟨d, hstate, ?_⟩, rfl⟩
      exact ⟨⟨hsimilar.persistency, hsimilar.useLocal, hsimilar.translator, hsimilar.list, hsimilar.manifest⟩,
        hunaffected.listSettled, hunaffected.manifestSettled, hunaffected.built,
        hunaffected.waitingList, hunaffected.waitingManifest, hunaffected.listInput, Or.inr ⟨rfl, rfl⟩⟩
    | process manifestTime listTime => cases hfails
    | checkTimeLine currTime => cases hfails
    | restart startTime manifestTime listTime => cases hfails

theorem Indistinguishable.step (h : Indistinguishable state b state') (hbuilds : e.builds = true)
    (hok : e.Harmless (state, b))
    : Indistinguishable (Worker.step fuel state e).1 (Built.next state b e) (Worker.step fuel state' e).1
        ∧ (Worker.step fuel state e).2 = (Worker.step fuel state' e).2 := by
  cases state with
  | none =>
    cases h
    exact ⟨rfl, rfl⟩
  | some w =>
    have ⟨d, hstate, hunaffected⟩ := h
    have hsimilar := hunaffected.similar
    cases hstate
    have hok := hok w rfl
    cases e with
    | onCollectionSchemeUpdate content =>
      have ⟨list, hcontent⟩ := Option.isSome_iff_exists.mp hbuilds
      cases hcontent
      refine ⟨⟨{ d with mCollectionSchemeListInput := some ⟨some list, false⟩, mCollectionSchemeAvailable := true },
        rfl, ?_⟩, rfl⟩
      exact ⟨⟨hsimilar.persistency, hsimilar.useLocal, hsimilar.translator, hsimilar.list, hsimilar.manifest⟩,
        hunaffected.listSettled, hunaffected.manifestSettled, hunaffected.built, ⟨rfl, rfl⟩,
        hunaffected.waitingManifest, Or.inl ⟨rfl, fun _ => rfl⟩, hunaffected.manifestInput⟩
    | onDecoderManifestUpdate content =>
      have ⟨manifest, hcontent⟩ := Option.isSome_iff_exists.mp hbuilds
      cases hcontent
      refine ⟨⟨{ d with mDecoderManifestInput := some ⟨some manifest, false⟩, mDecoderManifestAvailable := true },
        rfl, ?_⟩, rfl⟩
      exact ⟨⟨hsimilar.persistency, hsimilar.useLocal, hsimilar.translator, hsimilar.list, hsimilar.manifest⟩,
        hunaffected.listSettled, hunaffected.manifestSettled, hunaffected.built, hunaffected.waitingList,
        ⟨rfl, rfl⟩, hunaffected.listInput, Or.inl ⟨rfl, fun _ => rfl⟩⟩
    | process manifestTime listTime =>
      have ⟨d', hprocess, hnext⟩ := hunaffected.process listTime hok.1 hok.2
      simp only [Worker.step, hprocess]
      exact ⟨⟨d', rfl, hnext⟩, rfl⟩
    | checkTimeLine currTime =>
      have hcheck := hunaffected.checkTimeLine fuel hok
      cases hresult : w.checkTimeLine fuel currTime with
      | none =>
        simp only [Worker.step, hcheck, hresult, Option.map_none]
        exact ⟨rfl, trivial⟩
      | some result =>
        have (next, extraction) := result
        have ⟨(s', ret), hmanager, heq⟩ := Option.map_eq_some_iff.mp hresult
        cases heq
        simp only [Worker.step, hcheck, hresult, Option.map_some]
        refine ⟨⟨d, rfl, ?_⟩, rfl⟩
        dsimp only
        rw [checkTimeLine_documents hmanager]
        exact hunaffected
    | restart startTime manifestTime listTime =>
      have hrestart := hunaffected.restart
      simp only [Worker.step, Worker.restart, hrestart]
      refine ⟨?_, trivial⟩
      apply unaffected_prepared rfl rfl rfl

/--
If every step meets the condition, the log is the one of the run without the documents that fail.
-/
theorem failed_documents (config : ManagerConfig V) (startTime manifestTime listTime fuel : Nat)
    (events : List (WorkEvent V))
    (hok : Machine.Always WorkEvent.Harmless
      (Machine.withHistory (Worker.step fuel) Built.next)
      (some (Worker.start config startTime manifestTime listTime),
        Built.ofWorker (Worker.start config startTime manifestTime listTime)) events)
    : (Machine.run (Worker.step fuel) (some (Worker.start config startTime manifestTime listTime)) events).2
        =
      (Machine.run (Worker.step fuel) (some (Worker.start config startTime manifestTime listTime))
        (events.filter WorkEvent.builds)).2 := by
  apply Machine.run_filter WorkEvent.builds Indistinguishable _ ?_ ?_ ?_ hok
  . intro state b state' e _ hfails h
    apply h.skip hfails
  . intro state b state' e hok hbuilds h
    apply h.step hbuilds hok
  . apply unaffected_prepared rfl rfl rfl

end Work

def hourly : ManagerConfig Rat where
  checkinIntervalMsec := 1000

def lostList : List (WorkEvent Rat) :=
  [.onCollectionSchemeUpdate (some [campaign "c" "m" 100 200]), .process 110 110,
    .onCollectionSchemeUpdate none, .process 120 120,
    .onDecoderManifestUpdate (some (noSignals "m")), .process 130 130]

def enabledIDs (log : List (Observation Rat)) : List (List String) :=
  log.map fun o => o.mEnabledCollectionSchemeMap.keys

theorem failed_documents_lostList
    : (Machine.run (Worker.step 10) (some (Worker.start hourly 0 0 0)) lostList).2
        ≠
      (Machine.run (Worker.step 10) (some (Worker.start hourly 0 0 0)) (lostList.filter WorkEvent.builds)).2 := by
  intro h
  have hids := congrArg enabledIDs h
  revert hids
  decide +kernel

def keptList : List (WorkEvent Rat) :=
  [.onDecoderManifestUpdate (some (noSignals "m")),
    .onCollectionSchemeUpdate (some [campaign "c" "m" 100 200]), .process 50 50,
    .onCollectionSchemeUpdate none, .process 60 60, .checkTimeLine 120]

theorem keptList_harmless
    : Machine.Always WorkEvent.Harmless (Machine.withHistory (Worker.step 10) Built.next)
        (some (Worker.start hourly 0 0 0), Built.ofWorker (Worker.start hourly 0 0 0)) keptList := by
  refine ⟨?_, ?_, ?_, ?_, ?_, ?_, trivial⟩
  all_goals
    intro w hw
    cases hw
  . trivial
  . trivial
  . exact ⟨⟨fun _ h => absurd h (by decide), fun _ h => absurd h (by decide)⟩, fun h => absurd h (by decide)⟩
  . trivial
  . exact ⟨⟨fun _ _ => rfl, fun h => absurd h (by decide)⟩, fun _ h => absurd h (by decide)⟩
  . exact fun h => absurd h (by decide)

theorem failed_documents_keptList
    : let log := (Machine.run (Worker.step 10) (some (Worker.start hourly 0 0 0)) keptList).2
      enabledIDs log = [[], [], ["c"]]
        ∧ log = (Machine.run (Worker.step 10) (some (Worker.start hourly 0 0 0))
          (keptList.filter WorkEvent.builds)).2 := by
  constructor
  . decide +kernel
  . apply failed_documents hourly 0 0 0 10 keptList keptList_harmless

end CollectionSchemeManager

end DataManagement
