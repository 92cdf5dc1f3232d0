import FleetWiseEdge.Manager.Impl.Machine
import FleetWiseEdge.Manager.Lemmas.Maps

namespace DataManagement

open Cpp DataInspection

structure Documents (V : Type) where
  mCollectionSchemeList : Option (CollectionSchemeIngestionList V)
  mDecoderManifest : Option (DecoderManifestIngestion V)
  mCollectionSchemeAvailable : Bool
  mCollectionSchemeListInput : Option (CollectionSchemeIngestionList V)
  mDecoderManifestAvailable : Bool
  mDecoderManifestInput : Option (DecoderManifestIngestion V)
  mProcessCollectionScheme : Bool
  mProcessDecoderManifest : Bool
  mSchemaPersistency : Option (SchemaPersistency V)
  mUseLocalDictionary : Bool
  mCANIDTranslator : CANInterfaceIDTranslator

namespace CollectionSchemeManager

variable {V : Type} {s : CollectionSchemeManager V} {d : Documents V} {currTime : Nat}

def documents (s : CollectionSchemeManager V) : Documents V where
  mCollectionSchemeList := s.mCollectionSchemeList
  mDecoderManifest := s.mDecoderManifest
  mCollectionSchemeAvailable := s.mCollectionSchemeAvailable
  mCollectionSchemeListInput := s.mCollectionSchemeListInput
  mDecoderManifestAvailable := s.mDecoderManifestAvailable
  mDecoderManifestInput := s.mDecoderManifestInput
  mProcessCollectionScheme := s.mProcessCollectionScheme
  mProcessDecoderManifest := s.mProcessDecoderManifest
  mSchemaPersistency := s.mSchemaPersistency
  mUseLocalDictionary := s.mUseLocalDictionary
  mCANIDTranslator := s.mCANIDTranslator

def withDocuments (s : CollectionSchemeManager V) (d : Documents V) : CollectionSchemeManager V :=
  { s with
    mCollectionSchemeList := d.mCollectionSchemeList
    mDecoderManifest := d.mDecoderManifest
    mCollectionSchemeAvailable := d.mCollectionSchemeAvailable
    mCollectionSchemeListInput := d.mCollectionSchemeListInput
    mDecoderManifestAvailable := d.mDecoderManifestAvailable
    mDecoderManifestInput := d.mDecoderManifestInput
    mProcessCollectionScheme := d.mProcessCollectionScheme
    mProcessDecoderManifest := d.mProcessDecoderManifest
    mSchemaPersistency := d.mSchemaPersistency
    mUseLocalDictionary := d.mUseLocalDictionary
    mCANIDTranslator := d.mCANIDTranslator }

@[simp]
theorem documents_withDocuments : (s.withDocuments d).documents = d := rfl

@[simp]
theorem withDocuments_withDocuments {d' : Documents V}
    : (s.withDocuments d).withDocuments d' = s.withDocuments d' :=
  rfl

theorem pushTime_withDocuments {time : Nat} {id : String}
    : (s.withDocuments d).pushTime time id = (s.pushTime time id).withDocuments d :=
  rfl

theorem enable_withDocuments {id : String} {c : CollectionScheme V}
    : (s.withDocuments d).enable id c = (s.enable id c).withDocuments d :=
  rfl

theorem setIdle_withDocuments {id : String} {c : CollectionScheme V}
    : (s.withDocuments d).setIdle id c = (s.setIdle id c).withDocuments d :=
  rfl

theorem cleanupCollectionSchemes_withDocuments
    : (s.withDocuments d).cleanupCollectionSchemes = s.cleanupCollectionSchemes.withDocuments d := by
  unfold cleanupCollectionSchemes withDocuments
  dsimp only
  split <;> rfl

theorem rebuildLoop_withDocuments {collectionSchemeList : List (CollectionScheme V)} {ret : Bool}
    : rebuildLoop currTime collectionSchemeList ret (s.withDocuments d)
        =
      ((rebuildLoop currTime collectionSchemeList ret s).1.withDocuments d,
        (rebuildLoop currTime collectionSchemeList ret s).2) := by
  induction collectionSchemeList generalizing s ret with
  | nil => rfl
  | cons c rest ih =>
    unfold rebuildLoop
    have hmanifest : (s.withDocuments d).currentDecoderManifestID = s.currentDecoderManifestID := rfl
    rw [hmanifest]
    split
    . rw [cleanupCollectionSchemes_withDocuments]
    . dsimp only
      rw [setIdle_withDocuments, pushTime_withDocuments, pushTime_withDocuments]
      rw [enable_withDocuments, pushTime_withDocuments]
      split
      . apply ih
      . split
        . apply ih
        . apply ih

theorem updateScheme_withDocuments {c : CollectionScheme V}
    : (s.withDocuments d).updateScheme currTime c
        =
      ((s.updateScheme currTime c).1.withDocuments d, (s.updateScheme currTime c).2) := by
  have henabled : (s.withDocuments d).mEnabledCollectionSchemeMap = s.mEnabledCollectionSchemeMap := rfl
  have hidle : (s.withDocuments d).mIdleCollectionSchemeMap = s.mIdleCollectionSchemeMap := rfl
  unfold updateScheme
  rw [henabled, hidle]
  dsimp only
  split
  . split
    . rfl
    . split <;> rfl
  . split
    . rfl
    . split <;> rfl
  . split
    . rfl
    . split <;> rfl

theorem updateLoop_withDocuments {collectionSchemeList : List (CollectionScheme V)} {ret : Bool}
    : updateLoop currTime collectionSchemeList ret (s.withDocuments d)
        =
      ((updateLoop currTime collectionSchemeList ret s).1.withDocuments d,
        (updateLoop currTime collectionSchemeList ret s).2) := by
  induction collectionSchemeList generalizing s ret with
  | nil => rfl
  | cons c rest ih =>
    unfold updateLoop
    have hmanifest : (s.withDocuments d).currentDecoderManifestID = s.currentDecoderManifestID := rfl
    rw [hmanifest]
    split
    . rw [cleanupCollectionSchemes_withDocuments]
    . rw [updateScheme_withDocuments]
      apply ih

theorem rebuildMapsandTimeLine_withDocuments
    (hlist : d.mCollectionSchemeList.map (·.getCollectionSchemes)
      = s.mCollectionSchemeList.map (·.getCollectionSchemes))
    : (s.withDocuments d).rebuildMapsandTimeLine currTime
        =
      ((s.rebuildMapsandTimeLine currTime).1.withDocuments d, (s.rebuildMapsandTimeLine currTime).2) := by
  have hd : (s.withDocuments d).mCollectionSchemeList = d.mCollectionSchemeList := rfl
  unfold rebuildMapsandTimeLine
  rw [hd]
  cases hnew : d.mCollectionSchemeList with
  | none =>
    cases hold : s.mCollectionSchemeList with
    | none => rfl
    | some l => simp [hnew, hold] at hlist
  | some l =>
    cases hold : s.mCollectionSchemeList with
    | none => simp [hnew, hold] at hlist
    | some l' =>
      simp only [hnew, hold, Option.map_some, Option.some_inj] at hlist
      simp only [hlist]
      apply rebuildLoop_withDocuments

theorem updateMapsandTimeLine_withDocuments
    (hlist : d.mCollectionSchemeList.map (·.getCollectionSchemes)
      = s.mCollectionSchemeList.map (·.getCollectionSchemes))
    : (s.withDocuments d).updateMapsandTimeLine currTime
        =
      ((s.updateMapsandTimeLine currTime).1.withDocuments d, (s.updateMapsandTimeLine currTime).2) := by
  have hd : (s.withDocuments d).mCollectionSchemeList = d.mCollectionSchemeList := rfl
  unfold updateMapsandTimeLine
  rw [hd]
  cases hnew : d.mCollectionSchemeList with
  | none =>
    cases hold : s.mCollectionSchemeList with
    | none => rfl
    | some l => simp [hnew, hold] at hlist
  | some l =>
    cases hold : s.mCollectionSchemeList with
    | none => simp [hnew, hold] at hlist
    | some l' =>
      simp only [hnew, hold, Option.map_some, Option.some_inj] at hlist
      simp only [hlist, updateLoop_withDocuments]
      generalize updateLoop currTime l'.getCollectionSchemes false s = result
      cases result with
      | mk s' ret =>
        cases ret with
        | none => rfl
        | some ret => rfl

theorem sendCheckin_withDocuments
    : (s.withDocuments d).sendCheckin = (s.sendCheckin.1.withDocuments d, s.sendCheckin.2) := by
  unfold sendCheckin withDocuments
  dsimp only
  split <;> rfl

theorem serveCheckin_withDocuments
    : (s.withDocuments d).serveCheckin currTime = (s.serveCheckin currTime).withDocuments d := by
  unfold serveCheckin
  rw [sendCheckin_withDocuments]
  dsimp only
  split
  . have hinterval
        : (s.sendCheckin.1.withDocuments d).mCheckinIntervalInMsec = s.sendCheckin.1.mCheckinIntervalInMsec :=
      rfl
    rw [hinterval]
    split <;> rfl
  . rfl

theorem checkTimeLinePass_withDocuments {ret : Bool}
    : checkTimeLinePass currTime (s.withDocuments d, ret)
        =
      (checkTimeLinePass currTime (s, ret)).map fun state => (state.1.withDocuments d, state.2) := by
  have htop : (s.withDocuments d).mTimeLine = s.mTimeLine := rfl
  have henabled : (s.withDocuments d).mEnabledCollectionSchemeMap = s.mEnabledCollectionSchemeMap := rfl
  have hidle : (s.withDocuments d).mIdleCollectionSchemeMap = s.mIdleCollectionSchemeMap := rfl
  unfold checkTimeLinePass
  dsimp only
  rw [htop, henabled, hidle]
  split
  . rfl
  . split
    . split
      . rfl
      . rw [serveCheckin_withDocuments]
        rfl
    . split
      . split
        . rfl
        . split <;> rfl
      . split
        . rfl
        . split <;> rfl
      . rfl

theorem checkTimeLine_withDocuments {fuel : Nat}
    : (s.withDocuments d).checkTimeLine fuel currTime
        =
      (s.checkTimeLine fuel currTime).map fun state => (state.1.withDocuments d, state.2) := by
  have htop : (s.withDocuments d).mTimeLine = s.mTimeLine := rfl
  unfold checkTimeLine
  rw [htop]
  split
  . rfl
  . split
    . rfl
    . have hbody (state : CollectionSchemeManager V × Bool)
          : checkTimeLinePass currTime (state.1.withDocuments d, state.2)
              = (checkTimeLinePass currTime state).map fun state => (state.1.withDocuments d, state.2) :=
        checkTimeLinePass_withDocuments
      exact Loop.run_map (s := (s, false)) (fun state => (state.1.withDocuments d, state.2)) hbody

section Unchanged

theorem cleanupCollectionSchemes_documents : s.cleanupCollectionSchemes.documents = s.documents := by
  have h : s.cleanupCollectionSchemes = s.cleanupCollectionSchemes.withDocuments s.documents :=
    cleanupCollectionSchemes_withDocuments (s := s) (d := s.documents)
  rw [h, documents_withDocuments]

theorem rebuildMapsandTimeLine_documents
    : (s.rebuildMapsandTimeLine currTime).1.documents = s.documents := by
  have h : s.rebuildMapsandTimeLine currTime
      = ((s.rebuildMapsandTimeLine currTime).1.withDocuments s.documents,
        (s.rebuildMapsandTimeLine currTime).2) :=
    rebuildMapsandTimeLine_withDocuments (s := s) (d := s.documents) rfl
  rw [h, documents_withDocuments]

theorem updateMapsandTimeLine_documents
    : (s.updateMapsandTimeLine currTime).1.documents = s.documents := by
  have h : s.updateMapsandTimeLine currTime
      = ((s.updateMapsandTimeLine currTime).1.withDocuments s.documents,
        (s.updateMapsandTimeLine currTime).2) :=
    updateMapsandTimeLine_withDocuments (s := s) (d := s.documents) rfl
  rw [h, documents_withDocuments]

theorem checkTimeLine_documents {fuel : Nat} {s' : CollectionSchemeManager V} {ret : Bool}
    (h : s.checkTimeLine fuel currTime = some (s', ret))
    : s'.documents = s.documents := by
  have hsame : s.checkTimeLine fuel currTime
      = (s.checkTimeLine fuel currTime).map fun state => (state.1.withDocuments s.documents, state.2) :=
    checkTimeLine_withDocuments (s := s) (d := s.documents)
  rw [h, Option.map_some, Option.some_inj, Prod.mk.injEq] at hsame
  rw [hsame.1, documents_withDocuments]

theorem acceptDecoderManifest_documents (s : CollectionSchemeManager V) (id : String) (currTime : Nat)
    : (s.acceptDecoderManifest id currTime).1.documents = s.storeDecoderManifest.documents := by
  unfold acceptDecoderManifest
  dsimp only
  split
  . apply cleanupCollectionSchemes_documents
  . apply rebuildMapsandTimeLine_documents

theorem acceptCollectionScheme_documents (s : CollectionSchemeManager V) (currTime : Nat)
    : (s.acceptCollectionScheme currTime).1.documents = s.storeCollectionSchemeList.documents := by
  unfold acceptCollectionScheme
  dsimp only
  split
  . apply updateMapsandTimeLine_documents
  . apply rebuildMapsandTimeLine_documents

theorem processAvailableManifest_documents (s : CollectionSchemeManager V) (currTime : Nat)
    : ∃ manifest persistency,
        (s.processAvailableManifest currTime).1.documents
          =
        { s.documents with
          mProcessDecoderManifest := false
          mDecoderManifest := manifest
          mSchemaPersistency := persistency } := by
  unfold processAvailableManifest processDecoderManifest
  split
  . dsimp only
    split
    . exact ⟨_, _, rfl⟩
    . split
      . exact ⟨_, _, rfl⟩
      . split
        . exact ⟨_, _, rfl⟩
        . rw [acceptDecoderManifest_documents]
          exact ⟨_, _, rfl⟩
  . next hflag =>
    refine ⟨s.mDecoderManifest, s.mSchemaPersistency, ?_⟩
    simp [documents, hflag]

theorem processAvailableList_documents (s : CollectionSchemeManager V) (currTime : Nat)
    : ∃ list persistency,
        (s.processAvailableList currTime).1.documents
          =
        { s.documents with
          mProcessCollectionScheme := false
          mCollectionSchemeList := list
          mSchemaPersistency := persistency } := by
  unfold processAvailableList processCollectionScheme
  split
  . dsimp only
    split
    . exact ⟨_, _, rfl⟩
    . split
      . exact ⟨_, _, rfl⟩
      . rw [acceptCollectionScheme_documents]
        exact ⟨_, _, rfl⟩
  . next hflag =>
    refine ⟨s.mCollectionSchemeList, s.mSchemaPersistency, ?_⟩
    simp [documents, hflag]

theorem processAvailableManifest_available
    : (s.processAvailableManifest currTime).1.mCollectionSchemeAvailable = s.mCollectionSchemeAvailable
        ∧ (s.processAvailableManifest currTime).1.mDecoderManifestAvailable
          = s.mDecoderManifestAvailable := by
  have ⟨_, _, hdocuments⟩ := processAvailableManifest_documents s currTime
  constructor
  . exact congrArg Documents.mCollectionSchemeAvailable hdocuments
  . exact congrArg Documents.mDecoderManifestAvailable hdocuments

theorem processAvailableList_available
    : (s.processAvailableList currTime).1.mCollectionSchemeAvailable = s.mCollectionSchemeAvailable
        ∧ (s.processAvailableList currTime).1.mDecoderManifestAvailable = s.mDecoderManifestAvailable := by
  have ⟨_, _, hdocuments⟩ := processAvailableList_documents s currTime
  constructor
  . exact congrArg Documents.mCollectionSchemeAvailable hdocuments
  . exact congrArg Documents.mDecoderManifestAvailable hdocuments

end Unchanged

section Available

theorem updateAvailable_lists
    : s.updateAvailable.mCollectionSchemeList = s.takeCollectionSchemeList.mCollectionSchemeList
        ∧ s.updateAvailable.mProcessCollectionScheme = s.takeCollectionSchemeList.mProcessCollectionScheme
        ∧ s.updateAvailable.mUseLocalDictionary = s.mUseLocalDictionary
        ∧ s.updateAvailable.mSchemaPersistency = s.mSchemaPersistency := by
  unfold updateAvailable takeDecoderManifest takeCollectionSchemeList
  split <;> split <;> exact ⟨rfl, rfl, rfl, rfl⟩

theorem updateAvailable_manifests
    : s.updateAvailable.mDecoderManifest = s.takeDecoderManifest.mDecoderManifest
        ∧ s.updateAvailable.mProcessDecoderManifest = s.takeDecoderManifest.mProcessDecoderManifest := by
  unfold updateAvailable takeDecoderManifest takeCollectionSchemeList
  split <;> split <;> simp_all

theorem updateAvailable_available
    : s.updateAvailable.mCollectionSchemeAvailable = false
        ∧ s.updateAvailable.mDecoderManifestAvailable = false := by
  unfold updateAvailable takeDecoderManifest takeCollectionSchemeList
  split <;> split <;> exact ⟨rfl, rfl⟩

theorem updateAvailable_eq (s : CollectionSchemeManager V)
    : s.updateAvailable = s.withDocuments s.updateAvailable.documents := by
  unfold updateAvailable takeDecoderManifest takeCollectionSchemeList
  split <;> split <;> rfl

theorem updateAvailable_withDocuments
    : (s.withDocuments d).updateAvailable
        =
      s.updateAvailable.withDocuments (s.withDocuments d).updateAvailable.documents := by
  have hfirst := updateAvailable_eq s
  have hsecond := updateAvailable_eq (s.withDocuments d)
  rw [withDocuments_withDocuments] at hsecond
  rw [hfirst, withDocuments_withDocuments]
  exact hsecond

end Available

section Prepare

structure Prepared (s s' : CollectionSchemeManager V) : Prop where
  enabled : s'.mEnabledCollectionSchemeMap = s.mEnabledCollectionSchemeMap
  idle : s'.mIdleCollectionSchemeMap = s.mIdleCollectionSchemeMap
  manifest : s'.currentDecoderManifestID = s.currentDecoderManifestID
  interval : s'.mCheckinIntervalInMsec = s.mCheckinIntervalInMsec
  listAvailable : s'.mCollectionSchemeAvailable = s.mCollectionSchemeAvailable
  manifestAvailable : s'.mDecoderManifestAvailable = s.mDecoderManifestAvailable
  persistency : s'.mSchemaPersistency = s.mSchemaPersistency
  useLocal : s'.mUseLocalDictionary = s.mUseLocalDictionary

theorem prepared_retrieveCollectionSchemeList : Prepared s s.retrieveCollectionSchemeList := by
  unfold CollectionSchemeManager.retrieveCollectionSchemeList
  split <;> constructor <;> rfl

theorem prepared_retrieveDecoderManifest : Prepared s s.retrieveDecoderManifest := by
  unfold CollectionSchemeManager.retrieveDecoderManifest
  split <;> constructor <;> rfl

theorem prepared_prepareWork (s : CollectionSchemeManager V) (startTime : Nat)
    : Prepared s (s.prepareWork startTime) := by
  have hlist := prepared_retrieveCollectionSchemeList (s := s.prepareCheckinTimer startTime)
  have hmanifest := prepared_retrieveDecoderManifest
    (s := (s.prepareCheckinTimer startTime).retrieveCollectionSchemeList)
  unfold prepareWork
  dsimp only
  split
  . exact ⟨hlist.enabled, hlist.idle, hlist.manifest, hlist.interval, hlist.listAvailable,
      hlist.manifestAvailable, hlist.persistency, hlist.useLocal⟩
  . constructor
    . exact hmanifest.enabled.trans hlist.enabled
    . exact hmanifest.idle.trans hlist.idle
    . exact hmanifest.manifest.trans hlist.manifest
    . exact hmanifest.interval.trans hlist.interval
    . exact hmanifest.listAvailable.trans hlist.listAvailable
    . exact hmanifest.manifestAvailable.trans hlist.manifestAvailable
    . exact hmanifest.persistency.trans hlist.persistency
    . exact hmanifest.useLocal.trans hlist.useLocal

end Prepare

end CollectionSchemeManager

section Campaigns

def campaign (collectionSchemeID decoderManifestID : String) (startTime expiryTime : Nat)
    : CollectionScheme Rat where
  collectionSchemeID
  decoderManifestID
  startTime
  expiryTime
  probabilityToSend := 1

def noSignals (arn : String) : DecoderManifest Rat where
  arn
  mSignalToVehicleDataSourceProtocol := fun _ => none
  mSignalToCANRawFrameIDAndInterfaceIDDictionary := fun _ => none
  mCANMessageFormatDictionary := fun _ => none
  mSignalToPIDDictionary := fun _ => none

end Campaigns

end DataManagement
