import FleetWiseEdge.Decoding.Impl.CANDecoder
import FleetWiseEdge.Manager.DecoderDictionary
import FleetWiseEdge.Manager.Lemmas.Origins

namespace DataManagement

open Cpp DataInspection

namespace CANInterfaceIDTranslator

theorem getInterfaceID_getChannelNumericID {translator : CANInterfaceIDTranslator} {iid : CANInterfaceID}
    (h : translator.getChannelNumericID iid ≠ INVALID_CAN_SOURCE_NUMERIC_ID)
    : translator.getInterfaceID (translator.getChannelNumericID iid) = iid := by
  have hnodup : (translator.mLookup.map (·.1)).Nodup := by
    rw [translator.channels]
    apply List.nodup_range
  unfold getChannelNumericID at h ⊢
  cases hfind : translator.mLookup.find? fun l => l.2 = iid with
  | none => simp [hfind] at h
  | some l =>
    have hmem := List.mem_of_find?_eq_some hfind
    have hiid := List.find?_some hfind
    dsimp only
    unfold getInterfaceID
    cases hback : translator.mLookup.find? fun other => other.1 = l.1 with
    | none => simpa using List.find?_eq_none.mp hback l hmem
    | some other =>
      have hchannel := List.find?_some hback
      simp only [decide_eq_true_eq] at hchannel hiid
      have hsame := List.inj_on_of_nodup_map hnodup (List.mem_of_find?_eq_some hback) hmem hchannel
      dsimp only
      rw [hsame]
      exact hiid

end CANInterfaceIDTranslator

namespace CollectionSchemeManager

variable {V : Type} {P : CollectionScheme V → Prop} {Q : DecoderManifest V → Prop}
variable {translator : CANInterfaceIDTranslator} {s s' : CollectionSchemeManager V} {currTime fuel : Nat}

section Manifests

def ManifestFrom (Q : DecoderManifest V → Prop) (manifest : Option (DecoderManifestIngestion V)) : Prop :=
  ∀ m content, manifest = some m → m.content = some content → Q content

structure ManifestsFrom (Q : DecoderManifest V → Prop) (d : Documents V) : Prop where
  current : ManifestFrom Q d.mDecoderManifest
  input : ManifestFrom Q d.mDecoderManifestInput
  stored : ∀ p ∈ d.mSchemaPersistency, ManifestFrom Q p.decoderManifest

theorem ManifestFrom.of_content {m m' : DecoderManifestIngestion V} (h : ManifestFrom Q (some m))
    (hcontent : m'.content = m.content)
    : ManifestFrom Q (some m') := by
  intro l content hl hl'
  cases hl
  exact h m content rfl (hcontent ▸ hl')

theorem ManifestFrom.build {m m' : DecoderManifestIngestion V} {built : Bool} (h : ManifestFrom Q (some m))
    (hbuild : m.build = (m', built))
    : ManifestFrom Q (some m') := by
  apply h.of_content
  unfold DecoderManifestIngestion.build at hbuild
  split at hbuild
  . cases hbuild
    rfl
  . cases hbuild
    rfl

theorem ManifestsFrom.write {p : SchemaPersistency V} {f : SchemaPersistency V → SchemaPersistency V}
    (hold : ManifestFrom Q p.decoderManifest) (hnew : ManifestFrom Q (f p).decoderManifest)
    : ManifestFrom Q (SchemaPersistency.write p f).decoderManifest := by
  unfold SchemaPersistency.write
  dsimp only
  split
  . exact hnew
  . exact hold

theorem ManifestsFrom.storeDecoderManifest (h : ManifestsFrom Q s.documents)
    : ManifestsFrom Q s.storeDecoderManifest.documents := by
  refine ⟨h.current, h.input, ?_⟩
  intro p hp
  have ⟨old, hold, hwrite⟩ := Option.map_eq_some_iff.mp hp
  rw [← hwrite]
  exact write (h.stored old hold) h.current

theorem ManifestsFrom.storeCollectionSchemeList (h : ManifestsFrom Q s.documents)
    : ManifestsFrom Q s.storeCollectionSchemeList.documents := by
  refine ⟨h.current, h.input, ?_⟩
  intro p hp
  have ⟨old, hold, hwrite⟩ := Option.map_eq_some_iff.mp hp
  rw [← hwrite]
  exact write (h.stored old hold) (h.stored old hold)

end Manifests

structure Sources (P : CollectionScheme V → Prop) (Q : DecoderManifest V → Prop)
    (translator : CANInterfaceIDTranslator) (s : CollectionSchemeManager V)
    : Prop where
  origins : Origins P s
  manifests : ManifestsFrom Q s.documents
  translator : s.mCANIDTranslator = translator

namespace Sources

theorem of_documents (h : Sources P Q translator s) (horigins : Origins P s')
    (hdocuments : s'.documents = s.documents)
    : Sources P Q translator s' := by
  constructor
  . exact horigins
  . rw [hdocuments]
    exact h.manifests
  . exact (congrArg Documents.mCANIDTranslator hdocuments).trans h.translator

theorem init {config : ManagerConfig V}
    (hlists : ∀ p ∈ config.schemaPersistencyPtr, ListFrom P p.collectionSchemeList)
    (hmanifests : ∀ p ∈ config.schemaPersistencyPtr, ManifestFrom Q p.decoderManifest)
    : Sources P Q config.canIDTranslator (CollectionSchemeManager.init config) := by
  refine ⟨Origins.init config hlists, ⟨?_, ?_, hmanifests⟩, rfl⟩
  . intro m content hm
    cases hm
  . intro m content hm
    cases hm

theorem onCollectionSchemeUpdate (h : Sources P Q translator s) {content : Option (List (CollectionScheme V))}
    (hcontent : ∀ list, content = some list → ∀ c ∈ list, P c)
    : Sources P Q translator (s.onCollectionSchemeUpdate (some { content })) := by
  refine ⟨⟨h.origins.maps.of_eq rfl rfl, h.origins.documents.current, ?_, h.origins.documents.stored⟩,
    ⟨h.manifests.current, h.manifests.input, h.manifests.stored⟩, h.translator⟩
  intro l list hl hlist
  cases hl
  exact hcontent list hlist

theorem onDecoderManifestUpdate (h : Sources P Q translator s) {content : Option (DecoderManifest V)}
    (hcontent : ∀ manifest, content = some manifest → Q manifest)
    : Sources P Q translator (s.onDecoderManifestUpdate (some { content })) := by
  refine ⟨⟨h.origins.maps.of_eq rfl rfl, h.origins.documents.current, h.origins.documents.input,
    h.origins.documents.stored⟩, ⟨h.manifests.current, ?_, h.manifests.stored⟩, h.translator⟩
  intro m manifest hm hmanifest
  cases hm
  exact hcontent manifest hmanifest

theorem updateAvailable (h : Sources P Q translator s) : Sources P Q translator s.updateAvailable := by
  have hlist : ManifestsFrom Q s.takeCollectionSchemeList.documents
      ∧ s.takeCollectionSchemeList.mCANIDTranslator = translator := by
    unfold takeCollectionSchemeList
    split
    . exact ⟨⟨h.manifests.current, h.manifests.input, h.manifests.stored⟩, h.translator⟩
    . exact ⟨⟨h.manifests.current, h.manifests.input, h.manifests.stored⟩, h.translator⟩
  have ⟨hmanifests, htranslator⟩ := hlist
  refine ⟨h.origins.updateAvailable, ?_, ?_⟩
  . unfold CollectionSchemeManager.updateAvailable takeDecoderManifest
    split
    . exact ⟨hmanifests.input, hmanifests.input, hmanifests.stored⟩
    . exact ⟨hmanifests.current, hmanifests.input, hmanifests.stored⟩
  . unfold CollectionSchemeManager.updateAvailable takeDecoderManifest
    split
    . exact htranslator
    . exact htranslator

theorem processAvailableManifest (h : Sources P Q translator s)
    : Sources P Q translator (s.processAvailableManifest currTime).1 := by
  have ⟨_, _, hdocuments⟩ := processAvailableManifest_documents s currTime
  refine ⟨?_, ?_, (congrArg Documents.mCANIDTranslator hdocuments).trans h.translator⟩
  . unfold CollectionSchemeManager.processAvailableManifest
    split
    . apply Origins.processDecoderManifest
      exact ⟨h.origins.maps.of_eq rfl rfl, h.origins.documents.current, h.origins.documents.input,
        h.origins.documents.stored⟩
    . exact h.origins
  . unfold CollectionSchemeManager.processAvailableManifest CollectionSchemeManager.processDecoderManifest
    split
    . dsimp only
      split
      . exact ⟨h.manifests.current, h.manifests.input, h.manifests.stored⟩
      . rename_i manifest built hbuild
        have ⟨old, hold, hbuild⟩ := Option.map_eq_some_iff.mp hbuild
        have hold : ManifestFrom Q (some old) := by
          rw [← hold]
          exact h.manifests.current
        have hcurrent := hold.build hbuild
        split
        . exact ⟨hcurrent, h.manifests.input, h.manifests.stored⟩
        . split
          . exact ⟨hcurrent, h.manifests.input, h.manifests.stored⟩
          . rw [acceptDecoderManifest_documents]
            exact ManifestsFrom.storeDecoderManifest ⟨hcurrent, h.manifests.input, h.manifests.stored⟩
    . exact h.manifests

theorem processAvailableList (h : Sources P Q translator s)
    : Sources P Q translator (s.processAvailableList currTime).1 := by
  have ⟨_, _, hdocuments⟩ := processAvailableList_documents s currTime
  refine ⟨?_, ?_, (congrArg Documents.mCANIDTranslator hdocuments).trans h.translator⟩
  . unfold CollectionSchemeManager.processAvailableList
    split
    . apply Origins.processCollectionScheme
      exact ⟨h.origins.maps.of_eq rfl rfl, h.origins.documents.current, h.origins.documents.input,
        h.origins.documents.stored⟩
    . exact h.origins
  . unfold CollectionSchemeManager.processAvailableList CollectionSchemeManager.processCollectionScheme
    split
    . dsimp only
      split
      . exact ⟨h.manifests.current, h.manifests.input, h.manifests.stored⟩
      . split
        . exact ⟨h.manifests.current, h.manifests.input, h.manifests.stored⟩
        . rw [acceptCollectionScheme_documents]
          exact ManifestsFrom.storeCollectionSchemeList
            ⟨h.manifests.current, h.manifests.input, h.manifests.stored⟩
    . exact h.manifests

theorem checkTimeLine {ret : Bool} (h : Sources P Q translator s)
    (hcheck : s.checkTimeLine fuel currTime = some (s', ret))
    : Sources P Q translator s' := by
  apply h.of_documents _ (checkTimeLine_documents hcheck)
  refine ⟨h.origins.maps.checkTimeLine hcheck, ?_⟩
  rw [checkTimeLine_documents hcheck]
  exact h.origins.documents

theorem prepareWork (h : Sources P Q translator s) : Sources P Q translator (s.prepareWork currTime) := by
  have htimer : Sources P Q translator (s.prepareCheckinTimer currTime) :=
    ⟨⟨h.origins.maps.pushTime _ _, h.origins.documents⟩, h.manifests, h.translator⟩
  have hlist : Sources P Q translator (s.prepareCheckinTimer currTime).retrieveCollectionSchemeList := by
    refine ⟨htimer.origins.retrieveCollectionSchemeList, ?_, ?_⟩
    . unfold retrieveCollectionSchemeList
      split
      . exact htimer.manifests
      . exact ⟨htimer.manifests.current, htimer.manifests.input, htimer.manifests.stored⟩
    . unfold retrieveCollectionSchemeList
      split
      . exact htimer.translator
      . exact htimer.translator
  unfold CollectionSchemeManager.prepareWork
  dsimp only
  split
  . exact hlist
  . refine ⟨hlist.origins.retrieveDecoderManifest, ?_, ?_⟩
    . unfold retrieveDecoderManifest
      split
      . exact hlist.manifests
      . rename_i manifest hmanifest
        have ⟨p, hp, hstored⟩ := Option.bind_eq_some_iff.mp hmanifest
        refine ⟨?_, hlist.manifests.input, hlist.manifests.stored⟩
        have hfrom := hlist.manifests.stored p hp
        rw [hstored] at hfrom
        exact hfrom.of_content rfl
    . unfold retrieveDecoderManifest
      split
      . exact hlist.translator
      . exact hlist.translator

end Sources

section Extractions

def MatrixFrom (P : CollectionScheme V → Prop) (translator : CANInterfaceIDTranslator)
    (inspectionMatrix : InspectionMatrix V)
    : Prop :=
  ∀ p ∈ inspectionMatrix.conditions, ∃ c, P c
    ∧ p = { addConditionData translator c with condition := p.condition }

def DictionaryFrom [InspectionValue V] (P : CollectionScheme V → Prop) (Q : DecoderManifest V → Prop)
    (translator : CANInterfaceIDTranslator) (dictionary : CANDecoderDictionary V)
    : Prop :=
  ∃ manifest schemes, (∀ content, manifest.content = some content → Q content) ∧ (∀ c ∈ schemes, P c)
    ∧ dictionary = (extractDictionaries manifest translator schemes).can

theorem Sources.enabled (h : Sources P Q translator s) : ∀ c ∈ s.mEnabledCollectionSchemeMap.values, P c := by
  intro c hc
  have ⟨id, hid⟩ := SchemeMap.mem_values_iff.mp hc
  exact (h.origins.maps.enabled id c hid).2

variable [InspectionValue V]

theorem Sources.inspectionMatrix (h : Sources P Q translator s)
    : MatrixFrom P translator s.extract.inspectionMatrix := by
  intro p hp
  unfold extract inspectionMatrixExtractor extractMatrix at hp
  have ⟨c, hc, heq⟩ := List.mem_map.mp hp
  refine ⟨c, h.enabled c hc, ?_⟩
  rw [← heq, h.translator]

theorem Sources.decoderDictionary (h : Sources P Q translator s) {dictionaries : DecoderDictionaryMap V}
    (hextract : s.extract.decoderDictionaries = some dictionaries)
    : DictionaryFrom P Q translator dictionaries.can := by
  unfold extract at hextract
  dsimp only at hextract
  split at hextract
  . cases hextract
  . rw [Option.some_inj] at hextract
    refine ⟨s.mDecoderManifest.getD ⟨none, false⟩, s.mEnabledCollectionSchemeMap.values, ?_, h.enabled, ?_⟩
    . intro content hcontent
      cases hmanifest : s.mDecoderManifest with
      | none =>
        rw [hmanifest] at hcontent
        cases hcontent
      | some manifest =>
        rw [hmanifest] at hcontent
        exact h.manifests.current manifest content hmanifest hcontent
    . rw [← hextract]
      unfold decoderDictionaryExtractor
      rw [h.translator]

end Extractions

section Formats

theorem mem_of_mergeRequest {requests : List (FrameRequest V)} {method : Option (CANMessageDecoderMethod V)}
    {asked : List (FrameRequest V)}
    (hmethod : ∀ m, method = some m → m.format.isValid = true → .signal m.format ∈ asked)
    : ∀ m, requests.foldl mergeRequest method = some m → m.format.isValid = true →
        .signal m.format ∈ asked ++ requests := by
  induction requests generalizing method asked with
  | nil =>
    rw [List.append_nil]
    exact hmethod
  | cons request requests ih =>
    have hstep : ∀ m, mergeRequest method request = some m → m.format.isValid = true →
        .signal m.format ∈ asked ++ [request] := by
      intro m hm hvalid
      cases request with
      | signal format =>
        cases method with
        | none =>
          cases hm
          simp
        | some old =>
          unfold mergeRequest at hm
          dsimp only at hm
          split at hm
          . cases hm
            simp
          . cases hm
            exact List.mem_append_left _ (hmethod _ rfl hvalid)
      | raw =>
        cases method with
        | none =>
          cases hm
          cases hvalid
        | some old =>
          cases hm
          exact List.mem_append_left _ (hmethod old rfl hvalid)
    have hrest := ih hstep
    rw [List.append_assoc] at hrest
    exact hrest

theorem format_of_dictionaryFrom [InspectionValue V] {dictionary : CANDecoderDictionary V}
    (h : DictionaryFrom P Q translator dictionary) {canChannelID : CANChannelNumericID}
    {canRawFrameID : CANRawFrameID} {method : CANMessageDecoderMethod V}
    (hmethod : dictionary.method canChannelID canRawFrameID = some method)
    (hvalid : method.format.isValid = true)
    : ∃ manifest, Q manifest ∧ ∃ interfaceID formats,
        translator.getChannelNumericID interfaceID = canChannelID
          ∧ manifest.mCANMessageFormatDictionary interfaceID = some formats
          ∧ formats canRawFrameID = some method.format := by
  have ⟨manifest, schemes, hmanifest, _, hdictionary⟩ := h
  have hentry : (extractDictionaries manifest translator schemes).entry (canChannelID, canRawFrameID)
      = (frameRequests manifest translator (canChannelID, canRawFrameID) schemes).foldl mergeRequest none :=
    entry_extractDictionaries (canChannelID, canRawFrameID)
  unfold DecoderDictionaryMap.entry at hentry
  rw [← hdictionary, hmethod] at hentry
  have hnone : ∀ m : CANMessageDecoderMethod V, none = some m → m.format.isValid = true →
      .signal m.format ∈ ([] : List (FrameRequest V)) := by
    intro m hm
    cases hm
  have hrequest := mem_of_mergeRequest hnone method hentry.symm hvalid
  have ⟨c, _, info, _, hframe, hformat⟩ := signal_mem_frameRequests.mp hrequest
  unfold signalFrame at hframe
  dsimp only at hframe
  rw [Option.ite_none_right_eq_some, Option.some_inj, Prod.mk.injEq] at hframe
  have ⟨_, hchannel, hid⟩ := hframe
  unfold signalFrameFormat at hformat
  dsimp only at hformat
  rw [hid] at hformat
  have hinvalid : method.format ≠ INVALID_CAN_MESSAGE_FORMAT := by
    intro heq
    rw [heq] at hvalid
    cases hvalid
  unfold DecoderManifestIngestion.getCANMessageFormat at hformat
  cases hready : manifest.ready with
  | none =>
    rw [hready] at hformat
    exact absurd hformat hinvalid
  | some content =>
    rw [hready] at hformat
    dsimp only at hformat
    have hcontent : manifest.content = some content := by
      unfold DecoderManifestIngestion.ready at hready
      split at hready
      . exact hready
      . cases hready
    cases hformats : content.mCANMessageFormatDictionary (manifest.getCANFrameAndInterfaceID info.signalID).2 with
    | none =>
      rw [hformats] at hformat
      exact absurd hformat hinvalid
    | some formats =>
      rw [hformats] at hformat
      dsimp only at hformat
      refine ⟨content, hmanifest content hcontent, _, formats, hchannel, hformats, ?_⟩
      cases hfound : formats canRawFrameID with
      | none =>
        rw [hfound] at hformat
        exact absurd hformat hinvalid
      | some format =>
        rw [hfound] at hformat
        rw [hformat]
        rfl

end Formats

end CollectionSchemeManager

end DataManagement
