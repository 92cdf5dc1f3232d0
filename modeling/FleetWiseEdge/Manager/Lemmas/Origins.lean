import FleetWiseEdge.Manager.Lemmas.CheckTimeLine
import FleetWiseEdge.Manager.Lemmas.Documents

namespace DataManagement

open Cpp DataInspection

namespace CollectionSchemeManager

variable {V : Type} {P : CollectionScheme V → Prop} {s s' : CollectionSchemeManager V}
variable {currTime fuel : Nat}

structure MapsFrom (P : CollectionScheme V → Prop) (s : CollectionSchemeManager V) : Prop where
  enabled : ∀ (id : String) c, s.mEnabledCollectionSchemeMap[id]? = some c → c.collectionSchemeID = id ∧ P c
  idle : ∀ (id : String) c, s.mIdleCollectionSchemeMap[id]? = some c → c.collectionSchemeID = id ∧ P c

def ListFrom (P : CollectionScheme V → Prop) (list : Option (CollectionSchemeIngestionList V)) : Prop :=
  ∀ l content, list = some l → l.content = some content → ∀ c ∈ content, P c

structure DocumentsFrom (P : CollectionScheme V → Prop) (d : Documents V) : Prop where
  current : ListFrom P d.mCollectionSchemeList
  input : ListFrom P d.mCollectionSchemeListInput
  stored : ∀ p ∈ d.mSchemaPersistency, ListFrom P p.collectionSchemeList

structure Origins (P : CollectionScheme V → Prop) (s : CollectionSchemeManager V) : Prop where
  maps : MapsFrom P s
  documents : DocumentsFrom P s.documents

namespace MapsFrom

variable {c : CollectionScheme V} {id : String} {collectionSchemeList : List (CollectionScheme V)}
variable {ret : Bool}

theorem of_empty (henabled : s.mEnabledCollectionSchemeMap = ∅) (hidle : s.mIdleCollectionSchemeMap = ∅)
    : MapsFrom P s := by
  constructor
  . intro id c hc
    simp [henabled] at hc
  . intro id c hc
    simp [hidle] at hc

theorem of_eq (h : MapsFrom P s) (henabled : s'.mEnabledCollectionSchemeMap = s.mEnabledCollectionSchemeMap)
    (hidle : s'.mIdleCollectionSchemeMap = s.mIdleCollectionSchemeMap)
    : MapsFrom P s' := by
  constructor
  . rw [henabled]
    exact h.enabled
  . rw [hidle]
    exact h.idle

theorem enable (h : MapsFrom P s) (hid : c.collectionSchemeID = id) (hc : P c)
    : MapsFrom P (s.enable id c) := by
  constructor
  . intro id' c' hc'
    simp only [CollectionSchemeManager.enable, SchemeMap.getElem?_insert] at hc'
    split at hc'
    . next heq =>
      cases hc'
      exact ⟨hid.trans heq, hc⟩
    . exact h.enabled id' c' hc'
  . exact h.idle

theorem setIdle (h : MapsFrom P s) (hid : c.collectionSchemeID = id) (hc : P c)
    : MapsFrom P (s.setIdle id c) := by
  constructor
  . exact h.enabled
  . intro id' c' hc'
    simp only [CollectionSchemeManager.setIdle, SchemeMap.getElem?_insert] at hc'
    split at hc'
    . next heq =>
      cases hc'
      exact ⟨hid.trans heq, hc⟩
    . exact h.idle id' c' hc'

theorem eraseEnabled (h : MapsFrom P s) (id : String) : MapsFrom P (s.eraseEnabled id) := by
  constructor
  . intro id' c' hc'
    simp only [CollectionSchemeManager.eraseEnabled, SchemeMap.getElem?_erase] at hc'
    split at hc'
    . cases hc'
    . exact h.enabled id' c' hc'
  . exact h.idle

theorem eraseIdle (h : MapsFrom P s) (id : String) : MapsFrom P (s.eraseIdle id) := by
  constructor
  . exact h.enabled
  . intro id' c' hc'
    simp only [CollectionSchemeManager.eraseIdle, SchemeMap.getElem?_erase] at hc'
    split at hc'
    . cases hc'
    . exact h.idle id' c' hc'

theorem pushTime (h : MapsFrom P s) (time : Nat) (id : String) : MapsFrom P (s.pushTime time id) :=
  h.of_eq rfl rfl

theorem cleanupCollectionSchemes (h : MapsFrom P s) : MapsFrom P s.cleanupCollectionSchemes := by
  unfold CollectionSchemeManager.cleanupCollectionSchemes
  split
  . exact h
  . exact of_empty rfl rfl

theorem rebuildLoop (h : MapsFrom P s) (hlist : ∀ c ∈ collectionSchemeList, P c)
    : MapsFrom P (CollectionSchemeManager.rebuildLoop currTime collectionSchemeList ret s).1 := by
  induction collectionSchemeList generalizing s ret with
  | nil => exact h
  | cons c rest ih =>
    have hc := hlist c List.mem_cons_self
    have hrest : ∀ c ∈ rest, P c := fun c hc => hlist c (List.mem_cons_of_mem _ hc)
    unfold CollectionSchemeManager.rebuildLoop
    split
    . exact h.cleanupCollectionSchemes
    . dsimp only
      split
      . exact ih (((h.setIdle rfl hc).pushTime _ _).pushTime _ _) hrest
      . split
        . exact ih ((h.enable rfl hc).pushTime _ _) hrest
        . exact ih h hrest

theorem updateScheme (h : MapsFrom P s) (hc : P c) : MapsFrom P (s.updateScheme currTime c).1 := by
  have hid : c.collectionSchemeID = c.collectionSchemeID := rfl
  have henable := (h.enable hid hc).pushTime c.expiryTime c.collectionSchemeID
  have hmove := ((h.eraseIdle c.collectionSchemeID).enable hid hc).pushTime c.expiryTime c.collectionSchemeID
  have hidle := ((h.setIdle hid hc).pushTime c.startTime c.collectionSchemeID).pushTime c.expiryTime
    c.collectionSchemeID
  unfold CollectionSchemeManager.updateScheme
  dsimp only
  split
  . split
    . exact h.eraseEnabled c.collectionSchemeID
    . split
      . exact henable
      . exact h
  . split
    . exact hmove
    . split
      . exact hidle
      . exact h
  . split
    . exact henable
    . split
      . exact hidle
      . exact h

theorem updateLoop (h : MapsFrom P s) (hlist : ∀ c ∈ collectionSchemeList, P c)
    : MapsFrom P (CollectionSchemeManager.updateLoop currTime collectionSchemeList ret s).1 := by
  induction collectionSchemeList generalizing s ret with
  | nil => exact h
  | cons c rest ih =>
    have hc := hlist c List.mem_cons_self
    have hrest : ∀ c ∈ rest, P c := fun c hc => hlist c (List.mem_cons_of_mem _ hc)
    unfold CollectionSchemeManager.updateLoop
    split
    . exact h.cleanupCollectionSchemes
    . exact ih (h.updateScheme hc) hrest

theorem removeMissing (h : MapsFrom P s) (newCollectionSchemeIDs : List String)
    : MapsFrom P (s.removeMissing newCollectionSchemeIDs).1 := by
  constructor
  . intro id c hc
    simp only [CollectionSchemeManager.removeMissing, SchemeMap.getElem?_filter] at hc
    split at hc
    . exact h.enabled id c hc
    . cases hc
  . intro id c hc
    simp only [CollectionSchemeManager.removeMissing, SchemeMap.getElem?_filter] at hc
    split at hc
    . exact h.idle id c hc
    . cases hc

theorem serveCheckin (h : MapsFrom P s) : MapsFrom P (s.serveCheckin currTime) := by
  have hsend : MapsFrom P s.sendCheckin.1 := by
    unfold sendCheckin
    dsimp only
    split
    . exact h
    . exact h.of_eq rfl rfl
  unfold CollectionSchemeManager.serveCheckin
  dsimp only
  split
  . split
    . exact hsend.pushTime _ _
    . exact hsend
  . exact hsend.pushTime _ _

theorem timeLinePass {ret' : Bool} (h : MapsFrom P s) (hpass : TimeLinePass currTime s ret s' ret')
    : MapsFrom P s' := by
  cases hpass with
  | checkin time htop hdue => exact h.serveCheckin.of_eq rfl rfl
  | stale e htop hid hstale => exact h.of_eq rfl rfl
  | disable id c htop hid hc hdue => exact (h.eraseEnabled id).of_eq rfl rfl
  | enable id c htop hid henabled hc hdue =>
    have ⟨heq, hP⟩ := h.idle id c hc
    exact ((h.enable heq hP).eraseIdle id).of_eq rfl rfl

theorem checkTimeLine (h : MapsFrom P s) (hcheck : s.checkTimeLine fuel currTime = some (s', ret))
    : MapsFrom P s' := by
  unfold CollectionSchemeManager.checkTimeLine at hcheck
  split at hcheck
  . cases hcheck
    exact h
  . split at hcheck
    . cases hcheck
      exact h
    . apply Loop.run_invariant (fun state => MapsFrom P state.1) (fun state => MapsFrom P state.1) ?_ ?_ hcheck h
      . intro state state' hstate hagain
        exact hstate.timeLinePass (timeLinePass_of_again hagain)
      . intro state state' hstate hleave
        rw [(timeLinePass_of_leave hleave).1]
        exact hstate

end MapsFrom

section Documents

theorem ListFrom.getCollectionSchemes {list : CollectionSchemeIngestionList V} (h : ListFrom P (some list))
    : ∀ c ∈ list.getCollectionSchemes, P c := by
  intro c hc
  unfold CollectionSchemeIngestionList.getCollectionSchemes at hc
  split at hc
  . cases hcontent : list.content with
    | none => simp [hcontent] at hc
    | some content =>
      rw [hcontent] at hc
      exact h list content rfl hcontent c hc
  . cases hc

theorem ListFrom.of_content {list list' : CollectionSchemeIngestionList V} (h : ListFrom P (some list))
    (hcontent : list'.content = list.content)
    : ListFrom P (some list') := by
  intro l content hl hl'
  cases hl
  exact h list content rfl (hcontent ▸ hl')

theorem MapsFrom.rebuildMapsandTimeLine (h : MapsFrom P s) (hlist : ListFrom P s.mCollectionSchemeList)
    : MapsFrom P (s.rebuildMapsandTimeLine currTime).1 := by
  unfold CollectionSchemeManager.rebuildMapsandTimeLine
  split
  . exact h
  . next list heq =>
    apply h.rebuildLoop
    apply ListFrom.getCollectionSchemes
    rw [← heq]
    exact hlist

theorem MapsFrom.updateMapsandTimeLine (h : MapsFrom P s) (hlist : ListFrom P s.mCollectionSchemeList)
    : MapsFrom P (s.updateMapsandTimeLine currTime).1 := by
  unfold CollectionSchemeManager.updateMapsandTimeLine
  split
  . exact h
  . next list heq =>
    have hloop : MapsFrom P
        (CollectionSchemeManager.updateLoop currTime list.getCollectionSchemes false s).1 := by
      apply h.updateLoop
      apply ListFrom.getCollectionSchemes
      rw [← heq]
      exact hlist
    split
    . next hupdate =>
      rw [hupdate] at hloop
      exact hloop
    . next hupdate =>
      rw [hupdate] at hloop
      exact hloop.removeMissing _

theorem DocumentsFrom.write {p : SchemaPersistency V} {f : SchemaPersistency V → SchemaPersistency V}
    (hold : ListFrom P p.collectionSchemeList) (hnew : ListFrom P (f p).collectionSchemeList)
    : ListFrom P (SchemaPersistency.write p f).collectionSchemeList := by
  unfold SchemaPersistency.write
  dsimp only
  split
  . exact hnew
  . exact hold

theorem DocumentsFrom.storeDecoderManifest (h : DocumentsFrom P s.documents)
    : DocumentsFrom P s.storeDecoderManifest.documents := by
  refine ⟨h.current, h.input, ?_⟩
  intro p hp
  have ⟨old, hold, hwrite⟩ := Option.map_eq_some_iff.mp hp
  rw [← hwrite]
  exact write (h.stored old hold) (h.stored old hold)

theorem DocumentsFrom.storeCollectionSchemeList (h : DocumentsFrom P s.documents)
    : DocumentsFrom P s.storeCollectionSchemeList.documents := by
  refine ⟨h.current, h.input, ?_⟩
  intro p hp
  have ⟨old, hold, hwrite⟩ := Option.map_eq_some_iff.mp hp
  rw [← hwrite]
  exact write (h.stored old hold) h.current

end Documents

namespace Origins

theorem of_empty (henabled : s.mEnabledCollectionSchemeMap = ∅) (hidle : s.mIdleCollectionSchemeMap = ∅)
    (hdocuments : DocumentsFrom P s.documents)
    : Origins P s :=
  ⟨MapsFrom.of_empty henabled hidle, hdocuments⟩

theorem cleanupCollectionSchemes (h : Origins P s) : Origins P s.cleanupCollectionSchemes := by
  refine ⟨h.maps.cleanupCollectionSchemes, ?_⟩
  rw [cleanupCollectionSchemes_documents]
  exact h.documents

theorem rebuildMapsandTimeLine (h : Origins P s) : Origins P (s.rebuildMapsandTimeLine currTime).1 := by
  refine ⟨h.maps.rebuildMapsandTimeLine h.documents.current, ?_⟩
  rw [rebuildMapsandTimeLine_documents]
  exact h.documents

theorem updateMapsandTimeLine (h : Origins P s) : Origins P (s.updateMapsandTimeLine currTime).1 := by
  refine ⟨h.maps.updateMapsandTimeLine h.documents.current, ?_⟩
  rw [updateMapsandTimeLine_documents]
  exact h.documents

theorem updateAvailable (h : Origins P s) : Origins P s.updateAvailable := by
  have hlist : Origins P s.takeCollectionSchemeList := by
    unfold takeCollectionSchemeList
    split
    . exact ⟨h.maps.of_eq rfl rfl, h.documents.input, h.documents.input, h.documents.stored⟩
    . exact ⟨h.maps.of_eq rfl rfl, h.documents.current, h.documents.input, h.documents.stored⟩
  have ⟨hmaps, hdocuments⟩ := hlist
  unfold CollectionSchemeManager.updateAvailable takeDecoderManifest
  split
  . exact ⟨hmaps.of_eq rfl rfl, hdocuments.current, hdocuments.input, hdocuments.stored⟩
  . exact ⟨hmaps.of_eq rfl rfl, hdocuments.current, hdocuments.input, hdocuments.stored⟩

theorem processDecoderManifest (h : Origins P s) : Origins P (s.processDecoderManifest currTime).1 := by
  unfold CollectionSchemeManager.processDecoderManifest acceptDecoderManifest
  dsimp only
  split
  . exact h
  . next manifest built heq =>
    have hbuilt : Origins P { s with mDecoderManifest := some manifest } :=
      ⟨h.maps.of_eq rfl rfl, h.documents.current, h.documents.input, h.documents.stored⟩
    split
    . exact hbuilt
    . split
      . exact hbuilt
      . have hstored : Origins P
            { s with
              mDecoderManifest := some manifest
              currentDecoderManifestID := manifest.getID }.storeDecoderManifest :=
          ⟨h.maps.of_eq rfl rfl,
            DocumentsFrom.storeDecoderManifest
              ⟨h.documents.current, h.documents.input, h.documents.stored⟩⟩
        split
        . exact hstored.cleanupCollectionSchemes
        . exact hstored.rebuildMapsandTimeLine

theorem processCollectionScheme (h : Origins P s) : Origins P (s.processCollectionScheme currTime).1 := by
  unfold CollectionSchemeManager.processCollectionScheme acceptCollectionScheme
  dsimp only
  split
  . exact h
  . next list built heq =>
    have ⟨old, hold, hbuild⟩ := Option.map_eq_some_iff.mp heq
    have hfrom : ListFrom P (some old) := by
      rw [← hold]
      exact h.documents.current
    have hlist : ListFrom P (some list) := by
      apply hfrom.of_content
      unfold CollectionSchemeIngestionList.build at hbuild
      split at hbuild
      . cases hbuild
        rfl
      . cases hbuild
        rfl
    have hbuilt : DocumentsFrom P { s with mCollectionSchemeList := some list }.documents :=
      ⟨hlist, h.documents.input, h.documents.stored⟩
    split
    . exact ⟨h.maps.of_eq rfl rfl, hbuilt⟩
    . have hstored : Origins P { s with mCollectionSchemeList := some list }.storeCollectionSchemeList :=
        ⟨h.maps.of_eq rfl rfl, hbuilt.storeCollectionSchemeList⟩
      split
      . exact hstored.updateMapsandTimeLine
      . exact hstored.rebuildMapsandTimeLine

theorem retrieveCollectionSchemeList (h : Origins P s) : Origins P s.retrieveCollectionSchemeList := by
  unfold CollectionSchemeManager.retrieveCollectionSchemeList
  split
  . exact h
  . next list hlist =>
    have ⟨p, hp, hstored⟩ := Option.bind_eq_some_iff.mp hlist
    refine ⟨h.maps.of_eq rfl rfl, ?_, h.documents.input, h.documents.stored⟩
    have hfrom := h.documents.stored p hp
    rw [hstored] at hfrom
    exact hfrom.of_content rfl

theorem retrieveDecoderManifest (h : Origins P s) : Origins P s.retrieveDecoderManifest := by
  unfold CollectionSchemeManager.retrieveDecoderManifest
  split
  . exact h
  . exact ⟨h.maps.of_eq rfl rfl, h.documents.current, h.documents.input, h.documents.stored⟩

variable {c : ManagerCall V} {result : Option Bool}

theorem call (h : Origins P s)
    (hlist : ∀ content, c = .onCollectionSchemeUpdate (some content) → ∀ c ∈ content, P c)
    (hcall : ManagerCall.call fuel s c = some (s', result))
    : Origins P s' := by
  cases c with
  | onCollectionSchemeUpdate content =>
    cases hcall
    refine ⟨h.maps.of_eq rfl rfl, h.documents.current, ?_, h.documents.stored⟩
    intro l content' hl hcontent
    cases hl
    exact hlist content' (by rw [← hcontent])
  | onDecoderManifestUpdate content =>
    cases hcall
    exact ⟨h.maps.of_eq rfl rfl, h.documents.current, h.documents.input, h.documents.stored⟩
  | updateAvailable =>
    cases hcall
    exact h.updateAvailable
  | prepareCheckinTimer currTime =>
    cases hcall
    exact ⟨h.maps.of_eq rfl rfl, h.documents⟩
  | processDecoderManifest currTime =>
    cases hcall
    exact h.processDecoderManifest
  | processCollectionScheme currTime =>
    cases hcall
    exact h.processCollectionScheme
  | checkTimeLine currTime =>
    have ⟨(t, ret), hcheck, heq⟩ := Option.map_eq_some_iff.mp hcall
    cases heq
    refine ⟨h.maps.checkTimeLine hcheck, ?_⟩
    rw [checkTimeLine_documents hcheck]
    exact h.documents
  | cleanupCollectionSchemes =>
    cases hcall
    exact h.cleanupCollectionSchemes
  | retrieveCollectionSchemeList =>
    cases hcall
    exact h.retrieveCollectionSchemeList
  | retrieveDecoderManifest =>
    cases hcall
    exact h.retrieveDecoderManifest
  | restart =>
    cases hcall
    apply of_empty rfl rfl
    refine ⟨?_, ?_, h.documents.stored⟩
    . intro l content hl
      cases hl
    . intro l content hl
      cases hl

theorem calls {calls : List (ManagerCall V)} (h : Origins P s)
    (hlists : ∀ content, .onCollectionSchemeUpdate (some content) ∈ calls → ∀ c ∈ content, P c)
    (hrun : calls.foldl (ManagerCall.next fuel) (some s) = some s')
    : Origins P s' := by
  have hok : Machine.Always
      (fun _ c => ∀ content, c = .onCollectionSchemeUpdate (some content) → ∀ c ∈ content, P c)
      (ManagerCall.next fuel) (some s) calls := by
    apply Machine.always_of_forall (fun c => c ∈ calls) ?_ (fun _ hc => hc)
    intro _ c hc content heq
    exact hlists content (heq ▸ hc)
  have hfinal := Machine.always_invariant (fun state => ∀ t, state = some t → Origins P t) ?_ ?_ hok
  . exact hfinal s' hrun
  . intro state c hlist hstate t ht
    have ⟨before, hbefore, hnext⟩ := Option.bind_eq_some_iff.mp ht
    have ⟨(after, result), hcall, heq⟩ := Option.map_eq_some_iff.mp hnext
    cases heq
    exact (hstate before hbefore).call hlist hcall
  . intro t ht
    cases ht
    exact h

theorem init (config : ManagerConfig V)
    (hstored : ∀ p ∈ config.schemaPersistencyPtr, ListFrom P p.collectionSchemeList)
    : Origins P (CollectionSchemeManager.init config) := by
  apply of_empty rfl rfl
  refine ⟨?_, ?_, hstored⟩
  . intro l content hl
    cases hl
  . intro l content hl
    cases hl

end Origins

end CollectionSchemeManager

end DataManagement
