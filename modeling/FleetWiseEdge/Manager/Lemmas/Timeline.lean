import FleetWiseEdge.Manager.Impl.Machine
import FleetWiseEdge.Manager.Lemmas.Maps

namespace DataManagement

open Cpp DataInspection

namespace CollectionSchemeManager

variable {V : Type}

structure Loaded (P : CollectionScheme V → Prop) (manifestID id : String) (c : CollectionScheme V)
    : Prop where
  id_eq : c.collectionSchemeID = id
  manifest_eq : c.decoderManifestID = manifestID
  valid : P c

/--
What is waited for under an ID, given what the enabled and the idle map have there.
-/
def Awaits (P : CollectionScheme V → Prop) (timeLine : TimeLine) (manifestID id : String)
    (enabled idle : Option (CollectionScheme V))
    : Prop :=
  match enabled, idle with
  | none, none => True
  | some c, none => Loaded P manifestID id c ∧ timeLine.Holds [(c.expiryTime, id)]
  | none, some c => Loaded P manifestID id c ∧ timeLine.Holds [(c.startTime, id), (c.expiryTime, id)]
  | some _, some _ => False

/--
The timeline invariant. `P` is what is known about all collection schemes that arrive.
-/
def Timely (P : CollectionScheme V → Prop) (s : CollectionSchemeManager V) : Prop :=
  ∀ id : String, Awaits P s.mTimeLine s.currentDecoderManifestID id s.mEnabledCollectionSchemeMap[id]?
    s.mIdleCollectionSchemeMap[id]?

/--
What `CollectionSchemeIngestion::build` checks, and that the ID is not taken for a checkin.
-/
structure Valid (c : CollectionScheme V) : Prop where
  not_checkin : c.collectionSchemeID ≠ CHECKIN
  start_le : c.startTime ≤ c.expiryTime

section Awaits

variable {P : CollectionScheme V → Prop} {timeLine timeLine' : TimeLine} {manifestID id : String}
variable {enabled idle : Option (CollectionScheme V)} {e : TimeData}

theorem Awaits.of_holds (h : Awaits P timeLine manifestID id enabled idle)
    (hholds : ∀ entries, (∀ e ∈ entries, e.2 = id) → timeLine.Holds entries → timeLine'.Holds entries)
    : Awaits P timeLine' manifestID id enabled idle := by
  cases enabled with
  | none =>
    cases idle with
    | none => trivial
    | some c =>
      apply And.intro h.1
      apply hholds _ _ h.2
      simp
  | some c =>
    cases idle with
    | none =>
      apply And.intro h.1
      apply hholds _ _ h.2
      simp
    | some c' => cases h

theorem Awaits.push (h : Awaits P timeLine manifestID id enabled idle)
    : Awaits P (timeLine.push e) manifestID id enabled idle := by
  apply h.of_holds
  intro entries _ hentries
  apply hentries.push

theorem Awaits.pop_ne (h : Awaits P timeLine manifestID id enabled idle) (htop : timeLine.top = some e)
    (hne : e.2 ≠ id)
    : Awaits P timeLine.pop manifestID id enabled idle := by
  apply h.of_holds
  intro entries hid hentries
  apply hentries.pop htop
  intro hmem
  exact hne (hid e hmem)

end Awaits

section Maps

variable {P : CollectionScheme V → Prop} {s : CollectionSchemeManager V} {id : String}
variable {c : CollectionScheme V}

theorem Timely.enabled (h : Timely P s) (hc : s.mEnabledCollectionSchemeMap[id]? = some c)
    : Loaded P s.currentDecoderManifestID id c ∧ s.mIdleCollectionSchemeMap[id]? = none
        ∧ s.mTimeLine.Holds [(c.expiryTime, id)] := by
  have hid := h id
  rw [hc] at hid
  cases hidle : s.mIdleCollectionSchemeMap[id]? with
  | none =>
    rw [hidle] at hid
    exact ⟨hid.1, rfl, hid.2⟩
  | some c' =>
    rw [hidle] at hid
    cases hid

theorem Timely.idle (h : Timely P s) (hc : s.mIdleCollectionSchemeMap[id]? = some c)
    : Loaded P s.currentDecoderManifestID id c ∧ s.mEnabledCollectionSchemeMap[id]? = none
        ∧ s.mTimeLine.Holds [(c.startTime, id), (c.expiryTime, id)] := by
  have hid := h id
  rw [hc] at hid
  cases henabled : s.mEnabledCollectionSchemeMap[id]? with
  | none =>
    rw [henabled] at hid
    exact ⟨hid.1, rfl, hid.2⟩
  | some c' =>
    rw [henabled] at hid
    cases hid

theorem Timely.pushTime (h : Timely P s) (time : Nat) (id : String) : Timely P (s.pushTime time id) := by
  intro id'
  apply (h id').push

theorem Timely.enable (h : Timely P s) (hloaded : Loaded P s.currentDecoderManifestID id c)
    (hidle : s.mIdleCollectionSchemeMap[id]? = none) (hholds : s.mTimeLine.Holds [(c.expiryTime, id)])
    : Timely P (s.enable id c) := by
  intro id'
  by_cases heq : id = id'
  . rw [← heq]
    simp only [CollectionSchemeManager.enable, SchemeMap.getElem?_insert, if_true, hidle]
    exact ⟨hloaded, hholds⟩
  . simpa [heq] using h id'

theorem Timely.setIdle (h : Timely P s) (hloaded : Loaded P s.currentDecoderManifestID id c)
    (henabled : s.mEnabledCollectionSchemeMap[id]? = none)
    (hholds : s.mTimeLine.Holds [(c.startTime, id), (c.expiryTime, id)])
    : Timely P (s.setIdle id c) := by
  intro id'
  by_cases heq : id = id'
  . rw [← heq]
    simp only [CollectionSchemeManager.setIdle, SchemeMap.getElem?_insert, if_true, henabled]
    exact ⟨hloaded, hholds⟩
  . simpa [heq] using h id'

theorem Timely.eraseEnabled (h : Timely P s) (hc : s.mEnabledCollectionSchemeMap[id]? = some c)
    : Timely P (s.eraseEnabled id) := by
  intro id'
  by_cases heq : id = id'
  . rw [← heq]
    simp [Awaits, (h.enabled hc).2.1]
  . simpa [heq] using h id'

theorem Timely.eraseIdle (h : Timely P s) (hc : s.mIdleCollectionSchemeMap[id]? = some c)
    : Timely P (s.eraseIdle id) := by
  intro id'
  by_cases heq : id = id'
  . rw [← heq]
    simp [Awaits, (h.idle hc).2.1]
  . simpa [heq] using h id'

theorem timely_of_empty (henabled : s.mEnabledCollectionSchemeMap = ∅)
    (hidle : s.mIdleCollectionSchemeMap = ∅)
    : Timely P s := by
  intro id
  simp [henabled, hidle, Awaits]

theorem isEmpty_of_isCollectionSchemeLoaded (h : s.isCollectionSchemeLoaded = false)
    : s.mEnabledCollectionSchemeMap = ∅ ∧ s.mIdleCollectionSchemeMap = ∅ := by
  simpa [isCollectionSchemeLoaded, Std.ExtTreeMap.isEmpty_iff] using h

theorem cleanupCollectionSchemes_empty
    : s.cleanupCollectionSchemes.mEnabledCollectionSchemeMap = ∅
        ∧ s.cleanupCollectionSchemes.mIdleCollectionSchemeMap = ∅ := by
  unfold cleanupCollectionSchemes
  split
  . simp_all [Std.ExtTreeMap.isEmpty_iff]
  . simp

theorem timely_cleanupCollectionSchemes : Timely P s.cleanupCollectionSchemes := by
  apply timely_of_empty cleanupCollectionSchemes_empty.1 cleanupCollectionSchemes_empty.2

theorem cleanupCollectionSchemes_currentDecoderManifestID
    : s.cleanupCollectionSchemes.currentDecoderManifestID = s.currentDecoderManifestID := by
  unfold cleanupCollectionSchemes
  split <;> rfl

end Maps

section Lists

variable {P : CollectionScheme V → Prop} {s : CollectionSchemeManager V} {currTime : Nat}
variable {c : CollectionScheme V}

structure ValidList (P : CollectionScheme V → Prop) (collectionSchemeList : List (CollectionScheme V))
    : Prop where
  nodup : (collectionSchemeList.map (·.collectionSchemeID)).Nodup
  valid : ∀ c ∈ collectionSchemeList, P c

theorem validList_nil : ValidList P ([] : List (CollectionScheme V)) := by
  constructor <;> simp

theorem holds_start_stop (timeLine : TimeLine) (start stop : Nat) (id : String)
    : ((timeLine.push (start, id)).push (stop, id)).Holds [(start, id), (stop, id)] := by
  have hholds : ((timeLine.push (start, id)).push (stop, id)).Holds [(stop, id), (start, id)] := by
    apply PriorityQueue.Holds.push_cons
    apply PriorityQueue.Holds.push_cons
    apply PriorityQueue.holds_nil
  apply hholds.of_perm
  apply List.Perm.swap

theorem holds_stop (timeLine : TimeLine) (stop : Nat) (id : String)
    : (timeLine.push (stop, id)).Holds [(stop, id)] := by
  apply PriorityQueue.Holds.push_cons
  apply PriorityQueue.holds_nil

theorem Timely.await (h : Timely P s) (hvalid : P c) (hmanifest : c.decoderManifestID = s.currentDecoderManifestID)
    (henabled : s.mEnabledCollectionSchemeMap[c.collectionSchemeID]? = none)
    : Timely P (((s.setIdle c.collectionSchemeID c).pushTime c.startTime c.collectionSchemeID).pushTime
        c.expiryTime c.collectionSchemeID) := by
  have hpushed := (h.pushTime c.startTime c.collectionSchemeID).pushTime c.expiryTime c.collectionSchemeID
  apply hpushed.setIdle ⟨rfl, hmanifest, hvalid⟩ henabled
  apply holds_start_stop

theorem Timely.start (h : Timely P s) (hvalid : P c) (hmanifest : c.decoderManifestID = s.currentDecoderManifestID)
    (hidle : s.mIdleCollectionSchemeMap[c.collectionSchemeID]? = none)
    : Timely P ((s.enable c.collectionSchemeID c).pushTime c.expiryTime c.collectionSchemeID) := by
  have hpushed := h.pushTime c.expiryTime c.collectionSchemeID
  apply hpushed.enable ⟨rfl, hmanifest, hvalid⟩ hidle
  apply holds_stop

theorem Timely.rebuildLoop {collectionSchemeList : List (CollectionScheme V)} {ret : Bool}
    (h : Timely P s) (hlist : ValidList P collectionSchemeList)
    (hnew : ∀ c ∈ collectionSchemeList, s.mEnabledCollectionSchemeMap[c.collectionSchemeID]? = none
      ∧ s.mIdleCollectionSchemeMap[c.collectionSchemeID]? = none)
    : Timely P (rebuildLoop currTime collectionSchemeList ret s).1 := by
  induction collectionSchemeList generalizing s ret with
  | nil => exact h
  | cons c rest ih =>
    have ⟨hdistinct, hnodup⟩ := List.nodup_cons.mp hlist.nodup
    have hrest : ValidList P rest := ⟨hnodup, fun c hc => hlist.valid c (List.mem_cons_of_mem _ hc)⟩
    have hvalid := hlist.valid c List.mem_cons_self
    have ⟨henabled, hidle⟩ := hnew c List.mem_cons_self
    have hother (c' : CollectionScheme V) (hc' : c' ∈ rest) : c.collectionSchemeID ≠ c'.collectionSchemeID := by
      intro heq
      apply hdistinct
      exact List.mem_map.mpr ⟨c', hc', heq.symm⟩
    unfold CollectionSchemeManager.rebuildLoop
    split
    . apply timely_cleanupCollectionSchemes
    . next hmanifest =>
      dsimp only
      split
      . apply ih (h.await hvalid (not_not.mp hmanifest) henabled) hrest
        intro c' hc'
        simpa [hother c' hc'] using hnew c' (List.mem_cons_of_mem _ hc')
      . split
        . apply ih (h.start hvalid (not_not.mp hmanifest) hidle) hrest
          intro c' hc'
          simpa [hother c' hc'] using hnew c' (List.mem_cons_of_mem _ hc')
        . apply ih h hrest
          intro c' hc'
          apply hnew c' (List.mem_cons_of_mem _ hc')

theorem Timely.updateScheme (h : Timely P s) (hvalid : P c)
    (hmanifest : c.decoderManifestID = s.currentDecoderManifestID)
    : Timely P (s.updateScheme currTime c).1 := by
  unfold CollectionSchemeManager.updateScheme
  dsimp only
  split
  . next henabled =>
    split
    . apply h.eraseEnabled henabled
    . split
      . apply h.start hvalid hmanifest (h.enabled henabled).2.1
      . exact h
  . next curr henabled hidle =>
    split
    . apply (h.eraseIdle hidle).start hvalid hmanifest
      simp
    . split
      . apply h.await hvalid hmanifest henabled
      . exact h
  . next henabled hidle =>
    split
    . apply h.start hvalid hmanifest hidle
    . split
      . apply h.await hvalid hmanifest henabled
      . exact h

theorem updateScheme_currentDecoderManifestID
    : (s.updateScheme currTime c).1.currentDecoderManifestID = s.currentDecoderManifestID := by
  unfold CollectionSchemeManager.updateScheme
  dsimp only
  repeat' split
  all_goals rfl

theorem Timely.updateLoop {collectionSchemeList : List (CollectionScheme V)} {ret : Bool}
    (h : Timely P s) (hvalid : ∀ c ∈ collectionSchemeList, P c)
    : Timely P (updateLoop currTime collectionSchemeList ret s).1 := by
  induction collectionSchemeList generalizing s ret with
  | nil => exact h
  | cons c rest ih =>
    unfold CollectionSchemeManager.updateLoop
    split
    . apply timely_cleanupCollectionSchemes
    . next hmanifest =>
      apply ih
      . apply h.updateScheme (hvalid c List.mem_cons_self) (not_not.mp hmanifest)
      . intro c' hc'
        apply hvalid c' (List.mem_cons_of_mem _ hc')

theorem Timely.removeMissing {newCollectionSchemeIDs : List String} (h : Timely P s)
    : Timely P (s.removeMissing newCollectionSchemeIDs).1 := by
  intro id
  simp only [CollectionSchemeManager.removeMissing, SchemeMap.getElem?_filter]
  split
  . apply h id
  . trivial

def ListValid (P : CollectionScheme V → Prop) (list : Option (CollectionSchemeIngestionList V)) : Prop :=
  ∀ l content, list = some l → l.content = some content → ValidList P content

theorem ListValid.getCollectionSchemes {list : Option (CollectionSchemeIngestionList V)}
    (h : ListValid P list)
    : ∀ l ∈ list, ValidList P l.getCollectionSchemes := by
  intro l hl
  unfold CollectionSchemeIngestionList.getCollectionSchemes
  cases hcontent : l.content with
  | none =>
    split
    . apply validList_nil
    . apply validList_nil
  | some content =>
    split
    . apply h l content hl hcontent
    . apply validList_nil

theorem Timely.rebuildMapsandTimeLine
    (hlist : ∀ l ∈ s.mCollectionSchemeList, ValidList P l.getCollectionSchemes)
    (hloaded : s.isCollectionSchemeLoaded = false)
    : Timely P (s.rebuildMapsandTimeLine currTime).1 := by
  have ⟨henabled, hidle⟩ := isEmpty_of_isCollectionSchemeLoaded hloaded
  have htimely : Timely P s := timely_of_empty henabled hidle
  unfold CollectionSchemeManager.rebuildMapsandTimeLine
  split
  . exact htimely
  . next l hl =>
    apply htimely.rebuildLoop (hlist l hl)
    simp [henabled, hidle]

theorem Timely.updateMapsandTimeLine (h : Timely P s)
    (hlist : ∀ l ∈ s.mCollectionSchemeList, ValidList P l.getCollectionSchemes)
    : Timely P (s.updateMapsandTimeLine currTime).1 := by
  unfold CollectionSchemeManager.updateMapsandTimeLine
  split
  . exact h
  . next l hl =>
    have hloop : Timely P (CollectionSchemeManager.updateLoop currTime l.getCollectionSchemes false s).1 :=
      h.updateLoop (hlist l hl).valid
    split
    . next s' heq =>
      rw [heq] at hloop
      exact hloop
    . next s' ret heq =>
      rw [heq] at hloop
      apply hloop.removeMissing

theorem Timely.processDecoderManifest (h : Timely P s) (hlist : ListValid P s.mCollectionSchemeList)
    : Timely P (s.processDecoderManifest currTime).1 := by
  unfold CollectionSchemeManager.processDecoderManifest
  split
  . exact h
  . dsimp only
    split
    . exact h
    . split
      . exact h
      . unfold acceptDecoderManifest
        dsimp only
        split
        . apply timely_cleanupCollectionSchemes
        . next hloaded =>
          apply Timely.rebuildMapsandTimeLine
          . exact hlist.getCollectionSchemes
          . simpa using hloaded

theorem build_content (l : CollectionSchemeIngestionList V) : l.build.1.content = l.content := by
  unfold CollectionSchemeIngestionList.build
  split <;> simp_all

theorem ListValid.build {list : Option (CollectionSchemeIngestionList V)}
    {l : CollectionSchemeIngestionList V} {built : Bool} (h : ListValid P list)
    (hbuild : list.map CollectionSchemeIngestionList.build = some (l, built))
    : ListValid P (some l) := by
  cases hlist : list with
  | none => simp [hlist] at hbuild
  | some l' =>
    simp only [hlist, Option.map_some, Option.some_inj] at hbuild
    intro l'' content heq hcontent
    cases heq
    have hsame := build_content l'
    rw [hbuild] at hsame
    apply h l' content hlist
    rw [← hsame]
    exact hcontent

theorem Timely.processCollectionScheme (h : Timely P s) (hlist : ListValid P s.mCollectionSchemeList)
    : Timely P (s.processCollectionScheme currTime).1 := by
  unfold CollectionSchemeManager.processCollectionScheme
  split
  . exact h
  . next l built hbuild =>
    have hbuilt : ListValid P (some l) := hlist.build hbuild
    dsimp only
    split
    . exact h
    . unfold acceptCollectionScheme
      dsimp only
      split
      . apply Timely.updateMapsandTimeLine
        . exact h
        . exact hbuilt.getCollectionSchemes
      . next hloaded =>
        apply Timely.rebuildMapsandTimeLine
        . exact hbuilt.getCollectionSchemes
        . simpa using hloaded

end Lists

end CollectionSchemeManager

end DataManagement
