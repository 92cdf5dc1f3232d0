import FleetWiseEdge.Manager.Lemmas.CheckTimeLine
import FleetWiseEdge.Manager.Lemmas.Documents

namespace DataManagement

open Cpp DataInspection

namespace CollectionSchemeManager

variable {V : Type} {P : CollectionScheme V → Prop} {s s' : CollectionSchemeManager V}
variable {currTime fuel : Nat}

section Interval

variable {ret : Bool}

theorem cleanupCollectionSchemes_interval
    : s.cleanupCollectionSchemes.mCheckinIntervalInMsec = s.mCheckinIntervalInMsec := by
  unfold cleanupCollectionSchemes
  split <;> rfl

theorem rebuildLoop_interval {collectionSchemeList : List (CollectionScheme V)}
    : (rebuildLoop currTime collectionSchemeList ret s).1.mCheckinIntervalInMsec
        =
      s.mCheckinIntervalInMsec := by
  induction collectionSchemeList generalizing s ret with
  | nil => rfl
  | cons c rest ih =>
    unfold rebuildLoop
    split
    . apply cleanupCollectionSchemes_interval
    . dsimp only
      split
      . apply ih
      . split
        . apply ih
        . apply ih

theorem updateScheme_interval {c : CollectionScheme V}
    : (s.updateScheme currTime c).1.mCheckinIntervalInMsec = s.mCheckinIntervalInMsec := by
  unfold updateScheme
  dsimp only
  repeat' split
  all_goals rfl

theorem updateLoop_interval {collectionSchemeList : List (CollectionScheme V)}
    : (updateLoop currTime collectionSchemeList ret s).1.mCheckinIntervalInMsec
        =
      s.mCheckinIntervalInMsec := by
  induction collectionSchemeList generalizing s ret with
  | nil => rfl
  | cons c rest ih =>
    unfold updateLoop
    split
    . apply cleanupCollectionSchemes_interval
    . apply ih.trans
      apply updateScheme_interval

theorem rebuildMapsandTimeLine_interval
    : (s.rebuildMapsandTimeLine currTime).1.mCheckinIntervalInMsec = s.mCheckinIntervalInMsec := by
  unfold rebuildMapsandTimeLine
  split
  . rfl
  . apply rebuildLoop_interval

theorem updateMapsandTimeLine_interval
    : (s.updateMapsandTimeLine currTime).1.mCheckinIntervalInMsec = s.mCheckinIntervalInMsec := by
  unfold updateMapsandTimeLine
  split
  . rfl
  . next l _ =>
    have hloop : (updateLoop currTime l.getCollectionSchemes false s).1.mCheckinIntervalInMsec
        = s.mCheckinIntervalInMsec :=
      updateLoop_interval
    split
    . next heq =>
      rw [heq] at hloop
      exact hloop
    . next heq =>
      rw [heq] at hloop
      exact hloop

theorem processDecoderManifest_interval
    : (s.processDecoderManifest currTime).1.mCheckinIntervalInMsec = s.mCheckinIntervalInMsec := by
  unfold processDecoderManifest acceptDecoderManifest
  dsimp only
  split
  . rfl
  . split
    . rfl
    . split
      . rfl
      . split
        . apply cleanupCollectionSchemes_interval
        . apply rebuildMapsandTimeLine_interval

theorem processCollectionScheme_interval
    : (s.processCollectionScheme currTime).1.mCheckinIntervalInMsec = s.mCheckinIntervalInMsec := by
  unfold processCollectionScheme acceptCollectionScheme
  dsimp only
  split
  . rfl
  . split
    . rfl
    . split
      . apply updateMapsandTimeLine_interval
      . apply rebuildMapsandTimeLine_interval

end Interval

section Held

structure Held (P : CollectionScheme V → Prop) (d : Documents V) : Prop where
  current : ListValid P d.mCollectionSchemeList
  input : ListValid P d.mCollectionSchemeListInput
  stored : ∀ p ∈ d.mSchemaPersistency, ListValid P p.collectionSchemeList

theorem Held.storeDecoderManifest (h : Held P s.documents) : Held P s.storeDecoderManifest.documents := by
  refine ⟨h.current, h.input, ?_⟩
  intro p hp
  simp only [documents, CollectionSchemeManager.storeDecoderManifest, Option.mem_def, Option.map_eq_some_iff] at hp
  obtain ⟨old, hold, hwrite⟩ := hp
  have hstored := h.stored old hold
  rw [← hwrite]
  unfold SchemaPersistency.write
  dsimp only
  split
  . exact hstored
  . exact hstored

theorem Held.storeCollectionSchemeList (h : Held P s.documents)
    : Held P s.storeCollectionSchemeList.documents := by
  refine ⟨h.current, h.input, ?_⟩
  intro p hp
  simp only [documents, CollectionSchemeManager.storeCollectionSchemeList, Option.mem_def,
    Option.map_eq_some_iff] at hp
  obtain ⟨old, hold, hwrite⟩ := hp
  have hstored := h.stored old hold
  rw [← hwrite]
  unfold SchemaPersistency.write
  dsimp only
  split
  . exact h.current
  . exact hstored

theorem Held.processDecoderManifest (h : Held P s.documents)
    : Held P (s.processDecoderManifest currTime).1.documents := by
  unfold CollectionSchemeManager.processDecoderManifest
  dsimp only
  split
  . exact h
  . split
    . exact ⟨h.current, h.input, h.stored⟩
    . split
      . exact ⟨h.current, h.input, h.stored⟩
      . rw [acceptDecoderManifest_documents]
        apply Held.storeDecoderManifest
        exact ⟨h.current, h.input, h.stored⟩

theorem Held.processCollectionScheme (h : Held P s.documents)
    : Held P (s.processCollectionScheme currTime).1.documents := by
  unfold CollectionSchemeManager.processCollectionScheme
  dsimp only
  split
  . exact h
  . next l built hbuild =>
    have hbuilt : ListValid P (some l) := h.current.build hbuild
    split
    . exact ⟨hbuilt, h.input, h.stored⟩
    . rw [acceptCollectionScheme_documents]
      apply Held.storeCollectionSchemeList
      exact ⟨hbuilt, h.input, h.stored⟩

theorem Held.updateAvailable (h : Held P s.documents) : Held P s.updateAvailable.documents := by
  have hlist : Held P s.takeCollectionSchemeList.documents := by
    unfold takeCollectionSchemeList
    split
    . exact ⟨h.input, h.input, h.stored⟩
    . exact ⟨h.current, h.input, h.stored⟩
  unfold CollectionSchemeManager.updateAvailable takeDecoderManifest
  split
  . exact ⟨hlist.current, hlist.input, hlist.stored⟩
  . exact ⟨hlist.current, hlist.input, hlist.stored⟩

theorem Held.retrieveCollectionSchemeList (h : Held P s.documents)
    : Held P s.retrieveCollectionSchemeList.documents := by
  unfold CollectionSchemeManager.retrieveCollectionSchemeList
  split
  . exact h
  . next list hlist =>
    have ⟨p, hp, hstored⟩ := Option.bind_eq_some_iff.mp hlist
    refine ⟨?_, h.input, h.stored⟩
    intro l content hl hcontent
    cases hl
    apply h.stored p hp list content hstored hcontent

theorem Held.retrieveDecoderManifest (h : Held P s.documents)
    : Held P s.retrieveDecoderManifest.documents := by
  unfold CollectionSchemeManager.retrieveDecoderManifest
  split
  . exact h
  . exact ⟨h.current, h.input, h.stored⟩

end Held

structure ManagerInvariant (P : CollectionScheme V → Prop) (interval : Nat) (s : CollectionSchemeManager V)
    : Prop where
  timely : Timely P s
  held : Held P s.documents
  interval : s.mCheckinIntervalInMsec = interval

section Run

variable {interval : Nat} {c : ManagerCall V} {result : Option Bool}

theorem ManagerInvariant.call (hvalid : ∀ c : CollectionScheme V, P c → Valid c)
    (h : ManagerInvariant P interval s)
    (hlist : ∀ content, c = .onCollectionSchemeUpdate (some content) → ValidList P content)
    (hcall : ManagerCall.call fuel s c = some (s', result))
    : ManagerInvariant P interval s' := by
  have ⟨htimely, hheld, hinterval⟩ := h
  cases c with
  | onCollectionSchemeUpdate content =>
    cases hcall
    refine ⟨htimely, ⟨hheld.current, ?_, hheld.stored⟩, hinterval⟩
    intro l content' hl hcontent
    cases hl
    apply hlist content'
    rw [← hcontent]
  | onDecoderManifestUpdate content =>
    cases hcall
    exact ⟨htimely, ⟨hheld.current, hheld.input, hheld.stored⟩, hinterval⟩
  | updateAvailable =>
    cases hcall
    refine ⟨?_, hheld.updateAvailable, ?_⟩
    . unfold CollectionSchemeManager.updateAvailable takeDecoderManifest takeCollectionSchemeList
      split <;> split <;> exact htimely
    . unfold CollectionSchemeManager.updateAvailable takeDecoderManifest takeCollectionSchemeList
      split <;> split <;> exact hinterval
  | prepareCheckinTimer currTime =>
    cases hcall
    exact ⟨htimely.pushTime currTime CHECKIN, hheld, hinterval⟩
  | processDecoderManifest currTime =>
    cases hcall
    exact ⟨htimely.processDecoderManifest hheld.current, hheld.processDecoderManifest,
      processDecoderManifest_interval.trans hinterval⟩
  | processCollectionScheme currTime =>
    cases hcall
    exact ⟨htimely.processCollectionScheme hheld.current, hheld.processCollectionScheme,
      processCollectionScheme_interval.trans hinterval⟩
  | checkTimeLine currTime =>
    have ⟨(t, ret), hcheck, heq⟩ := Option.map_eq_some_iff.mp hcall
    cases heq
    refine ⟨(htimely.checkTimeLine hvalid hcheck).1, ?_, (checkTimeLine_interval hcheck).trans hinterval⟩
    rw [checkTimeLine_documents hcheck]
    exact hheld
  | cleanupCollectionSchemes =>
    cases hcall
    refine ⟨timely_cleanupCollectionSchemes, ?_, cleanupCollectionSchemes_interval.trans hinterval⟩
    rw [cleanupCollectionSchemes_documents]
    exact hheld
  | retrieveCollectionSchemeList =>
    cases hcall
    refine ⟨?_, hheld.retrieveCollectionSchemeList, ?_⟩
    . unfold CollectionSchemeManager.retrieveCollectionSchemeList
      split <;> exact htimely
    . unfold CollectionSchemeManager.retrieveCollectionSchemeList
      split <;> exact hinterval
  | retrieveDecoderManifest =>
    cases hcall
    refine ⟨?_, hheld.retrieveDecoderManifest, ?_⟩
    . unfold CollectionSchemeManager.retrieveDecoderManifest
      split <;> exact htimely
    . unfold CollectionSchemeManager.retrieveDecoderManifest
      split <;> exact hinterval
  | restart =>
    cases hcall
    refine ⟨timely_of_empty rfl rfl, ⟨?_, ?_, hheld.stored⟩, hinterval⟩
    . intro l content hl
      cases hl
    . intro l content hl
      cases hl

theorem managerInvariant_init (config : ManagerConfig V)
    (hstored : ∀ p ∈ config.schemaPersistencyPtr, ListValid P p.collectionSchemeList)
    : ManagerInvariant P (init config).mCheckinIntervalInMsec (init config) := by
  refine ⟨timely_of_empty rfl rfl, ⟨?_, ?_, hstored⟩, rfl⟩
  . intro l content hl
    cases hl
  . intro l content hl
    cases hl

theorem ManagerInvariant.calls (hvalid : ∀ c : CollectionScheme V, P c → Valid c)
    {calls : List (ManagerCall V)} (h : ManagerInvariant P interval s)
    (hlists : ∀ content, .onCollectionSchemeUpdate (some content) ∈ calls → ValidList P content)
    (hrun : calls.foldl (ManagerCall.next fuel) (some s) = some s')
    : ManagerInvariant P interval s' := by
  have hok : Machine.Always
      (fun _ c => ∀ content, c = .onCollectionSchemeUpdate (some content) → ValidList P content)
      (ManagerCall.next fuel) (some s) calls := by
    apply Machine.always_of_forall (fun c => c ∈ calls) ?_ (fun _ hc => hc)
    intro _ c hc content heq
    apply hlists
    rw [← heq]
    exact hc
  have hfinal := Machine.always_invariant (fun state => ∀ t, state = some t → ManagerInvariant P interval t)
    ?_ ?_ hok
  . exact hfinal s' hrun
  . intro state c hlist hstate t ht
    have ⟨before, hbefore, hnext⟩ := Option.bind_eq_some_iff.mp ht
    have ⟨(after, result), hcall, heq⟩ := Option.map_eq_some_iff.mp hnext
    cases heq
    apply (hstate before hbefore).call hvalid hlist hcall
  . intro t ht
    cases ht
    exact h

end Run

structure TimelineInvariant (s : CollectionSchemeManager V) : Prop where
  disjoint : ∀ (id : String) c, s.mEnabledCollectionSchemeMap[id]? = some c →
    s.mIdleCollectionSchemeMap[id]? = none
  enabled : ∀ (id : String) c, s.mEnabledCollectionSchemeMap[id]? = some c →
    c.collectionSchemeID = id ∧ c.decoderManifestID = s.currentDecoderManifestID
      ∧ (c.expiryTime, c.collectionSchemeID) ∈ s.mTimeLine.entries
  idle : ∀ (id : String) c, s.mIdleCollectionSchemeMap[id]? = some c →
    c.collectionSchemeID = id ∧ c.decoderManifestID = s.currentDecoderManifestID
      ∧ (c.startTime, c.collectionSchemeID) ∈ s.mTimeLine.entries
      ∧ (c.expiryTime, c.collectionSchemeID) ∈ s.mTimeLine.entries

theorem Timely.timelineInvariant (h : Timely P s) : TimelineInvariant s := by
  constructor
  . intro id c hc
    exact (h.enabled hc).2.1
  . intro id c hc
    have ⟨hloaded, _, hholds⟩ := h.enabled hc
    rw [hloaded.id_eq]
    refine ⟨rfl, hloaded.manifest_eq, ?_⟩
    apply hholds.mem
    simp
  . intro id c hc
    have ⟨hloaded, _, hholds⟩ := h.idle hc
    rw [hloaded.id_eq]
    refine ⟨rfl, hloaded.manifest_eq, ?_, ?_⟩
    . apply hholds.mem
      simp
    . apply hholds.mem
      simp

/--
Every run of calls keeps the timeline invariant, so that `checkTimeLine` leaves nothing that is due. It ends,
as long as the time of the next checkin does not overflow.
-/
theorem timeline_invariant (config : ManagerConfig V)
    (hstored : ∀ p ∈ config.schemaPersistencyPtr, ListValid Valid p.collectionSchemeList)
    (calls : List (ManagerCall V))
    (hlists : ∀ content, .onCollectionSchemeUpdate (some content) ∈ calls → ValidList Valid content)
    (fuel : Nat) (hrun : calls.foldl (ManagerCall.next fuel) (some (init config)) = some s)
    : TimelineInvariant s
      ∧ ∀ currTime,
        (∀ fuel' s' ret, s.checkTimeLine fuel' currTime = some (s', ret) → Quiet s' currTime)
          ∧ (currTime + s.mCheckinIntervalInMsec < 2 ^ 64 →
            ∃ fuel' result, s.checkTimeLine fuel' currTime = some result) := by
  have hinv := (managerInvariant_init config hstored).calls (fun _ h => h) hlists hrun
  constructor
  . exact hinv.timely.timelineInvariant
  . intro currTime
    constructor
    . intro fuel' s' ret hcheck
      exact (hinv.timely.checkTimeLine (fun _ h => h) hcheck).2
    . intro htime
      have hinterval : 0 < s.mCheckinIntervalInMsec := by
        rw [hinv.interval]
        simp only [init]
        split
        . assumption
        . decide
      have ⟨result, hresult⟩ := checkTimeLine_exists currTime hinterval htime
      exact ⟨_, result, hresult⟩

def earlyArrival : List (ManagerCall Rat) :=
  [.onDecoderManifestUpdate (some (noSignals "m")),
    .onCollectionSchemeUpdate (some [campaign "c" "m" 100 200]),
    .updateAvailable, .processDecoderManifest 50, .processCollectionScheme 50, .checkTimeLine 60]

theorem earlyArrival_idle
    : ∃ s, earlyArrival.foldl (ManagerCall.next 10) (some (init { checkinIntervalMsec := 1000 })) = some s
        ∧ s.currentDecoderManifestID = "m"
        ∧ s.mEnabledCollectionSchemeMap["c"]? = none
        ∧ s.mIdleCollectionSchemeMap["c"]? = some (campaign "c" "m" 100 200) := by
  refine ⟨_, rfl, ?_⟩
  decide +kernel

theorem earlyArrival_valid {content : List (CollectionScheme Rat)}
    (h : .onCollectionSchemeUpdate (some content) ∈ earlyArrival)
    : ValidList Valid content := by
  have heq : content = [campaign "c" "m" 100 200] := by simpa [earlyArrival] using h
  rw [heq]
  constructor
  . decide
  . intro c hc
    rw [List.mem_singleton.mp hc]
    exact ⟨by decide, by decide⟩

theorem timeline_invariant_idle
    : ∃ s, earlyArrival.foldl (ManagerCall.next 10) (some (init { checkinIntervalMsec := 1000 })) = some s
        ∧ s.mIdleCollectionSchemeMap["c"]? = some (campaign "c" "m" 100 200)
        ∧ TimelineInvariant s := by
  have ⟨s, hrun, _, _, hidle⟩ := earlyArrival_idle
  refine ⟨s, hrun, hidle, ?_⟩
  refine (timeline_invariant { checkinIntervalMsec := 1000 } ?_ earlyArrival ?_ 10 hrun).1
  . intro p hp
    cases hp
  . intro content
    apply earlyArrival_valid

end CollectionSchemeManager

end DataManagement
