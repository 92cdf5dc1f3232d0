import FleetWiseEdge.Manager.Lemmas.Entries
import FleetWiseEdge.Manager.Timeline

namespace DataManagement

open Cpp DataInspection

namespace CollectionSchemeManager

variable {V : Type}

structure Updated (before after : CollectionSchemeManager V) (collectionSchemeList : List (CollectionScheme V))
    (currTime : Nat)
    : Prop where
  enabled : ∀ id : String, (∃ c', after.mEnabledCollectionSchemeMap[id]? = some c')
    ↔ ∃ c ∈ collectionSchemeList, c.collectionSchemeID = id ∧ currTime < c.expiryTime
      ∧ ((∃ old, before.mEnabledCollectionSchemeMap[id]? = some old) ∨ c.startTime ≤ currTime)
  idle : ∀ id : String, (∃ c', after.mIdleCollectionSchemeMap[id]? = some c')
    ↔ ∃ c ∈ collectionSchemeList, c.collectionSchemeID = id ∧ currTime < c.startTime
      ∧ before.mEnabledCollectionSchemeMap[id]? = none
  stop : ∀ c ∈ collectionSchemeList, ∀ c',
    after.mEnabledCollectionSchemeMap[c.collectionSchemeID]? = some c' → c'.expiryTime = c.expiryTime
  times : ∀ c ∈ collectionSchemeList, ∀ c',
    after.mIdleCollectionSchemeMap[c.collectionSchemeID]? = some c' →
      c'.startTime = c.startTime ∧ c'.expiryTime = c.expiryTime

structure EntryUpdated (currTime : Nat) (c : CollectionScheme V) (before after : Entry V) : Prop where
  enabled : after.1.isSome ↔ currTime < c.expiryTime ∧ (before.1.isSome ∨ c.startTime ≤ currTime)
  idle : after.2.isSome ↔ currTime < c.startTime ∧ before.1 = none
  stop : ∀ c' ∈ after.1, c'.expiryTime = c.expiryTime
  times : ∀ c' ∈ after.2, c'.startTime = c.startTime ∧ c'.expiryTime = c.expiryTime

/--
An idle collection scheme is updated correctly unless both its new times have passed.
-/
def EntryUpdatable (currTime : Nat) (c : CollectionScheme V) (before : Entry V) : Prop :=
  before.2.isSome → before.1 = none ∧ (currTime < c.startTime ∨ currTime < c.expiryTime)

theorem entryUpdated_iff {currTime : Nat} {c : CollectionScheme V} {before : Entry V}
    : EntryUpdated currTime c before (updatedEntry currTime c before) ↔ EntryUpdatable currTime c before := by
  match before with
  | (some curr, some old) =>
    constructor
    . intro h
      have hidle := h.idle.mp
      unfold updatedEntry at hidle
      dsimp only at hidle
      split at hidle
      . simp at hidle
      . split at hidle <;> simp at hidle
    . intro h
      simp [EntryUpdatable] at h
  | (some curr, none) =>
    constructor
    . simp [EntryUpdatable]
    . intro _
      unfold updatedEntry
      dsimp only
      split
      . constructor <;> simp
        omega
      . split
        . constructor <;> simp
          omega
        . constructor <;> simp <;> omega
  | (none, some old) =>
    constructor
    . intro h _
      apply And.intro rfl
      have hidle := h.idle.mp
      unfold updatedEntry at hidle
      dsimp only at hidle
      split at hidle
      . omega
      . split at hidle
        . omega
        . simp at hidle
          omega
    . intro h
      have hlater := (h rfl).2
      unfold updatedEntry
      dsimp only at hlater ⊢
      split
      . constructor <;> simp <;> omega
      . split
        . constructor <;> simp <;> omega
        . constructor <;> simp <;> omega
  | (none, none) =>
    constructor
    . simp [EntryUpdatable]
    . intro _
      unfold updatedEntry
      dsimp only
      split
      . constructor <;> simp <;> omega
      . split
        . constructor <;> simp <;> omega
        . constructor <;> simp <;> omega

section List

variable {collectionSchemeList : List (CollectionScheme V)} {before after : CollectionSchemeManager V}
variable {currTime : Nat} {id : String} {c : CollectionScheme V}

theorem exists_scheme_iff (hnodup : (collectionSchemeList.map (·.collectionSchemeID)).Nodup)
    (hc : c ∈ collectionSchemeList) {p : CollectionScheme V → Prop}
    : (∃ c' ∈ collectionSchemeList, c'.collectionSchemeID = c.collectionSchemeID ∧ p c') ↔ p c := by
  constructor
  . intro ⟨c', hc', hid, hp⟩
    rw [← List.inj_on_of_nodup_map hnodup hc' hc hid]
    exact hp
  . intro hp
    exact ⟨c, hc, rfl, hp⟩

theorem updated_iff_entryUpdated (hnodup : (collectionSchemeList.map (·.collectionSchemeID)).Nodup)
    (hother : ∀ id, schemeOf collectionSchemeList id = none → after.entryAt id = (none, none))
    : Updated before after collectionSchemeList currTime
        ↔
      ∀ c ∈ collectionSchemeList, EntryUpdated currTime c (before.entryAt c.collectionSchemeID)
        (after.entryAt c.collectionSchemeID) := by
  constructor
  . intro h c hc
    have henabled := h.enabled c.collectionSchemeID
    have hidle := h.idle c.collectionSchemeID
    rw [exists_scheme_iff hnodup hc] at henabled hidle
    constructor
    . simpa only [entryAt, Option.isSome_iff_exists] using henabled
    . simpa only [entryAt, Option.isSome_iff_exists] using hidle
    . apply h.stop c hc
    . apply h.times c hc
  . intro h
    constructor
    . intro id
      cases hfind : schemeOf collectionSchemeList id with
      | none =>
        have hnone := congrArg Prod.fst (hother id hfind)
        have hmissing := schemeOf_eq_none_iff.mp hfind
        simp only [entryAt] at hnone
        rw [hnone]
        constructor
        . simp
        . rintro ⟨c, hc, hid, _⟩
          exact absurd hid (hmissing c hc)
      | some c =>
        obtain ⟨hc, hid⟩ := mem_of_schemeOf hfind
        rw [← hid, exists_scheme_iff hnodup hc]
        simpa only [entryAt, Option.isSome_iff_exists] using (h c hc).enabled
    . intro id
      cases hfind : schemeOf collectionSchemeList id with
      | none =>
        have hnone := congrArg Prod.snd (hother id hfind)
        have hmissing := schemeOf_eq_none_iff.mp hfind
        simp only [entryAt] at hnone
        rw [hnone]
        constructor
        . simp
        . rintro ⟨c, hc, hid, _⟩
          exact absurd hid (hmissing c hc)
      | some c =>
        obtain ⟨hc, hid⟩ := mem_of_schemeOf hfind
        rw [← hid, exists_scheme_iff hnodup hc]
        simpa only [entryAt, Option.isSome_iff_exists] using (h c hc).idle
    . intro c hc
      apply (h c hc).stop
    . intro c hc
      apply (h c hc).times

theorem updated_iff (before : CollectionSchemeManager V) (currTime : Nat)
    {list : CollectionSchemeIngestionList V}
    (hlist : before.mCollectionSchemeList = some list)
    (hnodup : (list.getCollectionSchemes.map (·.collectionSchemeID)).Nodup)
    (hmanifest : ∀ c ∈ list.getCollectionSchemes, c.decoderManifestID = before.currentDecoderManifestID)
    : Updated before (before.updateMapsandTimeLine currTime).1 list.getCollectionSchemes currTime
        ↔
      ∀ c ∈ list.getCollectionSchemes, EntryUpdatable currTime c (before.entryAt c.collectionSchemeID) := by
  have hentries (id : String) :=
    updateMapsandTimeLine_entryAt currTime id hlist hnodup hmanifest
  rw [updated_iff_entryUpdated hnodup]
  . apply forall_congr'
    intro c
    apply imp_congr_right
    intro hc
    rw [hentries, schemeOf_of_mem hnodup hc]
    apply entryUpdated_iff
  . intro id hnone
    rw [hentries, hnone]

end List

/--
In every state that calls lead to, and for every new list with distinct IDs and the manifest in use, the
update is what the list says if and only if no collection scheme of the list is idle whose new start and stop
time have both passed, or is enabled and idle. The latter needs an earlier list with an ID twice.
-/
theorem update_postcondition (config : ManagerConfig V) (calls : List (ManagerCall V))
    (fuel : Nat) {s : CollectionSchemeManager V}
    (hrun : calls.foldl (ManagerCall.next fuel) (some (init config)) = some s)
    (list : CollectionSchemeIngestionList V)
    (hnodup : (list.getCollectionSchemes.map (·.collectionSchemeID)).Nodup)
    (hmanifest : ∀ c ∈ list.getCollectionSchemes, c.decoderManifestID = s.currentDecoderManifestID)
    (currTime : Nat)
    : (Updated s ({ s with mCollectionSchemeList := some list }.updateMapsandTimeLine currTime).1
          list.getCollectionSchemes currTime
        ↔ ∀ c ∈ list.getCollectionSchemes, ∀ old,
          s.mIdleCollectionSchemeMap[c.collectionSchemeID]? = some old →
            s.mEnabledCollectionSchemeMap[c.collectionSchemeID]? = none
              ∧ (currTime < c.startTime ∨ currTime < c.expiryTime))
      ∧ ((∀ p ∈ config.schemaPersistencyPtr, ListValid Valid p.collectionSchemeList) →
        (∀ content, .onCollectionSchemeUpdate (some content) ∈ calls → ValidList Valid content) →
        ∀ (id : String) old, s.mIdleCollectionSchemeMap[id]? = some old →
          s.mEnabledCollectionSchemeMap[id]? = none) := by
  constructor
  . have hupdated := updated_iff { s with mCollectionSchemeList := some list } currTime rfl hnodup hmanifest
    refine Iff.trans ?_ (hupdated.trans ?_)
    . constructor
      . intro h
        exact ⟨h.enabled, h.idle, h.stop, h.times⟩
      . intro h
        exact ⟨h.enabled, h.idle, h.stop, h.times⟩
    . simp only [EntryUpdatable, entryAt, Option.isSome_iff_exists, forall_exists_index]
  . intro hstored hlists id old hold
    have hinv := (managerInvariant_init config hstored).calls (fun _ h => h) hlists hrun
    exact (hinv.timely.idle hold).2.1

-- The campaign that waits for its start is moved, while it is still to come.
theorem update_postcondition_moved
    : ∃ s, earlyArrival.foldl (ManagerCall.next 10) (some (init { checkinIntervalMsec := 1000 })) = some s
        ∧ Updated s
            ({ s with
                mCollectionSchemeList := some { content := some [campaign "c" "m" 110 210], mReady := true }
              }.updateMapsandTimeLine 70).1
            [campaign "c" "m" 110 210] 70 := by
  have ⟨s, hrun, hmanifest, henabled, _⟩ := earlyArrival_idle
  refine ⟨s, hrun, ?_⟩
  refine (update_postcondition { checkinIntervalMsec := 1000 } earlyArrival 10 hrun
    { content := some [campaign "c" "m" 110 210], mReady := true } (by decide) ?_ 70).1.mpr ?_
  . intro c hc
    rw [List.mem_singleton.mp hc, hmanifest]
    rfl
  . intro c hc old _
    rw [List.mem_singleton.mp hc]
    exact ⟨henabled, by decide⟩

theorem update_postcondition_cancelled
    : ¬∀ (config : ManagerConfig Rat) (calls : List (ManagerCall Rat)) (fuel : Nat)
        (s : CollectionSchemeManager Rat) (list : CollectionSchemeIngestionList Rat) (currTime : Nat),
        calls.foldl (ManagerCall.next fuel) (some (init config)) = some s →
        (∀ content, .onCollectionSchemeUpdate (some content) ∈ calls → ValidList Valid content) →
        (list.getCollectionSchemes.map (·.collectionSchemeID)).Nodup →
        (∀ c ∈ list.getCollectionSchemes, c.decoderManifestID = s.currentDecoderManifestID) →
        Updated s ({ s with mCollectionSchemeList := some list }.updateMapsandTimeLine currTime).1
          list.getCollectionSchemes currTime := by
  intro hclaim
  have ⟨s, hrun, hmanifest, henabled, hidle⟩ := earlyArrival_idle
  have hmatch : ∀ c ∈ [campaign "c" "m" 10 20], c.decoderManifestID = s.currentDecoderManifestID := by
    intro c hc
    rw [List.mem_singleton.mp hc, hmanifest]
    rfl
  have hupdated := hclaim { checkinIntervalMsec := 1000 } earlyArrival 10 s
    { content := some [campaign "c" "m" 10 20], mReady := true } 70 hrun (fun _ => earlyArrival_valid)
    (by decide) hmatch
  have hbefore : s.entryAt "c" = (none, some (campaign "c" "m" 100 200)) := Prod.ext henabled hidle
  have hafter : ({ s with
      mCollectionSchemeList := some { content := some [campaign "c" "m" 10 20], mReady := true }
    }.updateMapsandTimeLine 70).1.entryAt "c" = (none, some (campaign "c" "m" 100 200)) := by
    rw [updateMapsandTimeLine_entryAt _ _ rfl (by decide) hmatch]
    exact congrArg (updatedEntry 70 (campaign "c" "m" 10 20)) hbefore
  have ⟨c, hc, _, hstart, _⟩ := (hupdated.idle "c").mp ⟨_, congrArg Prod.snd hafter⟩
  rw [List.mem_singleton.mp hc] at hstart
  exact absurd hstart (by decide)

end CollectionSchemeManager

end DataManagement
