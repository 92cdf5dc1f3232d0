import FleetWiseEdge.Manager.Lemmas.Timeline

namespace DataManagement

open Cpp DataInspection

namespace CollectionSchemeManager

variable {V : Type} {P : CollectionScheme V → Prop} {s s' : CollectionSchemeManager V}
variable {currTime fuel : Nat} {ret ret' : Bool}

structure SameSchemes (s s' : CollectionSchemeManager V) : Prop where
  enabled : s'.mEnabledCollectionSchemeMap = s.mEnabledCollectionSchemeMap
  idle : s'.mIdleCollectionSchemeMap = s.mIdleCollectionSchemeMap
  manifest : s'.currentDecoderManifestID = s.currentDecoderManifestID
  interval : s'.mCheckinIntervalInMsec = s.mCheckinIntervalInMsec

theorem sendCheckin_same : SameSchemes s s.sendCheckin.1 ∧ s.sendCheckin.1.mTimeLine = s.mTimeLine := by
  unfold sendCheckin
  dsimp only
  split <;> exact ⟨⟨rfl, rfl, rfl, rfl⟩, rfl⟩

theorem serveCheckin_same (s : CollectionSchemeManager V) (currTime : Nat)
    : SameSchemes s (s.serveCheckin currTime) := by
  have ⟨hsame, _⟩ := sendCheckin_same (s := s)
  unfold serveCheckin
  dsimp only
  split
  . split
    . exact ⟨hsame.enabled, hsame.idle, hsame.manifest, hsame.interval⟩
    . exact hsame
  . exact ⟨hsame.enabled, hsame.idle, hsame.manifest, hsame.interval⟩

theorem serveCheckin_timeLine (s : CollectionSchemeManager V) (currTime : Nat)
    : s.mCheckinIntervalInMsec = 0 ∧ (s.serveCheckin currTime).mTimeLine = s.mTimeLine
        ∨ ∃ interval, (s.serveCheckin currTime).mTimeLine
            = s.mTimeLine.push (u64 (currTime + interval), CHECKIN)
          ∧ min 1 s.mCheckinIntervalInMsec ≤ interval ∧ interval ≤ s.mCheckinIntervalInMsec := by
  have ⟨hsame, htimeLine⟩ := sendCheckin_same (s := s)
  unfold serveCheckin
  dsimp only [pushTime]
  rw [htimeLine, hsame.interval]
  split
  . split
    . apply Or.inr
      exists s.mCheckinIntervalInMsec
      simp
    . next hzero => exact Or.inl ⟨Nat.eq_zero_of_not_pos hzero, htimeLine⟩
  . apply Or.inr
    exists min RETRY_CHECKIN_INTERVAL_IN_MILLISECOND s.mCheckinIntervalInMsec
    simp [RETRY_CHECKIN_INTERVAL_IN_MILLISECOND]

theorem Timely.popTime {e : TimeData} (h : Timely P s) (htop : s.mTimeLine.top = some e)
    (hnew : Awaits P s.mTimeLine.pop s.currentDecoderManifestID e.2 s.mEnabledCollectionSchemeMap[e.2]?
      s.mIdleCollectionSchemeMap[e.2]?)
    : Timely P s.popTime := by
  intro id
  by_cases heq : e.2 = id
  . rw [← heq]
    exact hnew
  . apply (h id).pop_ne htop heq

theorem awaits_checkin (hvalid : ∀ c : CollectionScheme V, P c → Valid c) (h : Timely P s)
    : s.mEnabledCollectionSchemeMap[CHECKIN]? = none ∧ s.mIdleCollectionSchemeMap[CHECKIN]? = none := by
  constructor
  . cases hc : s.mEnabledCollectionSchemeMap[CHECKIN]? with
    | none => rfl
    | some c =>
      have hloaded := (h.enabled hc).1
      exact absurd hloaded.id_eq (hvalid c hloaded.valid).not_checkin
  . cases hc : s.mIdleCollectionSchemeMap[CHECKIN]? with
    | none => rfl
    | some c =>
      have hloaded := (h.idle hc).1
      exact absurd hloaded.id_eq (hvalid c hloaded.valid).not_checkin

theorem Timely.serveCheckin (hvalid : ∀ c : CollectionScheme V, P c → Valid c) (h : Timely P s) {time : Nat}
    (htop : s.mTimeLine.top = some (time, CHECKIN))
    : Timely P (s.serveCheckin currTime).popTime := by
  have hsame := serveCheckin_same s currTime
  have ⟨hserved, e, htopServed, he⟩ : Timely P (s.serveCheckin currTime)
      ∧ ∃ e, (s.serveCheckin currTime).mTimeLine.top = some e ∧ e.2 = CHECKIN := by
    cases serveCheckin_timeLine s currTime with
    | inl hkeep =>
      have heq := hkeep.2
      constructor
      . intro id
        rw [heq, hsame.manifest, hsame.enabled, hsame.idle]
        apply h id
      . rw [heq]
        exact ⟨_, htop, rfl⟩
    | inr hpush =>
      have ⟨interval, heq, _⟩ := hpush
      constructor
      . intro id
        rw [heq, hsame.manifest, hsame.enabled, hsame.idle]
        apply (h id).push
      . rw [heq]
        cases PriorityQueue.top_push (q := s.mTimeLine) (a := (u64 (currTime + interval), CHECKIN)) with
        | inl hnew => exact ⟨_, hnew, rfl⟩
        | inr hold => exact ⟨_, hold.trans htop, rfl⟩
  apply hserved.popTime htopServed
  have ⟨henabled, hidle⟩ := awaits_checkin hvalid hserved
  rw [he, henabled, hidle]
  trivial

def Stale (s : CollectionSchemeManager V) (e : TimeData) : Prop :=
  match s.mEnabledCollectionSchemeMap[e.2]?, s.mIdleCollectionSchemeMap[e.2]? with
  | some c, _ => c.expiryTime ≠ e.1
  | none, some c => c.startTime ≠ e.1
  | none, none => True

inductive TimeLinePass (currTime : Nat) (s : CollectionSchemeManager V) (ret : Bool)
    : CollectionSchemeManager V → Bool → Prop where
  | checkin (time : Nat) (htop : s.mTimeLine.top = some (time, CHECKIN)) (hdue : time ≤ currTime)
    : TimeLinePass currTime s ret (s.serveCheckin currTime).popTime ret
  | stale (e : TimeData) (htop : s.mTimeLine.top = some e) (hid : e.2 ≠ CHECKIN) (hstale : Stale s e)
    : TimeLinePass currTime s ret s.popTime ret
  | disable (id : String) (c : CollectionScheme V) (htop : s.mTimeLine.top = some (c.expiryTime, id))
    (hid : id ≠ CHECKIN) (hc : s.mEnabledCollectionSchemeMap[id]? = some c) (hdue : c.expiryTime ≤ currTime)
    : TimeLinePass currTime s ret (s.eraseEnabled id).popTime true
  | enable (id : String) (c : CollectionScheme V) (htop : s.mTimeLine.top = some (c.startTime, id))
    (hid : id ≠ CHECKIN) (henabled : s.mEnabledCollectionSchemeMap[id]? = none)
    (hc : s.mIdleCollectionSchemeMap[id]? = some c) (hdue : c.startTime ≤ currTime)
    : TimeLinePass currTime s ret ((s.enable id c).eraseIdle id).popTime true

theorem timeLinePass_of_again (h : checkTimeLinePass currTime (s, ret) = .again (s', ret'))
    : TimeLinePass currTime s ret s' ret' := by
  unfold checkTimeLinePass at h
  dsimp only at h
  split at h
  . cases h
  . next time id htop =>
    split at h
    . next hid =>
      split at h
      . cases h
      . next hdue =>
        cases h
        rw [hid] at htop
        apply TimeLinePass.checkin time htop
        omega
    . next hid =>
      split at h
      . next c idle hc hidle =>
        split at h
        . next hne =>
          cases h
          apply TimeLinePass.stale _ htop hid
          simp [Stale, hidle, hne]
        . next heq =>
          split at h
          . next hdue =>
            cases h
            rw [← not_not.mp heq] at htop hdue
            apply TimeLinePass.disable id _ htop hid hidle hdue
          . cases h
      . next c henabled hc =>
        split at h
        . next hne =>
          cases h
          apply TimeLinePass.stale _ htop hid
          simp [Stale, henabled, hc, hne]
        . next heq =>
          split at h
          . next hdue =>
            cases h
            rw [← not_not.mp heq] at htop hdue
            apply TimeLinePass.enable id _ htop hid henabled hc hdue
          . cases h
      . next henabled hidle =>
        cases h
        apply TimeLinePass.stale _ htop hid
        simp [Stale, henabled, hidle]

theorem timeLinePass_of_leave (h : checkTimeLinePass currTime (s, ret) = .leave (s', ret'))
    : s' = s ∧ ret' = ret ∧ ∀ e, s.mTimeLine.top = some e → currTime < e.1 := by
  unfold checkTimeLinePass at h
  dsimp only at h
  split at h
  . next htop =>
    cases h
    simp [htop]
  . next time id htop =>
    have hlater (hlt : currTime < time) : ∀ e, s.mTimeLine.top = some e → currTime < e.1 := by
      simp [htop, hlt]
    split at h
    . split at h
      . next hlt =>
        cases h
        exact ⟨rfl, rfl, hlater hlt⟩
      . cases h
    . split at h
      . split at h
        . cases h
        . split at h
          . cases h
          . next hdue =>
            cases h
            exact ⟨rfl, rfl, hlater (Nat.lt_of_not_le hdue)⟩
      . split at h
        . cases h
        . split at h
          . cases h
          . next hdue =>
            cases h
            exact ⟨rfl, rfl, hlater (Nat.lt_of_not_le hdue)⟩
      . cases h

instance : Std.Refl TimeData.le where
  refl a := by
    apply Or.inr
    simp

theorem top_time_le {e e' : TimeData} (htop : s.mTimeLine.top = some e) (he : e' ∈ s.mTimeLine.entries)
    : e.1 ≤ e'.1 := by
  have hle := PriorityQueue.top_le htop he
  unfold TimeData.le at hle
  omega

theorem Timely.pass (hvalid : ∀ c : CollectionScheme V, P c → Valid c) (h : Timely P s)
    (hpass : TimeLinePass currTime s ret s' ret')
    : Timely P s' := by
  cases hpass with
  | checkin time htop hdue => apply h.serveCheckin hvalid htop
  | stale e htop hid hstale =>
    apply h.popTime htop
    unfold Stale at hstale
    split at hstale
    . next c idle hc hidle =>
      obtain ⟨hloaded, hnone, hholds⟩ := h.enabled hidle
      rw [hidle, hnone]
      apply And.intro hloaded
      apply hholds.pop htop
      simp [Prod.ext_iff, Ne.symm hstale]
    . next c henabled hc =>
      obtain ⟨hloaded, _, hholds⟩ := h.idle hc
      rw [henabled, hc]
      apply And.intro hloaded
      apply hholds.pop htop
      -- the stop time is not on top, since the start time is not later
      have hstart := top_time_le htop (hholds.mem (a := (c.startTime, e.2)) (by simp))
      have hle := (hvalid c hloaded.valid).start_le
      simp only [List.mem_cons, List.not_mem_nil, or_false, Prod.ext_iff, and_true]
      intro heq
      dsimp only at hstart
      omega
    . next henabled hidle =>
      rw [henabled, hidle]
      trivial
  | disable id c htop hid hc hdue =>
    have herased := h.eraseEnabled hc
    have hidle := (h.enabled hc).2.1
    apply herased.popTime htop
    simp [hidle, Awaits]
  | enable id c htop hid henabled hc hdue =>
    obtain ⟨hloaded, _, hholds⟩ := h.idle hc
    have hpop := hholds.pop_cons htop
    intro id'
    by_cases heq : id = id'
    . rw [← heq]
      simp only [CollectionSchemeManager.enable, CollectionSchemeManager.eraseIdle,
        CollectionSchemeManager.popTime, SchemeMap.getElem?_insert, SchemeMap.getElem?_erase, if_true]
      exact ⟨hloaded, hpop⟩
    . have hother := (h id').pop_ne htop heq
      simpa [heq] using hother

-- What every pass of the loop keeps holds after `checkTimeLine`, and nothing due is left on top.
theorem checkTimeLine_invariant (Inv : CollectionSchemeManager V → Bool → Prop)
    (hpass : ∀ t t' ret ret', Inv t ret → TimeLinePass currTime t ret t' ret' → Inv t' ret')
    (hcheck : s.checkTimeLine fuel currTime = some (s', ret)) (hinit : Inv s false)
    : Inv s' ret ∧ ∀ e, s'.mTimeLine.top = some e → currTime < e.1 := by
  unfold checkTimeLine at hcheck
  split at hcheck
  . next htop =>
    cases hcheck
    apply And.intro hinit
    simp [htop]
  . next time id htop =>
    split at hcheck
    . next hlt =>
      cases hcheck
      apply And.intro hinit
      simp [htop, hlt]
    . apply Loop.run_invariant (fun state => Inv state.1 state.2)
        (fun state => Inv state.1 state.2 ∧ ∀ e, state.1.mTimeLine.top = some e → currTime < e.1)
        ?_ ?_ hcheck hinit
      . intro (t, ret) (t', ret') hinv hagain
        apply hpass t t' ret ret' hinv (timeLinePass_of_again hagain)
      . intro (t, ret) (t', ret') hinv hleave
        have ⟨heq, hret, htop⟩ := timeLinePass_of_leave hleave
        dsimp only at hinv ⊢
        rw [heq, hret]
        exact ⟨hinv, htop⟩

structure Quiet (s : CollectionSchemeManager V) (currTime : Nat) : Prop where
  enabled : ∀ (id : String) c, s.mEnabledCollectionSchemeMap[id]? = some c → currTime < c.expiryTime
  idle : ∀ (id : String) c, s.mIdleCollectionSchemeMap[id]? = some c → currTime < c.startTime

theorem Timely.quiet (h : Timely P s) (htop : ∀ e, s.mTimeLine.top = some e → currTime < e.1)
    : Quiet s currTime := by
  have hall (e : TimeData) (he : e ∈ s.mTimeLine.entries) : currTime < e.1 := by
    cases hs : s.mTimeLine.top with
    | none =>
      rw [PriorityQueue.top_eq_none_iff.mp hs] at he
      cases he
    | some first =>
      have hfirst := htop first hs
      have hle := top_time_le hs he
      omega
  constructor
  . intro id c hc
    apply hall (c.expiryTime, id)
    apply (h.enabled hc).2.2.mem
    simp
  . intro id c hc
    apply hall (c.startTime, id)
    apply (h.idle hc).2.2.mem
    simp

theorem Timely.checkTimeLine (hvalid : ∀ c : CollectionScheme V, P c → Valid c) (h : Timely P s)
    (hcheck : s.checkTimeLine fuel currTime = some (s', ret))
    : Timely P s' ∧ Quiet s' currTime := by
  have ⟨htimely, htop⟩ := checkTimeLine_invariant (fun t _ => Timely P t)
    (fun _ _ _ _ htimely hpass => htimely.pass hvalid hpass) hcheck h
  exact ⟨htimely, htimely.quiet htop⟩

section Termination

/--
The entries that the loop may still serve: all but the checkins that are to come.
-/
def pending (currTime : Nat) (timeLine : TimeLine) : Nat :=
  timeLine.entries.countP fun e => !(e.2 = CHECKIN && currTime < e.1)

theorem pending_pop {timeLine : TimeLine} {e : TimeData} (htop : timeLine.top = some e)
    (he : e.2 ≠ CHECKIN ∨ e.1 ≤ currTime)
    : pending currTime timeLine = pending currTime timeLine.pop + 1 := by
  unfold pending
  rw [PriorityQueue.entries_of_top htop, List.countP_cons]
  have hserve : (!(e.2 = CHECKIN && currTime < e.1 : Bool)) = true := by
    cases he with
    | inl hid => simp [hid]
    | inr hle => simp [hle]
  simp [hserve]

theorem pending_push_checkin {timeLine : TimeLine} {time : Nat} (hlater : currTime < time)
    : pending currTime (timeLine.push (time, CHECKIN)) = pending currTime timeLine := by
  unfold pending
  rw [(timeLine.push_perm (time, CHECKIN)).countP_eq, List.countP_cons]
  simp [hlater]

theorem top_push_later {timeLine : TimeLine} {e : TimeData} {next : Nat} (id : String)
    (htop : timeLine.top = some e) (hdue : e.1 ≤ currTime) (hlater : currTime < next)
    : (timeLine.push (next, id)).top = some e := by
  cases PriorityQueue.top_push (q := timeLine) (a := (next, id)) with
  | inr hold => rw [hold, htop]
  | inl hnew =>
    have hmem : e ∈ (timeLine.push (next, id)).entries := by simp [PriorityQueue.mem_of_top htop]
    have hle := PriorityQueue.top_le hnew hmem
    unfold TimeData.le at hle
    dsimp only at hle
    omega

theorem serveCheckin_next {time : Nat} (hinterval : 0 < s.mCheckinIntervalInMsec)
    (htime : currTime + s.mCheckinIntervalInMsec < 2 ^ 64)
    (htop : s.mTimeLine.top = some (time, CHECKIN)) (hdue : time ≤ currTime)
    : ∃ next, currTime < next ∧ next ≤ currTime + s.mCheckinIntervalInMsec
        ∧ (s.serveCheckin currTime).mTimeLine = s.mTimeLine.push (next, CHECKIN)
        ∧ (s.serveCheckin currTime).mTimeLine.top = some (time, CHECKIN) := by
  cases serveCheckin_timeLine s currTime with
  | inl hkeep => omega
  | inr hpush =>
    have ⟨interval, heq, hlow, hhigh⟩ := hpush
    have hnext : u64 (currTime + interval) = currTime + interval := by
      apply Nat.mod_eq_of_lt
      omega
    rw [hnext] at heq
    refine ⟨currTime + interval, by omega, by omega, heq, ?_⟩
    rw [heq]
    exact top_push_later CHECKIN htop hdue (by omega)

theorem pending_serveCheckin {time : Nat} (hinterval : 0 < s.mCheckinIntervalInMsec)
    (htime : currTime + s.mCheckinIntervalInMsec < 2 ^ 64)
    (htop : s.mTimeLine.top = some (time, CHECKIN)) (hdue : time ≤ currTime)
    : pending currTime (s.serveCheckin currTime).popTime.mTimeLine < pending currTime s.mTimeLine := by
  have ⟨next, hlater, _, hpush, htopPushed⟩ := serveCheckin_next hinterval htime htop hdue
  have hpending := pending_pop htopPushed (Or.inr hdue)
  rw [hpush, pending_push_checkin hlater] at hpending
  dsimp only [popTime]
  rw [hpush, hpending]
  omega

theorem TimeLinePass.interval (hpass : TimeLinePass currTime s ret s' ret')
    : s'.mCheckinIntervalInMsec = s.mCheckinIntervalInMsec := by
  cases hpass with
  | checkin time htop hdue => exact (serveCheckin_same s currTime).interval
  | _ => rfl

theorem TimeLinePass.pending_lt (hinterval : 0 < s.mCheckinIntervalInMsec)
    (htime : currTime + s.mCheckinIntervalInMsec < 2 ^ 64) (hpass : TimeLinePass currTime s ret s' ret')
    : pending currTime s'.mTimeLine < pending currTime s.mTimeLine := by
  cases hpass with
  | checkin time htop hdue => apply pending_serveCheckin hinterval htime htop hdue
  | stale e htop hid hstale =>
    rw [pending_pop htop (Or.inl hid)]
    simp
  | disable id c htop hid hc hdue =>
    rw [pending_pop htop (Or.inl hid)]
    simp
  | enable id c htop hid henabled hc hdue =>
    rw [pending_pop htop (Or.inl hid)]
    simp

theorem checkTimeLine_exists (currTime : Nat) (hinterval : 0 < s.mCheckinIntervalInMsec)
    (htime : currTime + s.mCheckinIntervalInMsec < 2 ^ 64)
    : ∃ result, s.checkTimeLine (pending currTime s.mTimeLine + 1) currTime = some result := by
  unfold checkTimeLine
  split
  . exact ⟨_, rfl⟩
  . split
    . exact ⟨_, rfl⟩
    . apply Loop.run_terminates
        (fun state => state.1.mCheckinIntervalInMsec = s.mCheckinIntervalInMsec)
        (fun state => pending currTime state.1.mTimeLine)
      . intro (t, ret) (t', ret') hsame hagain
        have hpass := timeLinePass_of_again hagain
        dsimp only at hsame ⊢
        rw [hpass.interval]
        apply And.intro hsame
        apply hpass.pending_lt
        . omega
        . omega
      . rfl
      . dsimp only
        omega

theorem checkTimeLine_mono {fuel' : Nat} {result : CollectionSchemeManager V × Bool}
    (h : s.checkTimeLine fuel currTime = some result) (hle : fuel ≤ fuel')
    : s.checkTimeLine fuel' currTime = some result := by
  unfold checkTimeLine at h ⊢
  split
  . simp_all
  . next htop =>
    simp only [htop] at h
    split
    . simp_all
    . next hdue =>
      rw [if_neg hdue] at h
      apply Loop.run_mono h hle

end Termination

section Interval

theorem checkTimeLine_interval (h : s.checkTimeLine fuel currTime = some (s', ret))
    : s'.mCheckinIntervalInMsec = s.mCheckinIntervalInMsec := by
  have ⟨hinterval, _⟩ := checkTimeLine_invariant
    (fun t _ => t.mCheckinIntervalInMsec = s.mCheckinIntervalInMsec)
    (fun _ _ _ _ hsame hpass => hpass.interval.trans hsame) h rfl
  exact hinterval

end Interval

end CollectionSchemeManager

end DataManagement
