import FleetWiseEdge.Lib.Machine
import FleetWiseEdge.Manager.Timeline

namespace DataManagement

open Cpp DataInspection

namespace CollectionSchemeManager

variable {V : Type} {s s' : CollectionSchemeManager V} {timeLine : TimeLine}
variable {now currTime fuel time : Nat} {id : String}

section Checkins

def checkins (timeLine : TimeLine) : List TimeData :=
  timeLine.entries.filter fun e => e.2 = CHECKIN

theorem checkins_push_ne (hid : id ≠ CHECKIN)
    : (checkins (timeLine.push (time, id))).Perm (checkins timeLine) := by
  have hperm := (timeLine.push_perm (time, id)).filter fun e : TimeData => e.2 = CHECKIN
  rw [List.filter_cons_of_neg (by simpa using hid)] at hperm
  exact hperm

theorem checkins_push
    : (checkins (timeLine.push (time, CHECKIN))).Perm ((time, CHECKIN) :: checkins timeLine) := by
  have hperm := (timeLine.push_perm (time, CHECKIN)).filter fun e : TimeData => e.2 = CHECKIN
  rw [List.filter_cons_of_pos (by simp)] at hperm
  exact hperm

theorem checkins_pop_ne {e : TimeData} (htop : timeLine.top = some e) (hid : e.2 ≠ CHECKIN)
    : checkins timeLine.pop = checkins timeLine := by
  unfold checkins
  conv => rhs; rw [PriorityQueue.entries_of_top htop]
  rw [List.filter_cons_of_neg (by simpa using hid)]

theorem checkins_pop (htop : timeLine.top = some (time, CHECKIN))
    : checkins timeLine = (time, CHECKIN) :: checkins timeLine.pop := by
  unfold checkins
  conv => lhs; rw [PriorityQueue.entries_of_top htop]
  rw [List.filter_cons_of_pos (by simp)]

theorem foldl_saveTimeData (entries : List TimeData) (saveTimeData : TimeData)
    : entries.foldl (fun save entry => if entry.2 = CHECKIN then entry else save) saveTimeData
        =
      ((entries.filter fun e => e.2 = CHECKIN).getLast?).getD saveTimeData := by
  induction entries generalizing saveTimeData with
  | nil => rfl
  | cons e es ih =>
    rw [List.foldl_cons, ih]
    by_cases hid : e.2 = CHECKIN
    . rw [if_pos hid, List.filter_cons_of_pos (by simpa using hid), List.getLast?_cons]
      rfl
    . rw [if_neg hid, List.filter_cons_of_neg (by simpa using hid)]

theorem checkins_onlyCheckin (h : checkins timeLine = [(time, CHECKIN)]) (hpos : 0 < time)
    : checkins (onlyCheckin timeLine) = [(time, CHECKIN)] := by
  have hsave : timeLine.entries.foldl (fun save entry => if entry.2 = CHECKIN then entry else save) (0, "")
      = (time, CHECKIN) := by
    unfold checkins at h
    rw [foldl_saveTimeData, h]
    rfl
  unfold onlyCheckin
  dsimp only
  split
  . rw [hsave]
    rfl
  . next hzero =>
    rw [hsave] at hzero
    omega

end Checkins

/--
There is exactly one entry for a checkin, and it is at most one interval away.
-/
def HasNextCheckin (now : Nat) (s : CollectionSchemeManager V) : Prop :=
  ∃ time, checkins s.mTimeLine = [(time, CHECKIN)] ∧ 0 < time ∧ time ≤ now + s.mCheckinIntervalInMsec

namespace HasNextCheckin

theorem mono (h : HasNextCheckin now s) (hle : now ≤ currTime) : HasNextCheckin currTime s := by
  have ⟨time, hcheckins, hpos, htime⟩ := h
  exact ⟨time, hcheckins, hpos, by omega⟩

theorem pushTime (h : HasNextCheckin now s) (hid : id ≠ CHECKIN) (time : Nat)
    : HasNextCheckin now (s.pushTime time id) := by
  have ⟨next, hcheckins, hpos, hnext⟩ := h
  have hperm : (checkins (s.mTimeLine.push (time, id))).Perm (checkins s.mTimeLine) := checkins_push_ne hid
  rw [hcheckins] at hperm
  exact ⟨next, List.perm_singleton.mp hperm, hpos, hnext⟩

theorem popTime (h : HasNextCheckin now s) {e : TimeData} (htop : s.mTimeLine.top = some e)
    (hid : e.2 ≠ CHECKIN)
    : HasNextCheckin now s.popTime := by
  have ⟨time, hcheckins, hpos, htime⟩ := h
  exact ⟨time, (checkins_pop_ne htop hid).trans hcheckins, hpos, htime⟩

theorem cleanupCollectionSchemes (h : HasNextCheckin now s)
    : HasNextCheckin now s.cleanupCollectionSchemes := by
  have ⟨time, hcheckins, hpos, htime⟩ := h
  unfold CollectionSchemeManager.cleanupCollectionSchemes
  split
  . exact h
  . exact ⟨time, checkins_onlyCheckin hcheckins hpos, hpos, htime⟩

section Lists

variable {collectionSchemeList : List (CollectionScheme V)} {ret : Bool}

theorem rebuildLoop (h : HasNextCheckin now s)
    (hid : ∀ c ∈ collectionSchemeList, c.collectionSchemeID ≠ CHECKIN)
    : HasNextCheckin now (rebuildLoop currTime collectionSchemeList ret s).1 := by
  induction collectionSchemeList generalizing s ret with
  | nil => exact h
  | cons c rest ih =>
    have hc := hid c List.mem_cons_self
    have hrest (c' : CollectionScheme V) (hc' : c' ∈ rest) : c'.collectionSchemeID ≠ CHECKIN :=
      hid c' (List.mem_cons_of_mem _ hc')
    unfold CollectionSchemeManager.rebuildLoop
    split
    . exact h.cleanupCollectionSchemes
    . dsimp only
      split
      . apply ih _ hrest
        apply pushTime _ hc
        apply pushTime _ hc
        exact h
      . split
        . apply ih _ hrest
          apply pushTime _ hc
          exact h
        . exact ih h hrest

theorem updateScheme {c : CollectionScheme V} (h : HasNextCheckin now s) (hc : c.collectionSchemeID ≠ CHECKIN)
    : HasNextCheckin now (s.updateScheme currTime c).1 := by
  unfold CollectionSchemeManager.updateScheme
  dsimp only
  split
  . split
    . exact h
    . split
      . apply pushTime _ hc
        exact h
      . exact h
  . split
    . apply pushTime _ hc
      exact h
    . split
      . apply pushTime _ hc
        apply pushTime _ hc
        exact h
      . exact h
  . split
    . apply pushTime _ hc
      exact h
    . split
      . apply pushTime _ hc
        apply pushTime _ hc
        exact h
      . exact h

theorem updateLoop (h : HasNextCheckin now s)
    (hid : ∀ c ∈ collectionSchemeList, c.collectionSchemeID ≠ CHECKIN)
    : HasNextCheckin now (updateLoop currTime collectionSchemeList ret s).1 := by
  induction collectionSchemeList generalizing s ret with
  | nil => exact h
  | cons c rest ih =>
    unfold CollectionSchemeManager.updateLoop
    split
    . exact h.cleanupCollectionSchemes
    . apply ih
      . exact h.updateScheme (hid c List.mem_cons_self)
      . intro c' hc'
        exact hid c' (List.mem_cons_of_mem _ hc')

variable {list : CollectionSchemeIngestionList V}

theorem rebuildMapsandTimeLine (h : HasNextCheckin now s)
    (hid : ∀ list ∈ s.mCollectionSchemeList, ∀ c ∈ list.getCollectionSchemes,
      c.collectionSchemeID ≠ CHECKIN)
    : HasNextCheckin now (s.rebuildMapsandTimeLine currTime).1 := by
  unfold CollectionSchemeManager.rebuildMapsandTimeLine
  split
  . exact h
  . next list hlist => exact h.rebuildLoop (hid list hlist)

theorem updateMapsandTimeLine (h : HasNextCheckin now s)
    (hid : ∀ list ∈ s.mCollectionSchemeList, ∀ c ∈ list.getCollectionSchemes,
      c.collectionSchemeID ≠ CHECKIN)
    : HasNextCheckin now (s.updateMapsandTimeLine currTime).1 := by
  unfold CollectionSchemeManager.updateMapsandTimeLine
  split
  . exact h
  . next list hlist =>
    have hloop : HasNextCheckin now
        (CollectionSchemeManager.updateLoop currTime list.getCollectionSchemes false s).1 :=
      h.updateLoop (hid list hlist)
    split
    . next heq =>
      rw [heq] at hloop
      exact hloop
    . next heq =>
      rw [heq] at hloop
      exact hloop

end Lists

end HasNextCheckin

section CheckTimeLine

variable {ret ret' : Bool}

theorem checkins_serveCheckin (hinterval : 0 < s.mCheckinIntervalInMsec)
    (htime : currTime + s.mCheckinIntervalInMsec < 2 ^ 64) (htop : s.mTimeLine.top = some (time, CHECKIN))
    (hdue : time ≤ currTime)
    : ∃ next, currTime < next ∧ next ≤ currTime + s.mCheckinIntervalInMsec
        ∧ (checkins (s.serveCheckin currTime).popTime.mTimeLine).Perm
            ((next, CHECKIN) :: checkins s.mTimeLine.pop) := by
  have ⟨next, hlater, hnext, hpush, htopPushed⟩ := serveCheckin_next hinterval htime htop hdue
  refine ⟨next, hlater, hnext, ?_⟩
  have hperm : (checkins (s.mTimeLine.push (next, CHECKIN))).Perm
      ((next, CHECKIN) :: checkins s.mTimeLine) :=
    checkins_push
  rw [← hpush, checkins_pop htopPushed, checkins_pop htop] at hperm
  exact (List.perm_cons _).mp (hperm.trans (List.Perm.swap _ _ _))

theorem HasNextCheckin.pass (h : HasNextCheckin currTime s) (hinterval : 0 < s.mCheckinIntervalInMsec)
    (htime : currTime + s.mCheckinIntervalInMsec < 2 ^ 64) (hpass : TimeLinePass currTime s ret s' ret')
    : HasNextCheckin currTime s' := by
  have hsame := hpass.interval
  cases hpass with
  | checkin time htop hdue =>
    have ⟨next, hlater, hnext, hperm⟩ := checkins_serveCheckin hinterval htime htop hdue
    have ⟨time', hcheckins, _, _⟩ := h
    rw [checkins_pop htop] at hcheckins
    rw [(List.cons.inj hcheckins).2] at hperm
    refine ⟨next, List.perm_singleton.mp hperm, by omega, ?_⟩
    rw [hsame]
    exact hnext
  | stale e htop hid hstale => exact h.popTime htop hid
  | disable id c htop hid hc hdue => exact HasNextCheckin.popTime h htop hid
  | enable id c htop hid henabled hc hdue => exact HasNextCheckin.popTime h htop hid

theorem HasNextCheckin.checkTimeLine (h : HasNextCheckin currTime s) (hinterval : 0 < s.mCheckinIntervalInMsec)
    (htime : currTime + s.mCheckinIntervalInMsec < 2 ^ 64)
    (hcheck : s.checkTimeLine fuel currTime = some (s', ret))
    : HasNextCheckin currTime s' := by
  have ⟨hinv, _⟩ := checkTimeLine_invariant
    (fun t _ => t.mCheckinIntervalInMsec = s.mCheckinIntervalInMsec ∧ HasNextCheckin currTime t)
    ?_ hcheck ⟨rfl, h⟩
  . exact hinv.2
  . intro t t' ret ret' hinv hpass
    refine ⟨hpass.interval.trans hinv.1, hinv.2.pass ?_ ?_ hpass⟩
    . rw [hinv.1]
      exact hinterval
    . rw [hinv.1]
      exact htime

end CheckTimeLine

def withList (s : CollectionSchemeManager V) (currentDecoderManifestID : String)
    (mCollectionSchemeList : Option (CollectionSchemeIngestionList V))
    : CollectionSchemeManager V :=
  { s with currentDecoderManifestID, mCollectionSchemeList }

theorem HasNextCheckin.withList (h : HasNextCheckin now s) (manifestID : String)
    (list : Option (CollectionSchemeIngestionList V))
    : HasNextCheckin now (s.withList manifestID list) :=
  h

theorem hasNextCheckin_prepareCheckinTimer (hnone : checkins s.mTimeLine = []) (hpos : 0 < currTime)
    : HasNextCheckin currTime (s.prepareCheckinTimer currTime) := by
  have hperm : (checkins (s.mTimeLine.push (currTime, CHECKIN))).Perm
      ((currTime, CHECKIN) :: checkins s.mTimeLine) :=
    checkins_push
  rw [hnone] at hperm
  exact ⟨currTime, List.perm_singleton.mp hperm, hpos, Nat.le_add_right _ _⟩

end CollectionSchemeManager

/--
What is done with the timeline once the timer is prepared. A list comes with the manifest that is current when
it is processed.
-/
inductive TimeLineOp (V : Type) where
  | checkTimeLine (currTime : Nat)
  | cleanupCollectionSchemes
  | rebuildMapsandTimeLine (currentDecoderManifestID : String)
    (mCollectionSchemeList : Option (CollectionSchemeIngestionList V)) (currTime : Nat)
  | updateMapsandTimeLine (currentDecoderManifestID : String)
    (mCollectionSchemeList : Option (CollectionSchemeIngestionList V)) (currTime : Nat)

namespace TimeLineOp

open CollectionSchemeManager

variable {V : Type} {op : TimeLineOp V} {ops : List (TimeLineOp V)} {s : CollectionSchemeManager V} {now : Nat}

def apply (fuel : Nat) (s : CollectionSchemeManager V) (op : TimeLineOp V)
    : Option (CollectionSchemeManager V) :=
  match op with
  | .checkTimeLine currTime => (s.checkTimeLine fuel currTime).map (·.1)
  | .cleanupCollectionSchemes => some s.cleanupCollectionSchemes
  | .rebuildMapsandTimeLine currentDecoderManifestID mCollectionSchemeList currTime =>
    some ((s.withList currentDecoderManifestID mCollectionSchemeList).rebuildMapsandTimeLine currTime).1
  | .updateMapsandTimeLine currentDecoderManifestID mCollectionSchemeList currTime =>
    some ((s.withList currentDecoderManifestID mCollectionSchemeList).updateMapsandTimeLine currTime).1

def time (now : Nat) (op : TimeLineOp V) : Nat :=
  match op with
  | .checkTimeLine currTime => currTime
  | .cleanupCollectionSchemes => now
  | .rebuildMapsandTimeLine _ _ currTime => currTime
  | .updateMapsandTimeLine _ _ currTime => currTime

def InOrder (now : Nat) (ops : List (TimeLineOp V)) : Prop :=
  Machine.Always (fun now (op : TimeLineOp V) => now ≤ op.time now) time now ops

instance : Decidable (InOrder now ops) :=
  inferInstanceAs (Decidable (Machine.Always ..))

def collectionSchemes (op : TimeLineOp V) : List (CollectionScheme V) :=
  match op with
  | .rebuildMapsandTimeLine _ (some list) _ => list.getCollectionSchemes
  | .updateMapsandTimeLine _ (some list) _ => list.getCollectionSchemes
  | _ => []

theorem hasNextCheckin_apply (h : HasNextCheckin now s) (hinterval : 0 < s.mCheckinIntervalInMsec)
    (horder : now ≤ op.time now) (htime : op.time now + s.mCheckinIntervalInMsec < 2 ^ 64)
    (hid : ∀ c ∈ op.collectionSchemes, c.collectionSchemeID ≠ CHECKIN)
    : ∃ enough s', (∀ fuel ≥ enough, op.apply fuel s = some s')
        ∧ HasNextCheckin (op.time now) s' ∧ s'.mCheckinIntervalInMsec = s.mCheckinIntervalInMsec := by
  have hlater := h.mono horder
  cases op with
  | checkTimeLine currTime =>
    have ⟨(s', ret), hcheck⟩ := checkTimeLine_exists (s := s) currTime hinterval htime
    refine ⟨CollectionSchemeManager.pending currTime s.mTimeLine + 1, s', ?_,
      hlater.checkTimeLine hinterval htime hcheck, checkTimeLine_interval hcheck⟩
    intro fuel hfuel
    unfold apply
    dsimp only
    rw [checkTimeLine_mono hcheck hfuel]
    rfl
  | cleanupCollectionSchemes =>
    exact ⟨0, _, fun _ _ => rfl, hlater.cleanupCollectionSchemes, cleanupCollectionSchemes_interval⟩
  | rebuildMapsandTimeLine manifestID list currTime =>
    refine ⟨0, _, fun _ _ => rfl, ?_, rebuildMapsandTimeLine_interval⟩
    apply (hlater.withList manifestID list).rebuildMapsandTimeLine
    intro l hl
    have hlist : list = some l := hl
    rw [hlist] at hid
    exact hid
  | updateMapsandTimeLine manifestID list currTime =>
    refine ⟨0, _, fun _ _ => rfl, ?_, updateMapsandTimeLine_interval⟩
    apply (hlater.withList manifestID list).updateMapsandTimeLine
    intro l hl
    have hlist : list = some l := hl
    rw [hlist] at hid
    exact hid

theorem le_foldl_time (h : InOrder now ops) : now ≤ ops.foldl time now :=
  Machine.always_invariant (fun t => now ≤ t) (fun _ _ horder hle => hle.trans horder) (le_refl now) h

theorem hasNextCheckin_run (h : HasNextCheckin now s) (hinterval : 0 < s.mCheckinIntervalInMsec)
    (horder : InOrder now ops) (htime : ops.foldl time now + s.mCheckinIntervalInMsec < 2 ^ 64)
    (hid : ∀ op ∈ ops, ∀ c ∈ op.collectionSchemes, c.collectionSchemeID ≠ CHECKIN)
    : ∃ enough s', (∀ fuel ≥ enough, ops.foldlM (apply fuel) s = some s')
        ∧ HasNextCheckin (ops.foldl time now) s' := by
  induction ops generalizing now s with
  | nil => exact ⟨0, s, fun _ _ => rfl, h⟩
  | cons op ops ih =>
    have hlast := le_foldl_time horder.2
    rw [List.foldl_cons] at htime ⊢
    have ⟨enough, next, hnext, hcheckin, hsame⟩ := hasNextCheckin_apply h hinterval horder.1 (by omega)
      (hid op List.mem_cons_self)
    have ⟨enough', s', hrun, hcheckin'⟩ := ih hcheckin (by omega) horder.2 (by omega)
      (fun op' hop' => hid op' (List.mem_cons_of_mem _ hop'))
    refine ⟨max enough enough', s', ?_, hcheckin'⟩
    intro fuel hfuel
    rw [List.foldlM_cons, hnext fuel (by omega)]
    exact hrun fuel (by omega)

end TimeLineOp

namespace CollectionSchemeManager

variable {V : Type} {s s' : CollectionSchemeManager V} {currTime fuel : Nat} {ret ret' : Bool}

/--
`checkTimeLine` ends at every time that leaves room for the next checkin. Once the timer is prepared, there is
one entry for a checkin after any operations, at most one interval after the last of them.
-/
theorem checkin_timer (s : CollectionSchemeManager V) (hinterval : 0 < s.mCheckinIntervalInMsec)
    : (∀ currTime, currTime + s.mCheckinIntervalInMsec < 2 ^ 64 →
        ∃ fuel result, s.checkTimeLine fuel currTime = some result)
        ∧
      ∀ startTime (ops : List (TimeLineOp V)),
        checkins s.mTimeLine = [] → 0 < startTime → TimeLineOp.InOrder startTime ops →
        ops.foldl TimeLineOp.time startTime + s.mCheckinIntervalInMsec < 2 ^ 64 →
        (∀ op ∈ ops, ∀ c ∈ op.collectionSchemes, c.collectionSchemeID ≠ CHECKIN) →
        ∃ enough s',
          (∀ fuel ≥ enough, ops.foldlM (TimeLineOp.apply fuel) (s.prepareCheckinTimer startTime) = some s')
            ∧ HasNextCheckin (ops.foldl TimeLineOp.time startTime) s' := by
  constructor
  . intro currTime htime
    exact ⟨_, checkTimeLine_exists currTime hinterval htime⟩
  . intro startTime ops hnone hpos horder htime hid
    exact TimeLineOp.hasNextCheckin_run (hasNextCheckin_prepareCheckinTimer hnone hpos) hinterval horder
      htime hid

def timerOps : List (TimeLineOp Rat) :=
  let list := some { content := some [campaign "c" "m" 10 200], mReady := true }
  [.rebuildMapsandTimeLine "m" list 5, .checkTimeLine 20, .cleanupCollectionSchemes,
    .updateMapsandTimeLine "m" list 30, .checkTimeLine 2000]

theorem checkin_timer_example
    : ∃ enough s',
        (∀ fuel ≥ enough,
          timerOps.foldlM (TimeLineOp.apply fuel) ((init { checkinIntervalMsec := 1000 }).prepareCheckinTimer 1)
            = some s')
          ∧ HasNextCheckin 2000 s' :=
  (checkin_timer (init { checkinIntervalMsec := 1000 }) (by decide)).2 1 timerOps rfl (by decide) (by decide)
    (by decide) (by decide)

section Overflow

def AlwaysSends (s : CollectionSchemeManager V) : Prop :=
  ∃ listener, s.mSchemaListenerPtr = some listener ∧ ∀ n, listener.results n = true

def dueCheckins (currTime : Nat) (timeLine : TimeLine) : Nat :=
  (checkins timeLine).countP fun e => e.1 ≤ currTime

structure Overflows (currTime : Nat) (s : CollectionSchemeManager V) : Prop where
  sends : AlwaysSends s
  due : 0 < dueCheckins currTime s.mTimeLine
  time : currTime < 2 ^ 64
  interval : s.mCheckinIntervalInMsec < 2 ^ 64
  overflow : 2 ^ 64 ≤ currTime + s.mCheckinIntervalInMsec

theorem serveCheckin_of_alwaysSends (currTime : Nat) (h : AlwaysSends s)
    (hinterval : 0 < s.mCheckinIntervalInMsec)
    : AlwaysSends (s.serveCheckin currTime)
        ∧
      (s.serveCheckin currTime).mTimeLine
        = s.mTimeLine.push (u64 (currTime + s.mCheckinIntervalInMsec), CHECKIN) := by
  have ⟨listener, hlistener, hresults⟩ := h
  have ⟨sent, hsend, hsent⟩ : ∃ sent : SchemaListener,
      s.sendCheckin = ({ s with mSchemaListenerPtr := some sent }, true) ∧ ∀ n, sent.results n = true := by
    unfold sendCheckin
    dsimp only
    rw [hlistener]
    exact ⟨_, Prod.ext rfl (hresults 0), fun n => hresults (n + 1)⟩
  unfold serveCheckin
  rw [hsend]
  dsimp only
  rw [if_pos rfl, if_pos hinterval]
  exact ⟨⟨sent, rfl, hsent⟩, rfl⟩

theorem Overflows.popTime (h : Overflows currTime s) {e : TimeData} (htop : s.mTimeLine.top = some e)
    (hid : e.2 ≠ CHECKIN)
    : Overflows currTime s.popTime := by
  refine ⟨h.sends, ?_, h.time, h.interval, h.overflow⟩
  unfold dueCheckins
  dsimp only [CollectionSchemeManager.popTime]
  rw [checkins_pop_ne htop hid]
  exact h.due

theorem Overflows.next_le (h : Overflows currTime s)
    : u64 (currTime + s.mCheckinIntervalInMsec) ≤ currTime := by
  have htime := h.time
  have hinterval := h.interval
  have hoverflow := h.overflow
  unfold u64
  omega

theorem dueCheckins_push {timeLine : TimeLine} {time : Nat} (hdue : time ≤ currTime)
    : dueCheckins currTime (timeLine.push (time, CHECKIN)) = dueCheckins currTime timeLine + 1 := by
  have hperm : (checkins (timeLine.push (time, CHECKIN))).Perm _ := checkins_push
  unfold dueCheckins
  rw [hperm.countP_eq, List.countP_cons_of_pos (by simpa using hdue)]

theorem dueCheckins_pop_le {timeLine : TimeLine} {time : Nat} (htop : timeLine.top = some (time, CHECKIN))
    : dueCheckins currTime timeLine ≤ dueCheckins currTime timeLine.pop + 1 := by
  unfold dueCheckins
  rw [checkins_pop htop, List.countP_cons]
  split <;> omega

theorem Overflows.pass (h : Overflows currTime s) (hpass : TimeLinePass currTime s ret s' ret')
    : Overflows currTime s' := by
  cases hpass with
  | checkin time htop hdue =>
    have hsame := serveCheckin_same s currTime
    have hinterval := h.interval
    have hoverflow := h.overflow
    have htime := h.time
    have ⟨hsends, hpush⟩ := serveCheckin_of_alwaysSends currTime h.sends (by omega)
    have hcount := @dueCheckins_push currTime s.mTimeLine _ h.next_le
    have ⟨time', htopServed⟩ : ∃ time', (s.serveCheckin currTime).mTimeLine.top = some (time', CHECKIN) := by
      rw [hpush]
      cases PriorityQueue.top_push (q := s.mTimeLine)
          (a := (u64 (currTime + s.mCheckinIntervalInMsec), CHECKIN)) with
      | inl hnew => exact ⟨_, hnew⟩
      | inr hold => exact ⟨_, hold.trans htop⟩
    refine ⟨hsends, ?_, h.time, ?_, ?_⟩
    . have hdue := h.due
      have hle := @dueCheckins_pop_le currTime _ _ htopServed
      rw [hpush, hcount, ← hpush] at hle
      dsimp only [CollectionSchemeManager.popTime]
      omega
    . exact hsame.interval ▸ h.interval
    . exact hsame.interval ▸ h.overflow
  | stale e htop hid hstale => exact h.popTime htop hid
  | disable id c htop hid hc hdue =>
    have herased : Overflows currTime (s.eraseEnabled id) := ⟨h.sends, h.due, h.time, h.interval, h.overflow⟩
    exact herased.popTime htop hid
  | enable id c htop hid henabled hc hdue =>
    have henabled : Overflows currTime ((s.enable id c).eraseIdle id) :=
      ⟨h.sends, h.due, h.time, h.interval, h.overflow⟩
    exact henabled.popTime htop hid

theorem Overflows.top (h : Overflows currTime s) : ∃ e, s.mTimeLine.top = some e ∧ e.1 ≤ currTime := by
  have ⟨e, he, hdue⟩ := List.countP_pos_iff.mp h.due
  have hmem : e ∈ s.mTimeLine.entries := List.mem_of_mem_filter he
  cases htop : s.mTimeLine.top with
  | none =>
    rw [PriorityQueue.top_eq_none_iff.mp htop] at hmem
    cases hmem
  | some first =>
    have hle := top_time_le htop hmem
    simp only [decide_eq_true_eq] at hdue
    exact ⟨first, rfl, by omega⟩

theorem checkTimeLine_diverges (h : Overflows currTime s) : s.checkTimeLine fuel currTime = none := by
  have ⟨e, htop, hdue⟩ := h.top
  unfold checkTimeLine
  rw [htop]
  dsimp only
  rw [if_neg (by omega)]
  apply Loop.run_diverges (fun state => Overflows currTime state.1) _ h
  intro (t, ret) ht
  cases hpass : checkTimeLinePass currTime (t, ret) with
  | again state => exact ⟨state, rfl, ht.pass (timeLinePass_of_again hpass)⟩
  | leave state =>
    have ⟨e, htop, hdue⟩ := ht.top
    have hlater := (timeLinePass_of_leave hpass).2.2 e htop
    omega

def lastCheckin : CollectionSchemeManager Rat where
  mSchemaListenerPtr := some { results := fun _ => true }
  mCheckinIntervalInMsec := 1000
  mTimeLine := PriorityQueue.empty.push (2 ^ 64 - 1, CHECKIN)

def checkinCampaign : CollectionSchemeIngestionList Rat where
  content := some [campaign "Checkin" "m" 0 200]
  mReady := true

def timerWithCampaign : CollectionSchemeManager Rat :=
  ((((init { checkinIntervalMsec := 1000 }).prepareCheckinTimer 1).withList "m"
    (some checkinCampaign)).rebuildMapsandTimeLine 2).1

theorem checkin_timer_counterexample
    : (∀ fuel, lastCheckin.checkTimeLine fuel (2 ^ 64 - 1) = none)
        ∧
      checkins timerWithCampaign.mTimeLine = [(1, CHECKIN), (200, CHECKIN)] := by
  constructor
  . intro fuel
    apply checkTimeLine_diverges
    refine ⟨⟨_, rfl, fun _ => rfl⟩, ?_, ?_, ?_, ?_⟩
    . decide
    . decide
    . decide
    . decide
  . decide

end Overflow

end CollectionSchemeManager

end DataManagement
