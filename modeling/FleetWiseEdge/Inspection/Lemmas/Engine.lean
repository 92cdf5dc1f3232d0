import FleetWiseEdge.Inspection.Lemmas.Window

namespace DataInspection

open Cpp DataManagement

section Visit

variable {V : Type} {f : SignalHistoryBuffer V → ChangeMarks → SignalHistoryBuffer V × ChangeMarks}
variable {g : SignalHistoryBuffer V → SignalHistoryBuffer V}

theorem visitBuffers_cons (b : SignalHistoryBuffer V) (bs : List (SignalHistoryBuffer V))
    (marks : ChangeMarks)
    : visitBuffers f (b :: bs) marks
        =
      ((f b marks).1 :: (visitBuffers f bs (f b marks).2).1, (visitBuffers f bs (f b marks).2).2) :=
  rfl

theorem visitBuffers_fst (h : ∀ b marks, (f b marks).1 = g b) (bs : List (SignalHistoryBuffer V))
    (marks : ChangeMarks)
    : (visitBuffers f bs marks).1 = bs.map g := by
  induction bs generalizing marks with
  | nil => rfl
  | cons b bs ih =>
    rw [visitBuffers_cons]
    rw [h, ih]
    rfl

theorem visitBuffers_timeout (Pre Post : SignalHistoryBuffer V → Nat → Prop)
    (bs : List (SignalHistoryBuffer V)) (marks : ChangeMarks)
    (hpre : ∀ b n n', n' ≤ n → Pre b n → Pre b n') (hpost : ∀ b n n', n' ≤ n → Post b n → Post b n')
    (hf : ∀ b marks, Pre b marks.mNextWindowFunctionTimesOut →
      (f b marks).2.mNextWindowFunctionTimesOut ≤ marks.mNextWindowFunctionTimesOut
        ∧
      Post (f b marks).1 (f b marks).2.mNextWindowFunctionTimesOut)
    (h : ∀ b ∈ bs, Pre b marks.mNextWindowFunctionTimesOut)
    : (visitBuffers f bs marks).2.mNextWindowFunctionTimesOut ≤ marks.mNextWindowFunctionTimesOut
        ∧
      ∀ b ∈ (visitBuffers f bs marks).1,
        Post b (visitBuffers f bs marks).2.mNextWindowFunctionTimesOut := by
  induction bs generalizing marks with
  | nil =>
    constructor
    . apply Nat.le_refl
    . intro b hb
      simp [visitBuffers] at hb
  | cons b bs ih =>
    have hfirst := hf b marks (h b (by simp))
    have hrest := ih (f b marks).2 (by
      intro c hc
      apply hpre c _ _ hfirst.1
      apply h
      simp [hc])
    rw [visitBuffers_cons]
    constructor
    . exact Nat.le_trans hrest.1 hfirst.1
    . intro c hc
      rw [List.mem_cons] at hc
      cases hc with
      | inl heq =>
        rw [heq]
        exact hpost _ _ _ hrest.1 hfirst.2
      | inr hmem => exact hrest.2 c hmem

theorem visitBuffers_unmarked {j : Nat}
    (hf : ∀ b marks, (f b marks).2.mConditionsWithInputSignalChanged.test j = false →
      marks.mConditionsWithInputSignalChanged.test j = false
        ∧
      (b.mConditionsThatEvaluateOnThisSignal.test j = true → (f b marks).1 = b))
    (hfst : ∀ b marks, (f b marks).1 = g b)
    {bs : List (SignalHistoryBuffer V)} {marks : ChangeMarks}
    (h : (visitBuffers f bs marks).2.mConditionsWithInputSignalChanged.test j = false)
    : marks.mConditionsWithInputSignalChanged.test j = false
        ∧
      ∀ b ∈ bs, b.mConditionsThatEvaluateOnThisSignal.test j = true → g b = b := by
  induction bs generalizing marks with
  | nil => exact ⟨h, by simp⟩
  | cons b bs ih =>
    rw [visitBuffers_cons] at h
    have hrest := ih h
    have hfirst := hf b marks hrest.1
    refine ⟨hfirst.1, ?_⟩
    intro c hc hbit
    rw [List.mem_cons] at hc
    cases hc with
    | inl heq =>
      rw [heq] at hbit ⊢
      rw [← hfst b marks]
      exact hfirst.2 hbit
    | inr hmem => exact hrest.2 c hmem hbit

theorem visitBuffers_unread
    (bs : List (SignalHistoryBuffer V)) (marks : ChangeMarks)
    (hread : ∀ b ∈ bs, b.mConditionsThatEvaluateOnThisSignal = Bitset.ofBool false)
    (hf : ∀ b marks,
      (f b marks).2.mConditionsWithInputSignalChanged = marks.mConditionsWithInputSignalChanged
        ∨
      (f b marks).2.mConditionsWithInputSignalChanged
        = marks.mConditionsWithInputSignalChanged.or b.mConditionsThatEvaluateOnThisSignal)
    : (visitBuffers f bs marks).2.mConditionsWithInputSignalChanged
        =
      marks.mConditionsWithInputSignalChanged := by
  induction bs generalizing marks with
  | nil => rfl
  | cons b bs ih =>
    rw [visitBuffers_cons]
    dsimp only
    rw [ih]
    . cases hf b marks with
      | inl hsame => exact hsame
      | inr hor =>
        rw [hor, hread b (by simp)]
        apply Bitset.ext
        simp
    . intro c hc
      exact hread c (by simp [hc])

end Visit

section Buffer

variable {V : Type} [InspectionValue V]

namespace FixedTimeWindowFunctionData

def sampled (value : V) (timestamp : Nat) (w : FixedTimeWindowFunctionData V)
    : FixedTimeWindowFunctionData V :=
  (w.addValue value timestamp 0).1

def ticked (timestamp : Nat) (w : FixedTimeWindowFunctionData V) : FixedTimeWindowFunctionData V :=
  (w.updateWindow timestamp 0).window

def TimesOut (bound : Nat) (w : FixedTimeWindowFunctionData V) (next : Nat) : Prop :=
  w.Bounded bound ∧ next ≤ w.windowEnd ∧ (w.mLastTimeCalculated = 0 → next = 0)

variable {w : FixedTimeWindowFunctionData V} {bound next next' timestamp : Nat}

omit [InspectionValue V] in
theorem TimesOut.mono (h : w.TimesOut bound next) (hle : next' ≤ next) : w.TimesOut bound next' := by
  refine ⟨h.1, Nat.le_trans hle h.2.1, ?_⟩
  intro hzero
  have := h.2.2 hzero
  omega

theorem TimesOut.updateWindow (h : w.TimesOut bound next) (htime : timestamp ≤ bound)
    : (w.updateWindow timestamp next).window.TimesOut bound
        (w.updateWindow timestamp next).nextWindowFunctionTimesOut := by
  rw [updateWindow_next]
  refine ⟨h.1.updateWindow htime, Nat.min_le_right _ _, ?_⟩
  intro hzero
  rw [h.2.2 (h.1.not_started htime hzero).1]
  exact Nat.zero_min _

theorem Bounded.timesOut_updateWindow (h : w.Bounded bound) (next : Nat) (htime : timestamp ≤ bound)
    (hpos : 0 < timestamp)
    : (w.updateWindow timestamp next).window.TimesOut bound
        (w.updateWindow timestamp next).nextWindowFunctionTimesOut := by
  rw [updateWindow_next]
  refine ⟨h.updateWindow htime, Nat.min_le_right _ _, ?_⟩
  intro hzero
  have := (h.not_started htime hzero).2
  omega

omit [InspectionValue V] in
theorem TimesOut.started (h : w.TimesOut bound next) (hquiet : timestamp < next)
    : w.mLastTimeCalculated ≠ 0 := by
  intro hzero
  have := h.2.2 hzero
  omega

theorem TimesOut.ticked_eq (h : w.TimesOut bound next) (hquiet : timestamp < next)
    : w.ticked timestamp = w := by
  apply h.1.updateWindow_quiet (h.started hquiet)
  exact Nat.lt_of_lt_of_le hquiet h.2.1

theorem TimesOut.updateInternalVariables (h : w.TimesOut bound next) (value : V)
    : (w.updateInternalVariables value).TimesOut bound next :=
  h

end FixedTimeWindowFunctionData

open FixedTimeWindowFunctionData

theorem addValues_fst (value : V) (receiveTime : Nat) (ws : List (FixedTimeWindowFunctionData V))
    (next : Nat)
    : (addValues value receiveTime ws next).1 = ws.map (sampled value receiveTime) := by
  induction ws generalizing next with
  | nil => rfl
  | cons w ws ih =>
    unfold addValues
    dsimp only
    rw [ih]
    rw [List.map_cons]
    unfold sampled addValue
    dsimp only
    rw [updateWindow_window 0]

theorem addValues_timesOut {value : V} {receiveTime bound : Nat}
    {ws : List (FixedTimeWindowFunctionData V)} {next : Nat}
    (h : ∀ w ∈ ws, w.TimesOut bound next) (htime : receiveTime ≤ bound)
    : (addValues value receiveTime ws next).2 ≤ next
        ∧
      ∀ w ∈ (addValues value receiveTime ws next).1,
        w.TimesOut bound (addValues value receiveTime ws next).2 := by
  induction ws generalizing next with
  | nil => exact ⟨Nat.le_refl _, by simp [addValues]⟩
  | cons w ws ih =>
    have hfirst := ((h w (by simp)).updateWindow htime).updateInternalVariables value
    have hle := w.updateWindow_next_le receiveTime next
    have hrest := @ih (w.updateWindow receiveTime next).nextWindowFunctionTimesOut (by
      intro w' hw'
      apply (h w' (by simp [hw'])).mono hle)
    unfold addValues addValue
    dsimp only
    constructor
    . exact Nat.le_trans hrest.1 hle
    . intro w' hw'
      rw [List.mem_cons] at hw'
      cases hw' with
      | inl heq =>
        rw [heq]
        exact hfirst.mono hrest.1
      | inr hmem => exact hrest.2 w' hmem

theorem updateWindows_fst (timestamp : Nat) (ws : List (FixedTimeWindowFunctionData V)) (next : Nat)
    : (updateWindows timestamp ws next).1 = ws.map (ticked timestamp) := by
  induction ws generalizing next with
  | nil => rfl
  | cons w ws ih =>
    unfold updateWindows
    dsimp only
    rw [ih]
    rw [List.map_cons]
    unfold ticked
    rw [updateWindow_window 0]

theorem updateWindows_unchanged {timestamp : Nat} {ws : List (FixedTimeWindowFunctionData V)}
    {next : Nat} (h : (updateWindows timestamp ws next).2.2 = false)
    : ws.map (ticked timestamp) = ws := by
  induction ws generalizing next with
  | nil => rfl
  | cons w ws ih =>
    unfold updateWindows at h
    dsimp only at h
    rw [Bool.or_eq_false_iff] at h
    rw [List.map_cons]
    rw [ih h.2]
    unfold ticked
    rw [updateWindow_window next]
    rw [updateWindow_of_not_changed h.1]

theorem updateWindows_timesOut {timestamp bound : Nat} {ws : List (FixedTimeWindowFunctionData V)}
    {next : Nat} (h : ∀ w ∈ ws, w.Bounded bound) (htime : timestamp ≤ bound) (hpos : 0 < timestamp)
    : (updateWindows timestamp ws next).2.1 ≤ next
        ∧
      ∀ w ∈ (updateWindows timestamp ws next).1,
        w.TimesOut bound (updateWindows timestamp ws next).2.1 := by
  induction ws generalizing next with
  | nil => exact ⟨Nat.le_refl _, by simp [updateWindows]⟩
  | cons w ws ih =>
    have hfirst := (h w (by simp)).timesOut_updateWindow next htime hpos
    have hle := w.updateWindow_next_le timestamp next
    have hrest := @ih (w.updateWindow timestamp next).nextWindowFunctionTimesOut (by
      intro w' hw'
      apply h w'
      simp [hw'])
    unfold updateWindows
    dsimp only
    constructor
    . exact Nat.le_trans hrest.1 hle
    . intro w' hw'
      rw [List.mem_cons] at hw'
      cases hw' with
      | inl heq =>
        rw [heq]
        exact hfirst.mono hrest.1
      | inr hmem => exact hrest.2 w' hmem

namespace SignalHistoryBuffer

variable {b : SignalHistoryBuffer V} {id : SignalID} {receiveTime timestamp : Nat} {value : V}

def TimesOut (bound : Nat) (b : SignalHistoryBuffer V) (next : Nat) : Prop :=
  ∀ w ∈ b.mWindowFunctionData, w.TimesOut bound next

omit [InspectionValue V] in
theorem TimesOut.mono {bound next next' : Nat} (h : b.TimesOut bound next) (hle : next' ≤ next)
    : b.TimesOut bound next' := by
  intro w hw
  exact (h w hw).mono hle

def addSample (id : SignalID) (receiveTime : Nat) (value : V) (b : SignalHistoryBuffer V)
    : SignalHistoryBuffer V :=
  if b.signalID = id && b.acceptsSample receiveTime then
    { b with
      toHistoryBuffer := b.storeSample receiveTime fun _ => value
      mWindowFunctionData := b.mWindowFunctionData.map (sampled value receiveTime) }
  else
    b

def tick (timestamp : Nat) (b : SignalHistoryBuffer V) : SignalHistoryBuffer V :=
  { b with mWindowFunctionData := b.mWindowFunctionData.map (ticked timestamp) }

@[simp]
theorem addSample_ptr : (b.addSample id receiveTime value).ptr = b.ptr := by
  unfold addSample
  split <;> rfl

@[simp]
theorem addSample_readers
    : (b.addSample id receiveTime value).mConditionsThatEvaluateOnThisSignal
        =
      b.mConditionsThatEvaluateOnThisSignal := by
  unfold addSample
  split <;> rfl

@[simp]
theorem tick_ptr : (b.tick timestamp).ptr = b.ptr := rfl

theorem addSample_ne_nil (hne : b.mBuffer ≠ [])
    : (b.addSample id receiveTime value).mBuffer ≠ [] := by
  unfold addSample
  split
  . unfold HistoryBuffer.storeSample
    dsimp only
    rw [ne_eq, ← List.length_eq_zero_iff, List.length_modify, List.length_eq_zero_iff]
    exact hne
  . exact hne

omit [InspectionValue V] in
theorem getFixedWindow_map {f : FixedTimeWindowFunctionData V → FixedTimeWindowFunctionData V}
    (hf : ∀ w, (f w).mWindowSizeMs = w.mWindowSizeMs) {b' : SignalHistoryBuffer V}
    (hb' : b'.mWindowFunctionData = b.mWindowFunctionData.map f) (windowSizeMs : Nat)
    : b'.getFixedWindow windowSizeMs = (b.getFixedWindow windowSizeMs).map f := by
  unfold getFixedWindow
  split
  . rfl
  . rw [hb', List.find?_map]
    simp only [Function.comp_def, hf]

theorem getFixedWindow_addSample (windowSizeMs : Nat)
    : (b.addSample id receiveTime value).getFixedWindow windowSizeMs
        =
      (b.getFixedWindow windowSizeMs).map fun w =>
        if b.signalID = id && b.acceptsSample receiveTime then w.sampled value receiveTime else w := by
  unfold addSample
  split
  . apply getFixedWindow_map _ rfl
    intro w
    exact updateWindow_size
  . simp

theorem getFixedWindow_tick (windowSizeMs : Nat)
    : (b.tick timestamp).getFixedWindow windowSizeMs
        =
      (b.getFixedWindow windowSizeMs).map (ticked timestamp) := by
  apply getFixedWindow_map _ rfl
  intro w
  exact updateWindow_size

end SignalHistoryBuffer

end Buffer

namespace CollectionInspectionEngine

open SignalHistoryBuffer

variable {V : Type} [InspectionValue V] {s : CollectionInspectionEngine V}
variable {id : SignalID} {receiveTime timestamp bound j : Nat} {value : V}

def withMarks (s : CollectionInspectionEngine V) (marks : ChangeMarks)
    : CollectionInspectionEngine V :=
  { s with
    mNextWindowFunctionTimesOut := marks.mNextWindowFunctionTimesOut
    mConditionsWithInputSignalChanged := marks.mConditionsWithInputSignalChanged }

/--
The timeout of the engine is sound: it runs out before any window changes.
-/
def TimeoutSound (bound : Nat) (s : CollectionInspectionEngine V) : Prop :=
  ∀ b ∈ s.mSignalBuffers, b.TimesOut bound s.mNextWindowFunctionTimesOut

section AddNewSignal

theorem addNewSignal_body (b : SignalHistoryBuffer V) (marks : ChangeMarks)
    : (if b.signalID = id && b.acceptsSample receiveTime then
        let (windows, next) :=
          addValues value receiveTime b.mWindowFunctionData marks.mNextWindowFunctionTimesOut
        ({ b with
            toHistoryBuffer := b.storeSample receiveTime fun _ => value
            mWindowFunctionData := windows },
          (⟨next, marks.mConditionsWithInputSignalChanged.or
            b.mConditionsThatEvaluateOnThisSignal⟩ : ChangeMarks))
      else
        (b, marks)).1
        =
      b.addSample id receiveTime value := by
  unfold addSample
  split
  . dsimp only
    rw [addValues_fst]
  . rfl

theorem addNewSignal_buffers
    : (s.addNewSignal id receiveTime value).mSignalBuffers
        =
      s.mSignalBuffers.map (addSample id receiveTime value) := by
  apply visitBuffers_fst
  apply addNewSignal_body

theorem addNewSignal_eq (s : CollectionInspectionEngine V) (id : SignalID) (receiveTime : Nat)
    (value : V)
    : s.addNewSignal id receiveTime value
        =
      { s with mSignalBuffers := s.mSignalBuffers.map (addSample id receiveTime value) }.withMarks
        (s.addNewSignal id receiveTime value).changeMarks := by
  rw [← addNewSignal_buffers]
  rfl

theorem addNewSignal_timeoutSound (h : s.TimeoutSound bound) (htime : receiveTime ≤ bound)
    : (s.addNewSignal id receiveTime value).TimeoutSound bound := by
  apply (visitBuffers_timeout (SignalHistoryBuffer.TimesOut bound)
    (SignalHistoryBuffer.TimesOut bound) s.mSignalBuffers s.changeMarks _ _ _ h).2
  . intro b n n' hle hb
    exact hb.mono hle
  . intro b n n' hle hb
    exact hb.mono hle
  . intro b marks hb
    dsimp only
    split
    . exact addValues_timesOut hb htime
    . exact ⟨Nat.le_refl _, hb⟩

theorem addNewSignal_unmarked
    (h : (s.addNewSignal id receiveTime value).mConditionsWithInputSignalChanged.test j = false)
    : s.mConditionsWithInputSignalChanged.test j = false
        ∧
      ∀ b ∈ s.mSignalBuffers, b.mConditionsThatEvaluateOnThisSignal.test j = true →
        b.addSample id receiveTime value = b := by
  apply visitBuffers_unmarked _ _ h
  . intro b marks hmarks
    dsimp only at hmarks ⊢
    split at hmarks
    . dsimp only at hmarks
      rw [Bitset.test_or, Bool.or_eq_false_iff] at hmarks
      refine ⟨hmarks.1, ?_⟩
      intro hbit
      rw [hmarks.2] at hbit
      simp at hbit
    . rename_i hnot
      refine ⟨hmarks, ?_⟩
      intro _
      rw [if_neg hnot]
  . apply addNewSignal_body

end AddNewSignal

section UpdateAllFixedWindowFunctions

theorem updateAllFixedWindowFunctions_buffers
    : (s.updateAllFixedWindowFunctions timestamp).mSignalBuffers
        =
      s.mSignalBuffers.map (tick timestamp) := by
  apply visitBuffers_fst
  intro b marks
  dsimp only
  rw [updateWindows_fst]
  rfl

theorem updateAllFixedWindowFunctions_eq (s : CollectionInspectionEngine V) (timestamp : Nat)
    : s.updateAllFixedWindowFunctions timestamp
        =
      { s with mSignalBuffers := s.mSignalBuffers.map (tick timestamp) }.withMarks
        (s.updateAllFixedWindowFunctions timestamp).changeMarks := by
  rw [← updateAllFixedWindowFunctions_buffers]
  rfl

theorem updateAllFixedWindowFunctions_timeoutSound (h : s.TimeoutSound bound)
    (htime : timestamp ≤ bound) (hpos : 0 < timestamp)
    : (s.updateAllFixedWindowFunctions timestamp).TimeoutSound bound := by
  have hbounded : ∀ b ∈ s.mSignalBuffers, ∀ w ∈ b.mWindowFunctionData, w.Bounded bound := by
    intro b hb w hw
    exact (h b hb w hw).1
  apply (visitBuffers_timeout (fun b _ => ∀ w ∈ b.mWindowFunctionData, w.Bounded bound)
    (SignalHistoryBuffer.TimesOut bound) s.mSignalBuffers
    ⟨2 ^ 64 - 1, s.mConditionsWithInputSignalChanged⟩ _ _ _ hbounded).2
  . intro b n n' _ hb
    exact hb
  . intro b n n' hle hb
    exact hb.mono hle
  . intro b marks hb
    exact updateWindows_timesOut hb htime hpos

theorem updateAllFixedWindowFunctions_unmarked
    (h : (s.updateAllFixedWindowFunctions timestamp).mConditionsWithInputSignalChanged.test j = false)
    : s.mConditionsWithInputSignalChanged.test j = false
        ∧
      ∀ b ∈ s.mSignalBuffers, b.mConditionsThatEvaluateOnThisSignal.test j = true →
        b.tick timestamp = b := by
  apply visitBuffers_unmarked _ _ h
  . intro b marks hmarks
    dsimp only at hmarks ⊢
    split at hmarks
    . rw [Bitset.test_or, Bool.or_eq_false_iff] at hmarks
      refine ⟨hmarks.1, ?_⟩
      intro hbit
      rw [hmarks.2] at hbit
      simp at hbit
    . rename_i hchanged
      refine ⟨hmarks, ?_⟩
      intro _
      rw [updateWindows_fst]
      rw [updateWindows_unchanged (Bool.eq_false_of_not_eq_true hchanged)]
  . intro b marks
    dsimp only
    rw [updateWindows_fst]
    rfl

-- As long as the timeout has not run out, updating the windows changes no buffer.
theorem tick_of_quiet (h : s.TimeoutSound bound) (hquiet : timestamp < s.mNextWindowFunctionTimesOut)
    : s.mSignalBuffers.map (tick timestamp) = s.mSignalBuffers := by
  have hsame : ∀ b ∈ s.mSignalBuffers, b.tick timestamp = b := by
    intro b hb
    have hwindows : b.mWindowFunctionData.map (FixedTimeWindowFunctionData.ticked timestamp)
        = b.mWindowFunctionData := by
      conv => rhs; rw [← List.map_id b.mWindowFunctionData]
      apply List.map_congr_left
      intro w hw
      exact (h b hb w hw).ticked_eq hquiet
    unfold tick
    rw [hwindows]
  conv => rhs; rw [← List.map_id s.mSignalBuffers]
  apply List.map_congr_left
  exact hsame

end UpdateAllFixedWindowFunctions

end CollectionInspectionEngine

end DataInspection
