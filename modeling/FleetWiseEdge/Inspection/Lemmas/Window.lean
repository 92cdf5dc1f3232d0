import FleetWiseEdge.Inspection.Impl.Engine

namespace DataInspection

open Cpp

namespace FixedTimeWindowFunctionData

variable {V : Type} [InspectionValue V] {w : FixedTimeWindowFunctionData V}
variable {timestamp next bound : Nat}

theorem updateWindow_window (next' : Nat)
    : (w.updateWindow timestamp next).window = (w.updateWindow timestamp next').window := by
  unfold updateWindow startNewWindow
  split
  . rfl
  . split
    . rfl
    . split <;> rfl

theorem updateWindow_next
    : (w.updateWindow timestamp next).nextWindowFunctionTimesOut
        =
      min next (w.updateWindow timestamp next).window.windowEnd := by
  unfold updateWindow startNewWindow
  split
  . rfl
  . split
    . rfl
    . split <;> rfl

theorem updateWindow_next_le (w : FixedTimeWindowFunctionData V) (timestamp next : Nat)
    : (w.updateWindow timestamp next).nextWindowFunctionTimesOut ≤ next := by
  rw [updateWindow_next]
  apply Nat.min_le_left

@[simp]
theorem initNewWindow_size : (w.initNewWindow timestamp).mWindowSizeMs = w.mWindowSizeMs := rfl

@[simp]
theorem updateWindow_size
    : (w.updateWindow timestamp next).window.mWindowSizeMs = w.mWindowSizeMs := by
  unfold updateWindow startNewWindow
  dsimp only
  split
  . rfl
  . split
    . split <;> rfl
    . split
      . split <;> rfl
      . rfl

theorem updateWindow_of_not_changed (h : (w.updateWindow timestamp next).changed = false)
    : (w.updateWindow timestamp next).window = w := by
  unfold updateWindow startNewWindow at h ⊢
  dsimp only at h ⊢
  split at h
  . simp at h
  . split at h
    . simp at h
    . split at h
      . simp at h
      . rename_i hzero htwo hone
        rw [if_neg hzero, if_neg htwo, if_neg hone]

theorem initNewWindow_le (hle : w.mLastTimeCalculated ≤ timestamp) (htime : timestamp < 2 ^ 64)
    : w.mLastTimeCalculated ≤ (w.initNewWindow timestamp).mLastTimeCalculated
        ∧
      (w.initNewWindow timestamp).mLastTimeCalculated ≤ timestamp := by
  unfold initNewWindow
  dsimp only
  rw [subU64_of_le htime hle]
  generalize hperiods : u32 ((timestamp - w.mLastTimeCalculated) / w.mWindowSizeMs) = periods
  have hpassed : periods * w.mWindowSizeMs ≤ timestamp - w.mLastTimeCalculated := by
    calc periods * w.mWindowSizeMs
      _ ≤ (timestamp - w.mLastTimeCalculated) / w.mWindowSizeMs * w.mWindowSizeMs := by
        apply Nat.mul_le_mul_right
        rw [← hperiods]
        apply u32_le
      _ ≤ timestamp - w.mLastTimeCalculated := Nat.div_mul_le_self _ _
  rw [u64_of_lt (n := periods * w.mWindowSizeMs) (by omega)]
  rw [u64_of_lt (by omega)]
  omega

def Bounded (bound : Nat) (w : FixedTimeWindowFunctionData V) : Prop :=
  w.mLastTimeCalculated ≤ bound ∧ bound + 2 * w.mWindowSizeMs < 2 ^ 64

omit [InspectionValue V] in
theorem Bounded.windowEnd (h : w.Bounded bound)
    : w.windowEnd = w.mLastTimeCalculated + w.mWindowSizeMs := by
  unfold Bounded at h
  unfold FixedTimeWindowFunctionData.windowEnd
  rw [u64_of_lt]
  omega

theorem Bounded.updateWindow_cases (h : w.Bounded bound) (timestamp next : Nat)
    : (w.updateWindow timestamp next).window = w
          ∧ w.mLastTimeCalculated ≠ 0 ∧ timestamp < w.windowEnd
        ∨
      ∃ started : FixedTimeWindowFunctionData V,
        started.mLastTimeCalculated
            = (if w.mLastTimeCalculated = 0 then timestamp else w.mLastTimeCalculated)
          ∧
        (w.mLastTimeCalculated ≠ 0 → w.windowEnd ≤ timestamp)
          ∧
        started.mLastTimeCalculated ≤ timestamp
          ∧
        (w.updateWindow timestamp next).window = started.initNewWindow timestamp := by
  have hend := h.windowEnd
  unfold Bounded at h
  unfold FixedTimeWindowFunctionData.updateWindow startNewWindow
  dsimp only
  split
  . rename_i hzero
    refine Or.inr ⟨{ w with mLastTimeCalculated := timestamp }, ?_, ?_, ?_, rfl⟩
    . rfl
    . exact fun hne => absurd hzero hne
    . exact Nat.le_refl _
  . rename_i hzero
    split
    . rename_i htwo
      rw [u64_of_lt (n := w.mWindowSizeMs * 2) (by omega)] at htwo
      rw [u64_of_lt (by omega)] at htwo
      refine Or.inr ⟨_, ?_, ?_, ?_, rfl⟩
      . split <;> rfl
      . omega
      . split <;> (dsimp only; omega)
    . split
      . rename_i hone
        refine Or.inr ⟨_, ?_, ?_, ?_, rfl⟩
        . split <;> rfl
        . omega
        . split <;> (dsimp only; omega)
      . rename_i hone
        exact Or.inl ⟨rfl, hzero, by omega⟩

theorem Bounded.updateWindow (h : w.Bounded bound) (htime : timestamp ≤ bound)
    : (w.updateWindow timestamp next).window.Bounded bound := by
  refine ⟨?_, by rw [updateWindow_size]; exact h.2⟩
  rcases h.updateWindow_cases timestamp next with hsame | ⟨started, _, _, hle, heq⟩
  . rw [hsame.1]
    exact h.1
  . rw [heq]
    apply Nat.le_trans (initNewWindow_le hle _).2 htime
    unfold Bounded at h
    omega

theorem Bounded.not_started (h : w.Bounded bound) (htime : timestamp ≤ bound)
    (hzero : (w.updateWindow timestamp next).window.mLastTimeCalculated = 0)
    : w.mLastTimeCalculated = 0 ∧ timestamp = 0 := by
  rcases h.updateWindow_cases timestamp next with hsame | ⟨started, hstart, _, hle, heq⟩
  . rw [hsame.1] at hzero
    exact absurd hzero hsame.2.1
  . rw [heq] at hzero
    unfold Bounded at h
    have := (initNewWindow_le hle (by omega)).1
    split at hstart
    . omega
    . omega

theorem Bounded.updateWindow_quiet (h : w.Bounded bound) (hstarted : w.mLastTimeCalculated ≠ 0)
    (hend : timestamp < w.windowEnd)
    : (w.updateWindow timestamp next).window = w := by
  rcases h.updateWindow_cases timestamp next with hsame | ⟨started, _, hpassed, _⟩
  . exact hsame.1
  . have := hpassed hstarted
    omega

end FixedTimeWindowFunctionData

end DataInspection
