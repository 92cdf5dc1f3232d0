import FleetWiseEdge.Inspection.Lemmas.WindowRun
import Mathlib.Data.List.Chain

/-!
This module relates the history of a window to time: as long as the timestamps do not overflow, the samples
of its history are those of the windows that are aligned at the first timestamp.
-/

namespace DataInspection

open Cpp Windows

namespace WindowOp

variable {V : Type}

def samplesIn (origin period k : Nat) (ops : List (WindowOp V)) : List V :=
  content origin period timestamp value? k ops

def samplesBefore (origin period k back : Nat) (ops : List (WindowOp V)) : List V :=
  if back ≤ k then samplesIn origin period (k - back) ops else []

def firstTimestamp (ops : List (WindowOp V)) : Nat := (ops.head?.map timestamp).getD 0

def Occupied (origin period k : Nat) (ops : List (WindowOp V)) : Prop :=
  ∃ op ∈ ops, index origin period op.timestamp = k

end WindowOp

open WindowOp

/--
Timestamps that do not decrease and are not zero. Neither the `uint32_t` that counts the samples of a
window nor the one that counts the windows between two timestamps overflows.
-/
structure Scheduled {V : Type} (period : Nat) (ops : List (WindowOp V)) : Prop where
  positive : ∀ op ∈ ops, 0 < op.timestamp
  sorted : ops.Pairwise fun op op' => op.timestamp ≤ op'.timestamp
  samples : ∀ k, (samplesIn (firstTimestamp ops) period k ops).length < 2 ^ 32
  windows : ops.IsChain fun op op' =>
    index (firstTimestamp ops) period op'.timestamp
      < index (firstTimestamp ops) period op.timestamp + 2 ^ 32

instance {V : Type} (origin period k : Nat) (ops : List (WindowOp V))
    : Decidable (Occupied origin period k ops) :=
  inferInstanceAs (Decidable (∃ op ∈ ops, index origin period op.timestamp = k))

section Lemmas

variable {V : Type} {origin period k : Nat} {ops : List (WindowOp V)} {op : WindowOp V}

@[simp]
theorem firstTimestamp_concat (op' : WindowOp V)
    : firstTimestamp (ops ++ [op] ++ [op']) = firstTimestamp (ops ++ [op]) := by
  cases ops <;> rfl

theorem occupied_concat
    : Occupied origin period k (ops ++ [op])
        ↔
      Occupied origin period k ops ∨ index origin period op.timestamp = k := by
  unfold Occupied
  simp [or_and_right, exists_or]

theorem Scheduled.of_concat {op' : WindowOp V} (h : Scheduled period (ops ++ [op] ++ [op']))
    : Scheduled period (ops ++ [op]) where
  positive := by
    intro o ho
    exact h.positive o (List.mem_append_left _ ho)
  sorted := (List.pairwise_append.mp h.sorted).1
  samples := by
    intro k
    have hall := h.samples k
    rw [firstTimestamp_concat] at hall
    unfold samplesIn content at hall ⊢
    rw [List.filterMap_append, List.length_append] at hall
    omega
  windows := by
    have hall := (List.isChain_append.mp h.windows).1
    rw [firstTimestamp_concat] at hall
    exact hall

theorem Scheduled.le_last (h : Scheduled period (ops ++ [op])) {o : WindowOp V}
    (ho : o ∈ ops ++ [op])
    : o.timestamp ≤ op.timestamp := by
  rw [List.mem_append, List.mem_singleton] at ho
  cases ho with
  | inl hmem => exact (List.pairwise_append.mp h.sorted).2.2 o hmem op (by simp)
  | inr heq =>
    rw [heq]

theorem length_samplesIn_le (origin period k : Nat) (ops : List (WindowOp V))
    : (samplesIn origin period k ops).length ≤ ops.length :=
  List.length_filterMap_le _ _

theorem exists_firstTimestamp (ops : List (WindowOp V)) (op : WindowOp V)
    : ∃ o ∈ ops ++ [op], firstTimestamp (ops ++ [op]) = o.timestamp := by
  cases ops with
  | nil => exact ⟨op, by simp, rfl⟩
  | cons o ops => exact ⟨o, by simp, rfl⟩

theorem Scheduled.firstTimestamp_le (h : Scheduled period (ops ++ [op]))
    : firstTimestamp (ops ++ [op]) ≤ op.timestamp := by
  have ⟨o, ho, hfirst⟩ := exists_firstTimestamp ops op
  rw [hfirst]
  exact h.le_last ho

theorem Scheduled.firstTimestamp_pos (h : Scheduled period (ops ++ [op]))
    : 0 < firstTimestamp (ops ++ [op]) := by
  have ⟨o, ho, hfirst⟩ := exists_firstTimestamp ops op
  rw [hfirst]
  exact h.positive o ho

theorem Scheduled.lt_next {op' : WindowOp V} (h : Scheduled period (ops ++ [op] ++ [op']))
    : index (firstTimestamp (ops ++ [op])) period op'.timestamp
        <
      index (firstTimestamp (ops ++ [op])) period op.timestamp + 2 ^ 32 := by
  have hlast := (List.isChain_append.mp h.windows).2.2
  rw [firstTimestamp_concat] at hlast
  exact hlast op (by simp) op' (by simp)

end Lemmas

namespace FixedTimeWindowFunctionData

variable {V : Type} [InspectionValue V] {w : FixedTimeWindowFunctionData V}
variable {timestamp bound : Nat}

omit [InspectionValue V] in
theorem Bounded.branch_eq (h : w.Bounded bound) (hstarted : w.mLastTimeCalculated ≠ 0)
    : w.branch timestamp
        =
      if timestamp ≥ w.mLastTimeCalculated + 2 * w.mWindowSizeMs then
        .gap
      else if timestamp ≥ w.mLastTimeCalculated + w.mWindowSizeMs then
        .next
      else
        .same := by
  have hend := h.windowEnd
  unfold Bounded at h
  unfold branch
  rw [if_neg hstarted, hend]
  rw [u64_of_lt (n := w.mWindowSizeMs * 2) (by omega)]
  rw [u64_of_lt (by omega)]
  rw [Nat.mul_comm]

theorem initNewWindow_start (hle : w.mLastTimeCalculated ≤ timestamp) (htime : timestamp < 2 ^ 64)
    (hwindows : (timestamp - w.mLastTimeCalculated) / w.mWindowSizeMs < 2 ^ 32)
    : (w.initNewWindow timestamp).mLastTimeCalculated
        =
      w.mLastTimeCalculated
        + (timestamp - w.mLastTimeCalculated) / w.mWindowSizeMs * w.mWindowSizeMs := by
  have hpassed := Nat.div_mul_le_self (timestamp - w.mLastTimeCalculated) w.mWindowSizeMs
  unfold initNewWindow
  dsimp only
  rw [subU64_of_le htime hle, u32_of_lt hwindows]
  rw [u64_of_lt (n := (timestamp - w.mLastTimeCalculated) / w.mWindowSizeMs * w.mWindowSizeMs)
    (by omega)]
  rw [u64_of_lt (by omega)]

theorem Bounded.ticked_start (h : w.Bounded bound) (hstarted : w.mLastTimeCalculated ≠ 0)
    (hle : w.mLastTimeCalculated ≤ timestamp) (htime : timestamp < 2 ^ 64)
    (hwindows : (timestamp - w.mLastTimeCalculated) / w.mWindowSizeMs < 2 ^ 32)
    : (w.ticked timestamp).mLastTimeCalculated
        =
      w.mLastTimeCalculated
        + (timestamp - w.mLastTimeCalculated) / w.mWindowSizeMs * w.mWindowSizeMs := by
  have hsize := @updateWindow_size V _ w timestamp 0
  rcases h.updateWindow_cases timestamp 0 with ⟨hsame, _, hbefore⟩ | ⟨started, hstart, _, _, heq⟩
  . unfold ticked
    rw [hsame]
    rw [h.windowEnd] at hbefore
    rw [Nat.div_eq_of_lt (by omega)]
    omega
  . rw [heq, initNewWindow_size] at hsize
    rw [if_neg hstarted] at hstart
    unfold ticked
    rw [heq]
    rw [initNewWindow_start]
    . rw [hstart, hsize]
    . omega
    . exact htime
    . rw [hstart, hsize]
      exact hwindows

theorem ticked_first (hfirst : w.mLastTimeCalculated = 0) (htime : timestamp < 2 ^ 64)
    : (w.ticked timestamp).mLastTimeCalculated = timestamp := by
  unfold ticked updateWindow startNewWindow
  rw [if_pos hfirst]
  dsimp only
  rw [initNewWindow_start]
  . simp
  . exact Nat.le_refl _
  . exact htime
  . simp

end FixedTimeWindowFunctionData

namespace WindowOp

variable {V : Type} [InspectionValue V] (w : FixedTimeWindowFunctionData V) (op : WindowOp V)

@[simp]
theorem apply_start
    : (op.apply w).mLastTimeCalculated = (w.ticked op.timestamp).mLastTimeCalculated := by
  cases op <;> rfl

@[simp]
theorem apply_size : (op.apply w).mWindowSizeMs = w.mWindowSizeMs := by
  cases op with
  | sample timestamp value => exact FixedTimeWindowFunctionData.updateWindow_size
  | update timestamp => exact FixedTimeWindowFunctionData.updateWindow_size

end WindowOp

/--
The history of a window at a time in the window `k`. What is kept as the previous last window depends on
whether the window before `k` was visited.
-/
structure Aligned {V : Type} (origin period : Nat) (ops : List (WindowOp V)) (k : Nat)
    (r : WindowRun V)
    : Prop where
  size : r.window.mWindowSizeMs = period
  start : r.window.mLastTimeCalculated = origin + k * period
  collecting : r.history.collecting = samplesIn origin period k ops
  last : r.history.last = samplesBefore origin period k 1 ops
  previousLast : k = 0 ∨ Occupied origin period (k - 1) ops →
    r.history.previousLast = samplesBefore origin period k 2 ops
  -- after a gap the window that was collected before it is kept
  afterGap : ∀ m, m + 2 ≤ k → Occupied origin period m ops →
    (∀ j, m < j → j < k → ¬Occupied origin period j ops) →
    r.history.previousLast = samplesIn origin period m ops

theorem samplesIn_concat_of_ne {V : Type} {origin period k : Nat} {ops : List (WindowOp V)}
    {op : WindowOp V} (h : index origin period op.timestamp ≠ k)
    : samplesIn origin period k (ops ++ [op]) = samplesIn origin period k ops :=
  content_concat_of_ne h

theorem samplesBefore_concat {V : Type} {origin period k back : Nat} {ops : List (WindowOp V)}
    {op : WindowOp V} (hback : 0 < back) (h : k ≤ index origin period op.timestamp)
    : samplesBefore origin period k back (ops ++ [op]) = samplesBefore origin period k back ops := by
  unfold samplesBefore
  split
  . apply samplesIn_concat_of_ne
    omega
  . rfl

namespace Aligned

variable {V : Type} [InspectionValue V] {origin period k : Nat} {ops : List (WindowOp V)}
variable {r : WindowRun V} {op : WindowOp V}

omit [InspectionValue V] in
theorem samplesIn_of_lt {j : Nat} (hlatest : ∀ o ∈ ops, index origin period o.timestamp ≤ k)
    (hj : k < j)
    : samplesIn origin period j ops = [] := by
  apply content_eq_nil
  intro o ho
  have := hlatest o ho
  omega

theorem first (htime : op.timestamp < 2 ^ 64)
    : Aligned op.timestamp period [op] 0 (WindowRun.run period [op]) := by
  have hbranch : (FixedTimeWindowFunctionData.ofSize period : FixedTimeWindowFunctionData V).branch
      op.timestamp = .first := rfl
  have hrun : WindowRun.run period [op]
      = ⟨op.apply (.ofSize period), ⟨op.value?.toList, [], []⟩⟩ := by
    unfold WindowRun.run
    rw [List.foldl_cons, List.foldl_nil]
    unfold WindowRun.step WindowHistory.next
    rw [hbranch]
    rfl
  rw [hrun]
  constructor
  . dsimp only
    rw [WindowOp.apply_size]
    rfl
  . dsimp only
    rw [WindowOp.apply_start, FixedTimeWindowFunctionData.ticked_first rfl htime]
    omega
  . have hin : samplesIn op.timestamp period 0 ([] ++ [op]) = [] ++ op.value?.toList :=
      content_concat_of_eq index_origin
    exact hin.symm
  . rfl
  . intro _
    rfl
  . intro m hm
    omega

omit [InspectionValue V] in
-- The branch of `updateWindow` tells how many windows have passed.
theorem branch_eq (h : Aligned origin period ops k r) (hperiod : 0 < period) (horigin : 0 < origin)
    (htime : op.timestamp + 2 * period < 2 ^ 64) (hle : origin + k * period ≤ op.timestamp)
    : r.window.branch op.timestamp
        =
      if index origin period op.timestamp = k then
        .same
      else if index origin period op.timestamp = k + 1 then
        .next
      else
        .gap := by
  have hbounded : r.window.Bounded op.timestamp := by
    unfold FixedTimeWindowFunctionData.Bounded
    rw [h.start, h.size]
    exact ⟨hle, htime⟩
  have horigin_le : origin ≤ op.timestamp := by omega
  rw [hbounded.branch_eq (by rw [h.start]; omega)]
  rw [h.start, h.size]
  split
  . rename_i hgap
    have hlate : k + 2 ≤ index origin period op.timestamp := by
      unfold index
      rw [Nat.le_div_iff_mul_le hperiod, Nat.add_mul]
      omega
    rw [if_neg (by omega), if_neg (by omega)]
  . rename_i hnotGap
    split
    . rename_i hnext
      have hone : index origin period op.timestamp = k + 1 := by
        rw [index_eq_iff hperiod horigin_le, Nat.add_mul]
        omega
      rw [if_neg (by omega), if_pos hone]
    . rename_i hsame
      have hsame : index origin period op.timestamp = k := by
        rw [index_eq_iff hperiod horigin_le]
        omega
      rw [if_pos hsame]

theorem step (h : Aligned origin period ops k r) (hperiod : 0 < period) (horigin : 0 < origin)
    (hvisited : Occupied origin period k ops)
    (hlatest : ∀ o ∈ ops, index origin period o.timestamp ≤ k)
    (htime : op.timestamp + 2 * period < 2 ^ 64) (hle : origin + k * period ≤ op.timestamp)
    (hwindows : index origin period op.timestamp < k + 2 ^ 32)
    : Aligned origin period (ops ++ [op]) (index origin period op.timestamp) (r.step op) := by
  have hbranch := h.branch_eq hperiod horigin htime hle
  have hpassed := index_sub_div hle
  have hstart := @start_le origin period op.timestamp (by omega)
  have hnotBefore : k ≤ index origin period op.timestamp := by
    unfold index
    rw [Nat.le_div_iff_mul_le hperiod]
    omega
  generalize hk' : index origin period op.timestamp = k' at *
  have hwindow : (op.apply r.window).mLastTimeCalculated = origin + k' * period := by
    have hbounded : r.window.Bounded op.timestamp := by
      unfold FixedTimeWindowFunctionData.Bounded
      rw [h.start, h.size]
      exact ⟨hle, htime⟩
    rw [WindowOp.apply_start]
    rw [hbounded.ticked_start]
    . rw [h.start, h.size, hpassed, Nat.add_assoc, ← Nat.add_mul]
      rw [Nat.add_sub_cancel' hnotBefore]
    . rw [h.start]
      omega
    . rw [h.start]
      exact hle
    . omega
    . rw [h.start, h.size, hpassed]
      omega
  have hcollecting : samplesIn origin period k' (ops ++ [op])
      = samplesIn origin period k' ops ++ op.value?.toList := content_concat_of_eq hk'
  have hsize : (op.apply r.window).mWindowSizeMs = period := by
    rw [WindowOp.apply_size]
    exact h.size
  by_cases hsame : k' = k
  . rw [if_pos hsame] at hbranch
    subst hsame
    unfold WindowRun.step WindowHistory.next
    rw [hbranch]
    constructor
    . exact hsize
    . exact hwindow
    . rw [hcollecting, ← h.collecting]
      rfl
    . rw [samplesBefore_concat (by omega) (by omega)]
      exact h.last
    . intro hbefore
      rw [samplesBefore_concat (by omega) (by omega)]
      apply h.previousLast
      rw [occupied_concat] at hbefore
      rcases hbefore with hzero | hoccupied | hindex
      . exact Or.inl hzero
      . exact Or.inr hoccupied
      . exact Or.inl (by omega)
    . intro m hm hoccupied hbetween
      rw [samplesIn_concat_of_ne (by omega)]
      apply h.afterGap m hm
      . rw [occupied_concat] at hoccupied
        apply hoccupied.resolve_right
        omega
      . intro j hmj hjk hj
        apply hbetween j hmj hjk
        exact occupied_concat.mpr (Or.inl hj)
  . rw [if_neg hsame] at hbranch
    have hempty : samplesIn origin period k' ops = [] := samplesIn_of_lt hlatest (by omega)
    rw [hempty, List.nil_append] at hcollecting
    by_cases hnext : k' = k + 1
    . rw [if_pos hnext] at hbranch
      unfold WindowRun.step WindowHistory.next
      rw [hbranch]
      constructor
      . exact hsize
      . exact hwindow
      . rw [hcollecting]
        rfl
      . rw [samplesBefore_concat (by omega) (by omega)]
        unfold samplesBefore
        rw [if_pos (by omega), hnext, Nat.add_sub_cancel]
        exact h.collecting
      . intro _
        rw [samplesBefore_concat (by omega) (by omega)]
        unfold samplesBefore
        have hlast := h.last
        unfold samplesBefore at hlast
        have hsub : k' - 2 = k - 1 := by omega
        rw [hsub]
        dsimp only [WindowHistory.updateWindow]
        rw [hlast]
        split
        . rw [if_pos (by omega)]
        . rw [if_neg (by omega)]
      . intro m hm hoccupied hbetween
        exfalso
        apply hbetween k (by omega) (by omega)
        exact occupied_concat.mpr (Or.inl hvisited)
    . rw [if_neg hnext] at hbranch
      unfold WindowRun.step WindowHistory.next
      rw [hbranch]
      constructor
      . exact hsize
      . exact hwindow
      . rw [hcollecting]
        rfl
      . rw [samplesBefore_concat (by omega) (by omega)]
        unfold samplesBefore
        rw [if_pos (by omega), samplesIn_of_lt hlatest (by omega)]
        rfl
      . intro hbefore
        exfalso
        rw [occupied_concat] at hbefore
        have hnone : ¬Occupied origin period (k' - 1) ops := by
          intro ⟨o, ho, hindex⟩
          have := hlatest o ho
          omega
        have := hbefore.resolve_left (by omega)
        have := this.resolve_left hnone
        omega
      . intro m hm hoccupied hbetween
        rw [samplesIn_concat_of_ne (by omega)]
        have hm' : m = k := by
          rw [occupied_concat] at hoccupied
          have ⟨o, ho, hindex⟩ := hoccupied.resolve_right (by omega)
          have hmk := hlatest o ho
          apply Nat.le_antisymm (by omega)
          apply Nat.le_of_not_lt
          intro hlt
          apply hbetween k hlt (by omega)
          exact occupied_concat.mpr (Or.inl hvisited)
        rw [hm']
        exact h.collecting

end Aligned

theorem run_aligned {V : Type} [InspectionValue V] {period : Nat} (hperiod : 0 < period)
    (ops : List (WindowOp V)) (op : WindowOp V) (h : Scheduled period (ops ++ [op]))
    (hbounded : ∀ op' ∈ ops ++ [op], op'.timestamp + 2 * period < 2 ^ 64)
    : Aligned (firstTimestamp (ops ++ [op])) period (ops ++ [op])
        (index (firstTimestamp (ops ++ [op])) period op.timestamp)
        (WindowRun.run period (ops ++ [op])) := by
  induction ops using List.reverseRecOn generalizing op with
  | nil =>
    have hfirst : firstTimestamp ([] ++ [op]) = op.timestamp := rfl
    rw [hfirst, index_origin]
    have := hbounded op (by simp)
    apply Aligned.first
    omega
  | append_singleton ops prev ih =>
    have hbefore := h.of_concat
    have hrest := h.lt_next
    rw [firstTimestamp_concat, WindowRun.run_concat]
    have hboundedBefore : ∀ op' ∈ ops ++ [prev], op'.timestamp + 2 * period < 2 ^ 64 := by
      intro op' hop'
      exact hbounded op' (List.mem_append_left _ hop')
    apply (ih prev hbefore hboundedBefore).step hperiod
    . exact hbefore.firstTimestamp_pos
    . exact ⟨prev, by simp, rfl⟩
    . intro o ho
      apply index_mono
      exact hbefore.le_last ho
    . exact hbounded op (by simp)
    . apply Nat.le_trans (start_le hbefore.firstTimestamp_le)
      exact h.le_last (by simp)
    . exact hrest

end DataInspection
