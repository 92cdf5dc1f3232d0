import FleetWiseEdge.Inspection.Impl.History
import FleetWiseEdge.Lib.Ring

/-!
This module contains the refinement of the ring buffers: a ring holds the newest samples of an unbounded
history, the list of all samples that were ever stored, newest first.
-/

namespace DataInspection

open Cpp DataManagement

namespace Sample

variable {α : Type}

def consumedBy (conditionId : Nat) (s : Sample α) : Sample α :=
  { s with mAlreadyConsumed := setAlreadyConsumed s.mAlreadyConsumed conditionId true }

def isFresh (conditionId : Nat) (once : Bool) (s : Sample α) : Bool :=
  !s.isAlreadyConsumed conditionId || !once

def collectedBy (conditionId : Nat) (once : Bool) (s : Sample α) : Sample α :=
  if s.isFresh conditionId once then s.consumedBy conditionId else s

@[simp]
theorem collectedBy_mTimestamp (conditionId : Nat) (once : Bool) (s : Sample α)
    : (s.collectedBy conditionId once).mTimestamp = s.mTimestamp := by
  unfold collectedBy
  split <;> rfl

end Sample

namespace History

variable {α : Type}

def fresh (conditionId : Nat) (once : Bool) (count : Nat) (history : List (Sample α))
    : List (α × Nat) :=
  ((history.take count).filter (Sample.isFresh conditionId once)).map fun s =>
    (s.content, s.mTimestamp)

def collect (conditionId : Nat) (once : Bool) (count : Nat) (history : List (Sample α))
    : List (Sample α) :=
  (history.take count).map (Sample.collectedBy conditionId once) ++ history.drop count

@[simp]
theorem collect_length (conditionId : Nat) (once : Bool) (count : Nat) (history : List (Sample α))
    : (collect conditionId once count history).length = history.length := by
  unfold collect
  rw [List.length_append, List.length_map, ← List.length_append, List.take_append_drop]

theorem collect_map {β : Type} (conditionId : Nat) (once : Bool) (count : Nat)
    (history : List (Sample α)) (f : Sample α → β)
    (hf : ∀ s : Sample α, f (s.collectedBy conditionId once) = f s)
    : (collect conditionId once count history).map f = history.map f := by
  unfold collect
  rw [List.map_append, List.map_map]
  conv => rhs; rw [← List.take_append_drop count history, List.map_append]
  congr 1
  apply List.map_congr_left
  intro s _
  apply hf

end History

namespace HistoryBuffer

variable {α : Type} {b : HistoryBuffer α} {history : List (Sample α)}

section Loop

variable {size conditionId count : Nat} {once : Bool} {pos : Int} {acc : CollectedSamples α}
variable {slot : Nat} {sample : Sample α}

def collectOne (conditionId : Nat) (once : Bool) (slot : Nat) (sample : Sample α)
    (acc : CollectedSamples α)
    : CollectedSamples α where
  mBuffer :=
    if sample.isFresh conditionId once then
      acc.mBuffer.modify slot (Sample.consumedBy conditionId)
    else
      acc.mBuffer
  newestSignalTimestamp := max acc.newestSignalTimestamp sample.mTimestamp
  output :=
    if sample.isFresh conditionId once then
      acc.output ++ [(sample.content, sample.mTimestamp)]
    else
      acc.output

theorem collectSamples_succ
    (hpos : (if (if pos < 0 then (size : Int) - 1 else pos) ≥ size then 0
      else if pos < 0 then (size : Int) - 1 else pos) = slot)
    (hslot : acc.mBuffer[slot]? = some sample)
    : collectSamples size conditionId once (count + 1) pos acc
        =
      collectSamples size conditionId once count ((slot : Int) - 1)
        (collectOne conditionId once slot sample acc) := by
  conv => lhs; unfold collectSamples
  dsimp only
  rw [hpos]
  rw [Int.toNat_natCast, hslot]
  dsimp only
  unfold collectOne Sample.isFresh
  split <;> rfl

theorem collectOne_length
    : (collectOne conditionId once slot sample acc).mBuffer.length = acc.mBuffer.length := by
  unfold collectOne
  dsimp only
  split
  . exact List.length_modify _ _ _
  . rfl

theorem map_modify {β : Type} {l : List α} {i : Nat} {f : α → β} {g : α → α}
    (h : ∀ a, f (g a) = f a)
    : (l.modify i g).map f = l.map f := by
  induction l generalizing i with
  | nil => simp
  | cons a as ih =>
    cases i with
    | zero => simp [h]
    | succ i => simp [ih]

theorem modify_append_cons (seen rest : List α) (a : α) (f : α → α)
    : (seen ++ a :: rest).modify seen.length f = seen ++ f a :: rest := by
  induction seen with
  | nil => rfl
  | cons b seen ih =>
    rw [List.cons_append, List.length_cons]
    rw [List.modify_succ_cons]
    rw [ih]
    rfl

theorem collectOne_represents (conditionId : Nat) (once : Bool) {cursor : Nat} {seen rest : List (Sample α)}
    (hring : Ring.Represents acc.mBuffer cursor (seen ++ sample :: rest))
    (hseen : seen.length < acc.mBuffer.length)
    : Ring.Represents
        (collectOne conditionId once (Ring.back acc.mBuffer.length cursor seen.length) sample acc).mBuffer
        cursor ((seen ++ [sample.collectedBy conditionId once]) ++ rest) := by
  unfold collectOne Sample.collectedBy
  dsimp only
  split
  . have hmodify := hring.modify hseen (Sample.consumedBy conditionId)
    rw [modify_append_cons] at hmodify
    simpa using hmodify
  . simpa using hring

/--
The loop walks back through the history. `seen` is the part it has passed, so the ring is read
`seen.length` steps before `cursor`.
-/
theorem collectSamples_spec (conditionId : Nat) (once : Bool) (count : Nat) (pos : Int)
    (acc : CollectedSamples α) (seen rest : List (Sample α)) {cursor : Nat}
    (hsize : acc.mBuffer.length = size) (hcursor : cursor < size)
    (hring : Ring.Represents acc.mBuffer cursor (seen ++ rest))
    (hcount : count ≤ rest.length) (hreach : seen.length + count ≤ size)
    (hpos : 0 < count → (if pos < 0 then (size : Int) - 1 else pos) = Ring.back size cursor seen.length)
    : (collectSamples size conditionId once count pos acc).mBuffer.length = size
        ∧
      Ring.Represents (collectSamples size conditionId once count pos acc).mBuffer cursor
          (seen ++ History.collect conditionId once count rest)
        ∧
      (collectSamples size conditionId once count pos acc).output
          =
        acc.output ++ History.fresh conditionId once count rest := by
  induction count generalizing pos acc seen rest with
  | zero =>
    unfold collectSamples
    simp [hsize, hring, History.collect, History.fresh]
  | succ count ih =>
    cases rest with
    | nil => simp at hcount
    | cons sample rest =>
      have hback : Ring.back size cursor seen.length < size := Ring.back_lt hcursor (by omega)
      have hslot : acc.mBuffer[Ring.back size cursor seen.length]? = some sample := by
        have := hring seen.length (by omega) (by simp)
        rw [hsize] at this
        rw [this]
        simp
      have hstart := hpos (by omega)
      rw [collectSamples_succ _ hslot]
      . have hring' := collectOne_represents conditionId once hring (by omega)
        rw [hsize] at hring'
        have hlength : (seen ++ [sample.collectedBy conditionId once]).length = seen.length + 1 := by
          simp
        have hnext : 0 < count →
            (if (Ring.back size cursor seen.length : Int) - 1 < 0 then (size : Int) - 1
              else (Ring.back size cursor seen.length : Int) - 1)
            = Ring.back size cursor (seen ++ [sample.collectedBy conditionId once]).length := by
          intro hmore
          rw [hlength]
          rw [Ring.back_succ (by omega)]
          split <;> split <;> omega
        have hrest := ih _ _ _ _ (by rw [collectOne_length, hsize]) hring' (by simpa using hcount)
          (by omega) hnext
        refine ⟨hrest.1, ?_, ?_⟩
        . simpa [History.collect] using hrest.2.1
        . rw [hrest.2.2]
          unfold collectOne History.fresh
          cases hfresh : sample.isFresh conditionId once with
          | true => simp [hfresh]
          | false => simp [hfresh]
      . rw [hstart]
        rw [if_neg]
        omega

end Loop

theorem collectSamples_map {β : Type} (f : Sample α → β) (conditionId : Nat)
    (hf : ∀ s : Sample α, f (s.consumedBy conditionId) = f s) (size : Nat) (once : Bool)
    (count : Nat) (pos : Int) (acc : CollectedSamples α)
    : (collectSamples size conditionId once count pos acc).mBuffer.map f = acc.mBuffer.map f := by
  induction count generalizing pos acc with
  | zero => rfl
  | succ count ih =>
    unfold collectSamples
    dsimp only
    split
    . rfl
    . rw [ih]
      dsimp only
      split
      . apply map_modify
        exact hf
      . rfl

/--
The ring holds the newest samples of the history. The position may be anything before the first sample.
-/
structure Holds (b : HistoryBuffer α) (history : List (Sample α)) : Prop where
  allocated : b.mBuffer.length = b.mSize
  nonempty : 0 < b.mSize
  position : history ≠ [] → b.mCurrentPosition < b.mSize
  small : b.mSize < 2 ^ 32
  ring : Ring.Represents b.mBuffer b.mCurrentPosition history
  counter : b.mCounter = u32 history.length
  lastSample : b.mLastSample = (history.head?.map (·.mTimestamp)).getD 0

def nextPosition (b : HistoryBuffer α) : Nat :=
  if u32 (b.mCurrentPosition + 1) ≥ b.mSize then 0 else u32 (b.mCurrentPosition + 1)

theorem nextPosition_lt (hsize : 0 < b.mSize) : b.nextPosition < b.mSize := by
  unfold nextPosition
  split
  . exact hsize
  . omega

theorem storeSample_eq (receiveTime : Nat) (value : α) (hlt : b.nextPosition < b.mBuffer.length)
    : b.storeSample receiveTime (fun _ => value)
        =
      { b with
        mCurrentPosition := b.nextPosition
        mBuffer := b.mBuffer.set b.nextPosition ⟨value, receiveTime, Bitset.ofBool false⟩
        mCounter := u32 (b.mCounter + 1)
        mLastSample := receiveTime } := by
  have hset : (b.mBuffer.modify b.nextPosition fun sample =>
        { content := value
          mTimestamp := receiveTime
          mAlreadyConsumed := setAlreadyConsumed sample.mAlreadyConsumed ALL_CONDITIONS false })
      = b.mBuffer.set b.nextPosition ⟨value, receiveTime, Bitset.ofBool false⟩ := by
    rw [List.modify_eq_set_get _ hlt]
    rfl
  rw [← hset]
  rfl

namespace Holds

theorem empty (hallocated : b.mBuffer.length = b.mSize) (hnonempty : 0 < b.mSize)
    (hsmall : b.mSize < 2 ^ 32) (hcounter : b.mCounter = 0) (hlast : b.mLastSample = 0)
    : b.Holds [] where
  allocated := hallocated
  nonempty := hnonempty
  position h := absurd rfl h
  small := hsmall
  ring := Ring.Represents.nil _ _
  counter := hcounter
  lastSample := hlast

theorem acceptsSample (h : b.Holds history) (receiveTime : Nat)
    : b.acceptsSample receiveTime
        =
      (decide (b.mMinimumSampleIntervalMs = 0)
        || decide (receiveTime ≥
          u64 ((history.head?.map (·.mTimestamp)).getD 0 + b.mMinimumSampleIntervalMs))) := by
  have hsize := h.nonempty
  unfold HistoryBuffer.acceptsSample
  rw [h.allocated, h.lastSample]
  simp [hsize]

theorem newest (h : b.Holds history) {sample : Sample α} (hhead : history.head? = some sample)
    : b.mBuffer[b.mCurrentPosition]? = some sample := by
  have hne : history ≠ [] := by
    intro hnil
    rw [hnil] at hhead
    simp at hhead
  have hposition := h.position hne
  rw [← h.allocated] at hposition
  rw [h.ring.newest hposition (List.length_pos_iff.mpr hne), ← List.head?_eq_getElem?, hhead]

theorem storeSample (h : b.Holds history) (receiveTime : Nat) (value : α)
    : (b.storeSample receiveTime fun _ => value).Holds
        (⟨value, receiveTime, Bitset.ofBool false⟩ :: history) := by
  have hallocated := h.allocated
  have hlt := nextPosition_lt h.nonempty
  rw [storeSample_eq _ _ (by omega)]
  constructor
  . dsimp only
    rw [List.length_set]
    exact hallocated
  . exact h.nonempty
  . intro _
    exact hlt
  . exact h.small
  . by_cases hne : history = []
    . rw [hne]
      apply Ring.Represents.first
      omega
    . have hposition := h.position hne
      have hsmall := h.small
      have hnext : b.nextPosition = Ring.next b.mBuffer.length b.mCurrentPosition := by
        unfold nextPosition
        rw [u32_of_lt (by omega), hallocated]
        rfl
      dsimp only
      rw [hnext]
      apply h.ring.push
      omega
  . dsimp only
    rw [h.counter]
    unfold u32
    rw [List.length_cons]
    omega
  . rfl

theorem collectLastSamples (h : b.Holds history) {maxNumber : Nat} (hmax : maxNumber ≤ b.mSize)
    (conditionId : Nat) (once : Bool) (newestTimestamp : Nat)
    : { b with
        mBuffer := (b.collectLastSamples maxNumber conditionId once newestTimestamp).mBuffer }.Holds
        (History.collect conditionId once (min maxNumber (u32 history.length)) history)
        ∧
      (b.collectLastSamples maxNumber conditionId once newestTimestamp).output
        =
      History.fresh conditionId once (min maxNumber (u32 history.length)) history := by
  by_cases hne : history = []
  . have hnothing : b.collectLastSamples maxNumber conditionId once newestTimestamp
        = ⟨b.mBuffer, newestTimestamp, []⟩ := by
      unfold HistoryBuffer.collectLastSamples
      have hcount : min maxNumber b.mCounter = 0 := by
        rw [h.counter, hne]
        exact Nat.min_zero _
      rw [hcount]
      rfl
    rw [hnothing, hne]
    rw [hne] at h
    exact ⟨by simpa [History.collect] using h, by simp [History.fresh]⟩
  have hposition := h.position hne
  have hcount := u32_le history.length
  unfold HistoryBuffer.collectLastSamples
  rw [h.counter]
  have hspec := collectSamples_spec conditionId once (min maxNumber (u32 history.length))
    b.mCurrentPosition ⟨b.mBuffer, newestTimestamp, []⟩ [] history
    h.allocated hposition h.ring (by omega) (by simp; omega) (by simp)
  refine ⟨?_, by simpa using hspec.2.2⟩
  constructor
  . exact hspec.1
  . exact h.nonempty
  . intro _
    exact hposition
  . exact h.small
  . simpa using hspec.2.1
  . rw [History.collect_length]
  . dsimp only
    rw [h.lastSample]
    have hmap := History.collect_map conditionId once (min maxNumber (u32 history.length)) history
      (fun s => s.mTimestamp) (fun s => Sample.collectedBy_mTimestamp conditionId once s)
    rw [← List.head?_map, ← List.head?_map]
    rw [hmap]

end Holds

end HistoryBuffer

end DataInspection
