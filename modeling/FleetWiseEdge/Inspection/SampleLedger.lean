import FleetWiseEdge.Inspection.Impl.Engine
import FleetWiseEdge.Lib.Ledger

namespace DataInspection

open Cpp DataManagement

abbrev SampleLedger (Reader V : Type) := Ledger Reader SignalBufferPtr (V × Nat)

def ConditionWithCollectedData.collectedSignals {V : Type} (p : ConditionWithCollectedData V)
    : List InspectionMatrixSignalCollectionInfo :=
  p.signals.filter fun s => !s.isConditionOnlySignal

namespace SampleLedger

variable {Reader V : Type} [DecidableEq Reader] {L : SampleLedger Reader V} {i : Reader}

-- The number of samples that an entry of a condition looks at, `mCounter` overflows at 2^32.
def available (L : SampleLedger Reader V) (signal : InspectionMatrixSignalCollectionInfo) : Nat :=
  min signal.sampleBufferSize (u32 (L.stored signal.ptr).length)

def taken (L : SampleLedger Reader V) (i : Reader) (signal : InspectionMatrixSignalCollectionInfo)
    : List (CollectedSignal V) :=
  (L.unsent i signal.ptr (L.available signal)).map fun entry =>
    { signalID := signal.signalID, receiveTime := entry.1.2, value := entry.1.1 }

def collect (i : Reader) (signals : List InspectionMatrixSignalCollectionInfo)
    (L : SampleLedger Reader V)
    : SampleLedger Reader V × List (CollectedSignal V) :=
  match signals with
  | [] => (L, [])
  | signal :: rest =>
    let (L', later) := collect i rest (L.send i signal.ptr (L.available signal))
    (L', L.taken i signal ++ later)

theorem collect_nothing {signal : InspectionMatrixSignalCollectionInfo}
    (hnil : L.stored signal.ptr = [])
    : L.send i signal.ptr (L.available signal) = L ∧ L.taken i signal = [] := by
  have hunsent : L.unsent i signal.ptr (L.available signal) = [] := by
    unfold Ledger.unsent
    rw [hnil]
    simp [numbered]
  unfold Ledger.send taken
  rw [hunsent]
  simp

variable {Reader' : Type} [DecidableEq Reader'] {L' : SampleLedger Reader' V} {j : Reader'}
variable {keys : SignalBufferPtr → Prop}

theorem collect_agree (signals : List InspectionMatrixSignalCollectionInfo)
    (hkeys : ∀ signal ∈ signals, keys signal.ptr) (h : Ledger.Agree keys i j L L')
    : Ledger.Agree keys i j (collect i signals L).1 (collect j signals L').1
        ∧
      (collect i signals L).2 = (collect j signals L').2 := by
  induction signals generalizing L L' with
  | nil => exact ⟨h, rfl⟩
  | cons signal signals ih =>
    have hkey := hkeys signal (by simp)
    have havailable : L'.available signal = L.available signal := by
      unfold available
      rw [h.stored _ hkey]
    have ⟨hagree, hlater⟩ := ih (fun other hother => hkeys other (by simp [hother]))
      (h.send signal.ptr (L.available signal))
    unfold collect taken
    rw [havailable, h.unsent hkey]
    exact ⟨hagree, congrArg _ hlater⟩

omit [DecidableEq Reader'] in
theorem collect_agree_other {i' : Reader} (hne : i' ≠ i)
    (signals : List InspectionMatrixSignalCollectionInfo) (h : Ledger.Agree keys i j L L')
    : Ledger.Agree keys i j (collect i' signals L).1 L' := by
  induction signals generalizing L with
  | nil => exact h
  | cons signal signals ih =>
    apply ih
    exact h.send_other hne signal.ptr (L.available signal)

end SampleLedger

end DataInspection
