import Mathlib.Tactic.Ring
import Mathlib.Tactic.Linarith
import FleetWiseEdge.Decoding.Lemmas.CANDecoder

namespace DataManagement

open Cpp DataInspection CANDecoder

section Extraction

variable {V : Type} [CANSignalValue V]

def CANSignalFormat.pattern (signal : CANSignalFormat V) (frameData : Nat → UInt8) : BitVec 64 :=
  if signal.mIsSigned then
    (signal.bits frameData).signExtend 64
  else
    (signal.bits frameData).setWidth 64

theorem can_signal_extraction {frameSize : Nat} (hframe : frameSize ≤ 8)
    {format : CANMessageFormat V} (hmultiplexed : format.mIsMultiplexed = false)
    (hinside : ∀ signal ∈ format.mSignals, signal.InsideFrame frameSize)
    (frameData : Nat → UInt8) (signalIDsToCollect : SignalID → Bool)
    : (decodeCANMessage frameData frameSize format signalIDsToCollect).1.mSignals.map
        (fun decoded => (decoded.mSignalID, decoded.mRawValue.toBitVec))
        =
      (format.mSignals.filter fun signal => signalIDsToCollect signal.mSignalID).map
        fun signal => (signal.mSignalID, signal.pattern frameData) := by
  have hnone := collectedMultiplexor_of_not_multiplexed hmultiplexed signalIDsToCollect
  rw [decodeCANMessage_eq frameData frameSize signalIDsToCollect
    (by simp [HasMultiplexor, hmultiplexed])]
  have hloop
      : loopEntries frameData frameSize format signalIDsToCollect
          =
        format.mSignals.zipIdx.filter fun entry => signalIDsToCollect entry.1.mSignalID := by
    unfold loopEntries filterGroup
    rw [hnone, bits_of_frameSize hframe]
    apply List.filter_congr
    intro entry hentry
    have hrange := InsideFrame.isInRange (hinside entry.1 (List.fst_mem_of_mem_zipIdx hentry))
    simp [isEmitted, isSelected, hrange]
  have hfst
      : (format.mSignals.zipIdx.filter fun entry => signalIDsToCollect entry.1.mSignalID).map (·.1)
          =
        format.mSignals.filter fun signal => signalIDsToCollect signal.mSignalID := by
    rw [← List.zipIdx_map_fst 0 format.mSignals]
    rw [List.filter_map]
    simp only [List.zipIdx_map_fst]
    rfl
  rw [hnone, hloop, ← hfst]
  simp only [Option.toList_none, List.map_nil, List.nil_append, List.map_map]
  apply List.map_congr_left
  intro entry hentry
  have hmem := List.fst_mem_of_mem_zipIdx (List.mem_filter.mp hentry).1
  dsimp only [decodedSignal, Function.comp_apply]
  rw [extractSignalFromFrame_eq hframe (hinside entry.1 hmem)]
  rfl

def exampleFrame (i : Nat) : UInt8 := [0x01, 0x23, 0x45, 0x67, 0x89, 0xAB].getD i 0

def exampleFormat : CANMessageFormat Rat where
  mSizeInBytes := 8
  mSignals :=
    [⟨1, false, false, 0, 16, 0, 1, false, 255⟩,
     ⟨2, true, false, 24, 16, 0, 1, false, 255⟩,
     ⟨3, true, true, 40, 16, 0, 1, false, 255⟩]

theorem can_signal_extraction_example
    : (decodeCANMessage exampleFrame 6 exampleFormat fun id => id != 2).1.mSignals.map
        (fun decoded => (decoded.mSignalID, decoded.mRawValue.toBitVec))
        =
      [(1, 0x2301#64), (3, 0xFFFFFFFFFFFF89AB#64)] := by
  rw [can_signal_extraction (by decide) rfl (by decide)]
  decide

end Extraction

section Values

def CANSignalFormat.value {V : Type} (signal : CANSignalFormat V) (frameData : Nat → UInt8) : Int :=
  if signal.mIsSigned then
    (signal.bits frameData).toInt
  else
    (signal.bits frameData).toNat

variable {V : Type} {signal : CANSignalFormat V} {frameData : Nat → UInt8} {frameSize : Nat}

theorem msb_bits (hsize : signal.mSizeInBits = 64)
    : (signal.bits frameData).msb = signal.bit frameData 63 := by
  rw [BitVec.msb_eq_getLsbD_last]
  unfold CANSignalFormat.bits
  rw [BitField.getLsbD_ofBits, hsize]
  simp

theorem toInt_extractSignalFromFrame (hframe : frameSize ≤ 8) (hinside : signal.InsideFrame frameSize)
    : (extractSignalFromFrame frameData signal).toInt
        =
      if signal.mIsSigned = false ∧ signal.mSizeInBits = 64 ∧ signal.bit frameData 63 = true then
        signal.value frameData - 2 ^ 64
      else
        signal.value frameData := by
  have hle := hinside.le
  have hlt := (signal.bits frameData).isLt
  have hbound : 2 ^ signal.mSizeInBits ≤ 2 ^ 64 := Nat.pow_le_pow_right (by omega) hle
  rw [Int64.toInt, extractSignalFromFrame_eq hframe hinside]
  unfold CANSignalFormat.value
  cases hsigned : signal.mIsSigned with
  | true =>
    simp only [if_true, Bool.true_eq_false, false_and, if_false]
    rw [BitVec.toInt_signExtend_of_le hle]
  | false =>
    simp only [Bool.false_eq_true, if_false, true_and]
    rw [BitVec.toInt_eq_toNat_cond, BitVec.toNat_setWidth, Nat.mod_eq_of_lt (by omega)]
    by_cases hsize : signal.mSizeInBits = 64
    . have hmsb := @msb_bits V signal frameData hsize
      have hhalf : 2 ^ (signal.mSizeInBits - 1) = 2 ^ 63 := by rw [hsize]
      rw [BitVec.msb_eq_decide, hhalf] at hmsb
      rw [← hmsb]
      simp only [decide_eq_true_eq]
      split <;> split <;> omega
    . have hhalf : 2 ^ signal.mSizeInBits ≤ 2 ^ 63 := Nat.pow_le_pow_right (by omega) (by omega)
      rw [if_pos (by omega), if_neg]
      intro h
      exact hsize h.1

theorem toUInt8_extractSignalFromFrame (hframe : frameSize ≤ 8)
    (hinside : signal.InsideFrame frameSize)
    : ((extractSignalFromFrame frameData signal).toUInt64.toUInt8.toNat : Int)
        =
      signal.value frameData % 256 := by
  have hvalue := @toInt_extractSignalFromFrame V signal frameData frameSize hframe hinside
  have hbyte
      : (extractSignalFromFrame frameData signal).toUInt64.toUInt8.toNat
          =
        (extractSignalFromFrame frameData signal).toBitVec.toNat % 256 := rfl
  rw [Int64.toInt, BitVec.toInt_eq_toNat_cond] at hvalue
  rw [hbyte]
  split at hvalue <;> split at hvalue <;> omega

end Values

section Exact

variable {signal : CANSignalFormat Rat} {frameData : Nat → UInt8} {frameSize : Nat}
variable {format : CANMessageFormat Rat} {signalIDsToCollect : SignalID → Bool}

def ValuesExact (frameData : Nat → UInt8) (frameSize : Nat) (format : CANMessageFormat Rat)
    (signalIDsToCollect : SignalID → Bool)
    : Prop :=
  let decoding := (decodeCANMessage frameData frameSize format signalIDsToCollect).1
  ∀ emitted ∈ decoding.entries.zip decoding.mSignals, ∀ signal : CANSignalFormat Rat,
    format.mSignals[emitted.1]? = some signal → signal.InsideFrame frameSize →
      emitted.2.mPhysicalValue = signal.value frameData * signal.mFactor + signal.mOffset

/--
A signal whose bits the conversion to `int64_t` does not take for a negative number.
-/
def StaysUnsigned (frameData : Nat → UInt8) (signal : CANSignalFormat Rat) : Prop :=
  signal.mIsSigned = true ∨ signal.mSizeInBits < 64 ∨ signal.bit frameData 63 = false
    ∨ signal.mFactor = 0

def StandsForGroup (frameData : Nat → UInt8) (signal : CANSignalFormat Rat) : Prop :=
  ∃ group : UInt8,
    signal.value frameData * signal.mFactor + signal.mOffset = group.toNat
      ∧ CANSignalValue.toUInt8
          (((signal.value frameData % 256 : Int) : Rat) * signal.mFactor + signal.mOffset) = group

theorem physicalValue_exact_iff (hframe : frameSize ≤ 8) (hinside : signal.InsideFrame frameSize)
    : (decodedSignal frameData signal).mPhysicalValue
          = signal.value frameData * signal.mFactor + signal.mOffset
        ↔
      StaysUnsigned frameData signal := by
  have hle := hinside.le
  have hvalue := @toInt_extractSignalFromFrame Rat signal frameData frameSize hframe hinside
  have hphysical
      : (decodedSignal frameData signal).mPhysicalValue
          =
        ((extractSignalFromFrame frameData signal).toInt : Rat) * signal.mFactor + signal.mOffset := rfl
  rw [hphysical, hvalue]
  unfold StaysUnsigned
  split
  . next hnegative =>
    have ⟨hsigned, hsize, hbit⟩ := hnegative
    rw [add_left_inj]
    push_cast
    constructor
    . intro heq
      have hzero : (2 ^ 64 : Rat) * signal.mFactor = 0 := by linarith
      have hfactor : signal.mFactor = 0 := by simpa using hzero
      simp [hfactor]
    . intro h
      simp [hsigned, hsize, hbit] at h
      simp [h]
  . next hnegative =>
    simp only [true_iff]
    by_cases hsigned : signal.mIsSigned = true
    . exact Or.inl hsigned
    . by_cases hsize : signal.mSizeInBits < 64
      . exact Or.inr (Or.inl hsize)
      . have hbit : signal.bit frameData 63 = false := by
          by_contra hbit
          apply hnegative
          exact ⟨by simpa using hsigned, by omega, by simpa using hbit⟩
        exact Or.inr (Or.inr (Or.inl hbit))

theorem multiplexor_exact_iff (hframe : frameSize ≤ 8) (hinside : signal.InsideFrame frameSize)
    : (decodedMultiplexor frameData signal).mPhysicalValue
          = signal.value frameData * signal.mFactor + signal.mOffset
        ↔
      StandsForGroup frameData signal := by
  have hlow := @toUInt8_extractSignalFromFrame Rat signal frameData frameSize hframe hinside
  have hphysical
      : (decodedMultiplexor frameData signal).mPhysicalValue
          =
        ((CANSignalValue.toUInt8
          (((signal.value frameData % 256 : Int) : Rat) * signal.mFactor + signal.mOffset)).toNat
          : Rat) := by
    rw [← hlow]
    rfl
  rw [hphysical]
  unfold StandsForGroup
  constructor
  . intro heq
    exact ⟨_, heq.symm, rfl⟩
  . intro ⟨group, heq, hgroup⟩
    rw [hgroup, heq]

theorem unsigned_can_values (hframe : frameSize ≤ 8)
    : ValuesExact frameData frameSize format signalIDsToCollect
        ↔
      (∀ it, collectedMultiplexor format signalIDsToCollect = some it →
          it.1.InsideFrame frameSize → StandsForGroup frameData it.1)
        ∧
      (∀ signal ∈ format.mSignals,
        HasMultiplexor format →
        isSelected signalIDsToCollect (filterGroup frameData format signalIDsToCollect) signal = true →
        signal.InsideFrame frameSize → StaysUnsigned frameData signal) := by
  unfold ValuesExact
  dsimp only
  by_cases hfound : HasMultiplexor format
  . rw [zip_entries_mSignals frameData frameSize signalIDsToCollect hfound]
    simp only [List.mem_append, or_imp, forall_and]
    apply and_congr
    . constructor
      . intro h it hit hinside
        have hentry := List.mem_zipIdx_iff_getElem?.mp (mem_of_collectedMultiplexor hit)
        rw [← multiplexor_exact_iff hframe hinside]
        exact h _ (List.mem_map_of_mem (by rw [hit]; simp)) it.1 hentry hinside
      . intro h emitted hemitted signal hsignal hinside
        rw [List.mem_map] at hemitted
        obtain ⟨it, hit, rfl⟩ := hemitted
        rw [Option.mem_toList] at hit
        have hentry := List.mem_zipIdx_iff_getElem?.mp (mem_of_collectedMultiplexor hit)
        dsimp only at hsignal
        rw [hentry, Option.some.injEq] at hsignal
        rw [← hsignal] at hinside ⊢
        exact (multiplexor_exact_iff hframe hinside).mpr (h it hit hinside)
    . constructor
      . intro h signal hmem _ hselected hinside
        have ⟨idx, hidx⟩ := List.mem_iff_getElem?.mp hmem
        have hrange := InsideFrame.isInRange hinside
        have hentry : (signal, idx) ∈ loopEntries frameData frameSize format signalIDsToCollect := by
          rw [mem_loopEntries_iff, bits_of_frameSize hframe]
          exact ⟨hidx, hselected, hrange⟩
        rw [← physicalValue_exact_iff hframe hinside]
        exact h _ (List.mem_map_of_mem hentry) signal hidx hinside
      . intro h emitted hemitted signal hsignal hinside
        rw [List.mem_map] at hemitted
        obtain ⟨entry, hentry, rfl⟩ := hemitted
        rw [mem_loopEntries_iff] at hentry
        dsimp only at hsignal
        rw [hentry.1, Option.some.injEq] at hsignal
        rw [← hsignal] at hinside ⊢
        rw [physicalValue_exact_iff hframe hinside]
        exact h entry.1 (List.mem_of_getElem? hentry.1) hfound hentry.2.1 hinside
  . rw [decodeCANMessage_of_not_hasMultiplexor frameData frameSize signalIDsToCollect hfound]
    rw [collectedMultiplexor_of_not_hasMultiplexor hfound]
    simp [hfound]

theorem unsigned_can_values_example
    : ValuesExact exampleFrame 6 exampleFormat fun _ => true := by
  apply (unsigned_can_values (by decide)).mpr
  constructor
  . intro it hit
    contradiction
  . intro signal hmem _ _ _
    have hsize : ∀ signal ∈ exampleFormat.mSignals, signal.mSizeInBits < 64 := by decide
    exact Or.inr (Or.inl (hsize signal hmem))

def wholeFrameSignal : CANSignalFormat Rat := ⟨1, false, false, 0, 64, 0, 1, false, 255⟩

theorem unsigned_can_values_counterexample
    : ¬ (∀ (frameData : Nat → UInt8) (frameSize : Nat), frameSize ≤ 8 →
          ∀ (format : CANMessageFormat Rat) (signalIDsToCollect : SignalID → Bool),
            ValuesExact frameData frameSize format signalIDsToCollect) := by
  intro h
  have hexact := h (fun _ => 255) 8 (by decide) { mSizeInBytes := 8, mSignals := [wholeFrameSignal] }
    (fun _ => true) (0, decodedSignal (fun _ => 255) wholeFrameSignal) (by decide +kernel)
    wholeFrameSignal rfl (by decide)
  have hframe : (8 : Nat) ≤ 8 := by decide
  rw [physicalValue_exact_iff hframe (by decide)] at hexact
  unfold StaysUnsigned at hexact
  revert hexact
  decide

end Exact

end DataManagement
