import FleetWiseEdge.Decoding.Lemmas.CANDecoder

namespace DataManagement

open Cpp DataInspection CANDecoder

section Reads

variable {V : Type} {signal : CANSignalFormat V} {frameData : Nat → UInt8} {frameSize : Nat}

structure CANSignalFormat.FitsFrame (signal : CANSignalFormat V) (frameSize : Nat) : Prop where
  first : signal.mFirstBitPosition < 8 * frameSize
  littleEndian : signal.mIsBigEndian = false →
    signal.mFirstBitPosition + signal.mSizeInBits ≤ 8 * frameSize

theorem fitsFrame_of_isInRange (hframe : frameSize ≤ 8)
    (hrange : isInRange (u32 (frameSize * 8)) signal = true)
    : signal.FitsFrame frameSize := by
  rw [bits_of_frameSize hframe, isInRange_iff] at hrange
  have ⟨hfirst, _, _, hlittle⟩ := hrange
  constructor
  . omega
  . intro hendian
    have hfits := hlittle hendian
    omega

theorem readBytes_lt (hframe : frameSize ≤ 8) (hfits : signal.FitsFrame frameSize)
    : ∀ byte ∈ (gatherBytes frameData signal).readBytes, byte < frameSize := by
  have hfirst := hfits.first
  have hstart := @startByte_of_lt V signal (by omega)
  intro byte hbyte
  rw [gatherBytes_readBytes, List.mem_cons, hstart] at hbyte
  cases hbyte with
  | inl hfirstByte => omega
  | inr hresidual =>
    unfold residualBytes at hresidual
    dsimp only at hresidual
    rw [hstart] at hresidual
    cases hendian : signal.mIsBigEndian with
    | true =>
      rw [hendian, if_pos rfl, List.mem_reverse, List.mem_range'_1] at hresidual
      omega
    | false =>
      have hlast := hfits.littleEndian hendian
      rw [hendian, if_neg Bool.false_ne_true, List.mem_range'_1] at hresidual
      rw [toNat_endByte_littleEndian hendian hframe hfirst hlast] at hresidual
      omega

variable [CANSignalValue V] {format : CANMessageFormat V} {signalIDsToCollect : SignalID → Bool}

structure ReadsInside (frameData : Nat → UInt8) (frameSize : Nat) (format : CANMessageFormat V)
    (signalIDsToCollect : SignalID → Bool) : Prop where
  reads : ∀ byte ∈ (decodeCANMessage frameData frameSize format signalIDsToCollect).1.readBytes,
    byte < frameSize
  skips : ∀ idx ∈ (decodeCANMessage frameData frameSize format signalIDsToCollect).1.entries,
    ∀ signal, format.mSignals[idx]? = some signal → signal.FitsFrame frameSize

theorem no_out_of_frame_read (hframe : frameSize ≤ 8)
    : ReadsInside frameData frameSize format signalIDsToCollect
        ↔
      ∀ it, collectedMultiplexor format signalIDsToCollect = some it → it.1.FitsFrame frameSize := by
  constructor
  . intro h it hit
    have hmem : it.2 ∈ (decodeCANMessage frameData frameSize format signalIDsToCollect).1.entries := by
      rw [mem_entries_iff]
      exact Or.inl ⟨it, hit, rfl⟩
    exact h.skips it.2 hmem it.1 (List.mem_zipIdx_iff_getElem?.mp (mem_of_collectedMultiplexor hit))
  . intro h
    constructor
    . intro byte hbyte
      rw [mem_readBytes_iff] at hbyte
      cases hbyte with
      | inl hmultiplexor =>
        have ⟨it, hit, hread⟩ := hmultiplexor
        exact readBytes_lt hframe (h it hit) byte hread
      | inr hloop =>
        have ⟨_, entry, hentry, hread⟩ := hloop
        have hrange := (mem_loopEntries_iff _ _ _).mp hentry
        exact readBytes_lt hframe (fitsFrame_of_isInRange hframe hrange.2.2) byte hread
    . intro idx hidx signal hsignal
      rw [mem_entries_iff_of_getElem? _ _ _ hsignal] at hidx
      cases hidx with
      | inl hmultiplexor => exact h _ hmultiplexor
      | inr hloop => exact fitsFrame_of_isInRange hframe hloop.2.2

def multiplexorExample : CANSignalFormat Rat := ⟨1, false, false, 8, 4, 0, 1, true, 255⟩

def multiplexedFormat : CANMessageFormat Rat where
  mSizeInBytes := 8
  mIsMultiplexed := true
  mSignals :=
    [multiplexorExample,
     ⟨2, true, false, 24, 16, 0, 1, false, 5⟩,
     ⟨3, false, false, 32, 8, 0, 1, false, 6⟩]

theorem findMultiplexor_multiplexedFormat
    : findMultiplexor multiplexedFormat = some (multiplexorExample, 0) := rfl

theorem collectedMultiplexor_multiplexedFormat
    : (collectedMultiplexor multiplexedFormat fun _ => true) = some (multiplexorExample, 0) := rfl

theorem no_out_of_frame_read_example
    : ReadsInside (fun _ => 5) 8 multiplexedFormat fun _ => true := by
  apply (no_out_of_frame_read (by decide)).mpr
  intro it hit
  rw [collectedMultiplexor_multiplexedFormat, Option.some.injEq] at hit
  rw [← hit]
  constructor <;> decide

theorem no_out_of_frame_read_counterexample
    : ¬ (∀ (frameData : Nat → UInt8) (frameSize : Nat), frameSize ≤ 8 →
          ∀ (format : CANMessageFormat Rat) (signalIDsToCollect : SignalID → Bool),
            ReadsInside frameData frameSize format signalIDsToCollect) := by
  intro h
  have hinside := h (fun _ => 5) 1 (by decide) multiplexedFormat fun _ => true
  have hread := hinside.reads 1 (by decide +kernel)
  contradiction

end Reads

section Groups

variable {V : Type} [CANSignalValue V] {frameData : Nat → UInt8} {frameSize : Nat}
variable {format : CANMessageFormat V} {signalIDsToCollect : SignalID → Bool}

/--
What a multiplexed frame is decoded to. The group is the one that the multiplexor has in this frame,
whether the multiplexor is collected or not.
-/
structure DecodesGroup (frameData : Nat → UInt8) (frameSize : Nat) (format : CANMessageFormat V)
    (signalIDsToCollect : SignalID → Bool) : Prop where
  only : ∀ multiplexor place, findMultiplexor format = some (multiplexor, place) →
    ∀ idx ∈ (decodeCANMessage frameData frameSize format signalIDsToCollect).1.entries,
      idx ≠ place → ∀ signal, format.mSignals[idx]? = some signal →
        signal.mMultiplexorValue = (multiplexedGroup frameData multiplexor).toNat
  all : ∀ multiplexor place, findMultiplexor format = some (multiplexor, place) →
    ∀ idx signal, format.mSignals[idx]? = some signal →
      signalIDsToCollect signal.mSignalID = true → isInRange (u32 (frameSize * 8)) signal = true →
        signal.mMultiplexorValue = (multiplexedGroup frameData multiplexor).toNat →
          idx ∈ (decodeCANMessage frameData frameSize format signalIDsToCollect).1.entries
  once : (decodeCANMessage frameData frameSize format signalIDsToCollect).1.entries.Nodup

/--
Either the loop filters by the group of the frame, or all that it decodes belongs to it.
-/
def KeepsToGroup (frameData : Nat → UInt8) (frameSize : Nat) (format : CANMessageFormat V)
    (signalIDsToCollect : SignalID → Bool) (multiplexor : CANSignalFormat V) (place : Nat)
    : Prop :=
  (signalIDsToCollect multiplexor.mSignalID = true
      ∧ multiplexedGroup frameData multiplexor ≠ UINT8_MAX)
    ∨ ∀ idx signal, format.mSignals[idx]? = some signal → idx ≠ place →
        signalIDsToCollect signal.mSignalID = true → isInRange (u32 (frameSize * 8)) signal = true →
          signal.mMultiplexorValue = (multiplexedGroup frameData multiplexor).toNat

def DecodedAgain (frameData : Nat → UInt8) (frameSize : Nat)
    (signalIDsToCollect : SignalID → Bool) (multiplexor : CANSignalFormat V)
    : Prop :=
  signalIDsToCollect multiplexor.mSignalID = true ∧ isInRange (u32 (frameSize * 8)) multiplexor = true
    ∧ (multiplexedGroup frameData multiplexor = UINT8_MAX
        ∨ multiplexor.mMultiplexorValue = (multiplexedGroup frameData multiplexor).toNat)

section Found

variable {multiplexor : CANSignalFormat V} {place : Nat}

theorem keepsToGroup_of_decodesGroup (hmultiplexed : format.mIsMultiplexed = true)
    (hfind : findMultiplexor format = some (multiplexor, place))
    (h : DecodesGroup frameData frameSize format signalIDsToCollect)
    : KeepsToGroup frameData frameSize format signalIDsToCollect multiplexor place := by
  unfold KeepsToGroup
  rw [or_iff_not_imp_left]
  intro hfilter idx signal hsignal hne hcollect hrange
  have hunfiltered : filterGroup frameData format signalIDsToCollect = UINT8_MAX := by
    rw [filterGroup_of_find _ _ hmultiplexed hfind]
    split
    . next hmultiplexor =>
      by_contra hgroup
      exact hfilter ⟨hmultiplexor, hgroup⟩
    . rfl
  apply h.only multiplexor place hfind idx _ hne signal hsignal
  rw [mem_entries_iff_of_getElem? _ _ _ hsignal, isSelected_iff]
  exact Or.inr ⟨hasMultiplexor_of_find hfind, ⟨hcollect, Or.inl hunfiltered⟩, hrange⟩

theorem mem_loopEntries_multiplexor_iff (hmultiplexed : format.mIsMultiplexed = true)
    (hfind : findMultiplexor format = some (multiplexor, place))
    (hcollect : signalIDsToCollect multiplexor.mSignalID = true)
    : place ∈ (loopEntries frameData frameSize format signalIDsToCollect).map (·.2)
        ↔
      DecodedAgain frameData frameSize signalIDsToCollect multiplexor := by
  have hplace := getElem?_place hfind
  have hfilter := filterGroup_of_find frameData signalIDsToCollect hmultiplexed hfind
  rw [if_pos hcollect] at hfilter
  unfold DecodedAgain
  rw [List.mem_map]
  constructor
  . intro ⟨entry, hentry, heq⟩
    rw [mem_loopEntries_iff, heq, hplace, Option.some.injEq, isSelected_iff, hfilter] at hentry
    have ⟨hsignal, hselected, hrange⟩ := hentry
    rw [← hsignal] at hselected hrange
    exact ⟨hcollect, hrange, hselected.2⟩
  . intro ⟨_, hrange, hgroup⟩
    refine ⟨(multiplexor, place), ?_, rfl⟩
    rw [mem_loopEntries_iff, isSelected_iff, hfilter]
    exact ⟨hplace, ⟨hcollect, hgroup⟩, hrange⟩

theorem entries_nodup_iff (hmultiplexed : format.mIsMultiplexed = true)
    (hfind : findMultiplexor format = some (multiplexor, place))
    : (decodeCANMessage frameData frameSize format signalIDsToCollect).1.entries.Nodup
        ↔
      ¬ DecodedAgain frameData frameSize signalIDsToCollect multiplexor := by
  have hnodup := @nodup_loopEntries V _ frameData frameSize signalIDsToCollect format
  rw [decodeCANMessage_eq frameData frameSize signalIDsToCollect (hasMultiplexor_of_find hfind)]
  rw [collectedMultiplexor_of_find hmultiplexed hfind]
  dsimp only
  cases hcollect : signalIDsToCollect multiplexor.mSignalID with
  | true =>
    simp only [↓reduceIte, Option.toList_some, List.map_cons, List.map_nil, List.cons_append,
      List.nil_append]
    rw [List.nodup_cons, mem_loopEntries_multiplexor_iff hmultiplexed hfind hcollect]
    simp only [hnodup, and_true]
  | false =>
    simp [DecodedAgain, hcollect, hnodup]

theorem decodesGroup_of_keepsToGroup (hmultiplexed : format.mIsMultiplexed = true)
    (hfind : findMultiplexor format = some (multiplexor, place))
    (hkeeps : KeepsToGroup frameData frameSize format signalIDsToCollect multiplexor place)
    (honce : (decodeCANMessage frameData frameSize format signalIDsToCollect).1.entries.Nodup)
    : DecodesGroup frameData frameSize format signalIDsToCollect := by
  have hfilter := filterGroup_of_find frameData signalIDsToCollect hmultiplexed hfind
  constructor
  . intro other otherPlace hother idx hidx hne signal hsignal
    rw [hfind, Option.some.injEq, Prod.mk.injEq] at hother
    rw [← hother.1]
    rw [← hother.2] at hne
    rw [mem_entries_iff_of_getElem? _ _ _ hsignal, collectedMultiplexor_of_find hmultiplexed hfind] at hidx
    cases hidx with
    | inl hmultiplexor =>
      split at hmultiplexor
      . rw [Option.some.injEq, Prod.mk.injEq] at hmultiplexor
        exact absurd hmultiplexor.2.symm hne
      . contradiction
    | inr hloop =>
      have ⟨_, hselected, hrange⟩ := hloop
      have ⟨hcollect, hgroup⟩ := isSelected_iff.mp hselected
      cases hkeeps with
      | inl hfiltered =>
        rw [hfilter, if_pos hfiltered.1] at hgroup
        exact hgroup.resolve_left hfiltered.2
      | inr hall => exact hall idx signal hsignal hne hcollect hrange
  . intro other otherPlace hother idx signal hsignal hcollect hrange hgroup
    rw [hfind, Option.some.injEq, Prod.mk.injEq] at hother
    rw [← hother.1] at hgroup
    rw [mem_entries_iff_of_getElem? _ _ _ hsignal, isSelected_iff, hfilter]
    refine Or.inr ⟨hasMultiplexor_of_find hfind, ⟨hcollect, ?_⟩, hrange⟩
    split
    . exact Or.inr hgroup
    . exact Or.inl rfl
  . exact honce

end Found

theorem decodesGroup_of_not_hasMultiplexor (hmultiplexed : format.mIsMultiplexed = true)
    (hnone : findMultiplexor format = none)
    : DecodesGroup frameData frameSize format signalIDsToCollect := by
  have hmissing : ¬ HasMultiplexor format := by
    intro h
    exact h hmultiplexed hnone
  constructor
  . intro multiplexor place hfind
    rw [hnone] at hfind
    contradiction
  . intro multiplexor place hfind
    rw [hnone] at hfind
    contradiction
  . rw [decodeCANMessage_of_not_hasMultiplexor frameData frameSize signalIDsToCollect hmissing]
    exact List.nodup_nil

theorem multiplexed_decoding (hmultiplexed : format.mIsMultiplexed = true)
    : DecodesGroup frameData frameSize format signalIDsToCollect
        ↔
      ∀ multiplexor place, findMultiplexor format = some (multiplexor, place) →
        KeepsToGroup frameData frameSize format signalIDsToCollect multiplexor place
          ∧ ¬ DecodedAgain frameData frameSize signalIDsToCollect multiplexor := by
  constructor
  . intro h multiplexor place hfind
    constructor
    . exact keepsToGroup_of_decodesGroup hmultiplexed hfind h
    . rw [← entries_nodup_iff hmultiplexed hfind]
      exact h.once
  . intro h
    cases hfind : findMultiplexor format with
    | none => exact decodesGroup_of_not_hasMultiplexor hmultiplexed hfind
    | some it =>
      have ⟨hkeeps, honce⟩ := h it.1 it.2 hfind
      rw [← entries_nodup_iff hmultiplexed hfind] at honce
      exact decodesGroup_of_keepsToGroup hmultiplexed hfind hkeeps honce

theorem multiplexed_decoding_example
    : DecodesGroup (fun _ => 5) 8 multiplexedFormat fun _ => true := by
  apply (multiplexed_decoding rfl).mpr
  intro multiplexor place hfind
  rw [findMultiplexor_multiplexedFormat, Option.some.injEq, Prod.mk.injEq] at hfind
  rw [← hfind.1]
  constructor
  . left
    decide +kernel
  . unfold DecodedAgain
    decide +kernel

theorem multiplexed_decoding_counterexample
    : ¬ (∀ (frameData : Nat → UInt8) (frameSize : Nat) (format : CANMessageFormat Rat)
          (signalIDsToCollect : SignalID → Bool), format.mIsMultiplexed = true →
            DecodesGroup frameData frameSize format signalIDsToCollect) := by
  intro h
  have hgroup := (h (fun _ => 5) 8 multiplexedFormat (fun id => id != 1) rfl).only multiplexorExample 0
    findMultiplexor_multiplexedFormat 2 (by decide +kernel) (by decide) _ rfl
  revert hgroup
  decide +kernel

end Groups

end DataManagement
