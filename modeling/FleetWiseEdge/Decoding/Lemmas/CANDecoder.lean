import FleetWiseEdge.Lib.BitField
import FleetWiseEdge.Decoding.Impl.CANDecoder

namespace DataManagement

open Cpp DataInspection

section Reference

variable {V : Type}

/--
Where bit `i` of a signal lies in the frame. Little endian bits are counted upward through the bytes,
big endian ones to the higher bits of a byte and then to the byte before it.
-/
def CANSignalFormat.bit (signal : CANSignalFormat V) (frameData : Nat → UInt8) (i : Nat) : Bool :=
  let first := signal.mFirstBitPosition
  if signal.mIsBigEndian then
    (frameData (first / 8 - (first % 8 + i) / 8)).toBitVec.getLsbD ((first % 8 + i) % 8)
  else
    (frameData ((first + i) / 8)).toBitVec.getLsbD ((first + i) % 8)

def CANSignalFormat.bits (signal : CANSignalFormat V) (frameData : Nat → UInt8)
    : BitVec signal.mSizeInBits :=
  BitField.ofBits (signal.bit frameData) signal.mSizeInBits

structure CANSignalFormat.InsideFrame (signal : CANSignalFormat V) (frameSize : Nat) : Prop where
  pos : 1 ≤ signal.mSizeInBits
  le : signal.mSizeInBits ≤ 64
  first : signal.mFirstBitPosition < 8 * frameSize
  littleEndian : signal.mIsBigEndian = false →
    signal.mFirstBitPosition + signal.mSizeInBits ≤ 8 * frameSize
  bigEndian : signal.mIsBigEndian = true →
    signal.mFirstBitPosition % 8 + signal.mSizeInBits ≤ 8 * (signal.mFirstBitPosition / 8 + 1)

theorem CANSignalFormat.insideFrame_iff {signal : CANSignalFormat V} {frameSize : Nat}
    : signal.InsideFrame frameSize
        ↔
      1 ≤ signal.mSizeInBits ∧ signal.mSizeInBits ≤ 64
        ∧ signal.mFirstBitPosition < 8 * frameSize
        ∧ (signal.mIsBigEndian = false →
            signal.mFirstBitPosition + signal.mSizeInBits ≤ 8 * frameSize)
        ∧ (signal.mIsBigEndian = true →
            signal.mFirstBitPosition % 8 + signal.mSizeInBits ≤ 8 * (signal.mFirstBitPosition / 8 + 1)) := by
  constructor
  . intro h
    exact ⟨h.pos, h.le, h.first, h.littleEndian, h.bigEndian⟩
  . intro h
    exact ⟨h.1, h.2.1, h.2.2.1, h.2.2.2.1, h.2.2.2.2⟩

instance {signal : CANSignalFormat V} {frameSize : Nat} : Decidable (signal.InsideFrame frameSize) :=
  decidable_of_iff _ CANSignalFormat.insideFrame_iff.symm

end Reference

namespace CANDecoder

section Extraction

variable {V : Type} {frameData : Nat → UInt8} {signal : CANSignalFormat V} {frameSize : Nat}

theorem foldl_orByte (frameData : Nat → UInt8) (position : Nat → Nat) {shift count : Nat} (hshift : shift < 8)
    (hcount : count ≤ 8) (readBytes : List Nat)
    : (((List.range count).map fun k => position (k + 1)).foldl (orByte frameData)
        { result := BitField.gather 64 (frameData ∘ position) shift 0
          resultLength := UInt8.ofNat (8 - shift)
          readBytes })
        =
      { result := BitField.gather 64 (frameData ∘ position) shift count
        resultLength := UInt8.ofNat (8 * (count + 1) - shift)
        readBytes := readBytes ++ (List.range count).map fun k => position (k + 1) } := by
  induction count with
  | zero => simp
  | succ count ih =>
    rw [List.range_succ, List.map_append, List.foldl_append, ih (by omega)]
    have hlength : (UInt8.ofNat (8 * (count + 1) - shift)).toNat = 8 * (count + 1) - shift := by
      apply UInt8.toNat_ofNat_of_lt'
      dsimp [UInt8.size]
      omega
    have hnext : UInt8.ofNat (8 * (count + 1) - shift) + 8 = UInt8.ofNat (8 * (count + 1 + 1) - shift) := by
      rw [show (8 : UInt8) = UInt8.ofNat 8 from rfl, ← UInt8.ofNat_add]
      congr 1
      omega
    simp only [List.map_cons, List.map_nil, List.foldl_cons, List.foldl_nil, orByte, hlength, hnext]
    simp [BitField.gather]

theorem startByte_of_lt (hfirst : signal.mFirstBitPosition < 256)
    : (UInt8.ofNat signal.mFirstBitPosition / 8).toNat = signal.mFirstBitPosition / 8 := by
  rw [UInt8.toNat_div, UInt8.toNat_ofNat_of_lt' hfirst]
  rfl

theorem startBitInByte_of_lt (hfirst : signal.mFirstBitPosition < 256)
    : (UInt8.ofNat signal.mFirstBitPosition % 8).toNat = signal.mFirstBitPosition % 8 := by
  rw [UInt8.toNat_mod, UInt8.toNat_ofNat_of_lt' hfirst]
  rfl

theorem toNat_ofInt_tdiv {i : Int} {n : Nat} (heq : i = n) (hlt : n / 8 < 256)
    : (UInt8.ofInt (i.tdiv 8)).toNat = n / 8 := by
  have hdiv : i.tdiv 8 = (n / 8 : Nat) := by rw [heq, Int.ofNat_tdiv]; rfl
  have hmod : ((n / 8 : Nat) : Int) % 2 ^ 8 = (n / 8 : Nat) := by omega
  unfold UInt8.ofInt
  rw [hdiv, hmod, Int.toNat_natCast]
  exact UInt8.toNat_ofNat_of_lt' hlt

theorem toNat_endByte_bigEndian (hbig : signal.mIsBigEndian = true) (hframe : frameSize ≤ 8)
    (hinside : signal.InsideFrame frameSize)
    : (endByte signal).toNat
        =
      (8 * (signal.mFirstBitPosition / 8) + 8 - signal.mFirstBitPosition % 8 - signal.mSizeInBits) / 8 := by
  have hfirst := hinside.first
  have hfits := hinside.bigEndian hbig
  unfold endByte
  rw [if_pos hbig]
  rw [startByte_of_lt (by omega), startBitInByte_of_lt (by omega)]
  apply toNat_ofInt_tdiv
  . omega
  . omega

theorem toNat_endByte_littleEndian (hlittle : signal.mIsBigEndian = false) (hframe : frameSize ≤ 8)
    (hfirst : signal.mFirstBitPosition < 8 * frameSize)
    (hfits : signal.mFirstBitPosition + signal.mSizeInBits ≤ 8 * frameSize)
    : (endByte signal).toNat = (signal.mFirstBitPosition + signal.mSizeInBits - 1) / 8 := by
  unfold endByte
  rw [hlittle, if_neg Bool.false_ne_true]
  rw [UInt8.toNat_ofNat_of_lt' (by dsimp [UInt8.size]; omega)]
  by_cases hzero : signal.mFirstBitPosition + signal.mSizeInBits = 0
  . have hbit : signal.mFirstBitPosition = 0 := by omega
    have hsize : signal.mSizeInBits = 0 := by omega
    rw [hbit, hsize]
    rfl
  . apply toNat_ofInt_tdiv
    . omega
    . omega

def bytePosition (signal : CANSignalFormat V) (k : Nat) : Nat :=
  if signal.mIsBigEndian then
    signal.mFirstBitPosition / 8 - k
  else
    signal.mFirstBitPosition / 8 + k

theorem residualBytes_eq (hframe : frameSize ≤ 8) (hinside : signal.InsideFrame frameSize)
    : residualBytes signal
        =
      (List.range ((signal.mFirstBitPosition % 8 + signal.mSizeInBits - 1) / 8)).map fun k =>
        bytePosition signal (k + 1) := by
  have hfirst := hinside.first
  have hpos := hinside.pos
  unfold residualBytes
  dsimp only
  rw [startByte_of_lt (by omega)]
  cases hendian : signal.mIsBigEndian with
  | true =>
    have hfits := hinside.bigEndian hendian
    rw [toNat_endByte_bigEndian hendian hframe hinside, if_pos rfl]
    apply List.ext_getElem
    . simp
      omega
    . intro i h1 h2
      simp only [List.length_reverse, List.length_range'] at h1
      simp [bytePosition, hendian]
      omega
  | false =>
    have hfits := hinside.littleEndian hendian
    rw [toNat_endByte_littleEndian hendian hframe hfirst hfits, if_neg Bool.false_ne_true]
    apply List.ext_getElem
    . simp
      omega
    . intro i h1 h2
      simp [bytePosition, hendian]
      omega

theorem bit_bytePosition (i : Nat)
    : BitField.bit (frameData ∘ bytePosition signal) (signal.mFirstBitPosition % 8 + i)
        =
      signal.bit frameData i := by
  unfold BitField.bit CANSignalFormat.bit
  cases hendian : signal.mIsBigEndian with
  | true => simp [bytePosition, hendian]
  | false =>
    have hdiv : signal.mFirstBitPosition / 8 + (signal.mFirstBitPosition % 8 + i) / 8
        = (signal.mFirstBitPosition + i) / 8 := by omega
    have hmod : (signal.mFirstBitPosition % 8 + i) % 8 = (signal.mFirstBitPosition + i) % 8 := by omega
    simp [bytePosition, hendian, hdiv]

theorem gatherBytes_result (hframe : frameSize ≤ 8) (hinside : signal.InsideFrame frameSize)
    : (gatherBytes frameData signal).result
        =
      BitField.gather 64 (frameData ∘ bytePosition signal) (signal.mFirstBitPosition % 8)
        ((signal.mFirstBitPosition % 8 + signal.mSizeInBits - 1) / 8) := by
  have hfirst := hinside.first
  have hle := hinside.le
  have hbyte : bytePosition signal 0 = signal.mFirstBitPosition / 8 := by
    unfold bytePosition
    split <;> rfl
  have hlength : 8 - UInt8.ofNat signal.mFirstBitPosition % 8
      = UInt8.ofNat (8 - signal.mFirstBitPosition % 8) := by
    apply UInt8.toNat_inj.mp
    rw [UInt8.toNat_sub_of_le, startBitInByte_of_lt (by omega)]
    . rw [UInt8.toNat_ofNat_of_lt' (by dsimp [UInt8.size]; omega)]
      rfl
    . rw [UInt8.le_iff_toNat_le, startBitInByte_of_lt (by omega)]
      show _ ≤ 8
      omega
  have hstart
      : BitField.gather 64 (frameData ∘ bytePosition signal) (signal.mFirstBitPosition % 8) 0
          =
        (frameData (signal.mFirstBitPosition / 8)).toBitVec.setWidth 64
          >>> (signal.mFirstBitPosition % 8) := by
    unfold BitField.gather
    rw [Function.comp_apply, hbyte]
  unfold gatherBytes
  dsimp only
  rw [residualBytes_eq hframe hinside, startByte_of_lt (by omega), startBitInByte_of_lt (by omega)]
  rw [hlength, ← hstart]
  rw [foldl_orByte frameData (bytePosition signal) (by omega) (by omega)]

/--
The value of a signal inside the frame is made of its bits.
-/
theorem extractSignalFromFrame_eq (hframe : frameSize ≤ 8) (hinside : signal.InsideFrame frameSize)
    : (extractSignalFromFrame frameData signal).toBitVec
        =
      if signal.mIsSigned then
        (signal.bits frameData).signExtend 64
      else
        (signal.bits frameData).setWidth 64 := by
  have hpos := hinside.pos
  have hle := hinside.le
  have hmask
      : (gatherBytes frameData signal).result &&& mask64 signal.mSizeInBits
          =
        (signal.bits frameData).setWidth 64 := by
    rw [gatherBytes_result hframe hinside]
    unfold mask64
    rw [BitField.gather_and_mask (by omega) (by omega) hle (by omega)]
    unfold CANSignalFormat.bits
    simp only [bit_bytePosition]
  unfold extractSignalFromFrame
  dsimp only
  rw [hmask]
  split
  . rw [Int64.toBitVec_ofBitVec, BitField.xor_sub_signBit _ hpos hle]
  . rfl

theorem readBytes_foldl (bytes : List Nat) (e : Extraction)
    : (bytes.foldl (orByte frameData) e).readBytes = e.readBytes ++ bytes := by
  induction bytes generalizing e with
  | nil => simp
  | cons count bytes ih =>
    rw [List.foldl_cons, ih]
    simp [orByte]

theorem gatherBytes_readBytes
    : (gatherBytes frameData signal).readBytes
        =
      (UInt8.ofNat signal.mFirstBitPosition / 8).toNat :: residualBytes signal := by
  unfold gatherBytes
  rw [readBytes_foldl]
  rfl

end Extraction

section Loop

variable {V : Type} {frameData : Nat → UInt8} {frameSizeInBits : Nat}
variable {signalIDsToCollect : SignalID → Bool} {multiplexorValue : UInt8}

def isSelected (signalIDsToCollect : SignalID → Bool) (multiplexorValue : UInt8)
    (signal : CANSignalFormat V)
    : Bool :=
  signalIDsToCollect signal.mSignalID
    && (multiplexorValue == UINT8_MAX || signal.mMultiplexorValue == multiplexorValue.toNat)

theorem isSelected_iff {signal : CANSignalFormat V}
    : isSelected signalIDsToCollect multiplexorValue signal = true
        ↔
      signalIDsToCollect signal.mSignalID = true
        ∧ (multiplexorValue = UINT8_MAX ∨ signal.mMultiplexorValue = multiplexorValue.toNat) := by
  simp [isSelected]

def isInRange (frameSizeInBits : Nat) (signal : CANSignalFormat V) : Bool :=
  !isSignalOutOfRange frameSizeInBits signal && !isLittleEndianOutOfRange frameSizeInBits signal

theorem isInRange_iff {signal : CANSignalFormat V}
    : isInRange frameSizeInBits signal = true
        ↔
      signal.mFirstBitPosition < frameSizeInBits ∧ 1 ≤ signal.mSizeInBits
        ∧ signal.mSizeInBits ≤ frameSizeInBits
        ∧ (signal.mIsBigEndian = false →
            signal.mFirstBitPosition + signal.mSizeInBits ≤ frameSizeInBits) := by
  unfold isInRange isSignalOutOfRange isLittleEndianOutOfRange
  cases signal.mIsBigEndian with
  | true =>
    simp
    omega
  | false =>
    simp
    omega

theorem InsideFrame.isInRange {signal : CANSignalFormat V} {frameSize : Nat}
    (hinside : signal.InsideFrame frameSize)
    : isInRange (frameSize * 8) signal = true := by
  have hfirst := hinside.first
  have hpos := hinside.pos
  rw [isInRange_iff]
  cases hendian : signal.mIsBigEndian with
  | true =>
    have hfits := hinside.bigEndian hendian
    refine ⟨by omega, hpos, by omega, ?_⟩
    intro hfalse
    contradiction
  | false =>
    have hfits := hinside.littleEndian hendian
    refine ⟨by omega, hpos, by omega, ?_⟩
    intro _
    omega

variable [CANSignalValue V]

def decodedSignal (frameData : Nat → UInt8) (signal : CANSignalFormat V) : CANDecodedSignal V :=
  let rawValue := extractSignalFromFrame frameData signal
  ⟨signal.mSignalID, rawValue, physicalValue signal rawValue⟩

variable (frameData frameSizeInBits signalIDsToCollect multiplexorValue)

theorem decodeSignal_skip (d : Decoding V) (entry : CANSignalFormat V × Nat)
    (hselected : isSelected signalIDsToCollect multiplexorValue entry.1 = false)
    : decodeSignal frameData frameSizeInBits signalIDsToCollect multiplexorValue d entry = d := by
  unfold isSelected at hselected
  unfold decodeSignal
  dsimp only
  split
  . next hcollect =>
    rw [if_pos]
    simpa [hcollect] using hselected
  . rfl

theorem decodeSignal_error (d : Decoding V) (entry : CANSignalFormat V × Nat)
    (hselected : isSelected signalIDsToCollect multiplexorValue entry.1 = true)
    (hrange : isInRange frameSizeInBits entry.1 = false)
    : decodeSignal frameData frameSizeInBits signalIDsToCollect multiplexorValue d entry
        =
      { d with errorCounter := d.errorCounter + 1 } := by
  unfold isSelected at hselected
  unfold isInRange at hrange
  unfold decodeSignal
  dsimp only
  rw [Bool.and_eq_true] at hselected
  rw [if_pos hselected.1, if_neg]
  . split
    . rfl
    . next hout =>
      rw [if_pos]
      simpa [hout] using hrange
  . have hgroup := hselected.2
    simp at hgroup ⊢
    tauto

theorem decodeSignal_emit (d : Decoding V) (entry : CANSignalFormat V × Nat)
    (hselected : isSelected signalIDsToCollect multiplexorValue entry.1 = true)
    (hrange : isInRange frameSizeInBits entry.1 = true)
    : decodeSignal frameData frameSizeInBits signalIDsToCollect multiplexorValue d entry
        =
      d.emit frameData entry
        (physicalValue entry.1 (extractSignalFromFrame frameData entry.1)) := by
  unfold isSelected at hselected
  unfold isInRange at hrange
  unfold decodeSignal
  dsimp only
  rw [Bool.and_eq_true] at hselected hrange
  rw [if_pos hselected.1, if_neg, if_neg, if_neg]
  . simpa using hrange.2
  . simpa using hrange.1
  . have hgroup := hselected.2
    simp at hgroup ⊢
    tauto

def isEmitted (entry : CANSignalFormat V × Nat) : Bool :=
  isSelected signalIDsToCollect multiplexorValue entry.1 && isInRange frameSizeInBits entry.1

def isFailed (entry : CANSignalFormat V × Nat) : Bool :=
  isSelected signalIDsToCollect multiplexorValue entry.1 && !isInRange frameSizeInBits entry.1

theorem foldl_decodeSignal (entries : List (CANSignalFormat V × Nat)) (d : Decoding V)
    : entries.foldl (decodeSignal frameData frameSizeInBits signalIDsToCollect multiplexorValue) d
        =
      let emitted := entries.filter (isEmitted frameSizeInBits signalIDsToCollect multiplexorValue)
      let failed := entries.filter (isFailed frameSizeInBits signalIDsToCollect multiplexorValue)
      { errorCounter := d.errorCounter + UInt8.ofNat failed.length
        mSignals := d.mSignals ++ emitted.map fun entry => decodedSignal frameData entry.1
        entries := d.entries ++ emitted.map (·.2)
        readBytes := d.readBytes ++ emitted.flatMap fun entry =>
          (gatherBytes frameData entry.1).readBytes } := by
  induction entries generalizing d with
  | nil => simp
  | cons entry entries ih =>
    rw [List.foldl_cons, ih]
    cases hselected : isSelected signalIDsToCollect multiplexorValue entry.1 with
    | false =>
      rw [decodeSignal_skip _ _ _ _ d entry hselected]
      simp [isEmitted, isFailed, hselected]
    | true =>
      cases hrange : isInRange frameSizeInBits entry.1 with
      | false =>
        rw [decodeSignal_error _ _ _ _ d entry hselected hrange]
        simp [isEmitted, isFailed, hselected, hrange]
        rw [UInt8.add_assoc, UInt8.add_comm 1]
      | true =>
        rw [decodeSignal_emit _ _ _ _ d entry hselected hrange]
        simp [isEmitted, isFailed, hselected, hrange, Decoding.emit, decodedSignal]

end Loop

section Message

theorem bits_of_frameSize {frameSize : Nat} (hframe : frameSize ≤ 8)
    : u32 (frameSize * 8) = frameSize * 8 := by
  apply u32_of_lt
  omega

variable {V : Type}

def findMultiplexor (format : CANMessageFormat V) : Option (CANSignalFormat V × Nat) :=
  format.mSignals.zipIdx.find? (·.1.isMultiplexor)

def HasMultiplexor (format : CANMessageFormat V) : Prop :=
  format.mIsMultiplexed = true → findMultiplexor format ≠ none

def collectedMultiplexor (format : CANMessageFormat V) (signalIDsToCollect : SignalID → Bool)
    : Option (CANSignalFormat V × Nat) :=
  if format.mIsMultiplexed then
    (findMultiplexor format).filter fun it => signalIDsToCollect it.1.mSignalID
  else
    none

theorem collectedMultiplexor_of_not_multiplexed {format : CANMessageFormat V}
    (hmultiplexed : format.mIsMultiplexed = false) (signalIDsToCollect : SignalID → Bool)
    : collectedMultiplexor format signalIDsToCollect = none := by
  unfold collectedMultiplexor
  rw [hmultiplexed, if_neg Bool.false_ne_true]

theorem collectedMultiplexor_of_not_hasMultiplexor {format : CANMessageFormat V}
    (hmissing : ¬ HasMultiplexor format) (signalIDsToCollect : SignalID → Bool)
    : collectedMultiplexor format signalIDsToCollect = none := by
  unfold HasMultiplexor at hmissing
  rw [not_forall] at hmissing
  have ⟨hmultiplexed, hnone⟩ := hmissing
  rw [not_ne_iff] at hnone
  unfold collectedMultiplexor
  rw [if_pos hmultiplexed, hnone]
  rfl

theorem mem_of_collectedMultiplexor {format : CANMessageFormat V}
    {signalIDsToCollect : SignalID → Bool} {it : CANSignalFormat V × Nat}
    (hit : collectedMultiplexor format signalIDsToCollect = some it)
    : it ∈ format.mSignals.zipIdx := by
  unfold collectedMultiplexor findMultiplexor at hit
  split at hit
  . rw [Option.filter_eq_some_iff] at hit
    exact List.mem_of_find?_eq_some hit.1
  . contradiction

section Found

variable {format : CANMessageFormat V} {multiplexor : CANSignalFormat V} {place : Nat}

theorem hasMultiplexor_of_find (hfind : findMultiplexor format = some (multiplexor, place))
    : HasMultiplexor format := by
  intro _
  rw [hfind]
  exact Option.some_ne_none _

theorem getElem?_place (hfind : findMultiplexor format = some (multiplexor, place))
    : format.mSignals[place]? = some multiplexor := by
  have hmem : (multiplexor, place) ∈ format.mSignals.zipIdx := List.mem_of_find?_eq_some hfind
  rwa [List.mk_mem_zipIdx_iff_getElem?] at hmem

theorem collectedMultiplexor_of_find (hmultiplexed : format.mIsMultiplexed = true)
    (hfind : findMultiplexor format = some (multiplexor, place))
    (signalIDsToCollect : SignalID → Bool)
    : collectedMultiplexor format signalIDsToCollect
        =
      if signalIDsToCollect multiplexor.mSignalID then some (multiplexor, place) else none := by
  unfold collectedMultiplexor
  rw [if_pos hmultiplexed, hfind]
  simp [Option.filter]

end Found

variable [CANSignalValue V]

def multiplexedGroup (frameData : Nat → UInt8) (multiplexor : CANSignalFormat V) : UInt8 :=
  scaleMultiplexor multiplexor (extractSignalFromFrame frameData multiplexor)

def filterGroup (frameData : Nat → UInt8) (format : CANMessageFormat V)
    (signalIDsToCollect : SignalID → Bool)
    : UInt8 :=
  match collectedMultiplexor format signalIDsToCollect with
  | some it => multiplexedGroup frameData it.1
  | none => UINT8_MAX

def decodedMultiplexor (frameData : Nat → UInt8) (multiplexor : CANSignalFormat V)
    : CANDecodedSignal V :=
  ⟨multiplexor.mSignalID, extractSignalFromFrame frameData multiplexor,
    InspectionValue.ofNat (multiplexedGroup frameData multiplexor).toNat⟩

def loopEntries (frameData : Nat → UInt8) (frameSize : Nat) (format : CANMessageFormat V)
    (signalIDsToCollect : SignalID → Bool)
    : List (CANSignalFormat V × Nat) :=
  format.mSignals.zipIdx.filter (isEmitted (u32 (frameSize * 8)) signalIDsToCollect
    (filterGroup frameData format signalIDsToCollect))

def failedEntries (frameData : Nat → UInt8) (frameSize : Nat) (format : CANMessageFormat V)
    (signalIDsToCollect : SignalID → Bool)
    : List (CANSignalFormat V × Nat) :=
  format.mSignals.zipIdx.filter (isFailed (u32 (frameSize * 8)) signalIDsToCollect
    (filterGroup frameData format signalIDsToCollect))

variable (frameData : Nat → UInt8) (frameSize : Nat) (signalIDsToCollect : SignalID → Bool)
variable {format : CANMessageFormat V}

theorem decodeCANMessage_of_not_hasMultiplexor (hmissing : ¬ HasMultiplexor format)
    : decodeCANMessage frameData frameSize format signalIDsToCollect = ({}, false) := by
  unfold HasMultiplexor at hmissing
  rw [not_forall] at hmissing
  have ⟨hmultiplexed, hnone⟩ := hmissing
  rw [not_ne_iff] at hnone
  unfold findMultiplexor at hnone
  unfold decodeCANMessage CANMessageFormat.isMultiplexed
  rw [if_pos hmultiplexed, hnone]

/--
A collected multiplexor comes first, then the signals of the format in their order.
-/
theorem decodeCANMessage_eq
    (hfound : HasMultiplexor format)
    : decodeCANMessage frameData frameSize format signalIDsToCollect
        =
      let multiplexor := (collectedMultiplexor format signalIDsToCollect).toList
      let emitted := loopEntries frameData frameSize format signalIDsToCollect
      let failed := failedEntries frameData frameSize format signalIDsToCollect
      let errorCounter := UInt8.ofNat failed.length
      ({ errorCounter
         mSignals := multiplexor.map (fun it => decodedMultiplexor frameData it.1)
          ++ emitted.map fun entry => decodedSignal frameData entry.1
         entries := multiplexor.map (·.2) ++ emitted.map (·.2)
         readBytes := multiplexor.flatMap (fun it => (gatherBytes frameData it.1).readBytes)
          ++ emitted.flatMap fun entry => (gatherBytes frameData entry.1).readBytes },
        errorCounter == 0) := by
  cases hcollected : collectedMultiplexor format signalIDsToCollect with
  | none =>
    have hloop
        : decodeCANMessage frameData frameSize format signalIDsToCollect
            =
          decodeSignals frameData frameSize format signalIDsToCollect UINT8_MAX {} := by
      unfold collectedMultiplexor at hcollected
      unfold HasMultiplexor findMultiplexor at hfound
      unfold findMultiplexor at hcollected
      unfold decodeCANMessage CANMessageFormat.isMultiplexed
      split
      . next hmultiplexed =>
        have hsome := hfound hmultiplexed
        rw [Option.ne_none_iff_exists'] at hsome
        obtain ⟨it, hit⟩ := hsome
        rw [hit] at hcollected ⊢
        simp only [hmultiplexed, ↓reduceIte, Option.filter_eq_none_iff, Option.some.injEq] at hcollected
        dsimp only
        rw [if_neg (hcollected it rfl)]
      . rfl
    rw [hloop]
    unfold decodeSignals
    simp only [foldl_decodeSignal]
    simp [loopEntries, failedEntries, filterGroup, hcollected]
  | some it =>
    have hloop
        : decodeCANMessage frameData frameSize format signalIDsToCollect
            =
          decodeSignals frameData frameSize format signalIDsToCollect (multiplexedGroup frameData it.1)
            (Decoding.emit {} frameData it
              (InspectionValue.ofNat (multiplexedGroup frameData it.1).toNat)) := by
      unfold collectedMultiplexor findMultiplexor at hcollected
      unfold decodeCANMessage CANMessageFormat.isMultiplexed
      split
      . next hmultiplexed =>
        rw [if_pos hmultiplexed, Option.filter_eq_some_iff] at hcollected
        rw [hcollected.1]
        dsimp only
        rw [if_pos hcollected.2]
        rfl
      . next hmultiplexed =>
        rw [if_neg hmultiplexed] at hcollected
        contradiction
    rw [hloop]
    unfold decodeSignals
    simp only [foldl_decodeSignal]
    simp [loopEntries, failedEntries, filterGroup, hcollected, Decoding.emit, decodedMultiplexor]

theorem filterGroup_of_find {multiplexor : CANSignalFormat V} {place : Nat}
    (hmultiplexed : format.mIsMultiplexed = true)
    (hfind : findMultiplexor format = some (multiplexor, place))
    : filterGroup frameData format signalIDsToCollect
        =
      if signalIDsToCollect multiplexor.mSignalID then
        multiplexedGroup frameData multiplexor
      else
        UINT8_MAX := by
  unfold filterGroup
  rw [collectedMultiplexor_of_find hmultiplexed hfind]
  cases signalIDsToCollect multiplexor.mSignalID <;> rfl

theorem nodup_loopEntries
    : ((loopEntries frameData frameSize format signalIDsToCollect).map (·.2)).Nodup := by
  have hrange : (format.mSignals.zipIdx.map (·.2)).Nodup := by
    rw [List.zipIdx_map_snd]
    exact List.nodup_range'
  exact hrange.sublist (List.filter_sublist.map _)

theorem zip_entries_mSignals
    (hfound : HasMultiplexor format)
    : (decodeCANMessage frameData frameSize format signalIDsToCollect).1.entries.zip
        (decodeCANMessage frameData frameSize format signalIDsToCollect).1.mSignals
        =
      (collectedMultiplexor format signalIDsToCollect).toList.map
          (fun it => (it.2, decodedMultiplexor frameData it.1))
        ++ (loopEntries frameData frameSize format signalIDsToCollect).map
          fun entry => (entry.2, decodedSignal frameData entry.1) := by
  rw [decodeCANMessage_eq frameData frameSize signalIDsToCollect hfound]
  dsimp only
  rw [List.zip_append (by simp), List.zip_map', List.zip_map']

theorem mem_loopEntries_iff {entry : CANSignalFormat V × Nat}
    : entry ∈ loopEntries frameData frameSize format signalIDsToCollect
        ↔
      format.mSignals[entry.2]? = some entry.1
        ∧ isSelected signalIDsToCollect (filterGroup frameData format signalIDsToCollect) entry.1 = true
        ∧ isInRange (u32 (frameSize * 8)) entry.1 = true := by
  unfold loopEntries
  rw [List.mem_filter, List.mem_zipIdx_iff_getElem?]
  simp [isEmitted]

theorem loopEntries_length_le
    : (loopEntries frameData frameSize format signalIDsToCollect).length ≤ format.mSignals.length := by
  unfold loopEntries
  have hle := List.length_filter_le (isEmitted (u32 (frameSize * 8)) signalIDsToCollect
    (filterGroup frameData format signalIDsToCollect)) format.mSignals.zipIdx
  rwa [List.length_zipIdx] at hle

theorem mSignals_length_le
    : (decodeCANMessage frameData frameSize format signalIDsToCollect).1.mSignals.length
        ≤ format.mSignals.length + 1 := by
  by_cases hfound : HasMultiplexor format
  . have hloop := @loopEntries_length_le V _ frameData frameSize signalIDsToCollect format
    rw [decodeCANMessage_eq frameData frameSize signalIDsToCollect hfound]
    dsimp only
    rw [List.length_append, List.length_map, List.length_map]
    cases collectedMultiplexor format signalIDsToCollect <;> simp <;> omega
  . rw [decodeCANMessage_of_not_hasMultiplexor frameData frameSize signalIDsToCollect hfound]
    simp

theorem mem_entries_iff {idx : Nat}
    : idx ∈ (decodeCANMessage frameData frameSize format signalIDsToCollect).1.entries
        ↔
      (∃ it, collectedMultiplexor format signalIDsToCollect = some it ∧ it.2 = idx)
        ∨ (HasMultiplexor format
            ∧ ∃ entry ∈ loopEntries frameData frameSize format signalIDsToCollect, entry.2 = idx) := by
  by_cases hfound : HasMultiplexor format
  . rw [decodeCANMessage_eq frameData frameSize signalIDsToCollect hfound]
    dsimp only
    rw [List.mem_append, List.mem_map, List.mem_map]
    simp only [Option.mem_toList, hfound, true_and]
  . rw [decodeCANMessage_of_not_hasMultiplexor frameData frameSize signalIDsToCollect hfound]
    rw [collectedMultiplexor_of_not_hasMultiplexor hfound]
    simp [hfound]

theorem mem_entries_iff_of_getElem? {idx : Nat} {signal : CANSignalFormat V}
    (hsignal : format.mSignals[idx]? = some signal)
    : idx ∈ (decodeCANMessage frameData frameSize format signalIDsToCollect).1.entries
        ↔
      collectedMultiplexor format signalIDsToCollect = some (signal, idx)
        ∨ (HasMultiplexor format
            ∧ isSelected signalIDsToCollect (filterGroup frameData format signalIDsToCollect) signal = true
            ∧ isInRange (u32 (frameSize * 8)) signal = true) := by
  rw [mem_entries_iff]
  apply or_congr
  . constructor
    . intro ⟨it, hit, heq⟩
      have hentry := List.mem_zipIdx_iff_getElem?.mp (mem_of_collectedMultiplexor hit)
      rw [heq, hsignal, Option.some.injEq] at hentry
      rw [hit, hentry, ← heq]
    . intro hit
      exact ⟨_, hit, rfl⟩
  . apply and_congr_right
    intro _
    constructor
    . intro ⟨entry, hentry, heq⟩
      rw [mem_loopEntries_iff, heq, hsignal, Option.some.injEq] at hentry
      rw [hentry.1]
      exact hentry.2
    . intro hselected
      refine ⟨(signal, idx), ?_, rfl⟩
      rw [mem_loopEntries_iff]
      exact ⟨hsignal, hselected⟩

theorem mem_readBytes_iff {byte : Nat}
    : byte ∈ (decodeCANMessage frameData frameSize format signalIDsToCollect).1.readBytes
        ↔
      (∃ it, collectedMultiplexor format signalIDsToCollect = some it
          ∧ byte ∈ (gatherBytes frameData it.1).readBytes)
        ∨ (HasMultiplexor format
            ∧ ∃ entry ∈ loopEntries frameData frameSize format signalIDsToCollect,
                byte ∈ (gatherBytes frameData entry.1).readBytes) := by
  by_cases hfound : HasMultiplexor format
  . rw [decodeCANMessage_eq frameData frameSize signalIDsToCollect hfound]
    dsimp only
    rw [List.mem_append, List.mem_flatMap, List.mem_flatMap]
    simp only [Option.mem_toList, hfound, true_and]
  . rw [decodeCANMessage_of_not_hasMultiplexor frameData frameSize signalIDsToCollect hfound]
    rw [collectedMultiplexor_of_not_hasMultiplexor hfound]
    simp [hfound]

end Message

end CANDecoder

end DataManagement
