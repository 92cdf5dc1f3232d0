import FleetWiseEdge.Lib.BigEndian
import FleetWiseEdge.Decoding.Impl.OBDDataDecoder

namespace DataManagement

open Cpp DataInspection

section Format

variable {V : Type}

structure PIDSignalDecoderFormat.WellFormed (format : PIDSignalDecoderFormat V) : Prop where
  response : format.mPidResponseLength ≤ 255
  inside : format.mStartByte + format.mByteLength ≤ format.mPidResponseLength
  layout : 1 ≤ format.mByteLength ∧ format.mByteLength ≤ 8 ∧ format.mBitRightShift = 0
      ∧ format.mBitMaskLength = 8
    ∨ format.mByteLength = 1 ∧ format.mBitRightShift + format.mBitMaskLength ≤ 8

namespace PIDSignalDecoderFormat

variable {format : PIDSignalDecoderFormat V}

def signalBytes (format : PIDSignalDecoderFormat V) (data : List UInt8) : List UInt8 :=
  (data.drop format.mStartByte).take format.mByteLength

-- The number of bits that are kept: the mask is for the first byte, the other bytes are taken whole.
def sizeInBits (format : PIDSignalDecoderFormat V) : Nat :=
  (format.mByteLength - 1) * BYTE_SIZE + format.mBitMaskLength

def rawNumber (format : PIDSignalDecoderFormat V) (data : List UInt8) : Nat :=
  (BigEndian.decode (format.signalBytes data) >>> format.mBitRightShift) % 2 ^ format.sizeInBits

theorem WellFormed.firstBit (h : format.WellFormed) (signalID : SignalID)
    : (format.signalFormat signalID).mFirstBitPosition
        =
      format.mStartByte * BYTE_SIZE + format.mBitRightShift := by
  have hresponse := h.response
  have hinside := h.inside
  have hlayout := h.layout
  unfold signalFormat BYTE_SIZE
  dsimp only
  rw [u64_of_lt (by omega)]
  unfold u16
  omega

theorem WellFormed.size (h : format.WellFormed) (signalID : SignalID)
    : (format.signalFormat signalID).mSizeInBits = format.sizeInBits := by
  have hlayout := h.layout
  unfold signalFormat sizeInBits BYTE_SIZE
  dsimp only
  rw [subU64_of_le (by omega) (by omega), u64_of_lt (by omega)]
  unfold u16
  omega

end PIDSignalDecoderFormat

end Format

namespace OBDDataDecoder

variable {V : Type} {inputData : List UInt8}

theorem concatBytes_eq {byteIdx numOfBytes rawData k : Nat}
    (hinside : byteIdx + numOfBytes ≤ inputData.length) (hraw : rawData < 256 ^ k)
    (hk : k + numOfBytes ≤ 8)
    : concatBytes inputData byteIdx numOfBytes rawData
        =
      rawData * 256 ^ numOfBytes + BigEndian.decode ((inputData.drop byteIdx).take numOfBytes) := by
  induction numOfBytes generalizing byteIdx rawData k with
  | zero => simp [concatBytes]
  | succ n ih =>
    have hlt : byteIdx < inputData.length := by omega
    have hnext : rawData * 256 + inputData[byteIdx].toNat < 256 ^ (k + 1) := by
      have hbyte := inputData[byteIdx].toNat_lt
      rw [pow_succ]
      omega
    have hfits : rawData <<< 8 < 2 ^ 64 := by
      calc rawData <<< 8
        _ = rawData * 256 := Nat.shiftLeft_eq rawData 8
        _ < 256 ^ (k + 1) := Nat.lt_of_le_of_lt (Nat.le_add_right _ _) hnext
        _ ≤ 256 ^ 8 := Nat.pow_le_pow_right (by omega) (by omega)
        _ = 2 ^ 64 := by norm_num
    unfold concatBytes BYTE_SIZE
    rw [u64_of_lt hfits]
    rw [List.getElem?_eq_getElem hlt, Option.getD_some]
    rw [BigEndian.shiftLeft_or]
    rw [ih (by omega) hnext (by omega)]
    rw [List.drop_eq_getElem_cons hlt, List.take_succ_cons, BigEndian.decode_cons]
    rw [List.length_take, List.length_drop, Nat.min_eq_left (by omega)]
    ring

theorem mask_eq (n : Nat) {size : Nat} (h : size < 8) : n &&& (0xFF >>> (8 - size)) = n % 2 ^ size := by
  have hmask : ∀ size < 8, 0xFF >>> (8 - size) = 2 ^ size - 1 := by decide
  rw [hmask size h]
  rw [Nat.and_two_pow_sub_one_eq_mod]

variable {format : PIDSignalDecoderFormat V} {byteCounter : Nat}

theorem signalBytes_record (h : format.WellFormed)
    : format.signalBytes ((inputData.drop byteCounter).take format.mPidResponseLength)
        =
      (inputData.drop (byteCounter + format.mStartByte)).take format.mByteLength := by
  have hinside := h.inside
  unfold PIDSignalDecoderFormat.signalBytes
  rw [List.drop_take, List.take_take, List.drop_drop]
  rw [Nat.min_eq_left (by omega)]

theorem rawValue_bytes (h : format.WellFormed) (signalID : SignalID)
    (hinside : byteCounter + format.mPidResponseLength ≤ inputData.length)
    (hlength : 1 ≤ format.mByteLength ∧ format.mByteLength ≤ 8) (hshift : format.mBitRightShift = 0)
    (hmask : format.mBitMaskLength = 8)
    : rawValue inputData byteCounter (format.signalFormat signalID)
        =
      format.rawNumber ((inputData.drop byteCounter).take format.mPidResponseLength) := by
  have hbytes := h.inside
  have hsize : format.sizeInBits = format.mByteLength * 8 := by
    unfold PIDSignalDecoderFormat.sizeInBits BYTE_SIZE
    omega
  have hlt : BigEndian.decode (format.signalBytes
      ((inputData.drop byteCounter).take format.mPidResponseLength)) < 2 ^ format.sizeInBits := by
    have hdecode := BigEndian.decode_lt (format.signalBytes
      ((inputData.drop byteCounter).take format.mPidResponseLength))
    rw [signalBytes_record h, List.length_take, List.length_drop] at hdecode
    rw [Nat.min_eq_left (by omega)] at hdecode
    rw [signalBytes_record h, hsize, Nat.mul_comm, Nat.pow_mul]
    exact hdecode
  unfold rawValue PIDSignalDecoderFormat.rawNumber
  dsimp only
  rw [h.firstBit, h.size, hshift, Nat.shiftRight_zero, Nat.mod_eq_of_lt hlt]
  rw [hsize]
  unfold BYTE_SIZE
  rw [if_neg (by omega)]
  rw [Nat.add_zero, Nat.mul_div_cancel _ (by omega), Nat.mul_div_cancel _ (by omega)]
  rw [@concatBytes_eq _ _ _ _ 0 (by omega) (by omega) (by omega)]
  rw [signalBytes_record h]
  omega

theorem rawValue_bits (h : format.WellFormed) (signalID : SignalID)
    (hinside : byteCounter + format.mPidResponseLength ≤ inputData.length)
    (hlength : format.mByteLength = 1) (hmask : format.mBitMaskLength < 8)
    (hshift : format.mBitRightShift + format.mBitMaskLength ≤ 8)
    : rawValue inputData byteCounter (format.signalFormat signalID)
        =
      format.rawNumber ((inputData.drop byteCounter).take format.mPidResponseLength) := by
  have hbytes := h.inside
  have hsize : format.sizeInBits = format.mBitMaskLength := by
    unfold PIDSignalDecoderFormat.sizeInBits
    simp [hlength]
  unfold rawValue PIDSignalDecoderFormat.rawNumber
  dsimp only
  rw [h.firstBit, h.size, hsize]
  unfold BYTE_SIZE
  rw [if_pos hmask, mask_eq _ hmask]
  by_cases hzero : format.mBitMaskLength = 0
  . rw [hzero, Nat.pow_zero, Nat.mod_one, Nat.mod_one]
  . have hfirst : (format.mStartByte * 8 + format.mBitRightShift) / 8 = format.mStartByte := by omega
    have hbit : (format.mStartByte * 8 + format.mBitRightShift) % 8 = format.mBitRightShift := by omega
    have hlt : byteCounter + format.mStartByte < inputData.length := by omega
    rw [hfirst, hbit, signalBytes_record h, hlength]
    rw [List.drop_eq_getElem_cons hlt, List.take_succ_cons, List.take_zero]
    rw [BigEndian.decode_singleton]
    rw [List.getElem?_eq_getElem hlt, Option.getD_some]

theorem rawValue_eq (h : format.WellFormed) (signalID : SignalID)
    (hinside : byteCounter + format.mPidResponseLength ≤ inputData.length)
    : rawValue inputData byteCounter (format.signalFormat signalID)
        =
      format.rawNumber ((inputData.drop byteCounter).take format.mPidResponseLength) := by
  cases h.layout with
  | inl hwhole => exact rawValue_bytes h signalID hinside ⟨hwhole.1, hwhole.2.1⟩ hwhole.2.2.1 hwhole.2.2.2
  | inr hbits =>
    have ⟨hlength, hshift⟩ := hbits
    by_cases hmask : format.mBitMaskLength = 8
    . exact rawValue_bytes h signalID hinside (by omega) (by omega) hmask
    . exact rawValue_bits h signalID hinside hlength (by omega) hshift

theorem isFormulaValid_iff (h : format.WellFormed) (signalID : SignalID)
    {dictionary : OBDDecoderDictionary V} {pid : PID} {messageFormat : CANMessageFormat V}
    (hdictionary : dictionary pid = some messageFormat)
    (hlength : messageFormat.mSizeInBytes = format.mPidResponseLength)
    : isFormulaValid dictionary pid (format.signalFormat signalID) = true
        ↔
      format.mStartByte * BYTE_SIZE + format.mBitRightShift < format.mPidResponseLength * BYTE_SIZE := by
  have hinside := h.inside
  have hlayout := h.layout
  have hand (n : Nat) : n &&& 7 = n % 8 := Nat.and_two_pow_sub_one_eq_mod n 3
  unfold isFormulaValid
  rw [hdictionary]
  dsimp only
  rw [h.firstBit, h.size, hlength, hand, hand]
  unfold PIDSignalDecoderFormat.sizeInBits BYTE_SIZE
  simp only [Bool.and_eq_true, Bool.or_eq_true, decide_eq_true_eq]
  omega

section Formulas

variable [InspectionValue V] {dictionary : OBDDecoderDictionary V} {pid : PID}
variable {info : EmissionInfo V} {formula : CANSignalFormat V} {formulas : List (CANSignalFormat V)}
variable {signalID : SignalID}

def physicalValue (inputData : List UInt8) (byteCounter : Nat) (formula : CANSignalFormat V) : V :=
  InspectionValue.add
    (InspectionValue.mul (InspectionValue.ofNat (rawValue inputData byteCounter formula)) formula.mFactor)
    formula.mOffset

theorem decodeFormula_values
    : (decodeFormula dictionary inputData pid byteCounter info formula).mPIDsToValues[signalID]?
        =
      if formula.mSignalID = signalID ∧ isFormulaValid dictionary pid formula = true then
        info.mPIDsToValues[signalID]?.or (some (physicalValue inputData byteCounter formula))
      else
        info.mPIDsToValues[signalID]? := by
  unfold decodeFormula
  split
  . next hvalid =>
    dsimp only
    rw [Std.ExtTreeMap.getElem?_insertIfNew]
    cases hvalue : info.mPIDsToValues[signalID]? with
    | none =>
      by_cases heq : formula.mSignalID = signalID
      . simp [heq, hvalid, Std.ExtTreeMap.mem_iff_isSome_getElem?, hvalue, physicalValue]
      . simp [heq]
    | some value =>
      have hmem : signalID ∈ info.mPIDsToValues := by
        rw [Std.ExtTreeMap.mem_iff_isSome_getElem?, hvalue]
        rfl
      split
      . next hnew =>
        have heq : formula.mSignalID = signalID := by simpa using hnew.1
        rw [heq] at hnew
        exact absurd hmem hnew.2
      . simp
  . next hinvalid => simp [hinvalid]

theorem decodeFormulas_other (hother : ∀ formula ∈ formulas, formula.mSignalID ≠ signalID)
    : (formulas.foldl (decodeFormula dictionary inputData pid byteCounter) info).mPIDsToValues[signalID]?
        =
      info.mPIDsToValues[signalID]? := by
  induction formulas generalizing info with
  | nil => rfl
  | cons head rest ih =>
    rw [List.foldl_cons, ih (fun formula hmem => hother formula (List.mem_cons_of_mem _ hmem))]
    rw [decodeFormula_values]
    have hne := hother head List.mem_cons_self
    simp [hne]

theorem decodeFormulas_same (hmem : formula ∈ formulas) (hid : formula.mSignalID = signalID)
    (hvalid : isFormulaValid dictionary pid formula = true)
    (hsame : ∀ formula' ∈ formulas, formula'.mSignalID = signalID → formula' = formula)
    : (formulas.foldl (decodeFormula dictionary inputData pid byteCounter) info).mPIDsToValues[signalID]?
        =
      info.mPIDsToValues[signalID]?.or (some (physicalValue inputData byteCounter formula)) := by
  induction formulas generalizing info with
  | nil => simp at hmem
  | cons head rest ih =>
    have hrest : ∀ formula' ∈ rest, formula'.mSignalID = signalID → formula' = formula :=
      fun formula' hmem => hsame formula' (List.mem_cons_of_mem _ hmem)
    rw [List.foldl_cons]
    by_cases hin : formula ∈ rest
    . rw [ih hin hrest, decodeFormula_values]
      split
      . next hhead =>
        have heq := hsame head List.mem_cons_self hhead.1
        rw [heq, Option.or_assoc, Option.or_self]
      . rfl
    . have hhead : head = formula := by
        rw [List.mem_cons] at hmem
        cases hmem with
        | inl heq => exact heq.symm
        | inr hrest => contradiction
      rw [decodeFormulas_other]
      . rw [decodeFormula_values, hhead, if_pos ⟨hid, hvalid⟩]
      . intro formula' hmem' hid'
        rw [hrest formula' hmem' hid'] at hmem'
        contradiction

end Formulas

section Response

variable {dictionary : OBDDecoderDictionary V} {pids : List PID} {ecuResponse : List UInt8}

def records (responseLength : PID → Nat) (pids : List PID) (bytes : List UInt8)
    : List (PID × List UInt8) :=
  match pids with
  | [] => []
  | pid :: pids =>
    (pid, (bytes.drop 1).take (responseLength pid))
      :: records responseLength pids (bytes.drop (1 + responseLength pid))

theorem lookup_records_cons {responseLength : PID → Nat} {pid target : PID} {bytes : List UInt8}
    : (records responseLength (pid :: pids) bytes).lookup target
        =
      if target = pid then
        some ((bytes.drop 1).take (responseLength pid))
      else
        (records responseLength pids (bytes.drop (1 + responseLength pid))).lookup target := by
  conv => lhs; unfold records
  rw [List.lookup_cons]
  split
  . next heq => rw [if_pos (by simpa using heq)]
  . next hne => rw [if_neg (by simpa using hne)]

theorem checkPIDs_cons {pid : PID} {start stop : Nat}
    (h : checkPIDs dictionary ecuResponse start (pid :: pids) = some stop)
    : ecuResponse[start]? = some pid
        ∧
      ∃ format, dictionary pid = some format
        ∧ checkPIDs dictionary ecuResponse (start + (format.mSizeInBytes + 1)) pids = some stop := by
  unfold checkPIDs at h
  split at h
  . contradiction
  . next hpid =>
    split at h
    . contradiction
    . next format hformat =>
      constructor
      . simpa using hpid
      . exact ⟨format, hformat, h⟩

theorem checkPIDs_le {start stop : Nat} (h : checkPIDs dictionary ecuResponse start pids = some stop)
    : start ≤ stop := by
  induction pids generalizing start with
  | nil =>
    unfold checkPIDs at h
    rw [Option.some.injEq] at h
    omega
  | cons pid pids ih =>
    have ⟨_, format, _, hrest⟩ := checkPIDs_cons h
    have hle := ih hrest
    omega

end Response

end OBDDataDecoder

end DataManagement
