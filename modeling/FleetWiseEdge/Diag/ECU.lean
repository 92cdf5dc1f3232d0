import Mathlib.Data.List.TakeWhile
import FleetWiseEdge.Lib.BitField
import FleetWiseEdge.Decoding.SupportedPIDs
import FleetWiseEdge.Diag.Impl.OBDWorker

/-!
This module contains an ECU as the diagnostic standard describes it: the PIDs that it supports and how it
answers requests. What the module discovers of such an ECU is what it supports.
-/

namespace DataInspection

open Cpp DataManagement OBDDataDecoder

def rangeOf (pid : PID) : PID := UInt8.ofNat ((pid.toNat - 1) / 32 * 32)

/--
`ranges` are the ranges whose request is answered, among them those with a supported PID.
-/
structure ECU where
  supported : PID → Bool
  ranges : PID → Bool
  ranges_of_supported : ∀ pid, supported pid = true → pid ∉ supportedPIDRange → ranges (rangeOf pid) = true

namespace ECU

variable (ecu : ECU)

def answers (pid : PID) : Bool :=
  if pid ∈ supportedPIDRange then ecu.ranges pid else ecu.supported pid

def supportBit (index : Nat) : Bool := decide (index < 256) && ecu.answers (UInt8.ofNat index)

def maskByte (base : PID) (k : Nat) : UInt8 :=
  ⟨BitField.ofBits (fun j => ecu.supportBit (base.toNat + (8 * (k + 1) - j))) 8⟩

def supportBlock (base : PID) : SupportBlock where
  base := base
  mask := [ecu.maskByte base 0, ecu.maskByte base 1, ecu.maskByte base 2, ecu.maskByte base 3]

def record (data : PID → List UInt8) (pid : PID) : List UInt8 :=
  if pid ∈ supportedPIDRange then
    pid :: (ecu.supportBlock pid).mask
  else
    pid :: data pid

def answer (data : PID → List UInt8) (pids : List PID) : Option (List UInt8) :=
  let answered := pids.filter ecu.answers
  if answered.isEmpty then none else some (0x41 :: answered.flatMap (ecu.record data))

def respond (data : PID → List UInt8) (pdu : List UInt8) : Option (List UInt8) :=
  match pdu with
  | sid :: pids => if sid = 0x01 then ecu.answer data pids else none
  | [] => none

/--
The PIDs that the module can find. 0xFF stands for no PID there.
-/
def Discoverable (pid : PID) : Prop :=
  ecu.supported pid = true ∧ pid ∉ supportedPIDRange ∧ pid ≠ INVALID_PID

section Blocks

variable {ecu}

theorem supportBlock_mask_length (base : PID) : (ecu.supportBlock base).mask.length = 4 := rfl

theorem testBit_maskByte (base : PID) (k : Nat) {j : Nat} (hj : j < 8)
    : (ecu.maskByte base k).toNat.testBit j = ecu.supportBit (base.toNat + (8 * (k + 1) - j)) := by
  unfold maskByte UInt8.toNat
  rw [BitVec.testBit_toNat, BitField.getLsbD_ofBits]
  simp [hj]

theorem supportBlock_maskBit (base : PID) {distance : Nat} (hpos : 1 ≤ distance) (hle : distance ≤ 32)
    : (ecu.supportBlock base).maskBit distance = ecu.supportBit (base.toNat + distance) := by
  have hbyte : (ecu.supportBlock base).mask[(distance - 1) / 8]?
      = some (ecu.maskByte base ((distance - 1) / 8)) := by
    have hlt : (distance - 1) / 8 < 4 := by omega
    generalize (distance - 1) / 8 = k at hlt
    have hcases : k = 0 ∨ k = 1 ∨ k = 2 ∨ k = 3 := by omega
    obtain rfl | rfl | rfl | rfl := hcases <;> rfl
  have hindex : 8 * ((distance - 1) / 8 + 1) - (7 - (distance - 1) % 8) = distance := by omega
  unfold SupportBlock.maskBit
  rw [hbyte, Option.getD_some, testBit_maskByte _ _ (by omega), hindex]

theorem supportBlocks_records (data : PID → List UInt8) {bases : List PID}
    (h : ∀ base ∈ bases, base ∈ supportedPIDRange)
    : supportBlocks (bases.flatMap (ecu.record data)) = bases.map ecu.supportBlock := by
  induction bases with
  | nil => rfl
  | cons base bases ih =>
    have hrecord : ecu.record data base = base :: (ecu.supportBlock base).mask := if_pos (h base (by simp))
    rw [List.flatMap_cons, hrecord]
    unfold supportBlock
    simp only [List.cons_append, List.nil_append]
    conv => lhs; unfold supportBlocks
    rw [ih fun base hbase => h base (List.mem_cons_of_mem _ hbase)]
    rfl

theorem length_records (ecu : ECU) (data : PID → List UInt8) {bases : List PID}
    (h : ∀ base ∈ bases, base ∈ supportedPIDRange)
    : (bases.flatMap (ecu.record data)).length = 5 * bases.length := by
  induction bases with
  | nil => rfl
  | cons base bases ih =>
    have hrecord : ecu.record data base = base :: (ecu.supportBlock base).mask := if_pos (h base (by simp))
    rw [List.flatMap_cons, List.length_append, hrecord, ih fun base hbase => h base (List.mem_cons_of_mem _ hbase)]
    simp only [List.length_cons, supportBlock_mask_length]
    omega

theorem isRange_of_mem {base : PID} (h : base ∈ supportedPIDRange) : (ecu.supportBlock base).isRange = true := by
  have hall : ∀ base ∈ supportedPIDRange, base.toNat % 0x20 = 0 := by decide +kernel
  exact decide_eq_true (hall base h)

theorem mem_blockPIDs_supportBlock {base pid : PID} (hbase : base ∈ supportedPIDRange)
    : pid ∈ blockPIDs (ecu.supportBlock base) ↔ ecu.Discoverable pid ∧ rangeOf pid = base := by
  have hmod : base.toNat % 32 = 0 := of_decide_eq_true (ecu.isRange_of_mem hbase)
  have hlt := base.toNat_lt
  have hzero : (0 : PID) ∈ supportedPIDRange := by decide
  rw [mem_blockPIDs_iff (supportBlock_mask_length base)]
  unfold Discoverable SupportBlock.Supports
  have hrange : ∀ distance, 1 ≤ distance → distance ≤ 32 → pid.toNat = base.toNat + distance
      → (pid.toNat - 1) / 32 * 32 = base.toNat := by
    intro distance hpos hle htoNat
    omega
  constructor
  . intro ⟨hnot, hne, distance, hpos, hle, htoNat, hbit⟩
    change pid.toNat = base.toNat + distance at htoNat
    rw [supportBlock_maskBit base hpos hle, ← htoNat] at hbit
    unfold supportBit answers at hbit
    rw [UInt8.ofNat_toNat, if_neg hnot, Bool.and_eq_true] at hbit
    refine ⟨⟨hbit.2, hnot, hne⟩, ?_⟩
    unfold rangeOf
    rw [hrange distance hpos hle htoNat, UInt8.ofNat_toNat]
  . intro ⟨⟨hsupported, hnot, hne⟩, hof⟩
    have hpos : pid.toNat ≠ 0 := by
      intro h
      apply hnot
      have : pid = 0 := UInt8.toNat_inj.mp h
      rw [this]
      exact hzero
    have hpid := pid.toNat_lt
    have hbaseNat : base.toNat = (pid.toNat - 1) / 32 * 32 := by
      rw [← hof]
      unfold rangeOf
      apply UInt8.toNat_ofNat_of_lt'
      change _ < 256
      omega
    refine ⟨hnot, hne, pid.toNat - base.toNat, by omega, by omega, ?_, ?_⟩
    . change pid.toNat = base.toNat + (pid.toNat - base.toNat)
      omega
    . have hsum : base.toNat + (pid.toNat - base.toNat) = pid.toNat := by omega
      rw [supportBlock_maskBit base (by omega) (by omega), hsum]
      unfold supportBit answers
      rw [UInt8.ofNat_toNat, if_neg hnot, hsupported]
      simp [hpid]

end Blocks

section Discovery

open OBDOverCANModule

variable {ecu}

def foundIn (ecu : ECU) (bases : List PID) : List PID :=
  ((bases.filter ecu.answers).map ecu.supportBlock).flatMap blockPIDs

theorem mem_foundIn {bases : List PID} (h : ∀ base ∈ bases, base ∈ supportedPIDRange) {pid : PID}
    : pid ∈ ecu.foundIn bases ↔ ecu.Discoverable pid ∧ rangeOf pid ∈ bases := by
  unfold foundIn
  rw [List.flatMap_map, List.mem_flatMap]
  constructor
  . intro ⟨base, hbase, hpid⟩
    have hmem := List.mem_of_mem_filter hbase
    rw [mem_blockPIDs_supportBlock (h base hmem)] at hpid
    exact ⟨hpid.1, hpid.2 ▸ hmem⟩
  . intro ⟨hdiscoverable, hmem⟩
    refine ⟨rangeOf pid, ?_, (mem_blockPIDs_supportBlock (h _ hmem)).mpr ⟨hdiscoverable, rfl⟩⟩
    rw [List.mem_filter]
    refine ⟨hmem, ?_⟩
    unfold answers
    rw [if_pos (h _ hmem)]
    exact ecu.ranges_of_supported pid hdiscoverable.1 hdiscoverable.2.1

theorem receiveSupportedPIDs_answer (ecu : ECU) (data : PID → List UInt8) {bases : List PID}
    (h : ∀ base ∈ bases, base ∈ supportedPIDRange) (supportedPIDs : SupportedPIDs)
    : ∃ found, receiveSupportedPIDs .CURRENT_STATS (ecu.answer data bases) supportedPIDs
          = (found, !(bases.filter ecu.answers).isEmpty && !found.isEmpty)
        ∧ ∀ pid, pid ∈ found ↔ pid ∈ supportedPIDs ∨ pid ∈ ecu.foundIn bases := by
  unfold answer foundIn
  dsimp only
  have hanswered : ∀ base ∈ bases.filter ecu.answers, base ∈ supportedPIDRange :=
    fun base hbase => h base (List.mem_of_mem_filter hbase)
  generalize bases.filter ecu.answers = answered at hanswered
  by_cases hnil : answered.isEmpty = true
  . rw [if_pos hnil]
    refine ⟨supportedPIDs, by simp [receiveSupportedPIDs, hnil], ?_⟩
    rw [List.isEmpty_iff] at hnil
    simp [hnil]
  . rw [if_neg hnil]
    have hlength := length_records ecu data hanswered
    have hpos : 0 < answered.length := by
      rw [List.length_pos_iff]
      exact fun h => hnil (by rw [h]; rfl)
    have hdecode : decodeSupportedPIDs .CURRENT_STATS (0x41 :: answered.flatMap (ecu.record data)) supportedPIDs
        = some ((supportedPIDs ++ (answered.map ecu.supportBlock).flatMap blockPIDs).insertionSort (· ≤ ·),
          !((supportedPIDs ++ (answered.map ecu.supportBlock).flatMap blockPIDs).insertionSort (· ≤ ·)).isEmpty) := by
      have hblocks : (supportBlocks (answered.flatMap (ecu.record data))).takeWhile (·.isRange)
          = answered.map ecu.supportBlock := by
        rw [supportBlocks_records data hanswered, List.takeWhile_eq_self_iff]
        intro block hblock
        have ⟨base, hbase, heq⟩ := List.mem_map.mp hblock
        rw [← heq]
        exact isRange_of_mem (hanswered base hbase)
      unfold decodeSupportedPIDs
      rw [if_neg]
      . rw [List.drop_succ_cons, List.drop_zero, decodeMasks_eq _ (by omega) (by omega), hblocks]
        rfl
      . simp only [List.length_cons, hlength, POSITIVE_ECU_RESPONSE_BASE, SIDs.toUType, List.getElem?_cons_zero,
          Option.getD_some]
        simp
        omega
    refine ⟨(supportedPIDs ++ (answered.map ecu.supportBlock).flatMap blockPIDs).insertionSort (· ≤ ·), ?_, ?_⟩
    . unfold receiveSupportedPIDs
      dsimp only
      rw [hdecode, Option.getD_some]
      simp [hnil]
    . intro pid
      rw [List.mem_insertionSort, List.mem_append]

theorem requestReceiveSupportedPIDs_respond (ecu : ECU) (data : PID → List UInt8)
    : ∃ found received, requestReceiveSupportedPIDs .CURRENT_STATS (ecu.respond data) = (found, received)
        ∧ (∀ pid, pid ∈ found ↔ ecu.Discoverable pid)
        ∧ (received = true ↔ ∃ pid, ecu.Discoverable pid) := by
  have hfirst : ∀ base ∈ supportedPIDRange.take MAX_PID_RANGE, base ∈ supportedPIDRange :=
    fun base hbase => List.mem_of_mem_take hbase
  have hsecond : ∀ base ∈ supportedPIDRange.drop MAX_PID_RANGE, base ∈ supportedPIDRange :=
    fun base hbase => List.mem_of_mem_drop hbase
  obtain ⟨first, heq, hmem⟩ := receiveSupportedPIDs_answer ecu data hfirst []
  obtain ⟨second, heq', hmem'⟩ := receiveSupportedPIDs_answer ecu data hsecond first
  have hrange : ∀ pid, rangeOf pid ∈ supportedPIDRange.take MAX_PID_RANGE
      ∨ rangeOf pid ∈ supportedPIDRange.drop MAX_PID_RANGE := by
    intro pid
    rw [← List.mem_append, List.take_append_drop]
    have hlt := pid.toNat_lt
    have hquotient : (pid.toNat - 1) / 32 < 8 := by omega
    have hall : ∀ q < 8, UInt8.ofNat (q * 32) ∈ supportedPIDRange := by decide +kernel
    exact hall _ hquotient
  have hfound : ∀ pid, pid ∈ second ↔ ecu.Discoverable pid := by
    intro pid
    rw [hmem', hmem, mem_foundIn hfirst, mem_foundIn hsecond]
    simp only [List.not_mem_nil, false_or]
    constructor
    . intro h
      cases h with
      | inl h => exact h.1
      | inr h => exact h.1
    . intro h
      cases hrange pid with
      | inl hin => exact Or.inl ⟨h, hin⟩
      | inr hin => exact Or.inr ⟨h, hin⟩
  have hrun : requestReceiveSupportedPIDs .CURRENT_STATS (ecu.respond data)
      = (second, (!((supportedPIDRange.take MAX_PID_RANGE).filter ecu.answers).isEmpty && !first.isEmpty)
          || (!((supportedPIDRange.drop MAX_PID_RANGE).filter ecu.answers).isEmpty && !second.isEmpty)) := by
    have hrequest : requestPIDs .CURRENT_STATS (supportedPIDRange.take MAX_PID_RANGE)
        = some (0x01 :: supportedPIDRange.take MAX_PID_RANGE) := rfl
    have hrequest' : requestPIDs .CURRENT_STATS (supportedPIDRange.drop MAX_PID_RANGE)
        = some (0x01 :: supportedPIDRange.drop MAX_PID_RANGE) := rfl
    have hrespond : ∀ pids, ecu.respond data (0x01 :: pids) = ecu.answer data pids := by
      intro pids
      unfold respond
      dsimp only
      rw [if_pos rfl]
    unfold requestReceiveSupportedPIDs
    rw [if_pos (by decide)]
    dsimp only
    rw [hrequest, hrequest']
    dsimp only
    rw [hrespond, hrespond, heq, heq']
  refine ⟨_, _, hrun, hfound, ?_⟩
  rw [Bool.or_eq_true, Bool.and_eq_true, Bool.and_eq_true]
  constructor
  . intro h
    have hne : ∃ pid, pid ∈ second := by
      cases h with
      | inl h =>
        have hnonempty := h.2
        cases hlist : first with
        | nil => simp [hlist] at hnonempty
        | cons pid pids => exact ⟨pid, (hmem' pid).mpr (Or.inl (by rw [hlist]; simp))⟩
      | inr h =>
        have hnonempty := h.2
        cases hlist : second with
        | nil => simp [hlist] at hnonempty
        | cons pid pids => exact ⟨pid, by simp⟩
    have ⟨pid, hpid⟩ := hne
    exact ⟨pid, (hfound pid).mp hpid⟩
  . intro ⟨pid, hpid⟩
    have hanswers : ∀ bases : List PID, rangeOf pid ∈ bases → (∀ base ∈ bases, base ∈ supportedPIDRange)
        → (!(bases.filter ecu.answers).isEmpty) = true := by
      intro bases hin hbases
      have hanswered : rangeOf pid ∈ bases.filter ecu.answers := by
        rw [List.mem_filter]
        refine ⟨hin, ?_⟩
        unfold answers
        rw [if_pos (hbases _ hin)]
        exact ecu.ranges_of_supported pid hpid.1 hpid.2.1
      cases hlist : bases.filter ecu.answers with
      | nil =>
        rw [hlist] at hanswered
        cases hanswered
      | cons _ _ => rfl
    have hnonempty : ∀ found : List PID, pid ∈ found → (!found.isEmpty) = true := by
      intro found hin
      cases found with
      | nil => cases hin
      | cons _ _ => rfl
    cases hrange pid with
    | inl hin =>
      left
      refine ⟨hanswers _ hin hfirst, hnonempty first ?_⟩
      rw [hmem, mem_foundIn hfirst]
      exact Or.inr ⟨hpid, hin⟩
    | inr hin =>
      right
      exact ⟨hanswers _ hin hsecond, hnonempty second ((hfound pid).mpr hpid)⟩

end Discovery

end ECU

end DataInspection
