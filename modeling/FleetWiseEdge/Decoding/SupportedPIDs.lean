import Mathlib.Data.Nat.Bitwise
import FleetWiseEdge.Decoding.Impl.OBDDataDecoder

namespace DataManagement

open Cpp

structure SupportBlock where
  base : PID
  mask : List UInt8
  deriving DecidableEq, Repr

namespace SupportBlock

def maskBit (block : SupportBlock) (distance : Nat) : Bool :=
  (block.mask[(distance - 1) / 8]?.getD 0).toNat.testBit (7 - (distance - 1) % 8)

def Supports (block : SupportBlock) (pid : PID) : Prop :=
  ∃ distance, 1 ≤ distance ∧ distance ≤ 32 ∧ pid.toNat = block.base.toNat + distance
    ∧ block.maskBit distance = true

def isRange (block : SupportBlock) : Bool := block.base.toNat % 0x20 = 0

end SupportBlock

def supportBlocks (bytes : List UInt8) : List SupportBlock :=
  match bytes with
  | base :: first :: second :: third :: fourth :: bytes =>
    ⟨base, [first, second, third, fourth]⟩ :: supportBlocks bytes
  | _ => []

namespace OBDDataDecoder

theorem getPID_currentStats (index : Nat)
    : getPID .CURRENT_STATS index = some (if index < 256 then UInt8.ofNat index else INVALID_PID) :=
  rfl

def maskPID (base : PID) (k : Nat) (byte : UInt8) (j : Nat) : Option PID :=
  let index := base.toNat + (8 * (k + 1) - j)
  if byte.toNat.testBit j ∧ index < 255 ∧ UInt8.ofNat index ∉ supportedPIDRange then
    some (UInt8.ofNat index)
  else
    none

theorem index_eq {baseIdx k j : Nat} (base : PID) (hk : k < 4) (hj : j < 8)
    : u64 (subU64 (u64 (subU64 (baseIdx + (k + 1)) baseIdx * BYTE_SIZE)) j + base.toNat)
        =
      base.toNat + (8 * (k + 1) - j) := by
  have hbase := base.toNat_lt
  have hbytes : subU64 (baseIdx + (k + 1)) baseIdx = k + 1 := by
    unfold subU64 u64
    omega
  have hbits : u64 ((k + 1) * 8) = 8 * (k + 1) := by
    rw [u64_of_lt (by omega), Nat.mul_comm]
  have hdistance : subU64 (8 * (k + 1)) j = 8 * (k + 1) - j := subU64_of_le (by omega) (by omega)
  unfold BYTE_SIZE
  rw [hbytes, hbits, hdistance, u64_of_lt (by omega), Nat.add_comm]

theorem testBit_iff_and (n j : Nat) : n.testBit j = true ↔ n &&& (1 <<< j) ≠ 0 := by
  rw [Nat.one_shiftLeft, Nat.and_two_pow]
  cases n.testBit j <;> simp

theorem maskPID_eq_some_iff {base : PID} {k j : Nat} {byte : UInt8} {pid : PID}
    : maskPID base k byte j = some pid
        ↔
      pid ∉ supportedPIDRange ∧ pid ≠ INVALID_PID
        ∧ pid.toNat = base.toNat + (8 * (k + 1) - j) ∧ byte.toNat.testBit j = true := by
  unfold maskPID
  dsimp only
  generalize base.toNat + (8 * (k + 1) - j) = index
  constructor
  . intro h
    split at h
    . next hcond =>
      have ⟨hbit, hlt, hrange⟩ := hcond
      rw [Option.some.injEq] at h
      have htoNat : pid.toNat = index := by
        rw [← h]
        exact UInt8.toNat_ofNat_of_lt' (Nat.lt_succ_of_lt hlt)
      refine ⟨h ▸ hrange, ?_, htoNat, hbit⟩
      intro heq
      rw [heq] at htoNat
      exact absurd htoNat.symm (Nat.ne_of_lt hlt)
    . contradiction
  . intro ⟨hrange, hne, htoNat, hbit⟩
    have hpid : UInt8.ofNat index = pid := by
      rw [← htoNat]
      exact UInt8.ofNat_toNat
    have hlt : index < 255 := by
      have hbound := pid.toNat_lt
      have hne' : pid.toNat ≠ 255 := fun heq => hne (UInt8.toNat_inj.mp heq)
      omega
    rw [hpid, if_pos ⟨hbit, hlt, hrange⟩]

theorem decodeMaskBit_eq {baseIdx k j : Nat} (base : PID) (hk : k < 4) (byte : UInt8)
    (supportedPIDs : SupportedPIDs) (hj : j < 8)
    : decodeMaskBit .CURRENT_STATS base baseIdx (baseIdx + (k + 1)) byte supportedPIDs j
        =
      some (supportedPIDs ++ (maskPID base k byte j).toList) := by
  have hlt : base.toNat + (8 * (k + 1) - j) < 288 := by
    have := base.toNat_lt
    omega
  unfold decodeMaskBit maskPID
  dsimp only
  rw [index_eq base hk hj, getPID_currentStats, Option.bind_eq_bind, Option.bind_some]
  simp only [testBit_iff_and]
  generalize base.toNat + (8 * (k + 1) - j) = index at hlt
  by_cases hbit : byte.toNat &&& (1 <<< j) ≠ 0
  . rw [if_pos hbit]
    by_cases hvalid : index < 255
    . have hne : UInt8.ofNat index ≠ INVALID_PID := by
        intro heq
        have htoNat := congrArg UInt8.toNat heq
        rw [UInt8.toNat_ofNat_of_lt' (Nat.lt_succ_of_lt hvalid)] at htoNat
        exact absurd htoNat (Nat.ne_of_lt hvalid)
      have hdecoded : (if index < 256 then UInt8.ofNat index else INVALID_PID) = UInt8.ofNat index :=
        if_pos (by omega)
      rw [hdecoded]
      by_cases hrange : UInt8.ofNat index ∈ supportedPIDRange
      . simp [hrange]
      . simp [hrange, hne, hbit, hvalid]
    . have hinvalid : (if index < 256 then UInt8.ofNat index else INVALID_PID) = INVALID_PID := by
        split
        . have heq : index = 255 := by omega
          rw [heq]
          rfl
        . rfl
      rw [hinvalid]
      simp [hvalid]
  . rw [if_neg hbit]
    simp [hbit]

theorem decodeMaskByte_eq {baseIdx k : Nat} (base : PID) (hk : k < 4) (byte : UInt8)
    (supportedPIDs : SupportedPIDs)
    : decodeMaskByte .CURRENT_STATS base baseIdx (baseIdx + (k + 1)) byte supportedPIDs
        =
      some (supportedPIDs ++ (List.range 8).filterMap (maskPID base k byte)) := by
  have hfold (js : List Nat) (hjs : ∀ j ∈ js, j < 8) (supportedPIDs : SupportedPIDs)
      : js.foldlM (decodeMaskBit .CURRENT_STATS base baseIdx (baseIdx + (k + 1)) byte) supportedPIDs
          =
        some (supportedPIDs ++ js.filterMap (maskPID base k byte)) := by
    induction js generalizing supportedPIDs with
    | nil => simp
    | cons j js ih =>
      rw [List.foldlM_cons, decodeMaskBit_eq base hk byte supportedPIDs (hjs j List.mem_cons_self)]
      rw [Option.bind_eq_bind, Option.bind_some, ih fun j hj => hjs j (List.mem_cons_of_mem _ hj)]
      rw [List.append_assoc]
      cases hpid : maskPID base k byte j <;> simp [hpid]
  apply hfold
  simp [BYTE_SIZE]

def blockPIDs (block : SupportBlock) : List PID :=
  block.mask.zipIdx.flatMap fun it => (List.range 8).filterMap (maskPID block.base it.2 it.1)

theorem decodeMasks_mask {baseIdx k : Nat} (base : PID) (hk : k < 4) (hi : (baseIdx + (k + 1)) % 5 ≠ 1)
    (byte : UInt8) (bytes : List UInt8) (supportedPIDs : SupportedPIDs)
    : decodeMasks .CURRENT_STATS (byte :: bytes) (baseIdx + (k + 1)) base baseIdx supportedPIDs
        =
      decodeMasks .CURRENT_STATS bytes (baseIdx + (k + 1 + 1)) base baseIdx
        (supportedPIDs ++ (List.range 8).filterMap (maskPID base k byte)) := by
  conv => lhs; unfold decodeMasks
  rw [if_neg hi, decodeMaskByte_eq base hk, Option.bind_eq_bind, Option.bind_some]
  rfl

theorem decodeMasks_eq (bytes : List UInt8) (hlength : bytes.length % 5 = 0) {i : Nat} (hi : i % 5 = 1)
    (basePID : PID) (baseIdx : Nat) (supportedPIDs : SupportedPIDs)
    : decodeMasks .CURRENT_STATS bytes i basePID baseIdx supportedPIDs
        =
      some (supportedPIDs
        ++ ((supportBlocks bytes).takeWhile (·.isRange)).flatMap blockPIDs) := by
  induction bytes using supportBlocks.induct generalizing i basePID baseIdx supportedPIDs with
  | case1 base first second third fourth bytes ih =>
    simp only [List.length_cons] at hlength
    unfold supportBlocks
    by_cases hrange : base.toNat % SUPPORTED_PID_STEP = 0
    . have hnext : decodeMasks .CURRENT_STATS (base :: first :: second :: third :: fourth :: bytes) i basePID
          baseIdx supportedPIDs
          = decodeMasks .CURRENT_STATS (first :: second :: third :: fourth :: bytes) (i + (0 + 1)) base i
              supportedPIDs := by
        conv => lhs; unfold decodeMasks
        rw [if_pos hi, if_neg (not_not.mpr hrange)]
      rw [hnext, decodeMasks_mask base (by omega) (by omega), decodeMasks_mask base (by omega) (by omega)]
      rw [decodeMasks_mask base (by omega) (by omega), decodeMasks_mask base (by omega) (by omega)]
      rw [ih (by omega) (by omega)]
      rw [List.takeWhile_cons_of_pos (by simpa [SupportBlock.isRange, SUPPORTED_PID_STEP] using hrange),
        List.flatMap_cons]
      simp [blockPIDs, List.append_assoc]
    . unfold decodeMasks
      rw [if_pos hi, if_pos hrange]
      rw [List.takeWhile_cons_of_neg (by simpa [SupportBlock.isRange, SUPPORTED_PID_STEP] using hrange)]
      simp
  | case2 bytes hshort =>
    have hnil : bytes = [] := by
      match bytes with
      | [] => rfl
      | base :: first :: second :: third :: fourth :: bytes => exact absurd rfl (hshort _ _ _ _ _ _)
      | [_] | [_, _] | [_, _, _] | [_, _, _, _] => simp at hlength
    rw [hnil]
    simp [decodeMasks, supportBlocks]

theorem mem_blockPIDs_iff {block : SupportBlock} (hmask : block.mask.length = 4) {pid : PID}
    : pid ∈ blockPIDs block
        ↔
      pid ∉ supportedPIDRange ∧ pid ≠ INVALID_PID ∧ block.Supports pid := by
  unfold blockPIDs
  simp only [List.mem_flatMap, List.mem_filterMap, List.mem_range, maskPID_eq_some_iff]
  constructor
  . intro ⟨it, hit, j, hj, hrange, hne, htoNat, hbit⟩
    have hget := List.mem_zipIdx_iff_getElem?.mp hit
    have ⟨hk, _⟩ := List.getElem?_eq_some_iff.mp hget
    refine ⟨hrange, hne, 8 * (it.2 + 1) - j, by omega, by omega, htoNat, ?_⟩
    have hbyte : (8 * (it.2 + 1) - j - 1) / 8 = it.2 := by omega
    have hplace : 7 - (8 * (it.2 + 1) - j - 1) % 8 = j := by omega
    unfold SupportBlock.maskBit
    rw [hbyte, hplace, hget]
    exact hbit
  . intro ⟨hrange, hne, distance, hpos, hle, htoNat, hbit⟩
    have hk : (distance - 1) / 8 < block.mask.length := by omega
    unfold SupportBlock.maskBit at hbit
    rw [List.getElem?_eq_getElem hk] at hbit
    refine ⟨(block.mask[(distance - 1) / 8], (distance - 1) / 8), ?_, 7 - (distance - 1) % 8, by omega, hrange,
      hne, ?_, hbit⟩
    . rw [List.mem_zipIdx_iff_getElem?]
      exact List.getElem?_eq_getElem hk
    . dsimp only
      omega

theorem mask_length {bytes : List UInt8} {block : SupportBlock} (h : block ∈ supportBlocks bytes)
    : block.mask.length = 4 := by
  induction bytes using supportBlocks.induct with
  | case1 base first second third fourth bytes ih =>
    unfold supportBlocks at h
    cases List.mem_cons.mp h with
    | inl heq =>
      rw [heq]
      rfl
    | inr hrest => exact ih hrest
  | case2 bytes hshort =>
    unfold supportBlocks at h
    split at h
    . exact absurd rfl (hshort _ _ _ _ _ _)
    . contradiction

theorem supported_pids_exact {inputData : List UInt8} {k : Nat} (hk : 1 ≤ k)
    (hlength : inputData.length = 1 + 5 * k) (hpositive : inputData[0]? = some 0x41)
    : ∃ supportedPIDs,
        decodeSupportedPIDs .CURRENT_STATS inputData [] = some (supportedPIDs, !supportedPIDs.isEmpty)
          ∧
        supportedPIDs.Pairwise (· ≤ ·)
          ∧
        ∀ pid, pid ∈ supportedPIDs
          ↔
          pid ∉ supportedPIDRange ∧ pid ≠ INVALID_PID
            ∧ ∃ block ∈ (supportBlocks (inputData.drop 1)).takeWhile (·.isRange), block.Supports pid := by
  have hdecode : decodeSupportedPIDs .CURRENT_STATS inputData []
      = some ((((supportBlocks (inputData.drop 1)).takeWhile (·.isRange)).flatMap blockPIDs).insertionSort
          (· ≤ ·),
        !((((supportBlocks (inputData.drop 1)).takeWhile (·.isRange)).flatMap blockPIDs).insertionSort
          (· ≤ ·)).isEmpty) := by
    unfold decodeSupportedPIDs
    rw [if_neg]
    . rw [decodeMasks_eq _ (by rw [List.length_drop]; omega) (by omega)]
      rfl
    . rw [hpositive]
      simp only [POSITIVE_ECU_RESPONSE_BASE, SIDs.toUType, Option.getD_some]
      simp
      omega
  refine ⟨_, hdecode, List.pairwise_insertionSort _ _, ?_⟩
  intro pid
  rw [List.mem_insertionSort, List.mem_flatMap]
  constructor
  . intro ⟨block, hblock, hpid⟩
    have hmem := (List.takeWhile_subset _) hblock
    rw [mem_blockPIDs_iff (mask_length hmem)] at hpid
    exact ⟨hpid.1, hpid.2.1, block, hblock, hpid.2.2⟩
  . intro ⟨hrange, hne, block, hblock, hsupports⟩
    have hmem := (List.takeWhile_subset _) hblock
    refine ⟨block, hblock, ?_⟩
    rw [mem_blockPIDs_iff (mask_length hmem)]
    exact ⟨hrange, hne, hsupports⟩

theorem supported_pids_exact_malformed
    : ∃ supportedPIDs,
        decodeSupportedPIDs .CURRENT_STATS
            [0x41, 0x00, 0x80, 0, 0, 0x01, 0x20, 0x40, 0, 0, 0, 0x41, 0xFF, 0, 0, 0] []
          = some (supportedPIDs, !supportedPIDs.isEmpty)
          ∧
        supportedPIDs.Pairwise (· ≤ ·)
          ∧
        ∀ pid, pid ∈ supportedPIDs
          ↔
          pid ∉ supportedPIDRange ∧ pid ≠ INVALID_PID
            ∧ ∃ block ∈ (supportBlocks
                [0x00, 0x80, 0, 0, 0x01, 0x20, 0x40, 0, 0, 0, 0x41, 0xFF, 0, 0, 0]).takeWhile (·.isRange),
              block.Supports pid :=
  supported_pids_exact (k := 3) (by decide) rfl rfl

example
    : decodeSupportedPIDs .CURRENT_STATS
        [0x41, 0x00, 0x80, 0, 0, 0x01, 0x20, 0x40, 0, 0, 0, 0x41, 0xFF, 0, 0, 0] []
        =
      some ([0x01, 0x22], true) := by
  decide

section Tables

variable (sid : SIDs)

theorem getPID_isSome (index : Nat) : (getPID sid index).isSome = true := by
  unfold getPID
  cases sid with
  | STATS_SINCE_FREEZE_FRAME | VEHICLE_INFO =>
    dsimp only
    split
    . rename_i hindex
      rw [List.getElem?_eq_getElem hindex]
      rfl
    . rfl
  | _ => rfl

theorem decodeMaskByte_isSome (basePID : PID) (baseIdx i : Nat) (byte : UInt8) (supportedPIDs : SupportedPIDs)
    : (decodeMaskByte sid basePID baseIdx i byte supportedPIDs).isSome = true := by
  have hbit : ∀ (j : Nat) (supportedPIDs : SupportedPIDs),
      (decodeMaskBit sid basePID baseIdx i byte supportedPIDs j).isSome = true := by
    intro j supportedPIDs
    unfold decodeMaskBit
    split
    . dsimp only
      have ⟨decodedID, hget⟩ := Option.isSome_iff_exists.mp
        (getPID_isSome sid (u64 (subU64 (u64 (subU64 i baseIdx * BYTE_SIZE)) j + basePID.toNat)))
      rw [hget]
      simp only [Option.bind_eq_bind, Option.bind_some]
      split <;> rfl
    . rfl
  unfold decodeMaskByte
  generalize List.range BYTE_SIZE = bits
  induction bits generalizing supportedPIDs with
  | nil => rfl
  | cons j bits ih =>
    have ⟨next, hnext⟩ := Option.isSome_iff_exists.mp (hbit j supportedPIDs)
    rw [List.foldlM_cons, hnext]
    exact ih next

theorem decodeMasks_isSome (bytes : List UInt8) (i : Nat) (basePID : PID) (baseIdx : Nat)
    (supportedPIDs : SupportedPIDs)
    : (decodeMasks sid bytes i basePID baseIdx supportedPIDs).isSome = true := by
  induction bytes generalizing i basePID baseIdx supportedPIDs with
  | nil => rfl
  | cons byte bytes ih =>
    unfold decodeMasks
    split
    . split
      . rfl
      . exact ih _ _ _ _
    . have ⟨next, hnext⟩ := Option.isSome_iff_exists.mp
        (decodeMaskByte_isSome sid basePID baseIdx i byte supportedPIDs)
      rw [hnext]
      exact ih _ _ _ _

theorem decodeSupportedPIDs_isSome (inputData : List UInt8) (supportedPIDs : SupportedPIDs)
    : (decodeSupportedPIDs sid inputData supportedPIDs).isSome = true := by
  unfold decodeSupportedPIDs
  split
  . rfl
  . have ⟨decoded, hdecoded⟩ := Option.isSome_iff_exists.mp
      (decodeMasks_isSome sid (inputData.drop 1) 1 0 0 supportedPIDs)
    rw [hdecoded]
    rfl

end Tables

end OBDDataDecoder

end DataManagement
