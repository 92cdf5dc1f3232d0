import Mathlib.Algebra.BigOperators.Group.List.Basic
import FleetWiseEdge.Upload.Impl.MemoryManager

namespace OffboardConnectivity

open Cpp PersistencyManagement AwsSDKMemoryManager

namespace AwsSDKMemoryManager

variable {manager : AwsSDKMemoryManager} {total size : Nat}

theorem increase_eq (h : manager.mMemoryUsedAndReserved = u64 total)
    : (manager.increase size).mMemoryUsedAndReserved = u64 (total + size) := by
  unfold increase u64 at *
  dsimp only
  omega

theorem decrease_eq (h : manager.mMemoryUsedAndReserved = u64 (total + size))
    : (manager.decrease size).mMemoryUsedAndReserved = u64 total := by
  unfold decrease subU64 u64 at *
  dsimp only
  omega

theorem reservation_eq {bytes : Nat} (h : bytes ≤ AWS_IOT_MAX_MESSAGE_SIZE)
    : u64 (bytes + offset) = bytes + offset := by
  unfold AWS_IOT_MAX_MESSAGE_SIZE at h
  unfold offset
  exact u64_of_lt (by omega)

end AwsSDKMemoryManager

namespace SDKState

variable {ι : Type}

section Accounts

variable (s : SDKState ι)

def live : Nat := (s.blocks.map (·.realSize)).sum

def outstanding : Nat := (s.publishes.map fun publish => publish.size + offset).sum

def reserved : Nat := (s.sends.map fun call => call.buf.length + offset).sum

def accounted : Nat := s.live + s.outstanding + s.reserved + s.freeing.sum

end Accounts

variable {snappy : Snappy} {s s' : SDKState ι}

structure Valid (s : SDKState ι) : Prop where
  sends : ∀ call ∈ s.sends,
    s.connected call.channel = true ∧ call.buf.length ≤ AWS_IOT_MAX_MESSAGE_SIZE
  publishes : ∀ publish ∈ s.publishes,
    s.connected publish.channel = true ∧ publish.size ≤ AWS_IOT_MAX_MESSAGE_SIZE

section Reserves

variable {channel : AwsIotChannel} {isAlive : Bool} {buf : Bytes}

theorem reserves_iff
    : reserves channel isAlive buf = true
        ↔
      channel.isTopicValid = true ∧ buf.length ≠ 0 ∧ buf.length ≤ AWS_IOT_MAX_MESSAGE_SIZE
        ∧ isAlive = true := by
  unfold reserves AwsIotChannel.getMaxSendSize
  rw [Bool.and_eq_true, Bool.and_eq_true, Bool.and_eq_true, decide_eq_true_eq, decide_eq_true_eq, and_assoc, and_assoc]

/--
`send` looks at the usage only when it has reserved memory.
-/
theorem sendWith_of_reserves (access : FileAccess) (currentMemoryUsage : Nat)
    (collectionSchemeParams : CollectionSchemeParams) (h : reserves channel isAlive buf = true)
    : (AwsIotChannel.sendWith snappy access ⟨isAlive, currentMemoryUsage⟩ channel buf collectionSchemeParams).2
        =
      if channel.mMaximumIotSDKHeapMemoryBytes ≠ 0 ∧ currentMemoryUsage > channel.mMaximumIotSDKHeapMemoryBytes then
        .QuotaReached
      else
        .Success := by
  obtain ⟨htopic, hnonempty, hlength, halive⟩ := reserves_iff.mp h
  unfold AwsIotChannel.sendWith AwsIotChannel.getMaxSendSize
  rw [htopic, halive, if_neg (by simp), if_neg hnonempty, if_neg (by omega), if_neg (by simp)]
  split <;> rfl

theorem sendWith_of_not_reserves (access : FileAccess) (currentMemoryUsage : Nat)
    (collectionSchemeParams : CollectionSchemeParams) (h : reserves channel isAlive buf = false)
    : (AwsIotChannel.sendWith snappy access ⟨isAlive, currentMemoryUsage⟩ channel buf collectionSchemeParams).2
        ∈ [.NotConfigured, .WrongInputData, .NoConnection] := by
  have h : ¬reserves channel isAlive buf = true := by simp [h]
  rw [reserves_iff] at h
  unfold AwsIotChannel.sendWith AwsIotChannel.getMaxSendSize
  split
  . simp
  . split
    . simp
    . split
      . simp
      . split
        . simp
        . rename_i htopic hnonempty hlength halive
          exact absurd ⟨by simpa using htopic, hnonempty, by omega, by simpa using halive⟩ h

end Reserves

section Step

def acquired (s : SDKState ι) (e : SDKEvent ι) : Nat :=
  match e with
  | .countAllocated block => block.realSize
  | .send channel _ buf _ isAlive =>
    if reserves (s.channels channel) (s.connected channel && isAlive) buf then buf.length + offset else 0
  | _ => 0

def released (snappy : Snappy) (s : SDKState ι) (e : SDKEvent ι) : Nat :=
  match e with
  | .countFreed realSize => realSize
  | .finishSend call currentMemoryUsage =>
    if (AwsIotChannel.sendWith snappy call.access ⟨true, currentMemoryUsage⟩ (s.channels call.channel) call.buf
        call.collectionSchemeParams).2 = .QuotaReached
    then
      call.buf.length + offset
    else
      0
  | .publishComplete publish => publish.size + offset
  | _ => 0

theorem acquired_or_released (snappy : Snappy) (s : SDKState ι) (e : SDKEvent ι)
    : acquired s e = 0 ∨ released snappy s e = 0 := by
  cases e with
  | countFreed | finishSend | publishComplete => exact Or.inl rfl
  | _ => exact Or.inr rfl

structure Accounts (s s' : SDKState ι) (acquired released : Nat) : Prop where
  valid : s'.Valid
  accounted : s'.accounted + released = s.accounted + acquired
  counter : s.manager.mMemoryUsedAndReserved = u64 s.accounted
    → s'.manager.mMemoryUsedAndReserved = u64 s'.accounted

theorem Accounts.unchanged (hvalid : s'.Valid) (haccounted : s'.accounted = s.accounted)
    (hmanager : s'.manager = s.manager)
    : Accounts s s' 0 0 where
  valid := hvalid
  accounted := by rw [haccounted]
  counter := by
    intro h
    rw [hmanager, haccounted]
    exact h

theorem Accounts.increase {size : Nat} (hvalid : s'.Valid) (haccounted : s'.accounted = s.accounted + size)
    (hmanager : s'.manager = s.manager.increase size)
    : Accounts s s' size 0 where
  valid := hvalid
  accounted := haccounted
  counter := by
    intro h
    rw [hmanager, haccounted]
    exact increase_eq h

theorem Accounts.decrease {size : Nat} (hvalid : s'.Valid) (haccounted : s.accounted = s'.accounted + size)
    (hmanager : s'.manager = s.manager.decrease size)
    : Accounts s s' 0 size where
  valid := hvalid
  accounted := haccounted.symm
  counter := by
    intro h
    rw [hmanager]
    apply decrease_eq
    rw [← haccounted]
    exact h

variable [DecidableEq ι]

theorem allocate_accounts (hvalid : s.Valid) {blockSize : Nat} {pMem : Option Nat}
    (h : step snappy s (.allocate blockSize pMem) = some s')
    : Accounts s s' 0 0 := by
  cases pMem with
  | none =>
    obtain rfl := Option.some_inj.mp h
    exact .unchanged hvalid rfl rfl
  | some pMem =>
    unfold step at h
    dsimp only at h
    split at h
    . contradiction
    . obtain rfl := Option.some_inj.mp h
      exact .unchanged ⟨hvalid.sends, hvalid.publishes⟩ rfl rfl

theorem countAllocated_accounts (hvalid : s.Valid) {block : Block}
    (h : step snappy s (.countAllocated block) = some s')
    : Accounts s s' block.realSize 0 := by
  unfold step at h
  dsimp only at h
  split at h
  . obtain rfl := Option.some_inj.mp h
    refine .increase ⟨hvalid.sends, hvalid.publishes⟩ ?_ rfl
    simp only [accounted, live, outstanding, reserved, List.map_cons, List.sum_cons]
    omega
  . contradiction

theorem free_accounts (hvalid : s.Valid) {memoryPtr : Option Nat}
    (h : step snappy s (.free memoryPtr) = some s')
    : Accounts s s' 0 0 := by
  cases memoryPtr with
  | none =>
    obtain rfl := Option.some_inj.mp h
    exact .unchanged hvalid rfl rfl
  | some memoryPtr =>
    unfold step at h
    dsimp only at h
    split at h
    . contradiction
    . rename_i block hfind
      obtain rfl := Option.some_inj.mp h
      have hsum := List.sum_map_erase (·.realSize) (List.mem_of_find?_eq_some hfind)
      refine .unchanged ⟨hvalid.sends, hvalid.publishes⟩ ?_ rfl
      simp only [accounted, live, outstanding, reserved, List.sum_cons]
      omega

theorem countFreed_accounts (hvalid : s.Valid) {realSize : Nat}
    (h : step snappy s (.countFreed realSize) = some s')
    : Accounts s s' 0 realSize := by
  unfold step at h
  dsimp only at h
  split at h
  . rename_i hmem
    obtain rfl := Option.some_inj.mp h
    have hsum := List.sum_erase hmem
    refine .decrease ⟨hvalid.sends, hvalid.publishes⟩ ?_ rfl
    simp only [accounted, live, outstanding, reserved]
    omega
  . contradiction

theorem send_accounts (hvalid : s.Valid) {channel : ι} {access : FileAccess} {buf : Bytes}
    {collectionSchemeParams : CollectionSchemeParams} {isAlive : Bool}
    (h : step snappy s (.send channel access buf collectionSchemeParams isAlive) = some s')
    : Accounts s s' (acquired s (.send channel access buf collectionSchemeParams isAlive)) 0 := by
  unfold step at h
  dsimp only at h
  unfold acquired
  dsimp only
  split at h
  . contradiction
  . split at h
    . rename_i hreserves
      obtain ⟨_, _, hlength, halive⟩ := reserves_iff.mp hreserves
      obtain rfl := Option.some_inj.mp h
      rw [if_pos hreserves]
      refine .increase ⟨?_, hvalid.publishes⟩ ?_ ?_
      . refine List.forall_mem_cons.mpr ⟨⟨?_, hlength⟩, hvalid.sends⟩
        exact (Bool.and_eq_true_iff.mp halive).1
      . simp only [accounted, live, outstanding, reserved, List.map_cons, List.sum_cons]
        omega
      . unfold reserveMemory
        rw [reservation_eq hlength]
    . rename_i hreserves
      obtain rfl := Option.some_inj.mp h
      rw [if_neg hreserves]
      exact .unchanged ⟨hvalid.sends, hvalid.publishes⟩ rfl rfl

theorem loadUsage_accounts (hvalid : s.Valid) {call : SendCall ι}
    (h : step snappy s (.loadUsage call) = some s')
    : Accounts s s' 0 0 := by
  unfold step at h
  dsimp only at h
  split at h
  . rename_i hmem
    obtain rfl := Option.some_inj.mp h
    have hsum := List.sum_map_erase (fun call : SendCall ι => call.buf.length + offset) hmem.1
    refine .unchanged ⟨?_, hvalid.publishes⟩ ?_ rfl
    . refine List.forall_mem_cons.mpr ⟨hvalid.sends call hmem.1, ?_⟩
      exact fun other hother => hvalid.sends other (List.mem_of_mem_erase hother)
    . simp only [accounted, live, outstanding, reserved, List.map_cons, List.sum_cons]
      omega
  . contradiction

theorem finishSend_accounts (hvalid : s.Valid) {call : SendCall ι} {currentMemoryUsage : Nat}
    (h : step snappy s (.finishSend call currentMemoryUsage) = some s')
    : Accounts s s' 0 (released snappy s (.finishSend call currentMemoryUsage)) := by
  unfold step at h
  dsimp only at h
  unfold released
  dsimp only
  split at h
  . rename_i hmem
    have hsum := List.sum_map_erase (fun call : SendCall ι => call.buf.length + offset) hmem.1
    have hcall := hvalid.sends call hmem.1
    have hsends : ∀ other ∈ s.sends.erase call,
        s.connected other.channel = true ∧ other.buf.length ≤ AWS_IOT_MAX_MESSAGE_SIZE :=
      fun other hother => hvalid.sends other (List.mem_of_mem_erase hother)
    split at h
    . rename_i hquota
      obtain rfl := Option.some_inj.mp h
      rw [if_pos hquota]
      refine .decrease ⟨hsends, hvalid.publishes⟩ ?_ ?_
      . simp only [accounted, live, outstanding, reserved, returns]
        omega
      . unfold releaseReservedMemory
        rw [reservation_eq hcall.2]
        rfl
    . rename_i hquota
      obtain rfl := Option.some_inj.mp h
      rw [if_neg hquota]
      refine .unchanged ⟨hsends, List.forall_mem_cons.mpr ⟨hcall, hvalid.publishes⟩⟩ ?_ rfl
      simp only [accounted, live, outstanding, reserved, returns, List.map_cons, List.sum_cons]
      omega
  . contradiction

theorem publishComplete_accounts (hvalid : s.Valid) {publish : Publish ι}
    (h : step snappy s (.publishComplete publish) = some s')
    : Accounts s s' 0 (publish.size + offset) := by
  unfold step at h
  dsimp only at h
  split at h
  . rename_i hmem
    have hpublish := hvalid.publishes publish hmem
    have hsum := List.sum_map_erase (fun publish : Publish ι => publish.size + offset) hmem
    rw [if_pos hpublish.1] at h
    obtain rfl := Option.some_inj.mp h
    refine .decrease ⟨hvalid.sends, ?_⟩ ?_ ?_
    . exact fun other hother => hvalid.publishes other (List.mem_of_mem_erase hother)
    . simp only [accounted, live, outstanding, reserved]
      omega
    . unfold releaseReservedMemory
      rw [reservation_eq hpublish.2]
  . contradiction

theorem invalidateConnection_accounts (hvalid : s.Valid) {channel : ι}
    (h : step snappy s (.invalidateConnection channel) = some s')
    : Accounts s s' 0 0 := by
  unfold step at h
  dsimp only at h
  split at h
  . contradiction
  . rename_i hidle
    simp only [List.any_eq_true, decide_eq_true_eq, not_or, not_exists, not_and] at hidle
    obtain rfl := Option.some_inj.mp h
    -- the channels of what is in progress are other ones
    refine .unchanged ⟨?_, ?_⟩ rfl rfl
    . intro call hcall
      dsimp only
      rw [Function.update_of_ne (hidle.1 call hcall)]
      exact hvalid.sends call hcall
    . intro publish hpublish
      dsimp only
      rw [Function.update_of_ne (hidle.2 publish hpublish)]
      exact hvalid.publishes publish hpublish

theorem step_accounts (hvalid : s.Valid) {e : SDKEvent ι} (h : step snappy s e = some s')
    : Accounts s s' (acquired s e) (released snappy s e) := by
  cases e with
  | allocate => exact allocate_accounts hvalid h
  | countAllocated => exact countAllocated_accounts hvalid h
  | free => exact free_accounts hvalid h
  | countFreed => exact countFreed_accounts hvalid h
  | send => exact send_accounts hvalid h
  | loadUsage => exact loadUsage_accounts hvalid h
  | finishSend => exact finishSend_accounts hvalid h
  | publishComplete => exact publishComplete_accounts hvalid h
  | invalidateConnection => exact invalidateConnection_accounts hvalid h

end Step

section Run

variable [DecidableEq ι]

def start (channels : ι → AwsIotChannel) (connected : ι → Bool) : SDKState ι := { channels, connected }

theorem run_accounts {events : List (SDKEvent ι)} (hvalid : s.Valid)
    (hcounter : s.manager.mMemoryUsedAndReserved = u64 s.accounted) (h : run snappy s events = some s')
    : s'.Valid ∧ s'.manager.mMemoryUsedAndReserved = u64 s'.accounted := by
  induction events generalizing s with
  | nil =>
    obtain rfl := Option.some_inj.mp h
    exact ⟨hvalid, hcounter⟩
  | cons e es ih =>
    unfold run at h
    split at h
    . contradiction
    . rename_i next hstep
      have haccounts := step_accounts hvalid hstep
      exact ih haccounts.valid (haccounts.counter hcounter) h

theorem reserves_of_loadUsage (call : SendCall ι) {isAlive : Bool}
    (hsend : step snappy s (.send call.channel call.access call.buf call.collectionSchemeParams isAlive) = some s')
    {s'' : SDKState ι} (hload : step snappy s' (.loadUsage call) = some s'')
    : reserves (s.channels call.channel) (s.connected call.channel && isAlive) call.buf = true := by
  unfold step at hsend
  dsimp only at hsend
  split at hsend
  . contradiction
  . rename_i hidle
    split at hsend
    . assumption
    . obtain rfl := Option.some_inj.mp hsend
      unfold step at hload
      dsimp only at hload
      split at hload
      . rename_i hmem
        exact absurd (List.any_eq_true.mpr ⟨call, hmem.1, by simp⟩) hidle
      . contradiction

theorem results_finishSend {call : SendCall ι} {currentMemoryUsage : Nat}
    (h : step snappy s (.finishSend call currentMemoryUsage) = some s')
    : s'.results = s.results
        ++ [(call.channel, (AwsIotChannel.sendWith snappy call.access ⟨true, currentMemoryUsage⟩
          (s.channels call.channel) call.buf call.collectionSchemeParams).2)] := by
  unfold step at h
  dsimp only at h
  split at h
  . split at h
    . obtain rfl := Option.some_inj.mp h
      rfl
    . obtain rfl := Option.some_inj.mp h
      rfl
  . contradiction

def uninterrupted (s : SDKState ι) (call : SendCall ι) : List (SDKEvent ι) :=
  let currentMemoryUsage := (s.manager.reserveMemory call.buf.length).mMemoryUsedAndReserved
  [.send call.channel call.access call.buf call.collectionSchemeParams true,
    .loadUsage { call with currentMemoryUsage := none },
    .finishSend { call with currentMemoryUsage := some currentMemoryUsage } currentMemoryUsage]

theorem accounted_uninterrupted {call : SendCall ι} (hvalid : s.Valid)
    (h : run snappy s (uninterrupted s call) = some s')
    (hresult : s'.results.getLast? = some (call.channel, .QuotaReached))
    : s'.accounted = s.accounted := by
  unfold uninterrupted at h
  dsimp only at h
  unfold run at h
  split at h
  . contradiction
  . rename_i reservedState hsend
    unfold run at h
    split at h
    . contradiction
    . rename_i loaded hload
      unfold run at h
      split at h
      . contradiction
      . rename_i finished hfinish
        obtain rfl := Option.some_inj.mp h
        have haccounts := step_accounts hvalid hsend
        have haccounts' := step_accounts haccounts.valid hload
        have haccounts'' := step_accounts haccounts'.valid hfinish
        have hsum := haccounts.accounted
        have hsum' := haccounts'.accounted
        have hsum'' := haccounts''.accounted
        have hreserves := reserves_of_loadUsage { call with currentMemoryUsage := none } hsend hload
        rw [results_finishSend hfinish, List.getLast?_concat, Option.some_inj, Prod.mk.injEq] at hresult
        simp only [acquired, released, if_pos hreserves] at hsum hsum' hsum''
        rw [if_pos hresult.2] at hsum''
        omega

theorem memory_accounting {channels : ι → AwsIotChannel} {connected : ι → Bool} {events : List (SDKEvent ι)}
    (h : run snappy (start channels connected) events = some s)
    : s.manager.mMemoryUsedAndReserved = u64 s.accounted
        ∧
      (s.accounted < 2 ^ 64 → s.manager.mMemoryUsedAndReserved = s.accounted)
        ∧
      (s.sends = [] → s.freeing = [] → s.accounted = s.live + s.outstanding)
        ∧
      (s.sends = [] → s.freeing = [] → s.publishes = [] → s.accounted = s.live)
        ∧
      (∀ e s', step snappy s e = some s'
        → released snappy s e ≤ s.accounted ∧ s'.accounted + released snappy s e = s.accounted + acquired s e)
        ∧
      ∀ call s', run snappy s (uninterrupted s call) = some s'
        → s'.results.getLast? = some (call.channel, .QuotaReached)
        → s'.manager.mMemoryUsedAndReserved = s.manager.mMemoryUsedAndReserved := by
  have hstart : (start channels connected).Valid := ⟨by simp [start], by simp [start]⟩
  obtain ⟨hvalid, hcounter⟩ := run_accounts hstart rfl h
  refine ⟨hcounter, ?_, ?_, ?_, ?_, ?_⟩
  . intro hlt
    rw [hcounter, u64_of_lt hlt]
  . intro hsends hfreeing
    simp [accounted, reserved, hsends, hfreeing]
  . intro hsends hfreeing hpublishes
    simp [accounted, reserved, outstanding, hsends, hfreeing, hpublishes]
  . intro e s' hstep
    have haccounted := (step_accounts hvalid hstep).accounted
    cases acquired_or_released snappy s e with
    | inl hnone =>
      rw [hnone] at haccounted
      exact ⟨by omega, by rw [hnone]; exact haccounted⟩
    | inr hnone => exact ⟨by omega, haccounted⟩
  . intro call s' hcall hresult
    have hcounter' := (run_accounts hvalid hcounter hcall).2
    rw [hcounter', accounted_uninterrupted hvalid hcall hresult, hcounter]

def twoSends : Option (SDKState Bool) :=
  run ⟨id, some⟩
    (start (fun _ => ⟨"topic", 0, true, ⟨[], [], [], ⟨0, by decide⟩⟩, 0, []⟩) fun _ => true)
    [.allocate 100 (some 4096),
      .send true .good [1, 2] {} true,
      .countAllocated ⟨4096, 116⟩,
      .loadUsage ⟨true, .good, [1, 2], {}, none⟩,
      .finishSend ⟨true, .good, [1, 2], {}, some 134⟩ 134,
      .send false .good [3] {} true,
      .publishComplete ⟨true, 2⟩]

example : twoSends.map (·.manager.mMemoryUsedAndReserved) = some 133 := by decide

theorem memory_accounting_twoSends
    : ∃ s, twoSends = some s ∧ s.manager.mMemoryUsedAndReserved = u64 s.accounted := by
  obtain ⟨s, hs⟩ := Option.isSome_iff_exists.mp (show twoSends.isSome = true by decide)
  exact ⟨s, hs, (memory_accounting hs).1⟩

end Run

end SDKState

end OffboardConnectivity
