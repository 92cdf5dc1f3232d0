import FleetWiseEdge.Upload.Impl.Channel

/-!
This module contains `AwsSDKMemoryManager`, and the steps in which threads use it: the allocations of the SDK,
`AwsIotChannel::send` and the completion of a publish. Two steps of different threads can come in any order.
-/

namespace OffboardConnectivity

open Cpp PersistencyManagement

/--
`mMemoryUsedAndReserved` is atomic, each of its updates is a step of its own.
-/
structure AwsSDKMemoryManager where
  mMemoryUsedAndReserved : Nat := 0
  deriving DecidableEq, Repr

namespace AwsSDKMemoryManager

def offset : Nat := 16

def increase (manager : AwsSDKMemoryManager) (size : Nat) : AwsSDKMemoryManager where
  mMemoryUsedAndReserved := u64 (manager.mMemoryUsedAndReserved + size)

def decrease (manager : AwsSDKMemoryManager) (size : Nat) : AwsSDKMemoryManager where
  mMemoryUsedAndReserved := subU64 manager.mMemoryUsedAndReserved size

def realSize (blockSize : Nat) : Nat := u64 (blockSize + offset)

def reserveMemory (manager : AwsSDKMemoryManager) (bytes : Nat) : AwsSDKMemoryManager :=
  manager.increase (u64 (bytes + offset))

def releaseReservedMemory (manager : AwsSDKMemoryManager) (bytes : Nat) : AwsSDKMemoryManager :=
  manager.decrease (u64 (bytes + offset))

end AwsSDKMemoryManager

structure Block where
  pMem : Nat
  realSize : Nat
  deriving DecidableEq, Repr

structure SendCall (ι : Type) where
  channel : ι
  access : FileAccess
  buf : Bytes
  collectionSchemeParams : CollectionSchemeParams
  currentMemoryUsage : Option Nat := none
  deriving DecidableEq, Repr

structure Publish (ι : Type) where
  channel : ι
  size : Nat
  deriving DecidableEq, Repr

/--
The channels `ι` with the one memory manager. `connected` says whether `mConnectivityModule` is set. A block is
in `allocating` from `malloc` to the update of the counter, and its size is in `freeing` from `free` to the
update of the counter.
-/
structure SDKState (ι : Type) where
  manager : AwsSDKMemoryManager := {}
  blocks : List Block := []
  allocating : List Block := []
  freeing : List Nat := []
  channels : ι → AwsIotChannel
  connected : ι → Bool
  sends : List (SendCall ι) := []
  publishes : List (Publish ι) := []
  results : List (ι × ConnectivityError) := []

inductive SDKEvent (ι : Type) where
  | allocate (blockSize : Nat) (pMem : Option Nat)
  | countAllocated (block : Block)
  | free (memoryPtr : Option Nat)
  | countFreed (realSize : Nat)
  | send (channel : ι) (access : FileAccess) (buf : Bytes) (collectionSchemeParams : CollectionSchemeParams)
      (isAlive : Bool)
  | loadUsage (call : SendCall ι)
  | finishSend (call : SendCall ι) (currentMemoryUsage : Nat)
  | publishComplete (publish : Publish ι)
  | invalidateConnection (channel : ι)

namespace SDKState

open AwsSDKMemoryManager

variable {ι : Type} [DecidableEq ι] (snappy : Snappy)

def reserves (channel : AwsIotChannel) (isAlive : Bool) (buf : Bytes) : Bool :=
  channel.isTopicValid && buf.length ≠ 0 && buf.length ≤ AwsIotChannel.getMaxSendSize && isAlive

def returns (s : SDKState ι) (channel : ι) (result : AwsIotChannel × ConnectivityError) : SDKState ι :=
  { s with
    channels := Function.update s.channels channel result.1
    results := s.results ++ [(channel, result.2)] }

/--
A step of one thread, `none` if it is not one that it can take: memory that is in use is not handed out again,
only a live block is freed, a channel is used by one call of `send` at a time, and the connection of a channel
is invalidated when its publishes are complete.
-/
def step (s : SDKState ι) (e : SDKEvent ι) : Option (SDKState ι) :=
  match e with
  | .allocate _ none => some s
  | .allocate blockSize (some pMem) =>
    if (s.blocks ++ s.allocating).any fun block => block.pMem = pMem then
      none
    else
      some { s with allocating := ⟨pMem, realSize blockSize⟩ :: s.allocating }
  | .countAllocated block =>
    if block ∈ s.allocating then
      some
        { s with
          allocating := s.allocating.erase block
          manager := s.manager.increase block.realSize
          blocks := block :: s.blocks }
    else
      none
  | .free none => some s
  | .free (some memoryPtr) =>
    match s.blocks.find? fun block => block.pMem + offset = memoryPtr with
    | none => none
    | some block => some { s with blocks := s.blocks.erase block, freeing := block.realSize :: s.freeing }
  | .countFreed realSize =>
    if realSize ∈ s.freeing then
      some { s with freeing := s.freeing.erase realSize, manager := s.manager.decrease realSize }
    else
      none
  | .send channel access buf collectionSchemeParams isAlive =>
    let isAlive := s.connected channel && isAlive
    if s.sends.any fun call => call.channel = channel then
      none
    else if reserves (s.channels channel) isAlive buf then
      some
        { s with
          manager := s.manager.reserveMemory buf.length
          sends := { channel, access, buf, collectionSchemeParams } :: s.sends }
    else
      some (s.returns channel
        (AwsIotChannel.sendWith snappy access ⟨isAlive, 0⟩ (s.channels channel) buf collectionSchemeParams))
  | .loadUsage call =>
    if call ∈ s.sends ∧ call.currentMemoryUsage = none then
      some
        { s with
          sends :=
            { call with currentMemoryUsage := some s.manager.mMemoryUsedAndReserved } :: s.sends.erase call }
    else
      none
  | .finishSend call currentMemoryUsage =>
    if call ∈ s.sends ∧ call.currentMemoryUsage = some currentMemoryUsage then
      let result := AwsIotChannel.sendWith snappy call.access ⟨true, currentMemoryUsage⟩ (s.channels call.channel)
        call.buf call.collectionSchemeParams
      let s := { s.returns call.channel result with sends := s.sends.erase call }
      if result.2 = .QuotaReached then
        some { s with manager := s.manager.releaseReservedMemory call.buf.length }
      else
        some { s with publishes := ⟨call.channel, call.buf.length⟩ :: s.publishes }
    else
      none
  | .publishComplete publish =>
    if publish ∈ s.publishes then
      let s := { s with publishes := s.publishes.erase publish }
      if s.connected publish.channel then
        some { s with manager := s.manager.releaseReservedMemory publish.size }
      else
        some s
    else
      none
  | .invalidateConnection channel =>
    if (s.sends.any fun call => call.channel = channel)
      ∨ (s.publishes.any fun publish => publish.channel = channel)
    then
      none
    else
      some { s with connected := Function.update s.connected channel false }

def run (s : SDKState ι) (events : List (SDKEvent ι)) : Option (SDKState ι) :=
  match events with
  | [] => some s
  | e :: es =>
    match step snappy s e with
    | none => none
    | some s => run s es

end SDKState

end OffboardConnectivity
