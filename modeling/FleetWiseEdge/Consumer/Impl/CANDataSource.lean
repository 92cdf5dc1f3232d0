import FleetWiseEdge.Consumer.Impl.CANFrames
import FleetWiseEdge.Types.Threading

/-!
This module contains the thread of a `CANDataSource`, which moves the frames of its socket into the circular
buffer, and the calls that other threads make: one step for each access to an atomic member, to the `Signal`,
to the socket and to the buffer.
-/

namespace VehicleNetwork

open Cpp DataInspection

def PARALLEL_RECEIVED_FRAMES_FROM_KERNEL : Nat := 10

def MSB_MASK : Nat := 0x7FFFFFFF

inductive CAN_TIMESTAMP_TYPE where
  | KERNEL_SOFTWARE_TIMESTAMP
  | KERNEL_HARDWARE_TIMESTAMP
  | POLLING_TIME
  deriving DecidableEq, Repr

structure Timespec where
  tv_sec : Int
  tv_nsec : Int

def Timespec.milliseconds (ts : Timespec) : Nat := u64OfInt (ts.tv_sec * 1000 + ts.tv_nsec.tdiv 1000000)

structure ScmTimestamping where
  software : Timespec
  hardware : Timespec

structure ReceivedFrame where
  can_id : Nat
  can_dlc : Nat
  data : Vector UInt8 8
  control : List (Option ScmTimestamping)
  hdlc : can_dlc ≤ 8

def ReceivedFrame.rawData (frame : ReceivedFrame) : List UInt8 := frame.data.toList.take frame.can_dlc

-- The message with the ID of the frame, its most significant bit is cleared.
def ReceivedFrame.message (frame : ReceivedFrame) (timestamp : Nat) : VehicleDataMessage where
  mID := frame.can_id &&& MSB_MASK
  mRawData := frame.rawData
  mTimestamp := timestamp

inductive Outcome where
  -- it is older than the last call of `resumeDataAcquisition`
  | ignored
  | invalid
  | discarded
  | pushed
  deriving DecidableEq, Repr

structure HandledFrame where
  frame : ReceivedFrame
  timestamp : Nat
  mResumeTime : Nat
  outcome : Outcome

inductive SourceWorker where
  | checkSleep
  | sleeping
  | receive
  | extract (frames : List ReceivedFrame)
  -- the load of `mResumeTime` and the push
  | handle (timestamp : Nat) (frame : ReceivedFrame) (frames : List ReceivedFrame)
  -- `mWait.wait( mIdleTimeMs )`
  | idle
  | checkStop
  | finished

def SourceWorker.taken (worker : SourceWorker) : List ReceivedFrame :=
  match worker with
  | .extract frames => frames
  | .handle _ frame frames => frame :: frames
  | _ => []

inductive SourceCall where
  | resumeTime
  | resumeSleep
  | resumeNotify
  | suspendSleep
  | stopStore
  -- `mWait.notify()`, then the call waits for the end of the thread
  | stopNotify
  deriving DecidableEq, Repr

/--
`mTimestampTypeToUse` down to `mShouldStop` are members of the source, `wokeUpFromSleep` is the local variable
of `doWork`. The last members record what has come in and what has become of it. An element of `wakes` says
which frames, counted from the first one, were in the socket when the thread woke up.
-/
structure CANDataSource where
  mTimestampTypeToUse : CAN_TIMESTAMP_TYPE
  mCircularBuffPtr : BoundedQueue VehicleDataMessage
  mWait : Platform.Signal := {}
  mResumeTime : Nat := 0
  receivedMessages : Nat := 0
  discardedMessages : Nat := 0
  mShouldSleep : Bool := true
  mShouldStop : Bool := false
  wokeUpFromSleep : Bool := false
  worker : SourceWorker := .checkSleep
  calls : List SourceCall := []
  mSocket : List ReceivedFrame := []
  arrived : List ReceivedFrame := []
  handled : List HandledFrame := []
  wakes : List (Nat × Nat) := []
  popped : List VehicleDataMessage := []

inductive SourceEvent where
  | arrive (frame : ReceivedFrame)
  | suspendDataAcquisition
  | resumeDataAcquisition
  | stop
  | call (i now : Nat)
  | work (now : Nat)
  | pop

namespace CANDataSource

def extractTimestamp (mTimestampTypeToUse : CAN_TIMESTAMP_TYPE) (control : List (Option ScmTimestamping))
    (now : Nat)
    : Nat :=
  let read (timestamp : Nat) (header : Option ScmTimestamping) : Nat :=
    match mTimestampTypeToUse, header with
    | .KERNEL_HARDWARE_TIMESTAMP, some timestampArray => timestampArray.hardware.milliseconds
    | .KERNEL_SOFTWARE_TIMESTAMP, some timestampArray => timestampArray.software.milliseconds
    | _, _ => timestamp
  let timestamp := control.foldl read 0
  if timestamp = 0 then now else timestamp

def afterFrame (frames : List ReceivedFrame) : SourceWorker :=
  if frames.isEmpty then .checkStop else .extract frames

/--
A message is pushed unless it is from before the last resume and waited in the socket.
-/
def handleFrame (source : CANDataSource) (timestamp : Nat) (frame : ReceivedFrame) : CANDataSource :=
  let record (source : CANDataSource) (outcome : Outcome) : CANDataSource :=
    { source with
      handled := source.handled ++ [{ frame, timestamp, mResumeTime := source.mResumeTime, outcome }] }
  if !source.wokeUpFromSleep || timestamp ≥ source.mResumeTime then
    let source := { source with receivedMessages := u64 (source.receivedMessages + 1) }
    let message := frame.message timestamp
    if message.mRawData.isEmpty then
      record source .invalid
    else
      let (mCircularBuffPtr, success) := source.mCircularBuffPtr.push message
      if success then
        record { source with mCircularBuffPtr } .pushed
      else
        record { source with discardedMessages := u64 (source.discardedMessages + 1) } .discarded
  else
    record source .ignored

def work (source : CANDataSource) (now : Nat) : CANDataSource :=
  match source.worker with
  | .checkSleep => { source with worker := if source.mShouldSleep then .sleeping else .receive }
  | .sleeping =>
    match source.mWait.waitWithPredicate with
    | none => source
    | some mWait =>
      { source with
        mWait
        wokeUpFromSleep := true
        wakes := source.wakes ++ [(source.handled.length, source.handled.length + source.mSocket.length)]
        worker := .receive }
  | .receive =>
    let frames := source.mSocket.take PARALLEL_RECEIVED_FRAMES_FROM_KERNEL
    { source with
      mSocket := source.mSocket.drop PARALLEL_RECEIVED_FRAMES_FROM_KERNEL
      worker := if frames.isEmpty then .idle else .extract frames }
  | .extract [] => { source with worker := .checkStop }
  | .extract (frame :: frames) =>
    { source with
      worker := .handle (extractTimestamp source.mTimestampTypeToUse frame.control now) frame frames }
  | .handle timestamp frame frames =>
    { source.handleFrame timestamp frame with worker := afterFrame frames }
  | .idle =>
    { source with
      mWait := source.mWait.waitWithTimeout
      wokeUpFromSleep := false
      worker := .checkStop }
  | .checkStop => { source with worker := if source.mShouldStop then .finished else .checkSleep }
  | .finished => source

def advance (source : CANDataSource) (call : SourceCall) (now : Nat) : CANDataSource × Option SourceCall :=
  match call with
  | .resumeTime => ({ source with mResumeTime := now }, some .resumeSleep)
  | .resumeSleep => ({ source with mShouldSleep := false }, some .resumeNotify)
  | .resumeNotify => ({ source with mWait := source.mWait.notify }, none)
  | .suspendSleep => ({ source with mShouldSleep := true }, none)
  | .stopStore => ({ source with mShouldStop := true }, some .stopNotify)
  | .stopNotify => ({ source with mWait := source.mWait.notify }, none)

def callStep (source : CANDataSource) (i now : Nat) : CANDataSource :=
  match source.calls[i]? with
  | none => source
  | some call =>
    let (source, rest) := source.advance call now
    { source with calls := source.calls.eraseIdx i ++ rest.toList }

def invoke (source : CANDataSource) (call : SourceCall) : CANDataSource :=
  { source with calls := source.calls ++ [call] }

def step (source : CANDataSource) (event : SourceEvent) : CANDataSource :=
  match event with
  | .arrive frame =>
    { source with
      mSocket := source.mSocket ++ [frame]
      arrived := source.arrived ++ [frame] }
  | .suspendDataAcquisition => source.invoke .suspendSleep
  | .resumeDataAcquisition => source.invoke .resumeTime
  | .stop => source.invoke .stopStore
  | .call i now => source.callStep i now
  | .work now => source.work now
  | .pop =>
    match source.mCircularBuffPtr.pop with
    | none => source
    | some (message, mCircularBuffPtr) =>
      { source with
        mCircularBuffPtr
        popped := source.popped ++ [message] }

def run (source : CANDataSource) (events : List SourceEvent) : CANDataSource := events.foldl step source

def start (mTimestampTypeToUse : CAN_TIMESTAMP_TYPE) (maxNumberOfVehicleDataMessages : Nat) : CANDataSource where
  mTimestampTypeToUse
  mCircularBuffPtr := .empty maxNumberOfVehicleDataMessages

end CANDataSource

end VehicleNetwork
