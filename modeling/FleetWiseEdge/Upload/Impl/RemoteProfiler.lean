import FleetWiseEdge.Types.Basic

/-!
This module contains the logs of `RemoteProfiler`. `writeString` of the JSON library is a parameter, the strings
are counted in bytes.
-/

namespace Platform

inductive LogLevel where
  | Trace
  | Info
  | Warning
  | Error
  | Off
  deriving DecidableEq, Repr

def LogLevel.toNat (level : LogLevel) : Nat :=
  match level with
  | Trace => 0
  | Info => 1
  | Warning => 2
  | Error => 3
  | Off => 4

def levelToString (level : LogLevel) : String :=
  match level with
  | .Error => "ERROR"
  | .Warning => "WARN"
  | .Info => "INFO"
  | .Trace => "TRACE"
  | .Off => ""

end Platform

namespace OffboardConnectivity

open Cpp Platform

structure LogNode where
  logLevel : String
  logFunction : String
  logEntry : String
  deriving DecidableEq, Repr

structure LogRoot where
  Prefix : String := ""
  LogEvents : List LogNode := []
  deriving DecidableEq, Repr

structure LogSender where
  payloads : List String := []
  deriving DecidableEq, Repr

def LogSender.send (sender : LogSender) (output : String) : LogSender where
  payloads := sender.payloads ++ [output]

structure RemoteProfiler where
  fLogSender : Option LogSender
  fLogLevelThreshold : LogLevel
  fProfilerPrefix : String
  fLogRoot : LogRoot := {}
  fCurrentUserPayloadInLogRoot : Nat := 0
  deriving DecidableEq, Repr

namespace RemoteProfiler

def MAX_BYTES_FOR_SINGLE_LOG_UPLOAD : Nat := 16384

def JSON_MAX_OVERHEAD_BYTES_PER_LOG : Nat := 60

def initLogStructure (profiler : RemoteProfiler) : RemoteProfiler :=
  { profiler with
    fLogRoot := { Prefix := profiler.fProfilerPrefix, LogEvents := [] }
    fCurrentUserPayloadInLogRoot := 0 }

def create (logSender : Option LogSender) (initialLogLevelThresholdToSend : LogLevel) (profilerPrefix : String)
    : RemoteProfiler :=
  initLogStructure
    { fLogSender := logSender
      fLogLevelThreshold := initialLogLevelThresholdToSend
      fProfilerPrefix := profilerPrefix }

section Logs

variable (writeString : LogRoot → String)

def sendLogsOut (profiler : RemoteProfiler) : RemoteProfiler :=
  let output := ""
  -- The block under the lock declares an `output` of its own, which ends with the block.
  let _blockOutput := writeString profiler.fLogRoot
  let profiler := profiler.initLogStructure
  match profiler.fLogSender with
  | none => profiler
  | some logSender =>
    if profiler.fCurrentUserPayloadInLogRoot > 0 then
      { profiler with fLogSender := some (logSender.send output) }
    else
      profiler

def logSize (function logEntry : String) : Nat :=
  u32 (function.utf8ByteSize + logEntry.utf8ByteSize + JSON_MAX_OVERHEAD_BYTES_PER_LOG)

def append (profiler : RemoteProfiler) (logNode : LogNode) (size : Nat) : RemoteProfiler :=
  { profiler with
    fLogRoot := { profiler.fLogRoot with LogEvents := profiler.fLogRoot.LogEvents ++ [logNode] }
    fCurrentUserPayloadInLogRoot := u32 (profiler.fCurrentUserPayloadInLogRoot + size) }

def logMessage (profiler : RemoteProfiler) (level : LogLevel) (function logEntry : String) : RemoteProfiler :=
  if level.toNat < profiler.fLogLevelThreshold.toNat then
    profiler
  else
    let logNode := ⟨levelToString level, function, logEntry⟩
    let size := logSize function logEntry
    if u32 (size + profiler.fCurrentUserPayloadInLogRoot) > MAX_BYTES_FOR_SINGLE_LOG_UPLOAD then
      (sendLogsOut writeString profiler).append logNode size
    else
      profiler.append logNode size

end Logs

end RemoteProfiler

end OffboardConnectivity
