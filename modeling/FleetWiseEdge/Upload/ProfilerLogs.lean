import Mathlib.Algebra.GroupWithZero.Nat
import FleetWiseEdge.Lib.Machine
import FleetWiseEdge.Upload.Impl.RemoteProfiler

namespace OffboardConnectivity

open Cpp Platform

namespace RemoteProfiler

inductive Call where
  | logMessage (level : LogLevel) (function logEntry : String)
  | sendLogsOut
  deriving DecidableEq, Repr

def Call.logged (threshold : LogLevel) (call : Call) : List LogNode :=
  match call with
  | logMessage level function logEntry =>
    if level.toNat < threshold.toNat then [] else [⟨levelToString level, function, logEntry⟩]
  | sendLogsOut => []

def accountedSize (logNodes : List LogNode) : Nat :=
  (logNodes.map fun logNode => logSize logNode.logFunction logNode.logEntry).sum

section Runs

variable (writeString : LogRoot → String)

def call (profiler : RemoteProfiler) (call : Call) : RemoteProfiler :=
  match call with
  | .logMessage level function logEntry => logMessage writeString profiler level function logEntry
  | .sendLogsOut => sendLogsOut writeString profiler

def calls (profiler : RemoteProfiler) (calls : List Call) : RemoteProfiler :=
  calls.foldl (call writeString) profiler

structure Keeps (profiler : RemoteProfiler) (messages : List LogNode) (roots : List LogRoot) : Prop where
  payloads : profiler.fLogSender = some ⟨roots.map writeString⟩
  once : roots.flatMap (·.LogEvents) ++ profiler.fLogRoot.LogEvents = messages
  size : ∀ root ∈ roots,
    accountedSize root.LogEvents ≤ MAX_BYTES_FOR_SINGLE_LOG_UPLOAD ∨ ∃ logNode, root.LogEvents = [logNode]

def Harmless (profiler : RemoteProfiler) (call : Call) : Prop :=
  match call with
  | .logMessage level function logEntry =>
    level.toNat < profiler.fLogLevelThreshold.toNat
      ∨ u32 (logSize function logEntry + profiler.fCurrentUserPayloadInLogRoot)
          ≤ MAX_BYTES_FOR_SINGLE_LOG_UPLOAD
      ∨ profiler.fLogRoot.LogEvents = []
  | .sendLogsOut => profiler.fLogRoot.LogEvents = []

end Runs

section Steps

variable {writeString : LogRoot → String} {profiler : RemoteProfiler} {c : Call}

theorem sendLogsOut_eq : sendLogsOut writeString profiler = profiler.initLogStructure := by
  unfold sendLogsOut
  dsimp only
  cases profiler.initLogStructure.fLogSender with
  | none => rfl
  | some logSender =>
    have hzero : profiler.initLogStructure.fCurrentUserPayloadInLogRoot = 0 := rfl
    dsimp only
    rw [hzero, if_neg (Nat.lt_irrefl 0)]

theorem call_spec
    : (call writeString profiler c).fLogSender = profiler.fLogSender
        ∧ (call writeString profiler c).fLogLevelThreshold = profiler.fLogLevelThreshold
        ∧ ((call writeString profiler c).fLogRoot.LogEvents
              = profiler.fLogRoot.LogEvents ++ c.logged profiler.fLogLevelThreshold
            ∧ Harmless profiler c
          ∨ (call writeString profiler c).fLogRoot.LogEvents = c.logged profiler.fLogLevelThreshold
            ∧ (Harmless profiler c ↔ profiler.fLogRoot.LogEvents = [])) := by
  unfold call Call.logged Harmless
  cases c with
  | sendLogsOut =>
    dsimp only
    rw [sendLogsOut_eq]
    exact ⟨rfl, rfl, Or.inr ⟨rfl, Iff.rfl⟩⟩
  | logMessage level function logEntry =>
    dsimp only
    unfold logMessage
    by_cases hlevel : level.toNat < profiler.fLogLevelThreshold.toNat
    . rw [if_pos hlevel, if_pos hlevel]
      exact ⟨rfl, rfl, Or.inl ⟨(List.append_nil _).symm, Or.inl hlevel⟩⟩
    . rw [if_neg hlevel, if_neg hlevel]
      dsimp only
      by_cases hsize : u32 (logSize function logEntry + profiler.fCurrentUserPayloadInLogRoot)
          > MAX_BYTES_FOR_SINGLE_LOG_UPLOAD
      . rw [if_pos hsize, sendLogsOut_eq]
        refine ⟨rfl, rfl, Or.inr ⟨rfl, ?_⟩⟩
        constructor
        . intro h
          exact (h.resolve_left hlevel).resolve_left (by omega)
        . intro h
          exact Or.inr (Or.inr h)
      . rw [if_neg hsize]
        exact ⟨rfl, rfl, Or.inl ⟨rfl, Or.inr (Or.inl (by omega))⟩⟩

theorem call_harmless (h : Harmless profiler c)
    : (call writeString profiler c).fLogRoot.LogEvents
        =
      profiler.fLogRoot.LogEvents ++ c.logged profiler.fLogLevelThreshold := by
  have ⟨_, _, hevents⟩ := @call_spec writeString profiler c
  cases hevents with
  | inl hkept => exact hkept.1
  | inr hlost => rw [hlost.1, hlost.2.mp h, List.nil_append]

theorem call_length
    : (call writeString profiler c).fLogRoot.LogEvents.length
        ≤
      profiler.fLogRoot.LogEvents.length + (c.logged profiler.fLogLevelThreshold).length := by
  have ⟨_, _, hevents⟩ := @call_spec writeString profiler c
  cases hevents with
  | inl hkept => rw [hkept.1, List.length_append]
  | inr hlost =>
    rw [hlost.1]
    omega

theorem call_harmful (h : ¬Harmless profiler c)
    : (call writeString profiler c).fLogRoot.LogEvents.length
        <
      profiler.fLogRoot.LogEvents.length + (c.logged profiler.fLogLevelThreshold).length := by
  have ⟨_, _, hevents⟩ := @call_spec writeString profiler c
  cases hevents with
  | inl hkept => exact absurd hkept.2 h
  | inr hlost =>
    have hpending : profiler.fLogRoot.LogEvents ≠ [] := fun hnil => h (hlost.2.mpr hnil)
    have hpos := List.length_pos_iff.mpr hpending
    rw [hlost.1]
    omega

end Steps

section Run

variable {writeString : LogRoot → String} {profiler : RemoteProfiler} {threshold : LogLevel} {cs : List Call}

theorem calls_cons (c : Call)
    : calls writeString profiler (c :: cs) = calls writeString (call writeString profiler c) cs :=
  rfl

theorem calls_fLogSender : (calls writeString profiler cs).fLogSender = profiler.fLogSender := by
  induction cs generalizing profiler with
  | nil => rfl
  | cons c cs ih => rw [calls_cons, ih, call_spec.1]

theorem calls_length (hthreshold : profiler.fLogLevelThreshold = threshold)
    : (calls writeString profiler cs).fLogRoot.LogEvents.length
        ≤
      profiler.fLogRoot.LogEvents.length + (cs.flatMap (Call.logged threshold)).length := by
  induction cs generalizing profiler with
  | nil => simp [calls]
  | cons c cs ih =>
    have hnext := ih (call_spec.2.1.trans hthreshold : (call writeString profiler c).fLogLevelThreshold = _)
    have hcall := @call_length writeString profiler c
    rw [hthreshold] at hcall
    rw [calls_cons, List.flatMap_cons, List.length_append]
    omega

theorem calls_events_iff (hthreshold : profiler.fLogLevelThreshold = threshold)
    : (calls writeString profiler cs).fLogRoot.LogEvents
          = profiler.fLogRoot.LogEvents ++ cs.flatMap (Call.logged threshold)
        ↔
      Machine.Always Harmless (call writeString) profiler cs := by
  induction cs generalizing profiler with
  | nil => simp [calls]
  | cons c cs ih =>
    have hnext : (call writeString profiler c).fLogLevelThreshold = threshold := call_spec.2.1.trans hthreshold
    rw [calls_cons, List.flatMap_cons, Machine.always_cons, ← ih hnext]
    by_cases hharmless : Harmless profiler c
    . rw [call_harmless hharmless, hthreshold, List.append_assoc]
      simp [hharmless]
    . constructor
      . intro h
        have hlength := congrArg List.length h
        have hlost := @call_harmful writeString profiler c hharmless
        have hrest := @calls_length writeString _ threshold cs hnext
        rw [hthreshold] at hlost
        rw [List.length_append, List.length_append] at hlength
        omega
      . intro h
        exact absurd h.1 hharmless

end Run

/--
The messages are kept exactly if the log structure is never sent out with a pending message.
-/
theorem keeps_logs_iff (writeString : LogRoot → String) (threshold : LogLevel) (profilerPrefix : String)
    (cs : List Call)
    : (∃ roots,
          Keeps writeString (calls writeString (create (some {}) threshold profilerPrefix) cs)
            (cs.flatMap (Call.logged threshold)) roots)
        ↔
      Machine.Always Harmless (call writeString) (create (some {}) threshold profilerPrefix) cs := by
  have hevents := @calls_events_iff writeString (create (some {}) threshold profilerPrefix) threshold cs rfl
  have hsender := @calls_fLogSender writeString (create (some {}) threshold profilerPrefix) cs
  rw [← hevents]
  constructor
  . intro ⟨roots, h⟩
    have hpayloads := h.payloads.symm.trans hsender
    have hnone : roots = [] := by
      have hmap : roots.map writeString = [] := congrArg LogSender.payloads (Option.some.inj hpayloads)
      exact List.map_eq_nil_iff.mp hmap
    have honce := h.once
    rw [hnone] at honce
    exact honce
  . intro h
    refine ⟨[], ?_, ?_, ?_⟩
    . exact hsender
    . exact h
    . simp

def writeRoot (root : LogRoot) : String :=
  let events := root.LogEvents.map fun logNode =>
    "\x7b\"logEntry\":\"" ++ logNode.logEntry ++ "\",\"logFunction\":\"" ++ logNode.logFunction
      ++ "\",\"logLevel\":\"" ++ logNode.logLevel ++ "\"\x7d"
  "\x7b\"LogEvents\":[" ++ ",".intercalate events ++ "],\"Prefix\":\"" ++ root.Prefix ++ "\"\x7d"

theorem not_keeps_logs
    : ¬∀ cs, ∃ roots,
        Keeps writeRoot (calls writeRoot (create (some {}) .Trace "Test") cs)
          (cs.flatMap (Call.logged .Trace)) roots := by
  intro h
  have ⟨roots, hkeeps⟩ := h [.logMessage .Error "function" "entry", .sendLogsOut]
  have hsender := hkeeps.payloads.symm.trans calls_fLogSender
  have hmap : roots.map writeRoot = [] := congrArg LogSender.payloads (Option.some.inj hsender)
  have hpending : (calls writeRoot (create (some {}) .Trace "Test")
      [.logMessage .Error "function" "entry", .sendLogsOut]).fLogRoot.LogEvents = [] := by
    unfold calls
    rw [List.foldl_cons, List.foldl_cons, List.foldl_nil]
    exact congrArg (fun profiler => profiler.fLogRoot.LogEvents) sendLogsOut_eq
  have honce := hkeeps.once
  rw [List.map_eq_nil_iff.mp hmap, hpending] at honce
  simp [Call.logged, LogLevel.toNat] at honce

end RemoteProfiler

end OffboardConnectivity
