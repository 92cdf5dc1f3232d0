import FleetWiseEdge.Diag.Impl.OBDWorker
import FleetWiseEdge.Diag.RequestLists

namespace DataInspection

open Cpp DataManagement OBDOverCANModule

variable {V : Type}

inductive OBDWorkerEvent (V : Type) where
  | dictionaryChange (dictionary : Option (OBDDictionary V)) (networkProtocol : VehicleDataSourceProtocol)
  | inspectionMatrixChange (activeConditions : Option (InspectionMatrix V))
  | pass (responses : OBDResponses) (now : Nat)

namespace OBDWorker

variable [InspectionValue V]

def start (mHasTransmission : Bool) (pidInterval dtcInterval time : Nat) : OBDWorker V where
  mHasTransmission := mHasTransmission
  mPIDRequestIntervalSeconds := pidInterval
  mDTCRequestIntervalSeconds := dtcInterval
  mPIDTimer := time
  mDTCTimer := time

def step (s : OBDWorker V) (e : OBDWorkerEvent V) : Option (OBDWorker V × List (OBDOutput V)) :=
  match e with
  | .dictionaryChange dictionary networkProtocol =>
    some ({ s with
      toOBDOverCANModule := s.toOBDOverCANModule.onChangeOfActiveDictionary dictionary networkProtocol }, [])
  | .inspectionMatrixChange activeConditions => some (s.onChangeInspectionMatrix activeConditions, [])
  | .pass responses now => (s.doWork responses now).map fun (s, output) => (s, [output])

def run (s : OBDWorker V) (events : List (OBDWorkerEvent V)) : Option (OBDWorker V × List (OBDOutput V)) :=
  match events with
  | [] => some (s, [])
  | e :: es =>
    match s.step e with
    | none => none
    | some (s, outputs) => (s.run es).map fun (s, rest) => (s, outputs ++ rest)

theorem run_cons_of {s s' s'' : OBDWorker V} {e : OBDWorkerEvent V} {es : List (OBDWorkerEvent V)}
    {outputs rest : List (OBDOutput V)} (hstep : s.step e = some (s', outputs)) (hrun : s'.run es = some (s'', rest))
    : s.run (e :: es) = some (s'', outputs ++ rest) := by
  unfold run
  rw [hstep]
  dsimp only
  rw [hrun]
  rfl

theorem run_append_of {s s' s'' : OBDWorker V} {events events' : List (OBDWorkerEvent V)}
    {outputs rest : List (OBDOutput V)} (hrun : s.run events = some (s', outputs))
    (hrest : s'.run events' = some (s'', rest))
    : s.run (events ++ events') = some (s'', outputs ++ rest) := by
  induction events generalizing s outputs with
  | nil =>
    unfold run at hrun
    rw [Option.some.injEq, Prod.mk.injEq] at hrun
    rw [← hrun.1] at hrest
    rw [← hrun.2]
    exact hrest
  | cons e es ih =>
    unfold run at hrun
    cases hstep : s.step e with
    | none =>
      rw [hstep] at hrun
      contradiction
    | some next =>
      rw [hstep] at hrun
      dsimp only at hrun
      obtain ⟨last, hlast, heq⟩ := Option.map_eq_some_iff.mp hrun
      rw [Prod.mk.injEq] at heq
      have htail : next.1.run es = some (s', last.2) := by
        rw [hlast, ← heq.1]
      rw [← heq.2, List.append_assoc]
      exact run_cons_of hstep (ih htail)

section Lists

variable {s : OBDWorker V}

def KnowsLists (s : OBDWorker V) : Prop :=
  ∃ known, Holds s.mHasTransmission known s.toOBDOverCANModule

omit [InspectionValue V] in
theorem pairwise_requestList {hasTransmission : Bool} {known : OBDKnowledge V} {m : OBDOverCANModule V}
    (h : Holds hasTransmission known m) {ecu : ECUType} {pids : SupportedPIDs}
    (hpids : m.getPIDsToRequest .CURRENT_STATS ecu = some pids)
    : pids.Pairwise (· < ·) := by
  rw [getPIDsToRequest_eq, h.toRequest] at hpids
  unfold requestList at hpids
  split at hpids
  . next supported d _ _ =>
    rw [Option.some.injEq] at hpids
    rw [← hpids]
    exact SortedIntersection.pairwise_setIntersection _ (pairwise_collectedPIDs d)
  . contradiction

theorem requestSignals_isSome (h : KnowsLists s) (ecu : ECUType)
    (respond : List (List PID) → Option (List UInt8)) (receptionTime : Nat)
    : ∃ signals, s.requestSignals ecu respond receptionTime = some signals := by
  have ⟨known, hholds⟩ := h
  unfold requestSignals
  split
  . exact ⟨_, rfl⟩
  . split
    . exact ⟨_, rfl⟩
    . next pids hpids =>
      split
      . exact ⟨_, rfl⟩
      . have hlength := length_le_of_pairwise (pairwise_requestList hholds hpids)
        obtain ⟨exchange, received, heq, _⟩ :=
          s.receiver.requestReceiveEmissionPIDs_requests .CURRENT_STATS respond {} (by omega : pids.length < 6 * 2 ^ 32)
        rw [heq]
        dsimp only
        split
        . exact ⟨_, rfl⟩
        . exact ⟨_, rfl⟩

structure SameDTCState (s s' : OBDWorker V) : Prop where
  hasTransmission : s'.mHasTransmission = s.mHasTransmission
  shouldRequestDTCs : s'.mShouldRequestDTCs = s.mShouldRequestDTCs
  interval : s'.mDTCRequestIntervalSeconds = s.mDTCRequestIntervalSeconds
  timer : s'.mDTCTimer = s.mDTCTimer

omit [InspectionValue V] in
theorem SameDTCState.trans {s s' s'' : OBDWorker V} (h : SameDTCState s s') (h' : SameDTCState s' s'')
    : SameDTCState s s'' where
  hasTransmission := h'.hasTransmission.trans h.hasTransmission
  shouldRequestDTCs := h'.shouldRequestDTCs.trans h.shouldRequestDTCs
  interval := h'.interval.trans h.interval
  timer := h'.timer.trans h.timer

omit [InspectionValue V] in
theorem setDecoderDictionary_frame (h : KnowsLists s)
    : KnowsLists s.setDecoderDictionary ∧ SameDTCState s s.setDecoderDictionary := by
  have ⟨known, hholds⟩ := h
  unfold setDecoderDictionary
  split
  . constructor
    . exact ⟨known, hholds.hasTransmission, hholds.requested, fun ecu => by
        rw [← hholds.supported ecu]
        cases ecu <;> rfl, fun ecu => by
        rw [← hholds.toRequest ecu]
        cases ecu <;> rfl⟩
    . exact ⟨rfl, rfl, rfl, rfl⟩
  . exact ⟨h, rfl, rfl, rfl, rfl⟩

omit [InspectionValue V] in
theorem requestReceiveVIN_frame (h : KnowsLists s) (ecuResponse : Option (List UInt8))
    : KnowsLists (s.requestReceiveVIN ecuResponse) ∧ SameDTCState s (s.requestReceiveVIN ecuResponse) := by
  have hsame : (s.requestReceiveVIN ecuResponse).toOBDOverCANModule = s.toOBDOverCANModule
      ∧ SameDTCState s (s.requestReceiveVIN ecuResponse) := by
    unfold requestReceiveVIN
    split
    . split
      . exact ⟨rfl, rfl, rfl, rfl, rfl⟩
      . exact ⟨rfl, rfl, rfl, rfl, rfl⟩
      . exact ⟨rfl, rfl, rfl, rfl, rfl⟩
    . exact ⟨rfl, rfl, rfl, rfl, rfl⟩
  refine ⟨?_, hsame.2⟩
  unfold KnowsLists
  rw [hsame.1]
  exact h

omit [InspectionValue V] in
theorem discover_frame (h : KnowsLists s) (ecu : ECUType) (responses : OBDResponses)
    : KnowsLists (s.discover ecu responses) ∧ SameDTCState s (s.discover ecu responses) := by
  have ⟨known, hholds⟩ := h
  have hdiscovery := hholds.discovery ecu responses.isAlive (responses.supportedPIDs ecu)
  have hsame : (s.discover ecu responses).mHasTransmission = s.mHasTransmission := hdiscovery.hasTransmission
  constructor
  . unfold KnowsLists
    rw [hsame]
    exact ⟨_, hdiscovery⟩
  . exact ⟨hsame, rfl, rfl, rfl⟩

theorem requestPIDFlow_frame (h : KnowsLists s) (responses : OBDResponses) (now : Nat)
    : ∃ s' signals, s.requestPIDFlow responses now = some (s', signals)
        ∧ KnowsLists s' ∧ SameDTCState s s' := by
  unfold requestPIDFlow
  split
  . exact ⟨_, _, rfl, h, rfl, rfl, rfl, rfl⟩
  . obtain ⟨hvin, hsame⟩ := requestReceiveVIN_frame h responses.vin
    dsimp only
    split
    . obtain ⟨hengine, hsame₂⟩ := discover_frame hvin .ENGINE responses
      obtain ⟨htransmission, hsame₃⟩ := discover_frame hengine .TRANSMISSION responses
      have hall := (hsame.trans hsame₂).trans hsame₃
      obtain ⟨signals, hsignals⟩ := requestSignals_isSome htransmission .ENGINE (responses.emissionPIDs .ENGINE) now
      obtain ⟨signals', hsignals'⟩ :=
        requestSignals_isSome htransmission .TRANSMISSION (responses.emissionPIDs .TRANSMISSION) now
      rw [hsignals, hsignals']
      exact ⟨_, _, rfl, htransmission, hall.hasTransmission, hall.shouldRequestDTCs, hall.interval, hall.timer⟩
    . exact ⟨_, _, rfl, hvin, hsame⟩

end Lists

end OBDWorker

end DataInspection
