import FleetWiseEdge.Diag.ActiveManifest
import FleetWiseEdge.Diag.Lemmas.OBDWorker

/-!
This module contains OBD sessions: whatever order the dictionaries, the passes and the failures come in, a
pass hands out the signals that are requested of the PIDs that the ECUs support, with their physical values.
-/

namespace DataInspection

open Cpp DataManagement OBDDataDecoder OBDOverCANModule

variable {V : Type} [InspectionValue V]

def FoundOf (ecus : ECUType → ECU) (known : OBDKnowledge V) : Prop :=
  ∀ ecu pids, known.supported ecu = some pids → ∀ pid, pid ∈ pids ↔ (ecus ecu).Discoverable pid

def AnsweredBy (ecus : ECUType → ECU) (e : OBDWorkerEvent V) : Prop :=
  match e with
  | .pass responses _ => ∀ ecu, (∃ data, responses.supportedPIDs ecu = (ecus ecu).respond data)
      ∨ responses.supportedPIDs ecu = fun _ => none
  | _ => True

def KeepsDictionary (e : OBDWorkerEvent V) : Prop :=
  match e with
  | .dictionaryChange _ networkProtocol => networkProtocol ≠ .OBD
  | _ => True

omit [InspectionValue V] in
theorem requestReceiveSupportedPIDs_silent
    : requestReceiveSupportedPIDs .CURRENT_STATS (fun _ => none) = ([], false) := rfl

def isReached (hasTransmission isAlive : Bool) (ecu : ECUType) : Bool :=
  match ecu with
  | .ENGINE => isAlive
  | .TRANSMISSION => hasTransmission

omit [InspectionValue V] in
theorem learn_discovery (known : OBDKnowledge V) (hasTransmission : Bool) (ecu : ECUType) (isAlive : Bool)
    {respond : List UInt8 → Option (List UInt8)} {found : SupportedPIDs} {received : Bool}
    (hrun : requestReceiveSupportedPIDs .CURRENT_STATS respond = (found, received))
    : known.learn hasTransmission (.discovery ecu isAlive respond)
        =
      if isReached hasTransmission isAlive ecu && (known.supported ecu).isNone && received then
        known.found ecu found
      else
        known := by
  unfold OBDKnowledge.learn isReached
  dsimp only
  rewrite [hrun]
  cases ecu <;> rfl

omit [InspectionValue V] in
theorem FoundOf.discovery {ecus : ECUType → ECU} {known : OBDKnowledge V} (h : FoundOf ecus known)
    (hasTransmission : Bool) (ecu : ECUType) (isAlive : Bool) {respond : List UInt8 → Option (List UInt8)}
    (hrespond : (∃ data, respond = (ecus ecu).respond data) ∨ respond = fun _ => none)
    : FoundOf ecus (known.learn hasTransmission (.discovery ecu isAlive respond)) := by
  cases hrespond with
  | inr hsilent =>
    rw [hsilent, learn_discovery known hasTransmission ecu isAlive requestReceiveSupportedPIDs_silent,
      if_neg (by simp)]
    exact h
  | inl hanswer =>
    have ⟨data, heq⟩ := hanswer
    obtain ⟨found, received, hrun, hfound, _⟩ := (ecus ecu).requestReceiveSupportedPIDs_respond data
    rw [heq, learn_discovery known hasTransmission ecu isAlive hrun]
    split
    . intro other pids hpids
      by_cases hsame : other = ecu
      . rw [hsame, OBDKnowledge.found_supported_self, Option.some.injEq] at hpids
        rw [← hpids, hsame]
        exact hfound
      . rw [known.found_supported_of_ne found hsame] at hpids
        exact h other pids hpids
    . exact h

omit [InspectionValue V] in
theorem learn_discovery_dictionary (known : OBDKnowledge V) (hasTransmission : Bool) (ecu : ECUType)
    (isAlive : Bool) (respond : List UInt8 → Option (List UInt8))
    : (known.learn hasTransmission (.discovery ecu isAlive respond)).dictionary = known.dictionary := by
  rw [learn_discovery known hasTransmission ecu isAlive rfl]
  split <;> rfl

omit [InspectionValue V] in
theorem known_of_discovery {ecus : ECUType → ECU} (known : OBDKnowledge V) (hasTransmission : Bool)
    (ecu : ECUType) (isAlive : Bool) (data : PID → List UInt8)
    (hreached : isReached hasTransmission isAlive ecu = true)
    : ((known.learn hasTransmission (.discovery ecu isAlive ((ecus ecu).respond data))).supported ecu).isSome = true
        ∨
      ∀ pid, ¬ (ecus ecu).Discoverable pid := by
  obtain ⟨found, received, hrun, _, hreceived⟩ := (ecus ecu).requestReceiveSupportedPIDs_respond data
  rw [learn_discovery known hasTransmission ecu isAlive hrun, hreached]
  by_cases hany : ∃ pid, (ecus ecu).Discoverable pid
  . left
    rw [hreceived.mpr hany]
    cases hknown : known.supported ecu with
    | none =>
      rw [if_pos (by simp), OBDKnowledge.found_supported_self]
      rfl
    | some pids =>
      rw [if_neg (by simp), hknown]
      rfl
  . right
    exact fun pid hpid => hany ⟨pid, hpid⟩

/--
The state in a session. `m` is the manifest of the last dictionary, if it is one of a manifest.
-/
structure InSession (mHasTransmission : Bool) (ecus : ECUType → ECU) (m : Option (ActiveManifest V))
    (s : OBDWorker V) : Prop where
  lists : ∃ known, Holds mHasTransmission known s.toOBDOverCANModule ∧ FoundOf ecus known
    ∧ ∀ m', m = some m' → known.dictionary = some m'.dictionary
  active : ∀ m', m = some m' → s.mDecoderDictionaryPtr = some m'.dictionary.formats
  passed : ∀ m', m = some m' → m'.dictionary.frames = [] ∨ s.mDecoderManifestAvailable = true
    ∨ s.decoderDictionary = some m'.dictionary.formats

namespace InSession

variable {mHasTransmission : Bool} {ecus : ECUType → ECU} {m : Option (ActiveManifest V)} {s : OBDWorker V}

theorem setDecoderDictionary (h : InSession mHasTransmission ecus m s)
    : InSession mHasTransmission ecus m s.setDecoderDictionary
        ∧
      ∀ m', m = some m' → m'.dictionary.frames = []
        ∨ s.setDecoderDictionary.decoderDictionary = some m'.dictionary.formats := by
  have ⟨known, hholds, hfound, hknown⟩ := h.lists
  unfold OBDWorker.setDecoderDictionary
  split
  . refine ⟨⟨⟨known, ?_, hfound, hknown⟩, h.active, fun m' hm => Or.inr (Or.inr (h.active m' hm))⟩, ?_⟩
    . exact ⟨hholds.hasTransmission, hholds.requested, fun ecu => by
        rw [← hholds.supported ecu]
        cases ecu <;> rfl, fun ecu => by
        rw [← hholds.toRequest ecu]
        cases ecu <;> rfl⟩
    . exact fun m' hm => Or.inr (h.active m' hm)
  . next havailable =>
    refine ⟨h, ?_⟩
    intro m' hm
    have hpassed := h.passed m' hm
    rw [Bool.not_eq_true] at havailable
    rw [havailable] at hpassed
    simpa using hpassed

omit [InspectionValue V] in
theorem requestReceiveVIN_eq (s : OBDWorker V) (ecuResponse : Option (List UInt8))
    : (s.requestReceiveVIN ecuResponse).toOBDOverCANModule = s.toOBDOverCANModule
        ∧ (s.requestReceiveVIN ecuResponse).decoderDictionary = s.decoderDictionary
        ∧ (s.requestReceiveVIN ecuResponse).mPIDRequestIntervalSeconds = s.mPIDRequestIntervalSeconds
        ∧ (s.requestReceiveVIN ecuResponse).mPIDTimer = s.mPIDTimer := by
  unfold OBDWorker.requestReceiveVIN
  split
  . split <;> exact ⟨rfl, rfl, rfl, rfl⟩
  . exact ⟨rfl, rfl, rfl, rfl⟩

theorem of_eq {s' : OBDWorker V} (h : InSession mHasTransmission ecus m s)
    (hmodule : s'.toOBDOverCANModule = s.toOBDOverCANModule)
    (hdecoder : s'.decoderDictionary = s.decoderDictionary)
    : InSession mHasTransmission ecus m s' where
  lists := by
    rw [hmodule]
    exact h.lists
  active := by
    rw [hmodule]
    exact h.active
  passed := by
    rw [hmodule, hdecoder]
    exact h.passed

theorem discover (h : InSession mHasTransmission ecus m s) (ecu : ECUType) {responses : OBDResponses}
    (hrespond : (∃ data, responses.supportedPIDs ecu = (ecus ecu).respond data)
      ∨ responses.supportedPIDs ecu = fun _ => none)
    : InSession mHasTransmission ecus m (s.discover ecu responses) := by
  have ⟨known, hholds, hfound, hknown⟩ := h.lists
  have hdiscovery := hholds.discovery ecu responses.isAlive (responses.supportedPIDs ecu)
  have hkept : (s.discover ecu responses).mDecoderDictionaryPtr = s.mDecoderDictionaryPtr
      ∧ (s.discover ecu responses).mDecoderManifestAvailable = s.mDecoderManifestAvailable := by
    unfold OBDWorker.discover discoverSupportedPIDs
    dsimp only
    cases ecu with
    | ENGINE =>
      dsimp only
      split
      . split <;> exact ⟨rfl, rfl⟩
      . exact ⟨rfl, rfl⟩
    | TRANSMISSION =>
      dsimp only
      split
      . split <;> exact ⟨rfl, rfl⟩
      . exact ⟨rfl, rfl⟩
  constructor
  . refine ⟨_, hdiscovery, hfound.discovery _ ecu _ hrespond, ?_⟩
    intro m' hm
    rw [learn_discovery_dictionary]
    exact hknown m' hm
  . intro m' hm
    rw [hkept.1]
    exact h.active m' hm
  . intro m' hm
    rw [hkept.2]
    exact h.passed m' hm

theorem requestDTCFlow (h : InSession mHasTransmission ecus m s) (responses : OBDResponses) (now : Nat)
    : InSession mHasTransmission ecus m (s.requestDTCFlow responses now).1 := by
  unfold OBDWorker.requestDTCFlow
  split
  . exact h.of_eq rfl rfl
  . exact h

theorem knowsLists (h : InSession mHasTransmission ecus m s) : s.KnowsLists := by
  have ⟨known, hholds, _⟩ := h.lists
  unfold OBDWorker.KnowsLists
  rw [hholds.hasTransmission]
  exact ⟨known, hholds⟩

theorem hasTransmission (h : InSession mHasTransmission ecus m s) : s.mHasTransmission = mHasTransmission :=
  have ⟨_, hholds, _⟩ := h.lists
  hholds.hasTransmission

theorem requestPIDFlow (h : InSession mHasTransmission ecus m s) {responses : OBDResponses} (now : Nat)
    (hrespond : ∀ ecu, (∃ data, responses.supportedPIDs ecu = (ecus ecu).respond data)
      ∨ responses.supportedPIDs ecu = fun _ => none)
    {s' : OBDWorker V} {signals : List (CollectedSignal V)}
    (hflow : s.requestPIDFlow responses now = some (s', signals))
    : InSession mHasTransmission ecus m s' := by
  have ⟨hmodule, hdecoder, _, _⟩ := requestReceiveVIN_eq s responses.vin
  have hvin := h.of_eq hmodule hdecoder
  unfold OBDWorker.requestPIDFlow at hflow
  split at hflow
  . rw [Option.some.injEq, Prod.mk.injEq] at hflow
    exact hflow.1 ▸ h
  . dsimp only at hflow
    split at hflow
    . have hboth := (hvin.discover .ENGINE (hrespond .ENGINE)).discover .TRANSMISSION (hrespond .TRANSMISSION)
      obtain ⟨engine, hengine⟩ := OBDWorker.requestSignals_isSome hboth.knowsLists .ENGINE
        (responses.emissionPIDs .ENGINE) now
      obtain ⟨transmission, htransmission⟩ := OBDWorker.requestSignals_isSome hboth.knowsLists .TRANSMISSION
        (responses.emissionPIDs .TRANSMISSION) now
      rw [hengine, htransmission] at hflow
      simp only [Option.bind_eq_bind, Option.bind_some, Option.pure_def, Option.some.injEq, Prod.mk.injEq] at hflow
      rw [← hflow.1]
      exact hboth.of_eq rfl rfl
    . rw [Option.some.injEq, Prod.mk.injEq] at hflow
      exact hflow.1 ▸ hvin

theorem step (h : InSession mHasTransmission ecus m s) {e : OBDWorkerEvent V} (hanswered : AnsweredBy ecus e)
    (hkeeps : m.isSome = true → KeepsDictionary e)
    : ∃ s' outputs, s.step e = some (s', outputs) ∧ InSession mHasTransmission ecus m s' := by
  have ⟨known, hholds, hfound, hknown⟩ := h.lists
  cases e with
  | dictionaryChange dictionary networkProtocol =>
    have hchange := hholds.dictionaryChange dictionary networkProtocol
    refine ⟨_, _, rfl, ?_⟩
    cases m with
    | some m =>
      have hne := hkeeps rfl
      unfold KeepsDictionary at hne
      dsimp only at hne
      have hsame : s.onChangeOfActiveDictionary dictionary networkProtocol = s.toOBDOverCANModule := by
        unfold onChangeOfActiveDictionary
        rw [if_neg hne]
      rw [hsame]
      exact h
    | none =>
      have hfound' : FoundOf ecus (known.learn mHasTransmission (.dictionaryChange dictionary networkProtocol)) := by
        intro ecu pids hpids
        apply hfound ecu pids
        rw [← hpids]
        unfold OBDKnowledge.learn
        dsimp only
        split <;> rfl
      constructor
      . exact ⟨_, hchange, hfound', by simp⟩
      . simp
      . simp
  | inspectionMatrixChange activeConditions =>
    refine ⟨_, _, rfl, ?_⟩
    unfold OBDWorker.onChangeInspectionMatrix
    split
    . exact h
    . exact h.of_eq rfl rfl
  | pass responses now =>
    have htaken := h.setDecoderDictionary.1
    obtain ⟨s₁, signals, hflow, _, _⟩ := OBDWorker.requestPIDFlow_frame htaken.knowsLists responses now
    have hnext := (htaken.requestPIDFlow now hanswered hflow).requestDTCFlow responses now
    refine ⟨_, [⟨signals, (s₁.requestDTCFlow responses now).2⟩], ?_, hnext⟩
    unfold OBDWorker.step OBDWorker.doWork
    dsimp only
    rw [hflow]
    rfl

theorem run (h : InSession mHasTransmission ecus m s) {events : List (OBDWorkerEvent V)}
    (hanswered : ∀ e ∈ events, AnsweredBy ecus e) (hkeeps : ∀ e ∈ events, m.isSome = true → KeepsDictionary e)
    : ∃ s' outputs, s.run events = some (s', outputs) ∧ InSession mHasTransmission ecus m s' := by
  induction events generalizing s with
  | nil => exact ⟨s, [], rfl, h⟩
  | cons e es ih =>
    obtain ⟨s₁, outputs, heq, hnext⟩ := h.step (hanswered e (by simp)) (hkeeps e (by simp))
    obtain ⟨s', rest, hrest, hlast⟩ := ih hnext (fun e he => hanswered e (List.mem_cons_of_mem _ he))
      (fun e he => hkeeps e (List.mem_cons_of_mem _ he))
    exact ⟨s', outputs ++ rest, OBDWorker.run_cons_of heq hrest, hlast⟩

theorem dictionaryChange (h : InSession mHasTransmission ecus none s) (m : ActiveManifest V)
    : ∃ s', s.step (.dictionaryChange (some m.dictionary) .OBD) = some (s', [])
        ∧ InSession mHasTransmission ecus (some m) s' := by
  have ⟨known, hholds, hfound, _⟩ := h.lists
  have hchange := hholds.dictionaryChange (some m.dictionary) .OBD
  refine ⟨_, rfl, ?_, ?_, ?_⟩
  . refine ⟨_, hchange, hfound, ?_⟩
    intro m' hm
    rw [Option.some.injEq] at hm
    rw [← hm]
    rfl
  . intro m' hm
    rw [Option.some.injEq] at hm
    rw [← hm]
    rfl
  . intro m' hm
    rw [Option.some.injEq] at hm
    rw [← hm]
    by_cases hempty : m.dictionary.frames = []
    . exact Or.inl hempty
    . refine Or.inr (Or.inl ?_)
      change (s.mDecoderManifestAvailable || !m.dictionary.frames.isEmpty) = true
      simp [hempty]

end InSession

/--
The requests of a pass: no request is too long, and each PID that the ECU supports and a signal is requested of is
in one of them, once.
-/
structure AskedFor (m : ActiveManifest V) (ecu : ECU) (requests : List (List PID)) : Prop where
  length_le : ∀ request ∈ requests, request.length ≤ MAX_PID_RANGE
  nodup : requests.flatten.Nodup
  mem_iff : ∀ pid, pid ∈ requests.flatten ↔ ecu.Discoverable pid ∧ ∃ signalID, m.Requests signalID pid

/--
The signals of a pass are those that are requested of the PIDs that the ECU supports, each one once, with the
data that the ECU had for the request with the PID.
-/
structure ReportedBy (m : ActiveManifest V) (ecu : ECU) (data : Nat → PID → List UInt8) (now : Nat)
    (signals : List (CollectedSignal V)) : Prop where
  ordered : signals.Pairwise fun a b => a.signalID < b.signalID
  mem_iff : ∀ signalID, signalID ∈ signals.map (·.signalID)
    ↔ ∃ pid, ecu.Discoverable pid ∧ m.Requests signalID pid
  value : ∃ requests, AskedFor m ecu requests
    ∧ ∀ signal ∈ signals, signal.messageID = MESSAGE_ID_NA ∧ signal.receiveTime = now
      ∧ ∃ n request pid, requests[n]? = some request ∧ pid ∈ request ∧ m.Requests signal.signalID pid
        ∧ signal.value = (m.manifest.getPIDSignalDecoderFormat signal.signalID).physicalValue (data n pid)

section Report

variable {m : ActiveManifest V} {ecu : ECU} {data : Nat → PID → List UInt8} {now : Nat}

theorem reportedBy_nil (h : ∀ signalID pid, ecu.Discoverable pid → ¬ m.Requests signalID pid)
    : ReportedBy m ecu data now [] where
  ordered := List.Pairwise.nil
  mem_iff := by
    intro signalID
    constructor
    . intro hmem
      contradiction
    . intro ⟨pid, hpid, hsignal⟩
      exact absurd hsignal (h signalID pid hpid)
  value := by
    refine ⟨[], ⟨by simp, List.nodup_nil, ?_⟩, by simp⟩
    intro pid
    constructor
    . intro hmem
      contradiction
    . intro ⟨hpid, signalID, hsignal⟩
      exact absurd hsignal (h signalID pid hpid)

-- The exchange has the last request in front.
theorem askedFor_reverse {pids : List PID} {requests : List (List PID)} (honce : RequestsOnce pids requests)
    (hpids : pids.Pairwise (· < ·))
    (hmem : ∀ pid, pid ∈ pids ↔ ecu.Discoverable pid ∧ ∃ signalID, m.Requests signalID pid)
    : AskedFor m ecu requests.reverse := by
  have hperm : requests.reverse.flatten.Perm pids := requests.reverse_perm.flatten.trans honce.perm
  constructor
  . intro request hrequest
    exact honce.length_le request (List.mem_reverse.mp hrequest)
  . exact hperm.nodup_iff.mpr (hpids.imp ne_of_lt)
  . intro pid
    rw [hperm.mem_iff, hmem]

theorem reportedBy_brought {exchange : EmissionRequests V} (h : Brought m.manifest m.schemes data exchange)
    (hasked : AskedFor m ecu exchange.requests.reverse)
    : ReportedBy m ecu data now (exchange.info.mPIDsToValues.toList.map fun it =>
        { signalID := it.1, receiveTime := now, value := it.2 }) where
  ordered := by
    rw [List.pairwise_map]
    exact (Std.ExtTreeMap.ordered_keys_toList).imp fun hlt => Nat.compare_eq_lt.mp hlt
  mem_iff := by
    intro signalID
    rw [List.map_map]
    have hkeys : signalID ∈ exchange.info.mPIDsToValues.toList.map (fun it => it.1)
        ↔ exchange.info.mPIDsToValues[signalID]?.isSome = true := by
      rw [Std.ExtTreeMap.map_fst_toList_eq_keys, Std.ExtTreeMap.mem_keys, Std.ExtTreeMap.mem_iff_isSome_getElem?]
    have hmap : (exchange.info.mPIDsToValues.toList.map ((fun signal : CollectedSignal V => signal.signalID)
        ∘ fun it => { signalID := it.1, receiveTime := now, value := it.2 }))
        = exchange.info.mPIDsToValues.toList.map (fun it => it.1) := rfl
    rw [hmap, hkeys, h.isSome_iff]
    have hflatten : ∀ pid, pid ∈ exchange.requests.flatten ↔ pid ∈ exchange.requests.reverse.flatten := by
      intro pid
      rw [exchange.requests.reverse_perm.flatten.mem_iff]
    constructor
    . intro ⟨pid, hpid, hsignal⟩
      exact ⟨pid, ((hasked.mem_iff pid).mp ((hflatten pid).mp hpid)).1, hsignal⟩
    . intro ⟨pid, hpid, hsignal⟩
      exact ⟨pid, (hflatten pid).mpr ((hasked.mem_iff pid).mpr ⟨hpid, signalID, hsignal⟩), hsignal⟩
  value := by
    refine ⟨exchange.requests.reverse, hasked, ?_⟩
    intro signal hmem
    have ⟨it, hit, heq⟩ := List.mem_map.mp hmem
    rw [← heq]
    refine ⟨rfl, rfl, ?_⟩
    have hvalue : exchange.info.mPIDsToValues[it.1]? = some it.2 :=
      Std.ExtTreeMap.mem_toList_iff_getElem?_eq_some.mp hit
    have ⟨pid, n, _, hpid, hsignal, hv⟩ := h.value it.1 it.2 hvalue
    cases hrequest : exchange.requests.reverse[n]? with
    | none =>
      rw [hrequest] at hpid
      contradiction
    | some request =>
      rw [hrequest] at hpid
      exact ⟨n, request, pid, hrequest, hpid, hsignal, hv⟩

end Report

section Pass

variable {mHasTransmission : Bool} {ecus : ECUType → ECU} {m : ActiveManifest V} {s : OBDWorker V}

theorem requestList_session (h : InSession mHasTransmission ecus (some m) s) (ecu : ECUType)
    : (∃ pids, s.getPIDsToRequest .CURRENT_STATS ecu = some pids ∧ pids.Pairwise (· < ·)
        ∧ ∀ pid, pid ∈ pids ↔ (ecus ecu).Discoverable pid ∧ ∃ signalID, m.Requests signalID pid)
      ∨ (s.getPIDsToRequest .CURRENT_STATS ecu = none ∧ s.supportedPIDs ecu = []) := by
  have ⟨known, hholds, hfound, hknown⟩ := h.lists
  have hdictionary := hknown m rfl
  have hlist := hholds.toRequest ecu
  rw [← getPIDsToRequest_eq] at hlist
  have hsupported := hholds.supported ecu
  unfold requestList at hlist
  rw [hdictionary] at hlist
  cases hpids : known.supported ecu with
  | none =>
    rw [hpids] at hlist hsupported
    exact Or.inr ⟨hlist, hsupported⟩
  | some supported =>
    rw [hpids] at hlist
    left
    refine ⟨_, hlist, OBDWorker.pairwise_requestList hholds hlist, ?_⟩
    intro pid
    have hle : (collectedPIDs m.dictionary).Pairwise (· ≤ ·) := (pairwise_collectedPIDs m.dictionary).imp le_of_lt
    rw [SortedIntersection.mem_setIntersection (List.pairwise_insertionSort _ _) hle]
    rw [List.mem_insertionSort, mem_collectedPIDs, m.collects_iff, hfound ecu supported hpids]

theorem requestSignals_session (h : InSession mHasTransmission ecus (some m) s)
    (hdecoder : s.decoderDictionary = some m.dictionary.formats) {ecu : ECUType}
    (hreached : ecu = .TRANSMISSION → s.mHasTransmission = true)
    (hknown : s.supportedPIDs ecu ≠ [] ∨ ∀ pid, ¬ (ecus ecu).Discoverable pid) {data : Nat → PID → List UInt8}
    (hlength : ∀ n pid, (ecus ecu).Discoverable pid → (∃ signalID, m.Requests signalID pid) →
      (data n pid).length = m.responseLength pid)
    (now : Nat)
    : ∃ signals, s.requestSignals ecu ((ecus ecu).respondRequests data) now = some signals
        ∧ ReportedBy m (ecus ecu) data now signals := by
  have hskip : ¬ (ecu = .TRANSMISSION && !s.mHasTransmission) = true := by
    intro hcond
    rw [Bool.and_eq_true, decide_eq_true_eq] at hcond
    rw [hreached hcond.1] at hcond
    simp at hcond
  unfold OBDWorker.requestSignals
  rw [if_neg hskip]
  cases requestList_session h ecu with
  | inr hnone =>
    rw [hnone.1]
    refine ⟨[], rfl, reportedBy_nil ?_⟩
    intro signalID pid hpid
    exact absurd hpid (hknown.resolve_left (not_not.mpr hnone.2) pid)
  | inl hsome =>
    have ⟨pids, hpids, hordered, hmem⟩ := hsome
    rw [hpids]
    dsimp only
    by_cases hempty : pids = []
    . rw [hempty, if_pos List.isEmpty_nil]
      refine ⟨[], rfl, reportedBy_nil ?_⟩
      intro signalID pid hpid hsignal
      have := (hmem pid).mpr ⟨hpid, signalID, hsignal⟩
      rw [hempty] at this
      contradiction
    . rw [if_neg (by simpa using hempty)]
      have hdictionary : s.receiver.mDecoderDictionaryPtr
          = some (extractOBDDictionary m.manifest m.translator m.schemes) := by
        rw [← m.formats_eq, ← hdecoder]
        rfl
      obtain ⟨exchange, received, heq, hbrought, honce, hreceived⟩ :=
        requestReceiveEmissionPIDs_brought data m.wellFormed m.inside hdictionary (length_le_of_pairwise hordered)
          (fun pid hpid => ((hmem pid).mp hpid).1) (fun pid hpid => ((hmem pid).mp hpid).2)
          (fun n pid hpid => hlength n pid ((hmem pid).mp hpid).1 ((hmem pid).mp hpid).2)
      have hreported : ReportedBy m (ecus ecu) data now (exchange.info.mPIDsToValues.toList.map fun it =>
          { signalID := it.1, receiveTime := now, value := it.2 }) :=
        reportedBy_brought hbrought (askedFor_reverse honce hordered hmem)
      rw [heq]
      dsimp only
      by_cases hany : received = true
      . rw [if_pos hany]
        exact ⟨_, rfl, hreported⟩
      . rw [if_neg hany]
        refine ⟨[], rfl, ?_⟩
        rw [hreceived, Bool.not_eq_true', Bool.not_eq_false, Std.ExtTreeMap.isEmpty_iff] at hany
        rw [hany] at hreported
        exact hreported

omit [InspectionValue V] in
theorem supportedPIDs_discover {known : OBDKnowledge V}
    (hholds : Holds mHasTransmission known s.toOBDOverCANModule) {ecu : ECUType} {responses : OBDResponses}
    {data : PID → List UInt8} (hrespond : responses.supportedPIDs ecu = (ecus ecu).respond data)
    (hreached : isReached mHasTransmission responses.isAlive ecu = true)
    : (s.discover ecu responses).supportedPIDs ecu ≠ [] ∨ ∀ pid, ¬ (ecus ecu).Discoverable pid := by
  have hdiscovery := hholds.discovery ecu responses.isAlive (responses.supportedPIDs ecu)
  rw [hrespond] at hdiscovery
  apply (known_of_discovery known mHasTransmission ecu responses.isAlive data hreached).imp_left
  intro hsome hnil
  have hsupported := hdiscovery.supported ecu
  change (s.discover ecu responses).supportedPIDs ecu = [] at hnil
  unfold OBDWorker.discover at hnil
  rw [hrespond] at hnil
  rw [hnil] at hsupported
  have hempty := congrArg List.isEmpty hsupported
  rw [supportedMap_isEmpty] at hempty
  rw [← Option.not_isNone] at hsome
  rw [← hempty] at hsome
  contradiction

omit [InspectionValue V] in
theorem supportedPIDs_discover_of_ne (s : OBDWorker V) {ecu other : ECUType} (responses : OBDResponses)
    (hne : other ≠ ecu)
    : (s.discover ecu responses).supportedPIDs other = s.supportedPIDs other := by
  unfold OBDWorker.discover discoverSupportedPIDs
  dsimp only
  cases ecu with
  | ENGINE =>
    cases other with
    | ENGINE => contradiction
    | TRANSMISSION =>
      dsimp only
      split
      . split <;> rfl
      . rfl
  | TRANSMISSION =>
    cases other with
    | TRANSMISSION => contradiction
    | ENGINE =>
      dsimp only
      split
      . split <;> rfl
      . rfl

omit [InspectionValue V] in
theorem frames_ne_nil {d : OBDDictionary V} {pid : PID} (h : (d.formats pid).isSome = true) : d.frames ≠ [] := by
  obtain ⟨format, hformat⟩ := Option.isSome_iff_exists.mp h
  unfold OBDDictionary.formats at hformat
  split at hformat
  . contradiction
  . next ch hch =>
    split at hformat
    . contradiction
    . next methods hmethods =>
      have ⟨method, hmethod, _⟩ := Option.map_eq_some_iff.mp hformat
      exact List.ne_nil_of_mem ((d.mem_frames pid.toNat).mpr ⟨ch, methods, hch, hmethods, by rw [hmethod]; rfl⟩)

theorem hasNoDictionary_iff (h : InSession mHasTransmission ecus (some m) s)
    : s.hasNoDictionary = true ↔ ∀ pid, m.dictionary.formats pid = none := by
  unfold OBDWorker.hasNoDictionary
  rw [h.active m rfl]
  dsimp only
  rw [List.all_eq_true]
  constructor
  . intro hall pid
    have hpid := hall pid.toNat (List.mem_range.mpr pid.toNat_lt)
    rwa [UInt8.ofNat_toNat, Option.isNone_iff_eq_none] at hpid
  . intro hall n _
    rw [hall]
    rfl

structure PassReported (mHasTransmission : Bool) (m : ActiveManifest V) (ecus : ECUType → ECU)
    (data : ECUType → Nat → PID → List UInt8) (now : Nat) (signals : List (CollectedSignal V)) : Prop where
  split : ∃ engine transmission, signals = engine ++ transmission
    ∧ ReportedBy m (ecus .ENGINE) (data .ENGINE) now engine
    ∧ if mHasTransmission then
        ReportedBy m (ecus .TRANSMISSION) (data .TRANSMISSION) now transmission
      else
        transmission = []

theorem requestPIDFlow_session (h : InSession mHasTransmission ecus (some m) s)
    (hpassed : m.dictionary.frames = [] ∨ s.decoderDictionary = some m.dictionary.formats)
    {responses : OBDResponses} {now : Nat} {data : ECUType → Nat → PID → List UInt8}
    (hdue : OBDWorker.isDue s.mPIDRequestIntervalSeconds s.mPIDTimer now = true) (halive : responses.isAlive = true)
    (hsupported : ∀ ecu, ∃ data, responses.supportedPIDs ecu = (ecus ecu).respond data)
    (hemission : ∀ ecu, responses.emissionPIDs ecu = (ecus ecu).respondRequests (data ecu))
    (hlength : ∀ ecu n pid, (ecus ecu).Discoverable pid → (∃ signalID, m.Requests signalID pid) →
      (data ecu n pid).length = m.responseLength pid)
    : ∃ s' signals, s.requestPIDFlow responses now = some (s', signals)
        ∧ PassReported mHasTransmission m ecus data now signals := by
  unfold OBDWorker.requestPIDFlow
  by_cases hempty : s.hasNoDictionary = true
  . have hnone : ∀ signalID pid, ¬ m.Requests signalID pid := by
      intro signalID pid hsignal
      obtain ⟨format, hformat⟩ := exists_format m.translator hsignal
      rw [← m.formats_eq, (hasNoDictionary_iff h).mp hempty] at hformat
      contradiction
    rw [if_pos hempty]
    refine ⟨_, _, rfl, [], [], rfl, reportedBy_nil fun signalID pid _ => hnone signalID pid, ?_⟩
    split
    . exact reportedBy_nil fun signalID pid _ => hnone signalID pid
    . rfl
  . have hdictionary : s.decoderDictionary = some m.dictionary.formats := by
      apply hpassed.resolve_left
      intro hframes
      apply hempty
      rw [hasNoDictionary_iff h]
      intro pid
      by_contra hpid
      exact frames_ne_nil (Option.isSome_iff_ne_none.mpr hpid) hframes
    have ⟨hmodule, hdecoder, hinterval, htimer⟩ := InSession.requestReceiveVIN_eq s responses.vin
    have hvin := h.of_eq hmodule hdecoder
    rw [if_neg hempty]
    dsimp only
    rw [hinterval, htimer, if_pos hdue]
    rw [← hdecoder] at hdictionary
    generalize s.requestReceiveVIN responses.vin = s₁ at hvin hdictionary
    have hengine := hvin.discover .ENGINE (Or.inl (hsupported .ENGINE))
    have hboth := hengine.discover .TRANSMISSION (Or.inl (hsupported .TRANSMISSION))
    have ⟨known, hholds, _⟩ := hvin.lists
    have ⟨known', hholds', _⟩ := hengine.lists
    have ⟨_, hrespond⟩ := hsupported .ENGINE
    have ⟨_, hrespond'⟩ := hsupported .TRANSMISSION
    have hknown : ((s₁.discover .ENGINE responses).discover .TRANSMISSION responses).supportedPIDs .ENGINE ≠ []
        ∨ ∀ pid, ¬ (ecus .ENGINE).Discoverable pid := by
      have hother := supportedPIDs_discover_of_ne (s₁.discover .ENGINE responses) responses
        (by decide : ECUType.ENGINE ≠ ECUType.TRANSMISSION)
      rw [hother]
      exact supportedPIDs_discover hholds hrespond halive
    obtain ⟨engine, hsignals, hreported⟩ := requestSignals_session hboth hdictionary (by simp) hknown
      (hlength .ENGINE) now
    rw [hemission, hemission, hsignals]
    cases mHasTransmission with
    | false =>
      have hskip : ((s₁.discover .ENGINE responses).discover .TRANSMISSION responses).requestSignals .TRANSMISSION
          ((ecus .TRANSMISSION).respondRequests (data .TRANSMISSION)) now = some [] := by
        unfold OBDWorker.requestSignals
        rw [hboth.hasTransmission]
        rfl
      rw [hskip]
      exact ⟨_, _, rfl, engine, [], rfl, hreported, rfl⟩
    | true =>
      have hknown' := supportedPIDs_discover hholds' hrespond' rfl
      obtain ⟨transmission, hsignals', hreported'⟩ := requestSignals_session hboth hdictionary
        (fun _ => hboth.hasTransmission) hknown' (hlength .TRANSMISSION) now
      rw [hsignals']
      exact ⟨_, _, rfl, engine, transmission, rfl, hreported, hreported'⟩

end Pass

/--
In a session of any length, once the dictionary of a manifest has arrived and no other OBD dictionary
follows it, a pass that is due hands out exactly the signals that are requested of supported PIDs, for both
ECUs, with the physical values of the data in the responses.
-/
theorem obd_session (ecus : ECUType → ECU) (m : ActiveManifest V) (mHasTransmission : Bool)
    (pidInterval dtcInterval time : Nat) (before after : List (OBDWorkerEvent V))
    (hanswered : ∀ e ∈ before ++ after, AnsweredBy ecus e) (hkeeps : ∀ e ∈ after, KeepsDictionary e)
    {responses : OBDResponses} {now : Nat} {data : ECUType → Nat → PID → List UInt8}
    (halive : responses.isAlive = true)
    (hsupported : ∀ ecu, ∃ data, responses.supportedPIDs ecu = (ecus ecu).respond data)
    (hemission : ∀ ecu, responses.emissionPIDs ecu = (ecus ecu).respondRequests (data ecu))
    (hlength : ∀ ecu n pid, (ecus ecu).Discoverable pid → (∃ signalID, m.Requests signalID pid) →
      (data ecu n pid).length = m.responseLength pid)
    : ∃ s outputs,
        (OBDWorker.start mHasTransmission pidInterval dtcInterval time).run
          (before ++ .dictionaryChange (some m.dictionary) .OBD :: after) = some (s, outputs)
          ∧
        (OBDWorker.isDue s.mPIDRequestIntervalSeconds s.mPIDTimer now = true →
          ∃ s' output, s.doWork responses now = some (s', output)
            ∧ PassReported mHasTransmission m ecus data now output.signals) := by
  have hstart : InSession mHasTransmission ecus none
      (OBDWorker.start mHasTransmission pidInterval dtcInterval time : OBDWorker V) := by
    constructor
    . refine ⟨{}, ⟨rfl, rfl, fun ecu => ?_, fun ecu => ?_⟩, ?_, by simp⟩
      . cases ecu <;> rfl
      . cases ecu <;> rfl
      . intro ecu pids hpids
        contradiction
    . simp
    . simp
  obtain ⟨s₁, outputs₁, hbefore, hsession₁⟩ := hstart.run (fun e he => hanswered e (List.mem_append_left _ he))
    (by simp)
  obtain ⟨s₂, hchange, hsession₂⟩ := hsession₁.dictionaryChange m
  obtain ⟨s, outputs, hafter, hsession⟩ := hsession₂.run (fun e he => hanswered e (List.mem_append_right _ he))
    (fun e he _ => hkeeps e he)
  refine ⟨s, _, OBDWorker.run_append_of hbefore (OBDWorker.run_cons_of hchange hafter), ?_⟩
  . intro hdue
    have htaken := hsession.setDecoderDictionary
    have hsame : s.setDecoderDictionary.mPIDRequestIntervalSeconds = s.mPIDRequestIntervalSeconds
        ∧ s.setDecoderDictionary.mPIDTimer = s.mPIDTimer := by
      unfold OBDWorker.setDecoderDictionary
      split <;> exact ⟨rfl, rfl⟩
    rw [← hsame.1, ← hsame.2] at hdue
    obtain ⟨s', signals, hflow, hreported⟩ := requestPIDFlow_session htaken.1 (htaken.2 m rfl) hdue halive
      hsupported hemission hlength
    unfold OBDWorker.doWork
    rw [hflow]
    exact ⟨_, _, rfl, hreported⟩

def speedSchemes : List (CollectionScheme Rat) :=
  [{ collectionSchemeID := "speed"
     decoderManifestID := "manifest"
     startTime := 0
     expiryTime := 10
     probabilityToSend := 1
     collectSignals := [{ signalID := 1 }] }]

theorem requestedSpeed {signalID : SignalID} (h : RequestedOBD pidManifest speedSchemes signalID)
    : pidManifest.getPIDSignalDecoderFormat signalID = wholeBytes := by
  have hmem : signalID ∈ [1] := h.1
  rw [List.mem_singleton] at hmem
  rw [hmem]
  rfl

theorem speedEntry (frame : CANRawFrameID)
    : ((extractDictionaries pidManifest .empty speedSchemes).pidEntry frame).isSome = true ↔ frame = 12 := by
  rw [pidEntry_extractDictionaries]
  have hsignals : DataManagement.requestedSignals speedSchemes = [1] := rfl
  rw [hsignals, List.foldl_cons, List.foldl_nil]
  unfold mergeSignal ofPID
  have hpid : (pidManifest.getPIDSignalDecoderFormat 1).mPID = 12 := rfl
  have hprotocol : pidManifest.getNetworkProtocol 1 = .OBD := rfl
  rw [hpid, hprotocol]
  by_cases hframe : frame = 12
  . simp [hframe]
  . have hne : ¬ 12 = frame := fun h => hframe h.symm
    simp [hframe, hne]

def speedDictionary : CANDecoderDictionary Rat :=
  (extractDictionaries pidManifest .empty speedSchemes .OBD).getD .empty

theorem speedChannel (ch : CANChannelNumericID)
    : (speedDictionary.canMessageDecoderMethod ch).isSome = true ↔ ch = 0 := by
  by_cases hch : ch = 0
  . rw [hch]
    decide
  . have hnone : (extractDictionaries pidManifest .empty speedSchemes).obdChannel ch = none :=
      obdChannel_extractDictionaries speedSchemes hch
    unfold DecoderDictionaryMap.obdChannel at hnone
    unfold speedDictionary
    rw [hnone]
    simp [hch]

theorem mem_speedChannels (ch : CANChannelNumericID)
    : ch ∈ [0] ↔ (speedDictionary.canMessageDecoderMethod ch).isSome = true := by
  rw [speedChannel, List.mem_singleton]

theorem mem_speedFrames (frame : CANRawFrameID)
    : frame ∈ [12]
        ↔
      ∃ ch methods, ([0] : List CANChannelNumericID).head? = some ch
        ∧ speedDictionary.canMessageDecoderMethod ch = some methods ∧ (methods frame).isSome = true := by
  rw [List.mem_singleton, ← speedEntry]
  unfold DecoderDictionaryMap.pidEntry CANDecoderDictionary.method
  rw [Option.isSome_bind]
  constructor
  . intro h
    obtain ⟨methods, hmethods, hmethod⟩ := (Option.any_eq_true _ _).mp h
    exact ⟨0, methods, rfl, hmethods, hmethod⟩
  . rintro ⟨ch, methods, hch, hmethods, hmethod⟩
    rw [List.head?_cons, Option.some.injEq] at hch
    rw [← hch] at hmethods
    exact (Option.any_eq_true _ _).mpr ⟨methods, hmethods, hmethod⟩

theorem nodup_speedChannels : ([0] : List CANChannelNumericID).Nodup := List.nodup_singleton 0

theorem nodup_speedFrames : ([12] : List CANRawFrameID).Nodup := List.nodup_singleton 12

theorem length_speedChannels : ([0] : List CANChannelNumericID).length ≤ 1 := Nat.le_refl 1

theorem speedFrames_lt : ∀ frame ∈ ([12] : List CANRawFrameID), frame < 256 := by decide

theorem wellFormed_speed : WellFormedPIDs pidManifest speedSchemes fun _ => 2 := by
  constructor
  . intro signalID hsignal
    rw [requestedSpeed hsignal]
    exact ⟨by decide, by decide, by decide⟩
  . intro signalID hsignal pid _
    rw [requestedSpeed hsignal]
    rfl

theorem inside_speed : SignalsInside pidManifest speedSchemes fun _ => 2 := by
  intro signalID pid hsignal
  rw [requestedSpeed hsignal.1]
  change wholeBytes.mStartByte * BYTE_SIZE + wholeBytes.mBitRightShift < 2 * BYTE_SIZE
  decide

def speedManifest : ActiveManifest Rat where
  manifest := pidManifest
  translator := .empty
  schemes := speedSchemes
  responseLength := fun _ => 2
  wellFormed := wellFormed_speed
  inside := inside_speed
  dictionary :=
    { dictionary := speedDictionary
      channels := [0]
      frames := [12]
      channels_nodup := nodup_speedChannels
      mem_channels := mem_speedChannels
      frames_nodup := nodup_speedFrames
      mem_frames := mem_speedFrames
      channels_length := length_speedChannels
      pids := speedFrames_lt }
  extracted := rfl

def speedECUs (ecu : ECUType) : ECU where
  supported := fun pid => ecu = .ENGINE && pid = 12
  ranges := fun base => base = 0
  ranges_of_supported := by
    intro pid hpid _
    rw [Bool.and_eq_true, decide_eq_true_eq, decide_eq_true_eq] at hpid
    rw [hpid.2]
    decide

def speedResponses : OBDResponses where
  isAlive := true
  vin := none
  supportedPIDs := fun ecu => (speedECUs ecu).respond fun _ => []
  emissionPIDs := fun ecu => (speedECUs ecu).respondRequests fun _ _ => [0x1A, 0xF8]
  storedDTCs := fun _ => none

theorem obd_session_engineSpeed
    : ∃ s outputs,
        (OBDWorker.start false 1 0 0).run [.dictionaryChange (some speedManifest.dictionary) .OBD] = some (s, outputs)
          ∧ OBDWorker.isDue s.mPIDRequestIntervalSeconds s.mPIDTimer 1000 = true
          ∧ ∃ s' output, s.doWork speedResponses 1000 = some (s', output)
            ∧ PassReported false speedManifest speedECUs (fun _ _ _ => [0x1A, 0xF8]) 1000 output.signals := by
  have hsession : ∃ s outputs,
      (OBDWorker.start false 1 0 0).run [.dictionaryChange (some speedManifest.dictionary) .OBD] = some (s, outputs)
        ∧
      (OBDWorker.isDue s.mPIDRequestIntervalSeconds s.mPIDTimer 1000 = true →
        ∃ s' output, s.doWork speedResponses 1000 = some (s', output)
          ∧ PassReported false speedManifest speedECUs (fun _ _ _ => [0x1A, 0xF8]) 1000 output.signals) :=
    obd_session speedECUs speedManifest false 1 0 0 [] [] (by simp) (by simp) rfl
      (fun _ => ⟨_, rfl⟩) (fun _ => rfl) (fun _ _ _ _ _ => rfl)
  obtain ⟨s, outputs, hrun, hreported⟩ := hsession
  -- the interval is 1 s and the timer was started at 0
  have hdue : ((OBDWorker.start false 1 0 0).run [.dictionaryChange (some speedManifest.dictionary) .OBD]).map
      (fun r => OBDWorker.isDue r.1.mPIDRequestIntervalSeconds r.1.mPIDTimer 1000) = some true := rfl
  rw [hrun, Option.map_some, Option.some_inj] at hdue
  exact ⟨s, outputs, hrun, hdue, hreported hdue⟩

end DataInspection
