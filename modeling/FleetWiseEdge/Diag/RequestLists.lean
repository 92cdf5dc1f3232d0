import FleetWiseEdge.Diag.Impl.OBDOverCANModule

namespace DataInspection

open Cpp DataManagement

variable {V : Type}

inductive OBDEvent (V : Type) where
  | dictionaryChange (dictionary : Option (OBDDictionary V)) (networkProtocol : VehicleDataSourceProtocol)
  | discovery (ecu : ECUType) (isAlive : Bool) (respond : List UInt8 → Option (List UInt8))

def IteratedDictionary.Collects (d : IteratedDictionary V) (pid : PID) : Prop :=
  ∃ ch methods method, d.dictionary.canMessageDecoderMethod ch = some methods
    ∧ methods pid.toNat = some method
    ∧ ∃ signal ∈ method.format.mSignals, d.dictionary.signalIDsToCollect signal.mSignalID = true

/--
What the events tell: the last valid dictionary, and what the first successful discovery of each ECU found.
-/
structure OBDKnowledge (V : Type) where
  dictionary : Option (OBDDictionary V) := none
  supported : ECUType → Option SupportedPIDs := fun _ => none

namespace OBDKnowledge

def found (known : OBDKnowledge V) (ecu : ECUType) (pids : SupportedPIDs) : OBDKnowledge V :=
  { known with supported := Function.update known.supported ecu (some pids) }

@[simp]
theorem found_supported_self (known : OBDKnowledge V) (ecu : ECUType) (pids : SupportedPIDs)
    : (known.found ecu pids).supported ecu = some pids :=
  Function.update_self ..

theorem found_supported_of_ne (known : OBDKnowledge V) {ecu other : ECUType} (pids : SupportedPIDs)
    (hne : other ≠ ecu)
    : (known.found ecu pids).supported other = known.supported other :=
  Function.update_of_ne hne ..

@[simp]
theorem found_dictionary (known : OBDKnowledge V) (ecu : ECUType) (pids : SupportedPIDs)
    : (known.found ecu pids).dictionary = known.dictionary :=
  rfl

def learn (hasTransmission : Bool) (known : OBDKnowledge V) (e : OBDEvent V) : OBDKnowledge V :=
  match e with
  | .dictionaryChange dictionary networkProtocol =>
    if networkProtocol = .OBD then
      { known with dictionary := dictionary.or known.dictionary }
    else
      known
  | .discovery ecu isAlive respond =>
    let reachable := match ecu with
      | .ENGINE => isAlive
      | .TRANSMISSION => hasTransmission
    let (pids, received) := OBDOverCANModule.requestReceiveSupportedPIDs .CURRENT_STATS respond
    if reachable && (known.supported ecu).isNone && received then
      known.found ecu pids
    else
      known

def learnAll (hasTransmission : Bool) (events : List (OBDEvent V)) : OBDKnowledge V :=
  events.foldl (learn hasTransmission) {}

end OBDKnowledge

namespace PIDsPerService

@[simp]
theorem find_nil (sid : SIDs) : find [] sid = none := rfl

@[simp]
theorem find_singleton (sid : SIDs) (pids : List PID) : find [(sid, pids)] sid = some pids := by
  simp [find, KeyedList.lookup_cons]

@[simp]
theorem find_assign (map : PIDsPerService) (sid : SIDs) (pids : List PID)
    : (map.assign sid pids).find sid = some pids := by
  unfold assign find
  rw [KeyedList.lookup_insert_self (by simp) (by simp)]
  cases KeyedList.lookup Prod.fst sid map <;> rfl

end PIDsPerService

namespace OBDOverCANModule

def handle (s : OBDOverCANModule V) (e : OBDEvent V) : OBDOverCANModule V :=
  match e with
  | .dictionaryChange dictionary networkProtocol => s.onChangeOfActiveDictionary dictionary networkProtocol
  | .discovery ecu isAlive respond => s.discoverSupportedPIDs ecu isAlive respond

def handleAll (hasTransmission : Bool) (events : List (OBDEvent V)) : OBDOverCANModule V :=
  events.foldl handle { mHasTransmission := hasTransmission }

def supportedPIDs (s : OBDOverCANModule V) (ecu : ECUType) : PIDsPerService :=
  match ecu with
  | .ENGINE => s.mSupportedPIDsEngine
  | .TRANSMISSION => s.mSupportedPIDsTransmission

def pidsToRequest (s : OBDOverCANModule V) (ecu : ECUType) : PIDsPerService :=
  match ecu with
  | .ENGINE => s.mPIDsToRequestEngine
  | .TRANSMISSION => s.mPIDsToRequestTransmission

theorem getPIDsToRequest_eq (s : OBDOverCANModule V) (sid : SIDs) (ecu : ECUType)
    : s.getPIDsToRequest sid ecu = (s.pidsToRequest ecu).find sid := by
  cases ecu <;> rfl

section Requested

variable (d : OBDDictionary V)

theorem head_channels {ch : CANChannelNumericID} {methods : CANRawFrameID → Option (CANMessageDecoderMethod V)}
    (h : d.dictionary.canMessageDecoderMethod ch = some methods)
    : d.channels.head? = some ch := by
  have hmem := (d.mem_channels ch).mpr (by rw [h]; rfl)
  have hlength := d.channels_length
  match hchannels : d.channels with
  | [] => simp [hchannels] at hmem
  | [ch'] =>
    rw [hchannels, List.mem_singleton] at hmem
    rw [hmem]
    rfl
  | _ :: _ :: _ => simp [hchannels] at hlength

theorem isRequested_iff {frame : CANRawFrameID}
    : isRequested d.toIteratedDictionary frame = true
        ↔
      ∃ ch methods method, d.dictionary.canMessageDecoderMethod ch = some methods
        ∧ methods frame = some method
        ∧ ∃ signal ∈ method.format.mSignals, d.dictionary.signalIDsToCollect signal.mSignalID = true := by
  unfold isRequested
  constructor
  . intro h
    split at h
    . contradiction
    . rename_i ch _
      split at h
      . contradiction
      . rename_i methods hmethods
        split at h
        . contradiction
        . rename_i method hmethod
          rw [List.any_eq_true] at h
          exact ⟨ch, methods, method, hmethods, hmethod, h⟩
  . intro ⟨ch, methods, method, hmethods, hmethod, hsignal⟩
    rw [head_channels d hmethods]
    simp only [hmethods, hmethod]
    rw [List.any_eq_true]
    exact hsignal

theorem mem_pidsRequestedByDecoderDict {pid : PID}
    : pid ∈ pidsRequestedByDecoderDict d.toIteratedDictionary ↔ d.Collects pid := by
  have hone : ∀ frame ∈ d.frames, d.channels.length = 1 := by
    intro frame hframe
    have ⟨ch, _, hhead, _⟩ := (d.mem_frames frame).mp hframe
    have hlength := d.channels_length
    have : d.channels ≠ [] := by
      intro hnil
      simp [hnil] at hhead
    have := List.length_pos_iff.mpr this
    omega
  have hcollects : d.Collects pid → pid.toNat ∈ d.frames := by
    intro ⟨ch, methods, method, hmethods, hmethod, _⟩
    rw [d.mem_frames]
    exact ⟨ch, methods, head_channels d hmethods, hmethods, by rw [hmethod]; rfl⟩
  unfold pidsRequestedByDecoderDict
  constructor
  . intro h
    split at h
    . simp only [List.mem_map, List.mem_filter] at h
      have ⟨frame, ⟨hframe, hrequested⟩, hpid⟩ := h
      have hlt := d.pids frame hframe
      have htoNat : pid.toNat = frame := by
        rw [← hpid]
        exact UInt8.toNat_ofNat_of_lt' hlt
      unfold IteratedDictionary.Collects
      rw [htoNat]
      exact (isRequested_iff d).mp hrequested
    . contradiction
  . intro h
    have hframe := hcollects h
    rw [if_pos (hone _ hframe)]
    simp only [List.mem_map, List.mem_filter]
    exact ⟨pid.toNat, ⟨hframe, (isRequested_iff d).mpr h⟩, UInt8.ofNat_toNat⟩

theorem nodup_pidsRequestedByDecoderDict : (pidsRequestedByDecoderDict d.toIteratedDictionary).Nodup := by
  unfold pidsRequestedByDecoderDict
  split
  . apply List.Nodup.map_on _ (d.frames_nodup.filter _)
    intro frame hframe frame' hframe' heq
    have hlt := d.pids frame (List.mem_of_mem_filter hframe)
    have hlt' := d.pids frame' (List.mem_of_mem_filter hframe')
    have := congrArg UInt8.toNat heq
    rwa [UInt8.toNat_ofNat_of_lt' hlt, UInt8.toNat_ofNat_of_lt' hlt'] at this
  . exact List.nodup_nil

def collectedPIDs : List PID := (pidsRequestedByDecoderDict d.toIteratedDictionary).insertionSort (· ≤ ·)

theorem mem_collectedPIDs {pid : PID} : pid ∈ collectedPIDs d ↔ d.Collects pid := by
  unfold collectedPIDs
  rw [List.mem_insertionSort]
  exact mem_pidsRequestedByDecoderDict d

theorem pairwise_collectedPIDs : (collectedPIDs d).Pairwise (· < ·) := by
  have hle : (collectedPIDs d).Pairwise (· ≤ ·) := List.pairwise_insertionSort _ _
  have hnodup : (collectedPIDs d).Nodup :=
    (List.perm_insertionSort _ _).nodup_iff.mpr (nodup_pidsRequestedByDecoderDict d)
  exact (hle.and hnodup).imp fun h => lt_of_le_of_ne h.1 h.2

end Requested

section Lists

theorem updatePIDRequestList_find (s : OBDOverCANModule V) (sid : SIDs) (supported toRequest : PIDsPerService)
    : (s.updatePIDRequestList sid supported toRequest).find sid
        =
      match supported.find sid, s.mPIDsRequestedByDecoderDict.find sid with
      | some pids, some requested => some (SortedIntersection.setIntersection pids requested)
      | _, _ => toRequest.find sid := by
  unfold updatePIDRequestList
  cases supported.find sid with
  | none => rfl
  | some pids =>
    cases s.mPIDsRequestedByDecoderDict.find sid with
    | none => rfl
    | some requested => exact PIDsPerService.find_assign _ _ _

def requestList (known : OBDKnowledge V) (ecu : ECUType) : Option (List PID) :=
  match known.supported ecu, known.dictionary with
  | some pids, some d =>
    some (SortedIntersection.setIntersection (pids.insertionSort (· ≤ ·)) (collectedPIDs d))
  | _, _ => none

def supportedMap (pids : Option SupportedPIDs) : PIDsPerService :=
  match pids with
  | none => []
  | some pids => [(SIDs.CURRENT_STATS, pids.insertionSort (· ≤ ·))]

structure Holds (hasTransmission : Bool) (known : OBDKnowledge V) (s : OBDOverCANModule V) : Prop where
  hasTransmission : s.mHasTransmission = hasTransmission
  requested : s.mPIDsRequestedByDecoderDict.find .CURRENT_STATS = known.dictionary.map collectedPIDs
  supported : ∀ ecu, s.supportedPIDs ecu = supportedMap (known.supported ecu)
  toRequest : ∀ ecu, (s.pidsToRequest ecu).find .CURRENT_STATS = requestList known ecu

variable {hasTransmission : Bool} {known : OBDKnowledge V} {s : OBDOverCANModule V}

theorem Holds.update (h : Holds hasTransmission known s) {known' : OBDKnowledge V} {s' : OBDOverCANModule V}
    (ecu : ECUType) {supported : PIDsPerService} (hsupported : supported = supportedMap (known'.supported ecu))
    (hrequested : s'.mPIDsRequestedByDecoderDict.find .CURRENT_STATS = known'.dictionary.map collectedPIDs)
    (hold : known'.supported ecu = none ∨ known'.dictionary = none → requestList known ecu = none)
    : (s'.updatePIDRequestList .CURRENT_STATS supported (s.pidsToRequest ecu)).find .CURRENT_STATS
        =
      requestList known' ecu := by
  rw [updatePIDRequestList_find, hsupported, hrequested, h.toRequest]
  unfold requestList supportedMap
  cases hpids : known'.supported ecu with
  | none =>
    simp only [PIDsPerService.find_nil]
    exact hold (Or.inl hpids)
  | some pids =>
    cases hd : known'.dictionary with
    | none =>
      simp only [PIDsPerService.find_singleton, Option.map_none]
      exact hold (Or.inr hd)
    | some d => simp only [PIDsPerService.find_singleton, Option.map_some]

theorem Holds.dictionaryChange (h : Holds hasTransmission known s) (dictionary : Option (OBDDictionary V))
    (networkProtocol : VehicleDataSourceProtocol)
    : Holds hasTransmission (known.learn hasTransmission (.dictionaryChange dictionary networkProtocol))
        (s.onChangeOfActiveDictionary dictionary networkProtocol) := by
  unfold OBDKnowledge.learn onChangeOfActiveDictionary
  dsimp only
  split
  . cases dictionary with
    | none => exact ⟨h.hasTransmission, h.requested, h.supported, h.toRequest⟩
    | some d =>
      have hrequested : ∀ map : PIDsPerService,
          (map.assign .CURRENT_STATS (collectedPIDs d)).find .CURRENT_STATS
            = (some d).map collectedPIDs := fun map => PIDsPerService.find_assign _ _ _
      have hold : ∀ ecu, known.supported ecu = none ∨ some d = none → requestList known ecu = none := by
        intro ecu hnone
        unfold requestList
        rw [hnone.resolve_right (by simp)]
      refine ⟨h.hasTransmission, hrequested _, ?_, ?_⟩
      . intro ecu
        rw [← h.supported ecu]
        cases ecu <;> rfl
      . intro ecu
        cases ecu with
        | ENGINE => exact h.update .ENGINE (h.supported .ENGINE) (hrequested _) (hold .ENGINE)
        | TRANSMISSION =>
          exact h.update .TRANSMISSION (h.supported .TRANSMISSION) (hrequested _) (hold .TRANSMISSION)
  . exact h

theorem supportedMap_isEmpty (pids : Option SupportedPIDs) : (supportedMap pids).isEmpty = pids.isNone := by
  cases pids <;> rfl

theorem Holds.discovered (h : Holds hasTransmission known s) {ecu : ECUType} {pids : SupportedPIDs}
    {s' : OBDOverCANModule V} (s'' : OBDOverCANModule V) (hnone : known.supported ecu = none)
    (htransmission : s'.mHasTransmission = s.mHasTransmission)
    (hrequested : s'.mPIDsRequestedByDecoderDict = s.mPIDsRequestedByDecoderDict)
    (hrequested' : s''.mPIDsRequestedByDecoderDict = s.mPIDsRequestedByDecoderDict)
    (hsupported : s'.supportedPIDs ecu = supportedMap (some pids))
    (htoRequest : s'.pidsToRequest ecu
      = s''.updatePIDRequestList .CURRENT_STATS (s'.supportedPIDs ecu) (s.pidsToRequest ecu))
    (hother : ∀ other, other ≠ ecu
      → s'.supportedPIDs other = s.supportedPIDs other ∧ s'.pidsToRequest other = s.pidsToRequest other)
    : Holds hasTransmission (known.found ecu pids) s' where
  hasTransmission := htransmission.trans h.hasTransmission
  requested := by
    rw [hrequested]
    exact h.requested
  supported := by
    intro other
    by_cases heq : other = ecu
    . rw [heq, hsupported, OBDKnowledge.found_supported_self]
    . rw [(hother other heq).1, known.found_supported_of_ne pids heq]
      exact h.supported other
  toRequest := by
    intro other
    by_cases heq : other = ecu
    . rw [heq, htoRequest]
      apply h.update ecu
      . rw [hsupported, OBDKnowledge.found_supported_self]
      . rw [hrequested']
        exact h.requested
      . intro _
        unfold requestList
        rw [hnone]
    . rw [(hother other heq).2, h.toRequest]
      unfold requestList
      rw [known.found_supported_of_ne pids heq, OBDKnowledge.found_dictionary]

theorem Holds.discovery (h : Holds hasTransmission known s) (ecu : ECUType) (isAlive : Bool)
    (respond : List UInt8 → Option (List UInt8))
    : Holds hasTransmission (known.learn hasTransmission (.discovery ecu isAlive respond))
        (s.discoverSupportedPIDs ecu isAlive respond) := by
  have hempty : (s.supportedPIDs ecu).isEmpty = (known.supported ecu).isNone := by
    rw [h.supported]
    exact supportedMap_isEmpty _
  have hnil : (known.supported ecu).isNone = true → s.supportedPIDs ecu = [] := by
    intro hnone
    rw [← List.isEmpty_iff, hempty]
    exact hnone
  unfold OBDKnowledge.learn discoverSupportedPIDs
  dsimp only
  generalize requestReceiveSupportedPIDs .CURRENT_STATS respond = found
  obtain ⟨pids, received⟩ := found
  have hadd : ∀ map : PIDsPerService, map = []
      → map ++ [(SIDs.CURRENT_STATS, pids.insertionSort (· ≤ ·))] = supportedMap (some pids) := by
    intro map hmap
    rw [hmap]
    rfl
  cases ecu with
  | ENGINE =>
    change s.mSupportedPIDsEngine.isEmpty = _ at hempty
    dsimp only
    rw [hempty]
    cases hasks : isAlive && (known.supported .ENGINE).isNone with
    | false => exact h
    | true =>
      cases received with
      | false => exact h
      | true =>
        rw [Bool.and_eq_true] at hasks
        refine h.discovered
          { s with
            mSupportedPIDsEngine :=
              s.mSupportedPIDsEngine ++ [(SIDs.CURRENT_STATS, pids.insertionSort (· ≤ ·))] }
          (Option.isNone_iff_eq_none.mp hasks.2) rfl rfl rfl (hadd _ (hnil hasks.2)) rfl ?_
        . intro other hne
          cases other with
          | ENGINE => contradiction
          | TRANSMISSION => exact ⟨rfl, rfl⟩
  | TRANSMISSION =>
    change s.mSupportedPIDsTransmission.isEmpty = _ at hempty
    dsimp only
    rw [hempty, h.hasTransmission]
    cases hasks : hasTransmission && (known.supported .TRANSMISSION).isNone with
    | false => exact h
    | true =>
      cases received with
      | false => exact h
      | true =>
        rw [Bool.and_eq_true] at hasks
        refine h.discovered
          { s with
            mSupportedPIDsTransmission :=
              s.mSupportedPIDsTransmission ++ [(SIDs.CURRENT_STATS, pids.insertionSort (· ≤ ·))] }
          (Option.isNone_iff_eq_none.mp hasks.2) h.hasTransmission.symm rfl rfl (hadd _ (hnil hasks.2)) rfl ?_
        . intro other hne
          cases other with
          | ENGINE => exact ⟨rfl, rfl⟩
          | TRANSMISSION => contradiction

theorem holds_handleAll (hasTransmission : Bool) (events : List (OBDEvent V))
    : Holds hasTransmission (.learnAll hasTransmission events) (handleAll hasTransmission events) := by
  have hrun : ∀ (events : List (OBDEvent V)) (known : OBDKnowledge V) (s : OBDOverCANModule V),
      Holds hasTransmission known s
        → Holds hasTransmission (events.foldl (.learn hasTransmission) known) (events.foldl handle s) := by
    intro events
    induction events with
    | nil => exact fun _ _ h => h
    | cons e es ih =>
      intro known s h
      rw [List.foldl_cons, List.foldl_cons]
      apply ih
      cases e with
      | dictionaryChange dictionary networkProtocol => exact h.dictionaryChange dictionary networkProtocol
      | discovery ecu isAlive respond => exact h.discovery ecu isAlive respond
  apply hrun
  constructor
  . rfl
  . rfl
  . intro ecu
    cases ecu <;> rfl
  . intro ecu
    cases ecu <;> rfl

theorem length_le_of_pairwise {pids : List PID} (h : pids.Pairwise (· < ·)) : pids.length ≤ 256 := by
  have hnodup : (pids.map UInt8.toNat).Nodup := by
    apply List.Nodup.map
    . exact fun a b => UInt8.toNat_inj.mp
    . exact h.imp fun hlt => ne_of_lt hlt
  have hsubset : pids.map UInt8.toNat ⊆ List.range 256 := by
    intro n hn
    obtain ⟨pid, _, rfl⟩ := List.mem_map.mp hn
    rw [List.mem_range]
    exact pid.toNat_lt
  have := (hnodup.subperm hsubset).length_le
  simpa using this

end Lists

section Requests

variable [InspectionValue V] (s : OBDOverCANModule V) (sid : SIDs)
  (respond : List (List PID) → Option (List UInt8))

theorem requestReceivePIDs_requests (exchange : EmissionRequests V) {pidList : List PID}
    (h : pidList.length ≤ MAX_PID_RANGE)
    : (s.requestReceivePIDs sid respond exchange pidList).requests = pidList :: exchange.requests := by
  unfold requestReceivePIDs requestPIDs
  rw [if_neg (by omega)]
  dsimp only
  split <;> rfl

structure RequestsOnce (pids : List PID) (requests : List (List PID)) : Prop where
  length_le : ∀ request ∈ requests, request.length ≤ MAX_PID_RANGE
  perm : requests.flatten.Perm pids

theorem requestRanges_requests (pids : SupportedPIDs) (rangeCount : Nat) (exchange : EmissionRequests V)
    (hlength : rangeCount * MAX_PID_RANGE ≤ pids.length) (hlt : rangeCount < 2 ^ 32)
    (hle : ∀ request ∈ exchange.requests, request.length ≤ MAX_PID_RANGE)
    : ∃ exchange', s.requestRanges sid respond pids rangeCount exchange = some exchange'
        ∧ (∀ request ∈ exchange'.requests, request.length ≤ MAX_PID_RANGE)
        ∧ exchange'.requests.flatten
          = pids.take (rangeCount * MAX_PID_RANGE) ++ exchange.requests.flatten := by
  induction rangeCount generalizing exchange with
  | zero => exact ⟨exchange, rfl, hle, by simp⟩
  | succ rangeCount ih =>
    have hstep : (rangeCount + 1) * MAX_PID_RANGE = rangeCount * MAX_PID_RANGE + MAX_PID_RANGE :=
      Nat.succ_mul ..
    have hgroup : ((pids.take ((rangeCount + 1) * MAX_PID_RANGE)).drop (rangeCount * MAX_PID_RANGE)).length
        ≤ MAX_PID_RANGE := by
      rw [List.length_drop, List.length_take]
      omega
    have hrequests := s.requestReceivePIDs_requests sid respond exchange hgroup
    unfold requestRanges
    dsimp only
    rw [u32_of_lt hlt, u32_of_lt (by omega), if_pos (by omega)]
    obtain ⟨exchange', heq, hle', hflatten⟩ := ih _ (by omega) (by omega) (by
      rw [hrequests]
      exact List.forall_mem_cons.mpr ⟨hgroup, hle⟩)
    refine ⟨exchange', heq, hle', ?_⟩
    rw [hflatten, hrequests, List.flatten_cons, ← List.append_assoc]
    congr 1
    have htake : pids.take (rangeCount * MAX_PID_RANGE)
        = (pids.take ((rangeCount + 1) * MAX_PID_RANGE)).take (rangeCount * MAX_PID_RANGE) := by
      rw [List.take_take, Nat.min_eq_left (by omega)]
    rw [htake, List.take_append_drop]

theorem requestReceiveEmissionPIDs_requests {pids : SupportedPIDs} (info : EmissionInfo V)
    (hlength : pids.length < 6 * 2 ^ 32)
    : ∃ exchange received, s.requestReceiveEmissionPIDs sid respond pids info = some (exchange, received)
        ∧ RequestsOnce pids exchange.requests := by
  have hsplit : pids.length / MAX_PID_RANGE * MAX_PID_RANGE + pids.length % MAX_PID_RANGE = pids.length :=
    Nat.div_add_mod' ..
  have hmod : pids.length % MAX_PID_RANGE < MAX_PID_RANGE := Nat.mod_lt _ (by decide)
  have hcount : pids.length / MAX_PID_RANGE < 2 ^ 32 := by
    apply Nat.div_lt_of_lt_mul
    exact hlength
  obtain ⟨exchange, heq, hle, hflatten⟩ := s.requestRanges_requests sid respond
    pids (pids.length / MAX_PID_RANGE) { info := info } (by omega) hcount (by simp)
  rw [List.flatten_nil, List.append_nil] at hflatten
  unfold requestReceiveEmissionPIDs
  dsimp only
  rw [heq]
  refine ⟨_, _, rfl, ?_⟩
  split
  . rename_i hleft
    have hrest : pids.length - u32 (pids.length % MAX_PID_RANGE) = pids.length / MAX_PID_RANGE * MAX_PID_RANGE := by
      unfold MAX_PID_RANGE at hmod
      rw [u32_of_lt (by unfold MAX_PID_RANGE; omega)]
      omega
    rw [hrest]
    have hlast : (pids.drop (pids.length / MAX_PID_RANGE * MAX_PID_RANGE)).length ≤ MAX_PID_RANGE := by
      rw [List.length_drop]
      omega
    constructor
    . rw [requestReceivePIDs_requests _ _ _ _ hlast]
      exact List.forall_mem_cons.mpr ⟨hlast, hle⟩
    . rw [requestReceivePIDs_requests _ _ _ _ hlast, List.flatten_cons, hflatten]
      exact List.perm_append_comm.trans (by rw [List.take_append_drop])
  . rename_i hleft
    constructor
    . exact hle
    . rw [hflatten, List.take_of_length_le (by omega)]

end Requests

theorem request_lists [InspectionValue V] (hasTransmission : Bool) (events : List (OBDEvent V))
    : (∀ ecu supported d,
        (OBDKnowledge.learnAll hasTransmission events).supported ecu = some supported
          → (OBDKnowledge.learnAll hasTransmission events).dictionary = some d
          → ∃ pids, (handleAll hasTransmission events).getPIDsToRequest .CURRENT_STATS ecu = some pids
            ∧ pids.Pairwise (· < ·)
            ∧ (∀ pid, pid ∈ pids ↔ pid ∈ supported ∧ d.Collects pid)
            ∧ pids.length ≤ 256)
        ∧
      ∀ (sid : SIDs) (respond : List (List PID) → Option (List UInt8)) (pids : SupportedPIDs)
          (info : EmissionInfo V), pids.length < 6 * 2 ^ 32
        → ∃ exchange received,
          (handleAll hasTransmission events).requestReceiveEmissionPIDs sid respond pids info
            = some (exchange, received)
          ∧ RequestsOnce pids exchange.requests := by
  constructor
  . intro ecu supported d hsupported hdictionary
    have hlist := (holds_handleAll hasTransmission events).toRequest ecu
    rw [← getPIDsToRequest_eq] at hlist
    unfold requestList at hlist
    rw [hsupported, hdictionary] at hlist
    have hpairwise := SortedIntersection.pairwise_setIntersection (supported.insertionSort (· ≤ ·))
      (pairwise_collectedPIDs d)
    refine ⟨_, hlist, hpairwise, ?_, length_le_of_pairwise hpairwise⟩
    intro pid
    have hle : (collectedPIDs d).Pairwise (· ≤ ·) := (pairwise_collectedPIDs d).imp le_of_lt
    rw [SortedIntersection.mem_setIntersection (List.pairwise_insertionSort _ _) hle]
    rw [List.mem_insertionSort, mem_collectedPIDs]
  . intro sid respond pids info hlength
    exact requestReceiveEmissionPIDs_requests _ sid respond info hlength

def engineSpeed : OBDDictionary Rat where
  dictionary :=
    { signalIDsToCollect := fun signal => signal = 5
      canMessageDecoderMethod := fun ch =>
        if ch = 0 then
          some fun frame =>
            if frame = 0x0C then
              some ⟨.DECODE, { mMessageID := 0x0C, mSizeInBytes := 2, mSignals :=
                [⟨5, false, false, 0, 16, 0, 1 / 4, false, 255⟩] }⟩
            else
              none
        else
          none }
  channels := [0]
  frames := [0x0C]
  channels_nodup := by decide
  mem_channels := by
    intro ch
    by_cases hch : ch = 0 <;> simp [hch]
  frames_nodup := by decide
  mem_frames := by
    intro frame
    by_cases hframe : frame = 0x0C <;> simp [hframe]
  channels_length := by decide
  pids := by decide

theorem request_lists_engineSpeed
    : ∃ pids, (handleAll false [.dictionaryChange (some engineSpeed) .OBD,
          .discovery .ENGINE true fun _ => some [0x41, 0x00, 0x00, 0x18, 0x00, 0x00]]).getPIDsToRequest
            .CURRENT_STATS .ENGINE = some pids
        ∧ pids.Pairwise (· < ·)
        ∧ (∀ pid, pid ∈ pids ↔ pid ∈ [0x0C, 0x0C, 0x0D, 0x0D] ∧ engineSpeed.Collects pid)
        ∧ pids.length ≤ 256 :=
  (request_lists false _).1 .ENGINE [0x0C, 0x0C, 0x0D, 0x0D] engineSpeed (by decide) rfl

end OBDOverCANModule

end DataInspection
