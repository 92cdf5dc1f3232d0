import FleetWiseEdge.Decoding.OBDValues
import FleetWiseEdge.Diag.ECU
import FleetWiseEdge.Diag.RequestLists

namespace DataManagement

open DataInspection OBDDataDecoder

variable {V : Type} [InspectionValue V]
variable {manifest : DecoderManifestIngestion V} {translator : CANInterfaceIDTranslator}
variable {schemes : List (CollectionScheme V)} {responseLength : PID → Nat}

def RequestedOf (manifest : DecoderManifestIngestion V) (schemes : List (CollectionScheme V)) (signalID : SignalID)
    (pid : PID)
    : Prop :=
  RequestedOBD manifest schemes signalID ∧ (manifest.getPIDSignalDecoderFormat signalID).mPID = pid.toNat

theorem exists_format (translator : CANInterfaceIDTranslator) {signalID : SignalID} {pid : PID}
    (h : RequestedOf manifest schemes signalID pid)
    : ∃ format, extractOBDDictionary manifest translator schemes pid = some format := by
  have hmem := ofPID_requested h.1 h.2
  rw [extractOBDDictionary_eq]
  cases hlist : (DataManagement.requestedSignals schemes).filter (ofPID manifest pid.toNat) with
  | nil =>
    rw [hlist] at hmem
    contradiction
  | cons first rest => exact ⟨_, rfl⟩

theorem requestedOf_of_format {format : CANMessageFormat V} {pid : PID}
    (h : extractOBDDictionary manifest translator schemes pid = some format)
    : ∃ signalID, RequestedOf manifest schemes signalID pid := by
  rw [extractOBDDictionary_eq, Option.map_eq_some_iff] at h
  have ⟨first, hfirst, _⟩ := h
  exact ⟨first, requested_of_ofPID (List.mem_of_head? hfirst)⟩

def dataRecords (data : PID → List UInt8) (pids : List PID) : List UInt8 := pids.flatMap fun pid => pid :: data pid

theorem dataRecords_cons (data : PID → List UInt8) (pid : PID) (pids : List PID)
    : dataRecords data (pid :: pids) = pid :: data pid ++ dataRecords data pids :=
  List.flatMap_cons

theorem lookup_dataRecords {data : PID → List UInt8} {pids : List PID}
    (h : ∀ pid ∈ pids, (data pid).length = responseLength pid) {target : PID} (htarget : target ∈ pids)
    : (records responseLength pids (dataRecords data pids)).lookup target = some (data target) := by
  induction pids with
  | nil => contradiction
  | cons pid pids ih =>
    have hlength := h pid (by simp)
    rw [lookup_records_cons, dataRecords_cons]
    by_cases heq : target = pid
    . rw [if_pos heq, heq, ← hlength]
      simp
    . rw [if_neg heq]
      have hdrop : (pid :: data pid ++ dataRecords data pids).drop (1 + responseLength pid)
          = dataRecords data pids := by
        rw [← hlength, Nat.add_comm, List.cons_append, List.drop_succ_cons, List.drop_left]
      rw [hdrop]
      apply ih
      . exact fun pid hpid => h pid (List.mem_cons_of_mem _ hpid)
      . simpa [heq] using htarget

omit [InspectionValue V] in
theorem checkPIDs_dataRecords {dictionary : OBDDecoderDictionary V} {data : PID → List UInt8} {pids : List PID}
    (h : ∀ pid ∈ pids, ∃ format, dictionary pid = some format ∧ format.mSizeInBytes = (data pid).length)
    (front : List UInt8)
    : checkPIDs dictionary (front ++ dataRecords data pids) front.length pids
        =
      some (front ++ dataRecords data pids).length := by
  induction pids generalizing front with
  | nil => simp [checkPIDs, dataRecords]
  | cons pid pids ih =>
    obtain ⟨format, hformat, hsize⟩ := h pid (by simp)
    have hbytes : front ++ dataRecords data (pid :: pids) = (front ++ pid :: data pid) ++ dataRecords data pids := by
      rw [dataRecords_cons, List.append_assoc]
    have hpid : (front ++ dataRecords data (pid :: pids))[front.length]? = some pid := by
      rw [dataRecords_cons]
      simp
    have hnext : front.length + (format.mSizeInBytes + 1) = (front ++ pid :: data pid).length := by
      rw [hsize]
      simp
    unfold checkPIDs
    rw [if_neg (not_not.mpr hpid), hformat]
    dsimp only
    rw [hnext, hbytes]
    exact ih (fun pid hpid => h pid (List.mem_cons_of_mem _ hpid)) _

theorem decodeLoop_other {ecuResponse : List UInt8} {info : EmissionInfo V} {signalID : SignalID} {pids : List PID}
    (h : ∀ pid ∈ pids, ¬ RequestedOf manifest schemes signalID pid) {start : Nat}
    (hcheck : checkPIDs (extractOBDDictionary manifest translator schemes) ecuResponse start pids
      = some ecuResponse.length)
    : (decodeLoop (extractOBDDictionary manifest translator schemes) ecuResponse start info).mPIDsToValues[signalID]?
        =
      info.mPIDsToValues[signalID]? := by
  induction pids generalizing start info with
  | nil =>
    unfold checkPIDs at hcheck
    rw [Option.some.injEq] at hcheck
    unfold decodeLoop
    rw [dif_neg (by omega)]
  | cons pid pids ih =>
    obtain ⟨hpid, format, hformat, hrest⟩ := checkPIDs_cons hcheck
    have hle := checkPIDs_le hrest
    obtain ⟨hlt, hpid⟩ := List.getElem?_eq_some_iff.mp hpid
    have hother : ∀ formula ∈ format.mSignals, formula.mSignalID ≠ signalID := by
      intro formula hmem heq
      rw [extractOBDDictionary_signals hformat] at hmem
      unfold signalFormats at hmem
      obtain ⟨signal, hsignal, hformula⟩ := List.mem_map.mp hmem
      apply h pid (by simp)
      have hid : signal = signalID := by
        rw [← heq, ← hformula]
        rfl
      rw [← hid]
      exact requested_of_ofPID hsignal
    have hnext : start + 1 + format.mSizeInBytes = start + (format.mSizeInBytes + 1) := by omega
    unfold decodeLoop
    rw [dif_pos hlt]
    dsimp only
    rw [hpid, hformat]
    dsimp only
    rw [if_pos (by omega), hnext, ih (fun pid hpid => h pid (List.mem_cons_of_mem _ hpid)) hrest]
    exact decodeFormulas_other hother

def SignalsInside (manifest : DecoderManifestIngestion V) (schemes : List (CollectionScheme V))
    (responseLength : PID → Nat)
    : Prop :=
  ∀ signalID pid, RequestedOf manifest schemes signalID pid →
    (manifest.getPIDSignalDecoderFormat signalID).mStartByte * BYTE_SIZE
        + (manifest.getPIDSignalDecoderFormat signalID).mBitRightShift
      < responseLength pid * BYTE_SIZE

theorem decodeEmissionPIDs_dataRecords (translator : CANInterfaceIDTranslator)
    (hwell : WellFormedPIDs manifest schemes responseLength)
    (hinside : SignalsInside manifest schemes responseLength) {data : PID → List UInt8} {pids : List PID}
    (hne : pids ≠ []) (hcollected : ∀ pid ∈ pids, ∃ signalID, RequestedOf manifest schemes signalID pid)
    (hlength : ∀ pid ∈ pids, (data pid).length = responseLength pid) (info : EmissionInfo V)
    : let info' := (decodeEmissionPIDs (some (extractOBDDictionary manifest translator schemes))
        SIDs.CURRENT_STATS.toUType pids (0x41 :: dataRecords data pids) info).1
      (∀ signalID, (∀ pid ∈ pids, ¬ RequestedOf manifest schemes signalID pid) →
          info'.mPIDsToValues[signalID]? = info.mPIDsToValues[signalID]?)
        ∧
      ∀ signalID, ∀ pid ∈ pids, RequestedOf manifest schemes signalID pid →
        info'.mPIDsToValues[signalID]?
          = info.mPIDsToValues[signalID]?.or
              (some ((manifest.getPIDSignalDecoderFormat signalID).physicalValue (data pid))) := by
  have hformat : ∀ pid ∈ pids, ∃ format, extractOBDDictionary manifest translator schemes pid = some format
      ∧ format.mSizeInBytes = (data pid).length := by
    intro pid hpid
    have ⟨signalID, hsignal⟩ := hcollected pid hpid
    have ⟨format, hformat⟩ := exists_format translator hsignal
    exact ⟨format, hformat, (hwell.size hformat).trans (hlength pid hpid).symm⟩
  have hcheck := checkPIDs_dataRecords hformat [0x41]
  have hlong : ¬ (0x41 :: dataRecords data pids).length < 3 := by
    cases pids with
    | nil => contradiction
    | cons pid pids =>
      have ⟨signalID, hsignal⟩ := hcollected pid (by simp)
      have hpos := hinside signalID pid hsignal
      have heq := hlength pid (by simp)
      have : data pid ≠ [] := by
        intro hnil
        rw [hnil] at heq
        simp only [List.length_nil] at heq
        rw [← heq, Nat.zero_mul] at hpos
        contradiction
      have := List.length_pos_iff.mpr this
      rw [dataRecords_cons]
      simp only [List.length_cons, List.length_append]
      omega
  have hdecoded : (decodeEmissionPIDs (some (extractOBDDictionary manifest translator schemes))
      SIDs.CURRENT_STATS.toUType pids (0x41 :: dataRecords data pids) info).1
      = decodeLoop (extractOBDDictionary manifest translator schemes) (0x41 :: dataRecords data pids) 1
          { info with mSID := SIDs.CURRENT_STATS.toUType } := by
    have hvalid : isPIDResponseValid (extractOBDDictionary manifest translator schemes) pids
        (0x41 :: dataRecords data pids) = true := by
      have hcheck' : checkPIDs (extractOBDDictionary manifest translator schemes) (0x41 :: dataRecords data pids) 1
          pids = some (0x41 :: dataRecords data pids).length := hcheck
      unfold isPIDResponseValid
      rw [hcheck']
      simp
    unfold decodeEmissionPIDs
    rw [if_neg]
    . dsimp only
      rw [if_pos hvalid]
    . rw [Bool.or_eq_true, decide_eq_true_eq, decide_eq_true_eq, not_or]
      exact ⟨hlong, by simp [POSITIVE_ECU_RESPONSE_BASE, SIDs.toUType]⟩
  dsimp only
  rw [hdecoded]
  constructor
  . intro signalID hother
    exact decodeLoop_other hother hcheck
  . intro signalID pid hpid hsignal
    have hvalue : (decodeLoop _ _ _ { info with mSID := SIDs.CURRENT_STATS.toUType }).mPIDsToValues[signalID]? = _ :=
      decodeLoop_value hwell hsignal.1 hsignal.2 (hinside signalID pid hsignal) hcheck
    rw [List.length_singleton] at hvalue
    change (decodeLoop _ (0x41 :: dataRecords data pids) 1 _).mPIDsToValues[signalID]? = _ at hvalue
    rw [hvalue]
    have hdrop : ([0x41] ++ dataRecords data pids).drop 1 = dataRecords data pids := rfl
    rw [hdrop, lookup_dataRecords hlength hpid]
    rfl

end DataManagement

namespace DataInspection

open Cpp DataManagement OBDDataDecoder OBDOverCANModule

variable {V : Type} [InspectionValue V]
variable {manifest : DecoderManifestIngestion V} {translator : CANInterfaceIDTranslator}
variable {schemes : List (CollectionScheme V)} {responseLength : PID → Nat}

/--
What holds of the empty exchange and is kept by each request of at most six PIDs of the list holds of the
whole exchange.
-/
theorem requestReceiveEmissionPIDs_induction {s : OBDOverCANModule V} {sid : SIDs}
    {respond : List (List PID) → Option (List UInt8)} {pids : SupportedPIDs} {info : EmissionInfo V}
    (P : EmissionRequests V → Prop) (hinit : P { info := info })
    (hstep : ∀ exchange group, P exchange → group ≠ [] → group ⊆ pids → group.length ≤ MAX_PID_RANGE →
      P (s.requestReceivePIDs sid respond exchange group))
    {exchange : EmissionRequests V} {received : Bool}
    (h : s.requestReceiveEmissionPIDs sid respond pids info = some (exchange, received))
    (hlength : pids.length < 6 * 2 ^ 32)
    : P exchange := by
  have hranges : ∀ rangeCount exchange exchange', rangeCount * MAX_PID_RANGE ≤ pids.length → rangeCount < 2 ^ 32 →
      P exchange → s.requestRanges sid respond pids rangeCount exchange = some exchange' → P exchange' := by
    intro rangeCount
    induction rangeCount with
    | zero =>
      intro exchange exchange' _ _ hexchange heq
      unfold requestRanges at heq
      rw [Option.some.injEq] at heq
      exact heq ▸ hexchange
    | succ rangeCount ih =>
      intro exchange exchange' hle hlt hexchange heq
      have hmul : (rangeCount + 1) * MAX_PID_RANGE = rangeCount * MAX_PID_RANGE + MAX_PID_RANGE := Nat.succ_mul ..
      have hpos : 0 < MAX_PID_RANGE := by decide
      unfold requestRanges at heq
      dsimp only at heq
      rw [u32_of_lt hlt, u32_of_lt (by omega), if_pos (by omega)] at heq
      have hgroup : ((pids.take ((rangeCount + 1) * MAX_PID_RANGE)).drop (rangeCount * MAX_PID_RANGE)).length
          = MAX_PID_RANGE := by
        rw [List.length_drop, List.length_take]
        omega
      refine ih _ _ (by omega) (by omega) ?_ heq
      apply hstep _ _ hexchange
      . intro hnil
        rw [hnil] at hgroup
        exact absurd hgroup (by decide)
      . exact fun pid hpid => List.mem_of_mem_take (List.mem_of_mem_drop hpid)
      . omega
  have hsplit : pids.length / MAX_PID_RANGE * MAX_PID_RANGE + pids.length % MAX_PID_RANGE = pids.length :=
    Nat.div_add_mod' ..
  have hmod : pids.length % MAX_PID_RANGE < MAX_PID_RANGE := Nat.mod_lt _ (by decide)
  have hcount : pids.length / MAX_PID_RANGE < 2 ^ 32 := Nat.div_lt_of_lt_mul hlength
  unfold requestReceiveEmissionPIDs at h
  dsimp only at h
  split at h
  . contradiction
  . next exchange' heq =>
    have hexchange := hranges _ _ _ (by omega) hcount hinit heq
    rw [Option.some.injEq, Prod.mk.injEq] at h
    rw [← h.1]
    split
    . next hleft =>
      have hsmall : MAX_PID_RANGE = 6 := rfl
      have hlast : (pids.drop (pids.length - u32 (pids.length % MAX_PID_RANGE))).length
          = pids.length % MAX_PID_RANGE := by
        rw [List.length_drop, u32_of_lt (by omega)]
        omega
      apply hstep _ _ hexchange
      . intro hnil
        rw [hnil, List.length_nil] at hlast
        omega
      . exact List.drop_subset _ _
      . omega
    . exact hexchange

def ECU.respondRequests (ecu : ECU) (data : Nat → PID → List UInt8) (requests : List (List PID))
    : Option (List UInt8) :=
  match requests with
  | [] => none
  | pids :: earlier => ecu.answer (data earlier.length) pids

structure Brought (manifest : DecoderManifestIngestion V) (schemes : List (CollectionScheme V))
    (data : Nat → PID → List UInt8) (exchange : EmissionRequests V) : Prop where
  isSome_iff : ∀ signalID, exchange.info.mPIDsToValues[signalID]?.isSome = true
    ↔ ∃ pid ∈ exchange.requests.flatten, RequestedOf manifest schemes signalID pid
  value : ∀ signalID v, exchange.info.mPIDsToValues[signalID]? = some v →
    ∃ pid n, n < exchange.requests.length ∧ pid ∈ (exchange.requests.reverse[n]?).getD []
      ∧ RequestedOf manifest schemes signalID pid
      ∧ v = (manifest.getPIDSignalDecoderFormat signalID).physicalValue (data n pid)

variable {ecu : ECU} {data : Nat → PID → List UInt8} {s : OBDOverCANModule V}

theorem answer_discoverable (data : PID → List UInt8) {pids : List PID} (hne : pids ≠ [])
    (h : ∀ pid ∈ pids, ecu.Discoverable pid)
    : ecu.answer data pids = some (0x41 :: dataRecords data pids) := by
  have hfilter : pids.filter ecu.answers = pids := by
    rw [List.filter_eq_self]
    intro pid hpid
    unfold ECU.answers
    rw [if_neg (h pid hpid).2.1]
    exact (h pid hpid).1
  have hrecords : pids.flatMap (ecu.record data) = dataRecords data pids := by
    apply List.flatMap_congr
    intro pid hpid
    exact if_neg (h pid hpid).2.1
  unfold ECU.answer
  dsimp only
  rw [hfilter, if_neg (by simpa using hne), hrecords]

theorem Brought.request (hwell : WellFormedPIDs manifest schemes responseLength)
    (hinside : SignalsInside manifest schemes responseLength)
    (hdictionary : s.mDecoderDictionaryPtr = some (extractOBDDictionary manifest translator schemes))
    {exchange : EmissionRequests V} (h : Brought manifest schemes data exchange) {group : List PID}
    (hne : group ≠ []) (hsmall : group.length ≤ MAX_PID_RANGE)
    (hdiscoverable : ∀ pid ∈ group, ecu.Discoverable pid)
    (hcollected : ∀ pid ∈ group, ∃ signalID, RequestedOf manifest schemes signalID pid)
    (hlength : ∀ n, ∀ pid ∈ group, (data n pid).length = responseLength pid)
    : Brought manifest schemes data
        (s.requestReceivePIDs .CURRENT_STATS (ecu.respondRequests data) exchange group) := by
  have hrequests : requestPIDs .CURRENT_STATS group = some (0x01 :: group) := if_neg (by omega)
  obtain ⟨hother, hsame⟩ := decodeEmissionPIDs_dataRecords translator hwell hinside hne hcollected
    (hlength exchange.requests.length) exchange.info
  have hdecoded : s.requestReceivePIDs .CURRENT_STATS (ecu.respondRequests data) exchange group
      = ⟨group :: exchange.requests,
          (decodeEmissionPIDs (some (extractOBDDictionary manifest translator schemes))
            SIDs.CURRENT_STATS.toUType group (0x41 :: dataRecords (data exchange.requests.length) group)
            exchange.info).1⟩ := by
    unfold requestReceivePIDs ECU.respondRequests
    rw [hrequests]
    dsimp only
    rw [answer_discoverable _ hne hdiscoverable, hdictionary]
  rw [hdecoded]
  generalize (decodeEmissionPIDs (some (extractOBDDictionary manifest translator schemes))
    SIDs.CURRENT_STATS.toUType group (0x41 :: dataRecords (data exchange.requests.length) group)
    exchange.info).1 = info' at hother hsame
  have hold : ∀ n, n < exchange.requests.length
      → (group :: exchange.requests).reverse[n]? = exchange.requests.reverse[n]? := by
    intro n hn
    rw [List.reverse_cons, List.getElem?_append_left (by simpa using hn)]
  constructor
  . intro signalID
    rw [List.flatten_cons]
    by_cases hin : ∃ pid ∈ group, RequestedOf manifest schemes signalID pid
    . have ⟨pid, hpid, hsignal⟩ := hin
      rw [hsame signalID pid hpid hsignal]
      simp only [Option.isSome_or, Option.isSome_some, Bool.or_true, true_iff]
      exact ⟨pid, List.mem_append_left _ hpid, hsignal⟩
    . rw [hother signalID (fun pid hpid hsignal => hin ⟨pid, hpid, hsignal⟩), h.isSome_iff]
      constructor
      . intro ⟨pid, hpid, hsignal⟩
        exact ⟨pid, List.mem_append_right _ hpid, hsignal⟩
      . intro ⟨pid, hpid, hsignal⟩
        cases List.mem_append.mp hpid with
        | inl hgroup => exact absurd ⟨pid, hgroup, hsignal⟩ hin
        | inr hearlier => exact ⟨pid, hearlier, hsignal⟩
  . intro signalID v hv
    have hkept : exchange.info.mPIDsToValues[signalID]? = some v →
        ∃ pid n, n < (group :: exchange.requests).length
          ∧ pid ∈ ((group :: exchange.requests).reverse[n]?).getD []
          ∧ RequestedOf manifest schemes signalID pid
          ∧ v = (manifest.getPIDSignalDecoderFormat signalID).physicalValue (data n pid) := by
      intro hearlier
      have ⟨pid, n, hn, hpid, hsignal, heq⟩ := h.value signalID v hearlier
      exact ⟨pid, n, Nat.lt_succ_of_lt hn, by rwa [hold n hn], hsignal, heq⟩
    by_cases hin : ∃ pid ∈ group, RequestedOf manifest schemes signalID pid
    . have ⟨pid, hpid, hsignal⟩ := hin
      change info'.mPIDsToValues[signalID]? = some v at hv
      rw [hsame signalID pid hpid hsignal] at hv
      cases hearlier : exchange.info.mPIDsToValues[signalID]? with
      | some w =>
        rw [hearlier, Option.some_or, Option.some.injEq] at hv
        rw [hv] at hearlier
        exact hkept hearlier
      | none =>
        rw [hearlier, Option.none_or, Option.some.injEq] at hv
        refine ⟨pid, exchange.requests.length, by simp, ?_, hsignal, hv.symm⟩
        rw [List.reverse_cons, List.getElem?_append_right (by simp)]
        simpa using hpid
    . change info'.mPIDsToValues[signalID]? = some v at hv
      rw [hother signalID (fun pid hpid hsignal => hin ⟨pid, hpid, hsignal⟩)] at hv
      exact hkept hv

theorem requestReceiveEmissionPIDs_brought (data : Nat → PID → List UInt8)
    (hwell : WellFormedPIDs manifest schemes responseLength)
    (hinside : SignalsInside manifest schemes responseLength)
    (hdictionary : s.mDecoderDictionaryPtr = some (extractOBDDictionary manifest translator schemes))
    {pids : SupportedPIDs} (hpids : pids.length ≤ 256) (hdiscoverable : ∀ pid ∈ pids, ecu.Discoverable pid)
    (hcollected : ∀ pid ∈ pids, ∃ signalID, RequestedOf manifest schemes signalID pid)
    (hlength : ∀ n, ∀ pid ∈ pids, (data n pid).length = responseLength pid)
    : ∃ exchange received,
        s.requestReceiveEmissionPIDs .CURRENT_STATS (ecu.respondRequests data) pids {} = some (exchange, received)
          ∧ Brought manifest schemes data exchange
          ∧ RequestsOnce pids exchange.requests
          ∧ received = !exchange.info.mPIDsToValues.isEmpty := by
  have hshort : pids.length < 6 * 2 ^ 32 := by omega
  obtain ⟨exchange, received, heq, honce⟩ :=
    s.requestReceiveEmissionPIDs_requests .CURRENT_STATS (ecu.respondRequests data) {} hshort
  have hinit : Brought manifest schemes data ({ info := {} } : EmissionRequests V) := by
    constructor
    . intro signalID
      simp
    . intro signalID v hv
      simp at hv
  refine ⟨exchange, received, heq, ?_, honce, ?_⟩
  . apply requestReceiveEmissionPIDs_induction _ hinit _ heq hshort
    intro exchange group hexchange hne hsubset hsmall
    exact hexchange.request hwell hinside hdictionary hne hsmall (fun pid hpid => hdiscoverable pid (hsubset hpid))
      (fun pid hpid => hcollected pid (hsubset hpid)) (fun n pid hpid => hlength n pid (hsubset hpid))
  . unfold requestReceiveEmissionPIDs at heq
    dsimp only at heq
    split at heq
    . contradiction
    . rw [Option.some.injEq, Prod.mk.injEq] at heq
      rw [← heq.2, heq.1]

end DataInspection
