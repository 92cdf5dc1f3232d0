import FleetWiseEdge.Decoding.Lemmas.OBDDictionary
import FleetWiseEdge.Decoding.Lemmas.OBDDataDecoder

namespace DataManagement

open DataInspection

section Dictionary

variable {V : Type} [InspectionValue V]

def RequestedOBD (manifest : DecoderManifestIngestion V) (schemes : List (CollectionScheme V))
    (signalID : SignalID)
    : Prop :=
  signalID ∈ requestedSignals schemes ∧ manifest.getNetworkProtocol signalID = .OBD

/--
Signals that are well formed and agree on the response length of their PID.
-/
structure WellFormedPIDs (manifest : DecoderManifestIngestion V) (schemes : List (CollectionScheme V))
    (responseLength : PID → Nat) : Prop where
  wellFormed : ∀ signalID, RequestedOBD manifest schemes signalID →
    (manifest.getPIDSignalDecoderFormat signalID).WellFormed
  agree : ∀ signalID, RequestedOBD manifest schemes signalID →
    ∀ pid : PID, (manifest.getPIDSignalDecoderFormat signalID).mPID = pid.toNat →
      (manifest.getPIDSignalDecoderFormat signalID).mPidResponseLength = responseLength pid

def extractOBDDictionary (manifest : DecoderManifestIngestion V)
    (translator : CANInterfaceIDTranslator) (schemes : List (CollectionScheme V))
    : OBDDecoderDictionary V :=
  obdDecoderDictionary ((extractDictionaries manifest translator schemes .OBD).getD .empty)

variable {manifest : DecoderManifestIngestion V} {translator : CANInterfaceIDTranslator}
variable {schemes : List (CollectionScheme V)} {responseLength : PID → Nat} {pid : PID}
variable {signalID : SignalID}

theorem extractOBDDictionary_eq
    : extractOBDDictionary manifest translator schemes pid
        =
      ((requestedSignals schemes).filter (ofPID manifest pid.toNat)).head?.map fun signalID =>
        { mMessageID := pid.toNat
          mSizeInBytes := (manifest.getPIDSignalDecoderFormat signalID).mPidResponseLength % 2 ^ 8
          mSignals := signalFormats manifest pid.toNat (requestedSignals schemes) } := by
  have hentry := @pidEntry_extractDictionaries V _ manifest pid.toNat translator schemes
  rw [mergeSignals_none] at hentry
  have hformat
      : extractOBDDictionary manifest translator schemes pid
          =
        ((extractDictionaries manifest translator schemes).pidEntry pid.toNat).map (·.format) := by
    unfold extractOBDDictionary obdDecoderDictionary DecoderDictionaryMap.pidEntry
    unfold CANDecoderDictionary.method
    split
    . next hnone => simp [hnone]
    . next methods hmethods => simp [hmethods]
  rw [hformat, hentry, Option.map_map]
  rfl

theorem ofPID_requested (hrequested : RequestedOBD manifest schemes signalID)
    (hpid : (manifest.getPIDSignalDecoderFormat signalID).mPID = pid.toNat)
    : signalID ∈ (requestedSignals schemes).filter (ofPID manifest pid.toNat) := by
  rw [List.mem_filter]
  apply And.intro hrequested.1
  simp [ofPID, hrequested.2, hpid]

theorem requested_of_ofPID
    (hmem : signalID ∈ (requestedSignals schemes).filter (ofPID manifest pid.toNat))
    : RequestedOBD manifest schemes signalID
        ∧
      (manifest.getPIDSignalDecoderFormat signalID).mPID = pid.toNat := by
  rw [List.mem_filter] at hmem
  have hpid := hmem.2
  unfold ofPID at hpid
  rw [Bool.and_eq_true, decide_eq_true_eq, decide_eq_true_eq] at hpid
  exact ⟨⟨hmem.1, hpid.1⟩, hpid.2⟩

theorem WellFormedPIDs.size (h : WellFormedPIDs manifest schemes responseLength)
    {format : CANMessageFormat V}
    (hformat : extractOBDDictionary manifest translator schemes pid = some format)
    : format.mSizeInBytes = responseLength pid := by
  rw [extractOBDDictionary_eq, Option.map_eq_some_iff] at hformat
  have ⟨first, hfirst, heq⟩ := hformat
  have ⟨hrequested, hpid⟩ := requested_of_ofPID (List.mem_of_head? hfirst)
  have hresponse := (h.wellFormed first hrequested).response
  rw [← heq]
  dsimp only
  rw [Nat.mod_eq_of_lt (by omega)]
  exact h.agree first hrequested pid hpid

theorem extractOBDDictionary_signals {format : CANMessageFormat V}
    (hformat : extractOBDDictionary manifest translator schemes pid = some format)
    : format.mSignals = signalFormats manifest pid.toNat (requestedSignals schemes) := by
  rw [extractOBDDictionary_eq, Option.map_eq_some_iff] at hformat
  have ⟨first, hfirst, heq⟩ := hformat
  rw [← heq]

theorem mem_signalFormats {formula : CANSignalFormat V}
    (hmem : formula ∈ signalFormats manifest pid.toNat (requestedSignals schemes))
    : (manifest.getPIDSignalDecoderFormat formula.mSignalID).mPID = pid.toNat
        ∧
      formula = (manifest.getPIDSignalDecoderFormat formula.mSignalID).signalFormat formula.mSignalID := by
  unfold signalFormats at hmem
  rw [List.mem_map] at hmem
  have ⟨signalID, hsignal, heq⟩ := hmem
  have hid : formula.mSignalID = signalID := by
    rw [← heq]
    rfl
  rw [hid]
  exact ⟨(requested_of_ofPID hsignal).2, heq.symm⟩

end Dictionary

section Values

variable {V : Type} [InspectionValue V]

def PIDSignalDecoderFormat.physicalValue (format : PIDSignalDecoderFormat V) (data : List UInt8) : V :=
  InspectionValue.add
    (InspectionValue.mul (InspectionValue.ofNat (format.rawNumber data)) format.mScaling) format.mOffset

variable {manifest : DecoderManifestIngestion V} {translator : CANInterfaceIDTranslator}
variable {schemes : List (CollectionScheme V)} {responseLength : PID → Nat} {pid : PID}
variable {signalID : SignalID} {ecuResponse : List UInt8} {info : EmissionInfo V}

open OBDDataDecoder

theorem decodeRecord_value (hwell : WellFormedPIDs manifest schemes responseLength)
    (hrequested : RequestedOBD manifest schemes signalID) {target : PID}
    (htarget : (manifest.getPIDSignalDecoderFormat signalID).mPID = target.toNat)
    (hinside : (manifest.getPIDSignalDecoderFormat signalID).mStartByte * BYTE_SIZE
        + (manifest.getPIDSignalDecoderFormat signalID).mBitRightShift
      < responseLength target * BYTE_SIZE)
    {format : CANMessageFormat V}
    (hformat : extractOBDDictionary manifest translator schemes pid = some format) {start : Nat}
    (hbytes : start + responseLength pid ≤ ecuResponse.length)
    : (format.mSignals.foldl (decodeFormula (extractOBDDictionary manifest translator schemes)
        ecuResponse pid start) info).mPIDsToValues[signalID]?
        =
      if target = pid then
        info.mPIDsToValues[signalID]?.or
          (some ((manifest.getPIDSignalDecoderFormat signalID).physicalValue
            ((ecuResponse.drop start).take (responseLength pid))))
      else
        info.mPIDsToValues[signalID]? := by
  have hsignals := extractOBDDictionary_signals hformat
  split
  . next heq =>
    rw [heq] at htarget hinside
    have hlength := hwell.agree signalID hrequested pid htarget
    have hformulas := hwell.wellFormed signalID hrequested
    have hmem : (manifest.getPIDSignalDecoderFormat signalID).signalFormat signalID ∈ format.mSignals := by
      rw [hsignals]
      exact List.mem_map_of_mem (ofPID_requested hrequested htarget)
    rw [decodeFormulas_same hmem]
    . unfold physicalValue
      rw [rawValue_eq hformulas signalID (hlength ▸ hbytes), hlength]
      rfl
    . rfl
    . rw [isFormulaValid_iff hformulas signalID hformat (by rw [hwell.size hformat, hlength])]
      rw [hlength]
      exact hinside
    . intro formula hmem hid
      rw [hsignals] at hmem
      rw [(mem_signalFormats hmem).2, hid]
  . next hne =>
    apply decodeFormulas_other
    intro formula hmem hid
    rw [hsignals] at hmem
    have hpid := (mem_signalFormats hmem).1
    rw [hid, htarget] at hpid
    apply hne
    exact UInt8.toNat_inj.mp hpid

theorem decodeLoop_value (hwell : WellFormedPIDs manifest schemes responseLength)
    (hrequested : RequestedOBD manifest schemes signalID) {target : PID}
    (htarget : (manifest.getPIDSignalDecoderFormat signalID).mPID = target.toNat)
    (hinside : (manifest.getPIDSignalDecoderFormat signalID).mStartByte * BYTE_SIZE
        + (manifest.getPIDSignalDecoderFormat signalID).mBitRightShift
      < responseLength target * BYTE_SIZE)
    {pids : List PID} {start : Nat}
    (hcheck : checkPIDs (extractOBDDictionary manifest translator schemes) ecuResponse start pids
      = some ecuResponse.length)
    : (decodeLoop (extractOBDDictionary manifest translator schemes) ecuResponse start info).mPIDsToValues[signalID]?
        =
      info.mPIDsToValues[signalID]?.or
        (((records responseLength pids (ecuResponse.drop start)).lookup target).map
          (manifest.getPIDSignalDecoderFormat signalID).physicalValue) := by
  induction pids generalizing start info with
  | nil =>
    unfold checkPIDs at hcheck
    rw [Option.some.injEq] at hcheck
    unfold decodeLoop
    rw [dif_neg (by omega)]
    simp [records]
  | cons pid pids ih =>
    obtain ⟨hpid, format, hformat, hrest⟩ := checkPIDs_cons hcheck
    have hle := checkPIDs_le hrest
    have hsize := hwell.size hformat
    obtain ⟨hlt, hpid⟩ := List.getElem?_eq_some_iff.mp hpid
    unfold decodeLoop
    rw [dif_pos hlt]
    dsimp only
    rw [hpid, hformat]
    dsimp only
    rw [if_pos (by omega)]
    have hnext : start + 1 + format.mSizeInBytes = start + (format.mSizeInBytes + 1) := by omega
    rw [hnext, ih hrest]
    rw [decodeRecord_value hwell hrequested htarget hinside hformat (by omega)]
    rw [lookup_records_cons, List.drop_drop, List.drop_drop]
    have hbehind : start + (format.mSizeInBytes + 1) = start + (1 + responseLength pid) := by omega
    rw [hbehind]
    by_cases heq : target = pid
    . rw [if_pos heq, if_pos heq]
      rw [Option.or_assoc, Option.some_or]
      rfl
    . rw [if_neg heq, if_neg heq]

theorem exists_record (hwell : WellFormedPIDs manifest schemes responseLength) {pids : List PID}
    {start : Nat}
    (hcheck : checkPIDs (extractOBDDictionary manifest translator schemes) ecuResponse start pids
      = some ecuResponse.length)
    (hmem : pid ∈ pids)
    : ∃ data, (records responseLength pids (ecuResponse.drop start)).lookup pid = some data
        ∧ data.length = responseLength pid := by
  induction pids generalizing start with
  | nil => simp at hmem
  | cons head pids ih =>
    have ⟨_, format, hformat, hrest⟩ := checkPIDs_cons hcheck
    have hle := checkPIDs_le hrest
    have hsize := hwell.size hformat
    rw [lookup_records_cons]
    by_cases heq : pid = head
    . rw [if_pos heq]
      apply Exists.intro _
      apply And.intro rfl
      rw [heq, List.length_take, List.length_drop, List.length_drop]
      omega
    . rw [if_neg heq, List.drop_drop]
      have hbehind : start + (1 + responseLength head) = start + (format.mSizeInBytes + 1) := by omega
      rw [hbehind]
      apply ih hrest
      simpa [heq] using hmem

/--
The decoder hands each requested signal of the PIDs in an accepted response the integer of its bytes,
shifted and, if it is a single byte, masked, with scaling and offset. Its first bit has to be inside the
response.
-/
theorem obd_values (hwell : WellFormedPIDs manifest schemes responseLength) {sid : Nat}
    {pids : List PID}
    (haccepted : (decodeEmissionPIDs (some (extractOBDDictionary manifest translator schemes)) sid
      pids ecuResponse info).2 = true)
    (hrequested : RequestedOBD manifest schemes signalID)
    (hpid : (manifest.getPIDSignalDecoderFormat signalID).mPID = pid.toNat) (hmem : pid ∈ pids)
    (hinside : (manifest.getPIDSignalDecoderFormat signalID).mStartByte * BYTE_SIZE
        + (manifest.getPIDSignalDecoderFormat signalID).mBitRightShift
      < responseLength pid * BYTE_SIZE)
    (hfresh : info.mPIDsToValues[signalID]? = none)
    : ∃ data, (records responseLength pids (ecuResponse.drop 1)).lookup pid = some data
        ∧ data.length = responseLength pid
        ∧ (decodeEmissionPIDs (some (extractOBDDictionary manifest translator schemes)) sid pids
            ecuResponse info).1.mPIDsToValues[signalID]?
          = some ((manifest.getPIDSignalDecoderFormat signalID).physicalValue data) := by
  unfold decodeEmissionPIDs at haccepted ⊢
  split
  . next hnegative =>
    rw [if_pos hnegative] at haccepted
    contradiction
  . next hpositive =>
    rw [if_neg hpositive] at haccepted
    dsimp only at haccepted ⊢
    split
    . next hvalid =>
      unfold isPIDResponseValid at hvalid
      split at hvalid
      . contradiction
      . next stop hcheck =>
        have hstop : stop = ecuResponse.length := by simpa using hvalid
        rw [hstop] at hcheck
        have ⟨data, hdata, hlength⟩ := exists_record hwell hcheck hmem
        apply Exists.intro data
        apply And.intro hdata
        apply And.intro hlength
        dsimp only
        rw [decodeLoop_value hwell hrequested hpid hinside hcheck]
        rw [hdata]
        dsimp only
        rw [hfresh]
        rfl
    . next hinvalid =>
      rw [if_neg hinvalid] at haccepted
      contradiction

end Values

section Masked

variable {V : Type} [InspectionValue V]

def PIDSignalDecoderFormat.maskedValue (format : PIDSignalDecoderFormat V) (data : List UInt8) : V :=
  InspectionValue.add
    (InspectionValue.mul
      (InspectionValue.ofNat ((BigEndian.decode (format.signalBytes data) >>> format.mBitRightShift)
        % 2 ^ format.mBitMaskLength))
      format.mScaling)
    format.mOffset

/--
If the signals are well formed and the response is accepted, a requested signal has its masked value.
-/
def HasMaskedValue (manifest : DecoderManifestIngestion V) (schemes : List (CollectionScheme V))
    (responseLength : PID → Nat) (pids : List PID) (ecuResponse : List UInt8) (signalID : SignalID)
    : Prop :=
  let decoded := OBDDataDecoder.decodeEmissionPIDs (some (extractOBDDictionary manifest .empty schemes)) 1
    pids ecuResponse {}
  WellFormedPIDs manifest schemes responseLength → decoded.2 = true →
    RequestedOBD manifest schemes signalID → ∀ pid data,
      (manifest.getPIDSignalDecoderFormat signalID).mPID = pid.toNat →
      (OBDDataDecoder.records responseLength pids (ecuResponse.drop 1)).lookup pid = some data →
        decoded.1.mPIDsToValues[signalID]?
          = some ((manifest.getPIDSignalDecoderFormat signalID).maskedValue data)

def wholeBytes : PIDSignalDecoderFormat Rat where
  mPidResponseLength := 2
  mServiceMode := 1
  mPID := 12
  mScaling := 1
  mOffset := 3
  mStartByte := 0
  mByteLength := 2
  mBitRightShift := 0
  mBitMaskLength := 8

def noBits : PIDSignalDecoderFormat Rat :=
  { wholeBytes with mStartByte := 1, mByteLength := 1, mBitRightShift := 8, mBitMaskLength := 0 }

def pidManifest : DecoderManifestIngestion Rat where
  content := some
    { arn := "manifest"
      mSignalToVehicleDataSourceProtocol := fun _ => some .OBD
      mSignalToCANRawFrameIDAndInterfaceIDDictionary := fun _ => none
      mCANMessageFormatDictionary := fun _ => none
      mSignalToPIDDictionary := fun signalID => some (if signalID = 1 then wholeBytes else noBits) }
  mReady := true

def pidSchemes : List (CollectionScheme Rat) :=
  [{ collectionSchemeID := "scheme"
     decoderManifestID := "manifest"
     startTime := 0
     expiryTime := 100
     probabilityToSend := 1
     collectSignals := [{ signalID := 1 }, { signalID := 2 }] }]

theorem wellFormed_pidManifest : WellFormedPIDs pidManifest pidSchemes fun _ => 2 := by
  have hformat (signalID : SignalID)
      : pidManifest.getPIDSignalDecoderFormat signalID = if signalID = 1 then wholeBytes else noBits :=
    rfl
  constructor
  . intro signalID _
    rw [hformat]
    split
    . constructor
      . decide
      . decide
      . decide
    . constructor
      . decide
      . decide
      . decide
  . intro signalID _ pid _
    rw [hformat]
    split <;> rfl

theorem obd_values_wholeBytes
    : ∃ data, (OBDDataDecoder.records (fun _ => 2) [12] [12, 1, 2]).lookup 12 = some data
        ∧ data.length = 2
        ∧ (OBDDataDecoder.decodeEmissionPIDs (some (extractOBDDictionary pidManifest {} pidSchemes)) 1
            [12] [0x41, 12, 1, 2] {}).1.mPIDsToValues[1]?
          = some (wholeBytes.physicalValue data) := by
  have haccepted
      : (OBDDataDecoder.decodeEmissionPIDs (some (extractOBDDictionary pidManifest {} pidSchemes)) 1
          [12] [0x41, 12, 1, 2] {}).2 = true := by
    decide +kernel
  have hrequested : RequestedOBD pidManifest pidSchemes 1 := ⟨by decide, by decide⟩
  have hpid : (pidManifest.getPIDSignalDecoderFormat 1).mPID = UInt8.toNat 12 := rfl
  apply obd_values wellFormed_pidManifest haccepted hrequested hpid
  . decide
  . decide
  . simp

theorem obd_values_unmasked
    : ¬HasMaskedValue pidManifest pidSchemes (fun _ => 2) [12] [0x41, 12, 1, 2] 1
        ∧
      ¬HasMaskedValue pidManifest pidSchemes (fun _ => 2) [12] [0x41, 12, 1, 2] 2 := by
  constructor
  . intro h
    have hvalue := h wellFormed_pidManifest (by decide +kernel) ⟨by decide, by decide⟩ 12 [1, 2] rfl rfl
    revert hvalue
    decide +kernel
  . intro h
    have hvalue := h wellFormed_pidManifest (by decide +kernel) ⟨by decide, by decide⟩ 12 [1, 2] rfl rfl
    revert hvalue
    decide +kernel

end Masked

end DataManagement
