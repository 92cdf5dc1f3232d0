import FleetWiseEdge.Manager.DecoderDictionary
import FleetWiseEdge.Decoding.Impl.OBDDataDecoder

namespace DataManagement

open DataInspection

section Merge

variable {V : Type} [InspectionValue V] (manifest : DecoderManifestIngestion V) (pid : Nat)

def ofPID (signalID : SignalID) : Bool :=
  manifest.getNetworkProtocol signalID = .OBD
    && (manifest.getPIDSignalDecoderFormat signalID).mPID = pid

def signalFormats (signalIDs : List SignalID) : List (CANSignalFormat V) :=
  (signalIDs.filter (ofPID manifest pid)).map fun signalID =>
    (manifest.getPIDSignalDecoderFormat signalID).signalFormat signalID

def pidMethod (signalID : SignalID) : CANMessageDecoderMethod V :=
  ⟨.DECODE,
    { mMessageID := pid
      mSizeInBytes := (manifest.getPIDSignalDecoderFormat signalID).mPidResponseLength % 2 ^ 8 }⟩

def CANMessageDecoderMethod.addSignals {V : Type} (method : CANMessageDecoderMethod V)
    (formats : List (CANSignalFormat V))
    : CANMessageDecoderMethod V :=
  { method with format := { method.format with mSignals := method.format.mSignals ++ formats } }

def mergeSignal (method : Option (CANMessageDecoderMethod V)) (signalID : SignalID)
    : Option (CANMessageDecoderMethod V) :=
  if ofPID manifest pid signalID then
    some ((method.getD (pidMethod manifest pid signalID)).addSignals
      [(manifest.getPIDSignalDecoderFormat signalID).signalFormat signalID])
  else
    method

variable {manifest pid}

theorem mergeSignal_of_pid {method : Option (CANMessageDecoderMethod V)} {signalID : SignalID}
    (hpid : ofPID manifest pid signalID = true)
    : mergeSignal manifest pid method signalID
        =
      some ((method.getD (pidMethod manifest pid signalID)).addSignals
        [(manifest.getPIDSignalDecoderFormat signalID).signalFormat signalID]) := by
  simp [mergeSignal, hpid]

theorem mergeSignal_of_other {method : Option (CANMessageDecoderMethod V)} {signalID : SignalID}
    (hpid : ¬ofPID manifest pid signalID = true)
    : mergeSignal manifest pid method signalID = method := by
  simp [mergeSignal, hpid]

theorem mergeSignals_some {method : CANMessageDecoderMethod V} {signalIDs : List SignalID}
    : signalIDs.foldl (mergeSignal manifest pid) (some method)
        =
      some (method.addSignals (signalFormats manifest pid signalIDs)) := by
  induction signalIDs generalizing method with
  | nil => simp [signalFormats, CANMessageDecoderMethod.addSignals]
  | cons signalID signalIDs ih =>
    rw [List.foldl_cons]
    by_cases hpid : ofPID manifest pid signalID = true
    . rw [mergeSignal_of_pid hpid, ih]
      unfold signalFormats
      rw [List.filter_cons_of_pos hpid]
      simp [CANMessageDecoderMethod.addSignals]
    . rw [mergeSignal_of_other hpid, ih]
      unfold signalFormats
      rw [List.filter_cons_of_neg hpid]

theorem mergeSignals_none {signalIDs : List SignalID}
    : signalIDs.foldl (mergeSignal manifest pid) none
        =
      (signalIDs.filter (ofPID manifest pid)).head?.map fun signalID =>
        (pidMethod manifest pid signalID).addSignals (signalFormats manifest pid signalIDs) := by
  induction signalIDs with
  | nil => rfl
  | cons signalID signalIDs ih =>
    rw [List.foldl_cons]
    by_cases hpid : ofPID manifest pid signalID = true
    . rw [mergeSignal_of_pid hpid, mergeSignals_some]
      unfold signalFormats
      rw [List.filter_cons_of_pos hpid]
      simp [CANMessageDecoderMethod.addSignals]
    . rw [mergeSignal_of_other hpid, ih]
      unfold signalFormats
      rw [List.filter_cons_of_neg hpid]

end Merge

section Extract

variable {V : Type} [InspectionValue V] {manifest : DecoderManifestIngestion V} {pid : Nat}
variable {translator : CANInterfaceIDTranslator} {dictionaries : DecoderDictionaryMap V}

def DecoderDictionaryMap.pidEntry (pid : Nat) (dictionaries : DecoderDictionaryMap V)
    : Option (CANMessageDecoderMethod V) :=
  ((dictionaries .OBD).getD .empty).method 0 pid

theorem method_addOBDSignal {d : CANDecoderDictionary V} {signalID : SignalID}
    (hprotocol : manifest.getNetworkProtocol signalID = .OBD)
    : (addOBDSignal manifest signalID d).method 0 pid = mergeSignal manifest pid (d.method 0 pid) signalID := by
  unfold addOBDSignal mergeSignal ofPID
  dsimp only
  rw [CANDecoderDictionary.method_setMethod]
  rw [CANDecoderDictionary.method_addChannel, CANDecoderDictionary.method_addChannel]
  rw [CANDecoderDictionary.method_collectSignal, CANDecoderDictionary.method_collectSignal]
  by_cases hpid : (manifest.getPIDSignalDecoderFormat signalID).mPID = pid
  . simp [hprotocol, hpid, pidMethod, CANMessageDecoderMethod.addSignals]
  . simp [hpid]

omit [InspectionValue V] in
theorem pidEntry_updateDictionary_of_ne {networkType : VehicleDataSourceProtocol}
    {f : CANDecoderDictionary V → CANDecoderDictionary V} (h : networkType ≠ .OBD)
    : (updateDictionary networkType f dictionaries).pidEntry pid = dictionaries.pidEntry pid := by
  simp [DecoderDictionaryMap.pidEntry, updateDictionary, Function.update_of_ne h.symm]

omit [InspectionValue V] in
theorem pidEntry_updateDictionary_id {networkType : VehicleDataSourceProtocol}
    : (updateDictionary networkType id dictionaries).pidEntry pid = dictionaries.pidEntry pid := by
  by_cases h : networkType = .OBD
  . simp [DecoderDictionaryMap.pidEntry, updateDictionary, h]
  . apply pidEntry_updateDictionary_of_ne h

theorem pidEntry_addSignal (info : SignalCollectionInfo)
    : (addSignal manifest translator dictionaries info).pidEntry pid
        =
      mergeSignal manifest pid (dictionaries.pidEntry pid) info.signalID := by
  have hother (hprotocol : manifest.getNetworkProtocol info.signalID ≠ .OBD)
      : mergeSignal manifest pid (dictionaries.pidEntry pid) info.signalID
          =
        dictionaries.pidEntry pid := by
    simp [mergeSignal, ofPID, hprotocol]
  unfold addSignal
  dsimp only
  split
  . next hprotocol => rw [hother (by simp [hprotocol])]
  . next hprotocol =>
    rw [hother (by simp [hprotocol]), hprotocol]
    apply pidEntry_updateDictionary_of_ne
    decide
  . next hprotocol =>
    unfold DecoderDictionaryMap.pidEntry
    rw [← method_addOBDSignal hprotocol, hprotocol]
    simp [updateDictionary]
  . next _ _ hnot =>
    rw [hother hnot]
    exact pidEntry_updateDictionary_id

theorem pidEntry_addCollectionScheme (c : CollectionScheme V)
    : (addCollectionScheme manifest translator dictionaries c).pidEntry pid
        =
      (c.collectSignals.map (·.signalID)).foldl (mergeSignal manifest pid)
        (dictionaries.pidEntry pid) := by
  have hsignals
      : (c.collectSignals.map (·.signalID)).foldl (mergeSignal manifest pid)
          (dictionaries.pidEntry pid)
          =
        (c.collectSignals.foldl (addSignal manifest translator) dictionaries).pidEntry pid := by
    rw [List.foldl_map]
    apply List.foldl_hom
    intro dictionaries info
    exact (pidEntry_addSignal info).symm
  rw [hsignals]
  unfold addCollectionScheme addRawCanFrames
  split
  . rfl
  . apply pidEntry_updateDictionary_of_ne
    decide

def requestedSignals (schemes : List (CollectionScheme V)) : List SignalID :=
  schemes.flatMap fun c => c.collectSignals.map (·.signalID)

theorem pidEntry_extractDictionaries (schemes : List (CollectionScheme V))
    : (extractDictionaries manifest translator schemes).pidEntry pid
        =
      (requestedSignals schemes).foldl (mergeSignal manifest pid) none := by
  unfold extractDictionaries SUPPORTED_NETWORK_PROTOCOL
  rw [List.foldl_cons, List.foldl_cons, List.foldl_nil]
  rw [pidEntry_updateDictionary_id, pidEntry_updateDictionary_id]
  apply KeyedList.view_foldl (DecoderDictionaryMap.pidEntry pid)
  intro dictionaries c
  apply pidEntry_addCollectionScheme

end Extract

section Channels

variable {V : Type} [InspectionValue V] {manifest : DecoderManifestIngestion V}
variable {translator : CANInterfaceIDTranslator} {dictionaries : DecoderDictionaryMap V}
variable {ch : CANChannelNumericID}

def DecoderDictionaryMap.obdChannel (ch : CANChannelNumericID) (dictionaries : DecoderDictionaryMap V)
    : Option (CANRawFrameID → Option (CANMessageDecoderMethod V)) :=
  ((dictionaries .OBD).getD .empty).canMessageDecoderMethod ch

theorem channel_addOBDSignal {d : CANDecoderDictionary V} {signalID : SignalID} (hch : ch ≠ 0)
    : (addOBDSignal manifest signalID d).canMessageDecoderMethod ch = d.canMessageDecoderMethod ch := by
  unfold addOBDSignal CANDecoderDictionary.setMethod CANDecoderDictionary.addChannel
  dsimp only
  rw [Function.update_of_ne hch]
  split
  . rfl
  . exact Function.update_of_ne hch _ _

omit [InspectionValue V] in
theorem obdChannel_updateDictionary {networkType : VehicleDataSourceProtocol}
    {f : CANDecoderDictionary V → CANDecoderDictionary V}
    (h : networkType = .OBD → ∀ d, (f d).canMessageDecoderMethod ch = d.canMessageDecoderMethod ch)
    : (updateDictionary networkType f dictionaries).obdChannel ch = dictionaries.obdChannel ch := by
  unfold DecoderDictionaryMap.obdChannel updateDictionary
  by_cases heq : networkType = .OBD
  . rw [heq, Function.update_self, Option.getD_some]
    exact h heq _
  . rw [Function.update_of_ne (fun h => heq h.symm)]

theorem obdChannel_addSignal (info : SignalCollectionInfo) (hch : ch ≠ 0)
    : (addSignal manifest translator dictionaries info).obdChannel ch = dictionaries.obdChannel ch := by
  unfold addSignal
  dsimp only
  split
  . rfl
  . next hprotocol =>
    apply obdChannel_updateDictionary
    intro heq
    rw [hprotocol] at heq
    contradiction
  . apply obdChannel_updateDictionary
    intro _ d
    exact channel_addOBDSignal hch
  . apply obdChannel_updateDictionary
    intro _ d
    rfl

theorem obdChannel_extractDictionaries (schemes : List (CollectionScheme V)) (hch : ch ≠ 0)
    : (extractDictionaries manifest translator schemes).obdChannel ch = none := by
  have hscheme (dictionaries : DecoderDictionaryMap V) (c : CollectionScheme V)
      : (addCollectionScheme manifest translator dictionaries c).obdChannel ch
          =
        dictionaries.obdChannel ch := by
    have hsignals (infos : List SignalCollectionInfo) (dictionaries : DecoderDictionaryMap V)
        : (infos.foldl (addSignal manifest translator) dictionaries).obdChannel ch
            =
          dictionaries.obdChannel ch := by
      induction infos generalizing dictionaries with
      | nil => rfl
      | cons info infos ih => rw [List.foldl_cons, ih, obdChannel_addSignal info hch]
    rw [← hsignals c.collectSignals dictionaries]
    unfold addCollectionScheme addRawCanFrames
    split
    . rfl
    . apply obdChannel_updateDictionary
      intro heq
      contradiction
  have hschemes (dictionaries : DecoderDictionaryMap V)
      : (schemes.foldl (addCollectionScheme manifest translator) dictionaries).obdChannel ch
          =
        dictionaries.obdChannel ch := by
    induction schemes generalizing dictionaries with
    | nil => rfl
    | cons c schemes ih => rw [List.foldl_cons, ih, hscheme]
  unfold extractDictionaries SUPPORTED_NETWORK_PROTOCOL
  rw [List.foldl_cons, List.foldl_cons, List.foldl_nil]
  have hid (networkType : VehicleDataSourceProtocol) (dictionaries : DecoderDictionaryMap V)
      : (updateDictionary networkType id dictionaries).obdChannel ch = dictionaries.obdChannel ch := by
    apply obdChannel_updateDictionary
    intro _ d
    rfl
  rw [hid, hid, hschemes]
  rfl

end Channels

end DataManagement
