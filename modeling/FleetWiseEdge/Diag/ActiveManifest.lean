import FleetWiseEdge.Diag.EmissionValues

namespace DataManagement

open DataInspection

section Manifest

variable {V : Type} [InspectionValue V]

def DecoderDictionaryMap.obdCollects (dictionaries : DecoderDictionaryMap V) (signalID : SignalID) : Bool :=
  ((dictionaries .OBD).getD .empty).signalIDsToCollect signalID

variable {manifest : DecoderManifestIngestion V} {translator : CANInterfaceIDTranslator}
variable {dictionaries : DecoderDictionaryMap V} {signalID : SignalID}

omit [InspectionValue V] in
theorem obdCollects_updateDictionary {networkType : VehicleDataSourceProtocol}
    {f : CANDecoderDictionary V → CANDecoderDictionary V}
    (h : networkType = .OBD → ∀ d, d.signalIDsToCollect signalID = true → (f d).signalIDsToCollect signalID = true)
    (hold : dictionaries.obdCollects signalID = true)
    : (updateDictionary networkType f dictionaries).obdCollects signalID = true := by
  unfold DecoderDictionaryMap.obdCollects updateDictionary at *
  by_cases heq : networkType = .OBD
  . rw [heq] at h ⊢
    rw [Function.update_self, Option.getD_some]
    exact h rfl _ hold
  . rw [Function.update_of_ne (fun h => heq h.symm)]
    exact hold

theorem signalIDsToCollect_addOBDSignal (other : SignalID) (d : CANDecoderDictionary V)
    : (addOBDSignal manifest other d).signalIDsToCollect signalID
        =
      (d.signalIDsToCollect signalID || other == signalID) := by
  unfold addOBDSignal
  dsimp only
  rw [CANDecoderDictionary.signalIDsToCollect_setMethod, CANDecoderDictionary.signalIDsToCollect_addChannel]
  exact CANDecoderDictionary.signalIDsToCollect_collectSignal

theorem obdCollects_addSignal (info : SignalCollectionInfo)
    (hold : dictionaries.obdCollects signalID = true)
    : (addSignal manifest translator dictionaries info).obdCollects signalID = true := by
  unfold addSignal
  dsimp only
  split
  . exact hold
  . next hprotocol =>
    apply obdCollects_updateDictionary _ hold
    intro heq
    rw [hprotocol] at heq
    contradiction
  . apply obdCollects_updateDictionary _ hold
    intro _ d hd
    rw [signalIDsToCollect_addOBDSignal, hd, Bool.true_or]
  . apply obdCollects_updateDictionary _ hold
    exact fun _ d hd => hd

theorem obdCollects_addSignal_self (info : SignalCollectionInfo)
    (hprotocol : manifest.getNetworkProtocol info.signalID = .OBD)
    : (addSignal manifest translator dictionaries info).obdCollects info.signalID = true := by
  unfold addSignal DecoderDictionaryMap.obdCollects
  rw [hprotocol]
  dsimp only
  unfold updateDictionary
  rw [Function.update_self, Option.getD_some, signalIDsToCollect_addOBDSignal]
  simp

omit [InspectionValue V] in
theorem obdCollects_addRawCanFrames (canFrames : List CanFrameCollectionInfo)
    (hold : dictionaries.obdCollects signalID = true)
    : (addRawCanFrames translator dictionaries canFrames).obdCollects signalID = true := by
  unfold addRawCanFrames
  split
  . exact hold
  . apply obdCollects_updateDictionary _ hold
    intro heq
    contradiction

theorem obdCollects_extractDictionaries {schemes : List (CollectionScheme V)}
    (h : RequestedOBD manifest schemes signalID)
    : (extractDictionaries manifest translator schemes).obdCollects signalID = true := by
  obtain ⟨hmem, hprotocol⟩ := h
  unfold DataManagement.requestedSignals at hmem
  have ⟨c, hc, hsignal⟩ := List.mem_flatMap.mp hmem
  have ⟨info, hinfo, hid⟩ := List.mem_map.mp hsignal
  have hsupported : ∀ (protocols : List VehicleDataSourceProtocol) (dictionaries : DecoderDictionaryMap V),
      dictionaries.obdCollects signalID = true →
        DecoderDictionaryMap.obdCollects (protocols.foldl (fun dictionaries networkType =>
          updateDictionary networkType id dictionaries) dictionaries) signalID = true := by
    intro protocols
    induction protocols with
    | nil => exact fun _ hold => hold
    | cons protocol protocols ih =>
      intro dictionaries hold
      rw [List.foldl_cons]
      apply ih
      exact obdCollects_updateDictionary (fun _ d hd => hd) hold
  have hsignals : ∀ (infos : List SignalCollectionInfo) (dictionaries : DecoderDictionaryMap V),
      dictionaries.obdCollects signalID = true →
        (infos.foldl (addSignal manifest translator) dictionaries).obdCollects signalID
          = true := by
    intro infos
    induction infos with
    | nil => exact fun _ hold => hold
    | cons info infos ih =>
      intro dictionaries hold
      rw [List.foldl_cons]
      exact ih _ (obdCollects_addSignal info hold)
  unfold extractDictionaries
  apply hsupported
  apply KeyedList.foldl_of_mem (fun dictionaries : DecoderDictionaryMap V =>
    dictionaries.obdCollects signalID = true) _ _ hc
  . intro dictionaries c hold
    exact obdCollects_addRawCanFrames _ (hsignals _ _ hold)
  . intro dictionaries
    apply obdCollects_addRawCanFrames
    apply KeyedList.foldl_of_mem (fun dictionaries : DecoderDictionaryMap V =>
      dictionaries.obdCollects signalID = true) _ _ hinfo
    . exact fun dictionaries info hold => obdCollects_addSignal info hold
    . intro dictionaries
      rw [← hid] at hprotocol ⊢
      exact obdCollects_addSignal_self info hprotocol

end Manifest

end DataManagement

namespace DataInspection

open Cpp DataManagement OBDDataDecoder OBDOverCANModule

variable {V : Type} [InspectionValue V]

/--
A decoder manifest with its collection schemes, and the OBD dictionary that is extracted from them. The
signals are well formed and lie inside of the responses.
-/
structure ActiveManifest (V : Type) [InspectionValue V] where
  manifest : DecoderManifestIngestion V
  translator : CANInterfaceIDTranslator
  schemes : List (CollectionScheme V)
  responseLength : PID → Nat
  wellFormed : WellFormedPIDs manifest schemes responseLength
  inside : SignalsInside manifest schemes responseLength
  dictionary : OBDDictionary V
  extracted : dictionary.dictionary = (extractDictionaries manifest translator schemes .OBD).getD .empty

namespace ActiveManifest

variable (m : ActiveManifest V)

def Requests (signalID : SignalID) (pid : PID) : Prop := RequestedOf m.manifest m.schemes signalID pid

theorem formats_eq : m.dictionary.formats = extractOBDDictionary m.manifest m.translator m.schemes := by
  funext pid
  have hzero : ∀ ch, (m.dictionary.dictionary.canMessageDecoderMethod ch).isSome = true → ch = 0 := by
    intro ch hch
    by_contra hne
    rw [m.extracted] at hch
    have hnone : (extractDictionaries m.manifest m.translator m.schemes).obdChannel ch = none :=
      obdChannel_extractDictionaries m.schemes hne
    unfold DecoderDictionaryMap.obdChannel at hnone
    rw [hnone] at hch
    contradiction
  unfold extractOBDDictionary obdDecoderDictionary OBDDictionary.formats
  rw [← m.extracted]
  cases hhead : m.dictionary.channels.head? with
  | none =>
    have hnone : m.dictionary.dictionary.canMessageDecoderMethod 0 = none := by
      rw [List.head?_eq_none_iff] at hhead
      rw [← Option.not_isSome_iff_eq_none, ← m.dictionary.mem_channels, hhead]
      exact List.not_mem_nil
    rw [hnone]
  | some ch =>
    have hch := hzero ch ((m.dictionary.mem_channels ch).mp (List.mem_of_head? hhead))
    subst hch
    rfl

theorem collects_iff {pid : PID} : m.dictionary.Collects pid ↔ ∃ signalID, m.Requests signalID pid := by
  have hentry : ∀ methods, m.dictionary.dictionary.canMessageDecoderMethod 0 = some methods →
      ∀ format, (methods pid.toNat).map (·.format) = some format ↔
        extractOBDDictionary m.manifest m.translator m.schemes pid = some format := by
    intro methods hmethods format
    unfold extractOBDDictionary obdDecoderDictionary
    rw [← m.extracted, hmethods]
  constructor
  . intro ⟨ch, methods, method, hmethods, hmethod, hsignal⟩
    have hch : ch = 0 := by
      by_contra hne
      have hnone : (extractDictionaries m.manifest m.translator m.schemes).obdChannel ch = none :=
        obdChannel_extractDictionaries m.schemes hne
      unfold DecoderDictionaryMap.obdChannel at hnone
      rw [m.extracted, hnone] at hmethods
      contradiction
    rw [hch] at hmethods
    have hformat := (hentry methods hmethods method.format).mp (by rw [hmethod]; rfl)
    exact requestedOf_of_format hformat
  . intro ⟨signalID, hsignal⟩
    obtain ⟨format, hformat⟩ := exists_format m.translator hsignal
    have hsome := hformat
    unfold extractOBDDictionary obdDecoderDictionary at hsome
    rw [← m.extracted] at hsome
    split at hsome
    . contradiction
    . next methods hmethods =>
      have ⟨method, hmethod, heq⟩ := Option.map_eq_some_iff.mp hsome
      refine ⟨0, methods, method, hmethods, hmethod, ?_⟩
      rw [heq, extractOBDDictionary_signals hformat]
      refine ⟨_, List.mem_map_of_mem (ofPID_requested hsignal.1 hsignal.2), ?_⟩
      rw [m.extracted]
      exact obdCollects_extractDictionaries hsignal.1

end ActiveManifest

end DataInspection
