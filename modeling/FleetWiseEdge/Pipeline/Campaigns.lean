import FleetWiseEdge.Ingestion.MessageConditions
import FleetWiseEdge.Manager.Lemmas.Extractions
import FleetWiseEdge.Pipeline.Impl.Agent
import FleetWiseEdge.Pipeline.Provenance

/-!
This module contains that the process uploads nothing but what the received campaigns ask for, from the bytes of
the documents to the payloads.
-/

namespace Pipeline

open Cpp DataInspection DataManagement CANDecoder ExecutionManagement OffboardConnectivity VehicleDataMsg
open CollectionSchemeManager (Sources MatrixFrom DictionaryFrom ListFrom ManifestFrom)
open CollectionSchemeIngestionList (FromDocument)

section HandedOver

variable {V : Type} [CANSignalValue V] {libraries : Libraries V} {connectivity : Nat → Connectivity}
variable {M : InspectionMatrix V → Prop} {D : CANDecoderDictionary V → Prop} {s : Pipeline V}

omit [CANSignalValue V] in
/--
`M` and `D` are what is known about the matrices and the dictionaries that the event brings.
-/
def Event.HandsOver (M : InspectionMatrix V → Prop) (D : CANDecoderDictionary V → Prop) (event : Event V)
    : Prop :=
  match event with
  | .consume _ dictionary _ _ => D dictionary
  | .onChangeInspectionMatrix activeConditions => M activeConditions
  | _ => True

omit [CANSignalValue V] in
theorem Event.HandsOver.ofAlone {event : Event V} (h : event.alone = true) : event.HandsOver M D := by
  cases event with
  | consume k dictionary message behind => cases h
  | onChangeInspectionMatrix activeConditions => cases h
  | respond k signals => trivial
  | produce k => trivial
  | report activeDTCs => trivial
  | inspect input => trivial
  | upload action => trivial

structure WorksWith (M : InspectionMatrix V → Prop) (D : CANDecoderDictionary V → Prop) (s : Pipeline V)
    : Prop where
  matrices : ∀ m ∈ s.matrices, M m
  frames : ∀ frame ∈ s.frames, D frame.dictionary

namespace WorksWith

theorem consume (h : s.WorksWith M D) (k : Nat) {dictionary : CANDecoderDictionary V} (hdictionary : D dictionary)
    (message : VehicleDataMessage) (behind : Nat → UInt8)
    : (s.consume k dictionary message behind).WorksWith M D := by
  unfold Pipeline.consume
  split
  . exact h
  . split
    . refine ⟨h.matrices, ?_⟩
      intro frame hframe
      rw [List.mem_append, List.mem_singleton] at hframe
      cases hframe with
      | inl hold => exact h.frames frame hold
      | inr hnew =>
        rw [hnew]
        exact hdictionary
    . exact h

omit [CANSignalValue V] in
theorem onChangeInspectionMatrix (h : s.WorksWith M D) {activeConditions : InspectionMatrix V}
    (hmatrix : M activeConditions)
    : (s.onChangeInspectionMatrix activeConditions).WorksWith M D := by
  refine ⟨?_, h.frames⟩
  intro m hm
  rcases List.mem_append.mp hm with hold | hnew
  . exact h.matrices m hold
  . rw [List.mem_singleton.mp hnew]
    exact hmatrix

theorem inspect (h : s.WorksWith M D) (input : PassInput V) : (s.inspect input).WorksWith M D := by
  have hsame : (s.inspect input).matrices = s.matrices ∧ (s.inspect input).frames = s.frames := by
    unfold Pipeline.inspect
    split <;> try exact ⟨rfl, rfl⟩
    all_goals split <;> exact ⟨rfl, rfl⟩
  constructor
  . rw [hsame.1]
    exact h.matrices
  . rw [hsame.2]
    exact h.frames

theorem step (h : s.WorksWith M D) {event : Event V} (hevent : event.HandsOver M D)
    : (s.step libraries connectivity event).WorksWith M D := by
  cases event with
  | consume k dictionary message behind => exact h.consume k hevent message behind
  | onChangeInspectionMatrix activeConditions => exact h.onChangeInspectionMatrix hevent
  | inspect input => exact h.inspect input
  | respond k signals =>
    unfold Pipeline.step Pipeline.respond
    dsimp only
    split
    . exact h
    . split
      . exact ⟨h.matrices, h.frames⟩
      . exact h
  | produce k =>
    unfold Pipeline.step Pipeline.produce
    dsimp only
    split
    . exact h
    . split
      . exact ⟨h.matrices, h.frames⟩
      . exact ⟨h.matrices, h.frames⟩
  | report activeDTCs => exact ⟨h.matrices, h.frames⟩
  | upload action => exact ⟨h.matrices, h.frames⟩

theorem run {events : List (Event V)} (h : s.WorksWith M D) (hevents : ∀ event ∈ events, event.HandsOver M D)
    : (s.run libraries connectivity events).WorksWith M D := by
  induction events generalizing s with
  | nil => exact h
  | cons event events ih =>
    exact ih (h.step (hevents event List.mem_cons_self))
      fun later hlater => hevents later (List.mem_cons_of_mem event hlater)

omit [CANSignalValue V] in
theorem start (config : Config) (mRandomNumbers : Nat → V) (engine : IoTFleetWiseEngine V)
    : (Pipeline.start config mRandomNumbers engine).WorksWith M D := by
  constructor
  . exact fun m hm => by cases hm
  . exact fun frame hframe => by cases hframe

end WorksWith

end HandedOver

section Managed

variable {V : Type} [CANSignalValue V] {libraries : Libraries V} {connectivity : Nat → Connectivity}
variable {P : CollectionScheme V → Prop} {Q : DecoderManifest V → Prop} {translator : CANInterfaceIDTranslator}
variable {initial : Pipeline V} {a : Agent V}

omit [CANSignalValue V] in
def AgentEvent.Arrives (P : CollectionScheme V → Prop) (Q : DecoderManifest V → Prop) (event : AgentEvent V)
    : Prop :=
  match event with
  | .onCollectionSchemeUpdate content => ∀ list, content = some list → ∀ c ∈ list, P c
  | .onDecoderManifestUpdate content => ∀ manifest, content = some manifest → Q manifest
  | _ => True

namespace Agent

structure Accounts (P : CollectionScheme V → Prop) (Q : DecoderManifest V → Prop)
    (translator : CANInterfaceIDTranslator) (libraries : Libraries V) (connectivity : Nat → Connectivity)
    (initial : Pipeline V) (a : Agent V)
    : Prop where
  manager : Sources P Q translator a.worker.manager
  matrices : ∀ e ∈ a.extractions, MatrixFrom P translator e.inspectionMatrix
  dictionaries
    : ∀ e ∈ a.extractions, ∀ dictionaries, e.decoderDictionaries = some dictionaries →
        DictionaryFrom P Q translator dictionaries.can
  pipeline
    : ∃ events, a.pipeline = initial.run libraries connectivity events
        ∧ ∀ event ∈ events, event.HandsOver (MatrixFrom P translator) (DictionaryFrom P Q translator)

namespace Accounts

omit [CANSignalValue V] in
theorem processAvailable {w : Worker V} (h : Sources P Q translator w.manager) (manifestTime listTime : Nat)
    : Sources P Q translator (w.processAvailable manifestTime listTime).manager :=
  h.processAvailableManifest.processAvailableList

theorem start {config : ManagerConfig V}
    (hlists : ∀ p ∈ config.schemaPersistencyPtr, ListFrom P p.collectionSchemeList)
    (hmanifests : ∀ p ∈ config.schemaPersistencyPtr, ManifestFrom Q p.decoderManifest)
    (startTime manifestTime listTime : Nat)
    : (Agent.start config startTime manifestTime listTime initial).Accounts P Q config.canIDTranslator libraries
        connectivity initial := by
  constructor
  . apply processAvailable
    exact (Sources.init hlists hmanifests).prepareWork
  . exact fun e he => by cases he
  . exact fun e he => by cases he
  . exact ⟨[], rfl, fun event hevent => by cases hevent⟩

theorem matrixAt (h : a.Accounts P Q translator libraries connectivity initial) {i : Nat}
    {m : InspectionMatrix V} (hm : a.matrixAt i = some m)
    : MatrixFrom P translator m := by
  obtain ⟨e, he, heq⟩ := Option.map_eq_some_iff.mp hm
  rw [← heq]
  exact h.matrices e (List.mem_of_getElem? he)

theorem dictionaryAt (h : a.Accounts P Q translator libraries connectivity initial) {i : Nat}
    {dictionary : CANDecoderDictionary V} (hdictionary : a.dictionaryAt i = some dictionary)
    : DictionaryFrom P Q translator dictionary := by
  obtain ⟨dictionaries, hfound, heq⟩ := Option.map_eq_some_iff.mp hdictionary
  obtain ⟨e, he, hdictionaries⟩ := Option.bind_eq_some_iff.mp hfound
  rw [← heq]
  exact h.dictionaries e (List.mem_of_getElem? he) dictionaries hdictionaries

theorem handOver (h : a.Accounts P Q translator libraries connectivity initial) {event : AgentEvent V}
    {handed : Event V} (hhanded : a.handOver event = some handed)
    : handed.HandsOver (MatrixFrom P translator) (DictionaryFrom P Q translator) := by
  cases event with
  | consume i k message behind =>
    obtain ⟨dictionary, hdictionary, heq⟩ := Option.map_eq_some_iff.mp hhanded
    rw [← heq]
    exact h.dictionaryAt hdictionary
  | onChangeInspectionMatrix i =>
    obtain ⟨matrix, hmatrix, heq⟩ := Option.map_eq_some_iff.mp hhanded
    rw [← heq]
    exact h.matrixAt hmatrix
  | other event halone =>
    rw [← Option.some_inj.mp hhanded]
    exact Event.HandsOver.ofAlone halone
  | onCollectionSchemeUpdate content => cases hhanded
  | onDecoderManifestUpdate content => cases hhanded
  | process manifestTime listTime => cases hhanded
  | checkTimeLine fuel currTime => cases hhanded

theorem checkTimeLine (h : a.Accounts P Q translator libraries connectivity initial) (fuel currTime : Nat)
    : (a.manage (.checkTimeLine fuel currTime)).Accounts P Q translator libraries connectivity initial := by
  unfold manage
  dsimp only
  cases hcheck : a.worker.checkTimeLine fuel currTime with
  | none => exact h
  | some result =>
    obtain ⟨⟨manager, changed⟩, hmanager, heq⟩ := Option.map_eq_some_iff.mp hcheck
    have hsources := h.manager.checkTimeLine hmanager
    rw [← heq]
    dsimp only
    have hnew : ∀ e ∈ (if a.worker.enabledCollectionSchemeMapChanged || changed then some manager.extract
        else none).toList, e = manager.extract := by
      intro e he
      rw [Option.mem_toList] at he
      split at he
      . exact (Option.some_inj.mp he).symm
      . cases he
    constructor
    . exact hsources
    . intro e he
      rw [List.mem_append] at he
      cases he with
      | inl hold => exact h.matrices e hold
      | inr hadded =>
        rw [hnew e hadded]
        exact hsources.inspectionMatrix
    . intro e he
      rw [List.mem_append] at he
      cases he with
      | inl hold => exact h.dictionaries e hold
      | inr hadded =>
        rw [hnew e hadded]
        exact fun dictionaries hextract => hsources.decoderDictionary hextract
    . exact h.pipeline

theorem manage (h : a.Accounts P Q translator libraries connectivity initial) {event : AgentEvent V}
    (harrives : event.Arrives P Q)
    : (a.manage event).Accounts P Q translator libraries connectivity initial := by
  cases event with
  | onCollectionSchemeUpdate content =>
    exact ⟨h.manager.onCollectionSchemeUpdate harrives, h.matrices, h.dictionaries, h.pipeline⟩
  | onDecoderManifestUpdate content =>
    exact ⟨h.manager.onDecoderManifestUpdate harrives, h.matrices, h.dictionaries, h.pipeline⟩
  | process manifestTime listTime =>
    exact ⟨processAvailable h.manager.updateAvailable manifestTime listTime, h.matrices, h.dictionaries,
      h.pipeline⟩
  | checkTimeLine fuel currTime => exact h.checkTimeLine fuel currTime
  | consume i k message behind => exact h
  | onChangeInspectionMatrix i => exact h
  | other event halone => exact h

theorem step (h : a.Accounts P Q translator libraries connectivity initial) {event : AgentEvent V}
    (harrives : event.Arrives P Q)
    : (a.step libraries connectivity event).Accounts P Q translator libraries connectivity initial := by
  unfold Agent.step
  cases hhanded : a.handOver event with
  | none => exact h.manage harrives
  | some handed =>
    refine ⟨h.manager, h.matrices, h.dictionaries, ?_⟩
    obtain ⟨events, hpipeline, hevents⟩ := h.pipeline
    refine ⟨events ++ [handed], ?_, ?_⟩
    . dsimp only
      unfold Pipeline.run at hpipeline ⊢
      rw [List.foldl_append, ← hpipeline]
      rfl
    . intro event hevent
      rw [List.mem_append, List.mem_singleton] at hevent
      cases hevent with
      | inl hold => exact hevents event hold
      | inr hnew =>
        rw [hnew]
        exact h.handOver hhanded

theorem run (h : a.Accounts P Q translator libraries connectivity initial) {events : List (AgentEvent V)}
    (harrive : ∀ event ∈ events, event.Arrives P Q)
    : (a.run libraries connectivity events).Accounts P Q translator libraries connectivity initial := by
  induction events generalizing a with
  | nil => exact h
  | cons event events ih =>
    exact ih (h.step (harrive event List.mem_cons_self))
      fun later hlater => harrive later (List.mem_cons_of_mem event hlater)

theorem worksWith (h : a.Accounts P Q translator libraries connectivity initial)
    (hinitial : initial.WorksWith (MatrixFrom P translator) (DictionaryFrom P Q translator))
    : a.pipeline.WorksWith (MatrixFrom P translator) (DictionaryFrom P Q translator) := by
  obtain ⟨events, hpipeline, hevents⟩ := h.pipeline
  rw [hpipeline]
  exact hinitial.run hevents

end Accounts

end Agent

end Managed

section Campaigns

variable {V : Type} [CANSignalValue V] {s : Pipeline V} {P : CollectionScheme V → Prop}
variable {Q : DecoderManifest V → Prop} {translator : CANInterfaceIDTranslator}

omit [CANSignalValue V] in
/--
The campaign of the message asks for everything that is in the payload.
-/
structure AsksFor (message : CollectionSchemesMsg.CollectionScheme V) (payload : VehicleData V) : Prop where
  campaign : payload.campaign_arn = message.campaign_arn
  decoder : payload.decoder_arn = message.decoder_manifest_arn
  signals
    : ∀ captured ∈ payload.captured_signals, ∃ info ∈ message.signal_information,
        captured.signal_id = info.signal_id ∧ info.condition_only_signal = false
  canFrames
    : ∀ sent ∈ payload.can_frames, ∃ info ∈ message.raw_can_frames_to_collect,
        sent.message_id = info.can_message_id ∧ sent.interface_id = info.can_interface_id
  dtcs : payload.activeDtcCodes ≠ [] → message.include_active_dtcs = true

def DecodedBy (Q : DecoderManifest V → Prop) (translator : CANInterfaceIDTranslator) (frame : ConsumedFrame V)
    (signal : CollectedSignal V)
    : Prop :=
  ∃ manifest, Q manifest ∧ ∃ interfaceID formats format,
    translator.getChannelNumericID interfaceID = frame.mDataSourceID
      ∧ manifest.mCANMessageFormatDictionary interfaceID = some formats
      ∧ formats (u32 frame.message.mID) = some format
      ∧ ∃ decodedMessage,
        decodeCANMessage (frame.message.frameData frame.behind) frame.message.mRawData.length format
            frame.dictionary.signalIDsToCollect
          = (decodedMessage, true)
        ∧ signal ∈ decodedMessage.mSignals.map (CANDataConsumerWorker.collectedSignal frame.message)

theorem decodedBy_of_mem {frame : ConsumedFrame V} (h : DictionaryFrom P Q translator frame.dictionary)
    {signal : CollectedSignal V} (hsignal : signal ∈ frame.signals)
    : DecodedBy Q translator frame signal := by
  unfold ConsumedFrame.signals at hsignal
  cases hmethod : frame.method with
  | none =>
    rw [hmethod] at hsignal
    cases hsignal
  | some method =>
    rw [hmethod] at hsignal
    dsimp only at hsignal
    have hdecoded : method.format.isValid = true
        ∧ ∃ decodedMessage,
          decodeCANMessage (frame.message.frameData frame.behind) frame.message.mRawData.length method.format
              frame.dictionary.signalIDsToCollect
            = (decodedMessage, true)
          ∧ signal ∈ decodedMessage.mSignals.map (CANDataConsumerWorker.collectedSignal frame.message) := by
      split at hsignal
      . cases hsignal
      . split at hsignal
        . rename_i hvalid
          refine ⟨hvalid, ?_⟩
          split at hsignal
          . rename_i hsuccess
            exact ⟨_, Prod.ext rfl hsuccess, hsignal⟩
          . cases hsignal
        . cases hsignal
    obtain ⟨hvalid, hmessage⟩ := hdecoded
    obtain ⟨manifest, hmanifest, interfaceID, formats, hchannel, hformats, hformat⟩ :=
      CollectionSchemeManager.format_of_dictionaryFrom h hmethod hvalid
    exact ⟨manifest, hmanifest, interfaceID, formats, method.format, hchannel, hformats, hformat, hmessage⟩

omit [CANSignalValue V] in
theorem ingested_fields [InspectionValue V] {message : CollectionSchemesMsg.CollectionScheme V}
    {c : CollectionScheme V} (h : Ingested message c)
    : c.collectionSchemeID = message.campaign_arn ∧ c.decoderManifestID = message.decoder_manifest_arn
        ∧ c.collectSignals = message.signal_information.map readSignalInformation
        ∧ c.collectRawCanFrames = message.raw_can_frames_to_collect.map readRawCanFrame
        ∧ c.activeDTCsIncluded = message.include_active_dtcs := by
  have ⟨address, _, heq⟩ := h.scheme
  have ⟨_, _, _, hbuild⟩ := Ingested.build_eq h.built
  rw [heq, hbuild]
  exact ⟨rfl, rfl, rfl, rfl, Bool.true_and _⟩

theorem asksFor_of_explains {received : CollectionSchemesMsg.CollectionScheme V → Prop}
    (hmatrices : ∀ m ∈ s.matrices,
      MatrixFrom (fun c => ∃ message, received message ∧ Ingested message c) translator m)
    {payload : VehicleData V} (h : s.Explains translator payload)
    : ∃ message, received message ∧ AsksFor message payload := by
  have ⟨m, hm, condition, hcondition, hcampaign, hdecoder, hsignals, hframes, hcodes⟩ := h
  have ⟨c, ⟨message, hreceived, hingested⟩, heq⟩ := hmatrices m hm condition hcondition
  have ⟨hid, hmanifest, hcollect, hraw, hdtcs⟩ := ingested_fields hingested
  refine ⟨message, hreceived, ?_, ?_, ?_, ?_, ?_⟩
  . rw [hcampaign, heq]
    exact hid
  . rw [hdecoder, heq]
    exact hmanifest
  . intro captured hcaptured
    have ⟨⟨info, hinfo, hsignalID⟩, _⟩ := hsignals captured hcaptured
    unfold ConditionWithCollectedData.collectedSignals at hinfo
    rw [heq] at hinfo
    unfold addConditionData at hinfo
    dsimp only at hinfo
    rw [hcollect, List.mem_filter, List.map_map] at hinfo
    obtain ⟨information, hinformation, hread⟩ := List.mem_map.mp hinfo.1
    refine ⟨information, hinformation, ?_, ?_⟩
    . rw [hsignalID, ← hread]
      rfl
    . have hcollected := hinfo.2
      rw [← hread, Bool.not_eq_true'] at hcollected
      exact hcollected
  . intro sent hsent
    have ⟨frame, _, _, ⟨info, hinfo, hframeID, hchannelID⟩, hmessageID, hinterface, _⟩ := hframes sent hsent
    rw [heq] at hinfo
    unfold addConditionData at hinfo
    dsimp only at hinfo
    rw [hraw] at hinfo
    obtain ⟨wanted, hwanted, hinspection⟩ := List.mem_filterMap.mp hinfo
    obtain ⟨rawCanFrame, hrawCanFrame, hread⟩ := List.mem_map.mp hwanted
    unfold CanFrameCollectionInfo.inspectionFrame at hinspection
    dsimp only at hinspection
    split at hinspection
    . cases hinspection
    . rename_i hknown
      rw [Option.some_inj] at hinspection
      refine ⟨rawCanFrame, hrawCanFrame, ?_, ?_⟩
      . rw [hmessageID, ← hframeID, ← hinspection, ← hread]
        rfl
      . rw [hinterface, ← hchannelID, ← hinspection]
        dsimp only
        rw [CANInterfaceIDTranslator.getInterfaceID_getChannelNumericID hknown, ← hread]
        rfl
  . intro hne
    have ⟨code, hcode⟩ := List.exists_mem_of_ne_nil _ hne
    have hincludes := (hcodes code hcode).1
    rw [heq] at hincludes
    rw [← hdtcs]
    exact hincludes

omit [CANSignalValue V] in
def HasManifest (managerConfig : ManagerConfig V) (events : List (AgentEvent V)) (manifest : DecoderManifest V)
    : Prop :=
  .onDecoderManifestUpdate (some manifest) ∈ events
    ∨ ∃ p ∈ managerConfig.schemaPersistencyPtr, ∃ stored, p.decoderManifest = some stored
      ∧ stored.content = some manifest

def HasList (managerConfig : ManagerConfig V) (events : List (AgentEvent V)) (content : List (CollectionScheme V))
    : Prop :=
  .onCollectionSchemeUpdate (some content) ∈ events ∨ managerConfig.HasList content

/--
From the documents to the payloads: `documents` have arrived or were stored. Whatever the order of the steps of
all threads and whatever extraction of the manager each of them works with, every payload that was transmitted
belongs to a campaign of one of the documents that asks for all of it, and each of its signals was decoded from
a consumed frame as a received decoder manifest says or came from the OBD thread.
-/
theorem payload_requested (libraries : Libraries V) (connectivity : Nat → Connectivity)
    (parseFromArray : List UInt8 → Option (CollectionSchemesMsg.CollectionSchemes V))
    (documents : List (List UInt8)) (managerConfig : ManagerConfig V)
    (startTime manifestTime listTime : Nat) (config : Config) (mRandomNumbers : Nat → V) (mTopicName : String)
    (mMaximumIotSDKHeapMemoryBytes : Nat) (mMaxPersistencePartitionSize : { size : Nat // size < 2 ^ 64 })
    (maxMessageCount : Nat) (events : List (AgentEvent V))
    (hlists : ∀ content, HasList managerConfig events content → FromDocument parseFromArray documents content)
    : let pipeline := Pipeline.start config mRandomNumbers (.new mTopicName mMaximumIotSDKHeapMemoryBytes
        mMaxPersistencePartitionSize maxMessageCount managerConfig.canIDTranslator)
      let a := (Agent.start managerConfig startTime manifestTime listTime pipeline).run libraries connectivity
        events
      ∀ t ∈ a.pipeline.thread.engine.mDataCollectionSender.transmissions,
        (∃ message, CollectionSchemeIngestionList.Received parseFromArray documents message
            ∧ AsksFor message t.payload)
          ∧
        ∀ captured ∈ t.payload.captured_signals, ∃ signal,
          captured = capturedSignal t.payload.collection_event_time_ms_epoch signal
            ∧ (signal ∈ a.pipeline.responses
              ∨ ∃ frame ∈ a.pipeline.frames,
                DecodedBy (HasManifest managerConfig events) managerConfig.canIDTranslator frame signal) := by
  intro pipeline a t ht
  have haccounts : a.Accounts
      (fun c => ∃ message, CollectionSchemeIngestionList.Received parseFromArray documents message
        ∧ Ingested message c)
      (HasManifest managerConfig events) managerConfig.canIDTranslator libraries connectivity pipeline := by
    apply Agent.Accounts.run (Agent.Accounts.start ?_ ?_ startTime manifestTime listTime)
    . intro event hevent
      cases event with
      | onCollectionSchemeUpdate content =>
        intro list hlist
        rw [hlist] at hevent
        exact (hlists list (Or.inl hevent)).ingested
      | onDecoderManifestUpdate content =>
        intro manifest hmanifest
        rw [hmanifest] at hevent
        exact Or.inl hevent
      | process manifestTime listTime => trivial
      | checkTimeLine fuel currTime => trivial
      | consume i k message behind => trivial
      | onChangeInspectionMatrix i => trivial
      | other event halone => trivial
    . intro p hp list content hlist hcontent
      exact (hlists content (Or.inr ⟨p, hp, list, hlist, hcontent⟩)).ingested
    . intro p hp stored manifest hmanifest hcontent
      exact Or.inr ⟨p, hp, stored, hmanifest, hcontent⟩
  obtain ⟨handed, hpipeline, _⟩ := haccounts.pipeline
  have hworks := haccounts.worksWith (WorksWith.start config mRandomNumbers _)
  have hexplains : a.pipeline.Explains managerConfig.canIDTranslator t.payload := by
    rw [hpipeline] at ht ⊢
    have htraced : (pipeline.run libraries connectivity handed).Traced
        (pipeline.run libraries connectivity handed).origin := (Traced.start config mRandomNumbers _).run handed
    exact explains_of_transmission htraced ((Delivers.start config mRandomNumbers _).run handed) ht
  refine ⟨asksFor_of_explains hworks.matrices hexplains, ?_⟩
  intro captured hcaptured
  obtain ⟨_, _, _, _, _, _, hsignals, _⟩ := hexplains
  obtain ⟨_, signal, hreceived, heq⟩ := hsignals captured hcaptured
  refine ⟨signal, heq, ?_⟩
  cases hreceived with
  | inl hframe =>
    obtain ⟨frame, hframe, hsignal⟩ := hframe
    exact Or.inr ⟨frame, hframe, decodedBy_of_mem (hworks.frames frame hframe) hsignal⟩
  | inr hresponse => exact Or.inl hresponse

end Campaigns

section Example

def byteFormat : CANMessageFormat Rat where
  mMessageID := 256
  mSizeInBytes := 3
  mSignals := [⟨7, false, false, 0, 8, 1, 2, false, 255⟩]

def byteManifest : DecoderManifest Rat where
  arn := "m"
  mSignalToVehicleDataSourceProtocol := fun signalID => if signalID = 7 then some .RAW_SOCKET else none
  mSignalToCANRawFrameIDAndInterfaceIDDictionary := fun signalID =>
    if signalID = 7 then some (256, "can1") else none
  mCANMessageFormatDictionary := fun interfaceID =>
    if interfaceID = "can1" then
      some fun canID => if canID = 256 then some byteFormat else none
    else
      none
  mSignalToPIDDictionary := fun _ => none

def byteCampaign : CollectionSchemesMsg.CollectionScheme Rat where
  campaign_arn := "c"
  decoder_manifest_arn := "m"
  expiry_time_ms_epoch := 100
  collection_scheme_type := .timeBasedCollectionScheme {}
  signal_information := [{ signal_id := 7, sample_buffer_size := 2 }]
  raw_can_frames_to_collect := [{ can_interface_id := "can1", can_message_id := 256, sample_buffer_size := 10 }]

def byteData : List UInt8 :=
  [0x0A, 0x1D, 0x0A, 0x01, 0x63, 0x12, 0x01, 0x6D, 0x20, 0x64, 0x2A, 0x00, 0x4A, 0x04, 0x08, 0x07, 0x10, 0x02,
    0x52, 0x0B, 0x0A, 0x04, 0x63, 0x61, 0x6E, 0x31, 0x10, 0x80, 0x02, 0x18, 0x0A]

def parseByte (data : List UInt8) : Option (CollectionSchemesMsg.CollectionSchemes Rat) :=
  if data = byteData then some { collection_schemes := [byteCampaign] } else none

def byteConfig : ManagerConfig Rat where
  checkinIntervalMsec := 1000
  canIDTranslator := (CANInterfaceIDTranslator.empty.add "can0").add "can1"

def byteEvents : List (AgentEvent Rat) :=
  [.onDecoderManifestUpdate (some byteManifest),
    .onCollectionSchemeUpdate
      (some [(CollectionSchemeIngestion.copyData byteCampaign).build.1.collectionScheme fun i => 64 + i]),
    .process 5 5, .checkTimeLine 10 5,
    .consume 0 0 ⟨256, [0x15, 0xAD, 0xBE], 5⟩ fun _ => 0, .other (.produce 0) rfl, .other (.produce 0) rfl,
    .other (.produce 0) rfl, .other (.produce 0) rfl,
    .onChangeInspectionMatrix 0] ++
  List.replicate 18 (.other (.inspect { order := .inserted Rat, evaluationTime := 6, collectTime := 6 }) rfl) ++
  [.other (.upload (.computeWait 0)) rfl, .other (.upload .wake) rfl, .other (.upload .consume) rfl]

def byteAgent : Agent Rat :=
  .start byteConfig 0 0 0 (Pipeline.start ⟨10, 10, 10, 10, 0, false, 0, [1]⟩ (fun _ => 0)
    (.new "topic" 0 ⟨0, noPartition⟩ 5 byteConfig.canIDTranslator))

def bytePayloads : List (VehicleData Rat) :=
  (byteAgent.run rawLibraries (fun _ => ⟨true, 0⟩) byteEvents
    ).pipeline.thread.engine.mDataCollectionSender.transmissions.map (·.payload)

theorem byteEvents_fromDocument {content : List (CollectionScheme Rat)}
    (h : HasList byteConfig byteEvents content)
    : FromDocument parseByte [byteData] content := by
  have heq : content
      = [(CollectionSchemeIngestion.copyData byteCampaign).build.1.collectionScheme fun i => 64 + i] := by
    simpa [HasList, ManagerConfig.HasList, byteConfig, byteEvents] using h
  refine ⟨byteData, List.mem_singleton_self _, fun _ i => 64 + i, ?_, ?_⟩
  . intro _ i j hij
    exact Nat.add_left_cancel hij
  . rw [heq]
    decide +kernel

theorem payload_requested_byte
    : bytePayloads.map (fun payload => (payload.captured_signals, payload.can_frames))
        = [([⟨-1, 7, 43⟩], [⟨-1, 256, "can1", [0x15, 0xAD, 0xBE]⟩])]
        ∧
      ∀ payload ∈ bytePayloads, AsksFor byteCampaign payload := by
  refine ⟨by decide +kernel, ?_⟩
  intro payload hpayload
  unfold bytePayloads byteAgent at hpayload
  obtain ⟨t, ht, heq⟩ := List.mem_map.mp hpayload
  have hrequested := payload_requested rawLibraries (fun _ => ⟨true, 0⟩) parseByte [byteData]
    byteConfig 0 0 0 ⟨10, 10, 10, 10, 0, false, 0, [1]⟩ (fun _ => 0) "topic" 0 ⟨0, noPartition⟩ 5 byteEvents
    (fun content => byteEvents_fromDocument) t ht
  obtain ⟨⟨message, ⟨data, _, document, hparse, hmem⟩, hasks⟩, _⟩ := hrequested
  have hmessage : message = byteCampaign := by
    unfold parseByte at hparse
    split at hparse
    . cases hparse
      exact List.mem_singleton.mp hmem
    . cases hparse
  rw [← heq, ← hmessage]
  exact hasks

end Example

end Pipeline
