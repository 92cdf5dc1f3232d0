import FleetWiseEdge.Decoding.Lemmas.DecoderManifestIngestion

/-!
This module contains what a decoder manifest that is built a second time keeps of the first one: `build` adds to
the maps that are there.
-/

namespace DataManagement

open Cpp DataInspection DecoderManifestMsg

variable {V : Type} [InspectionValue V]

structure DecoderManifestIngestion.SameLookups (document document' : DecoderManifestIngestion V) : Prop where
  frame : ∀ signalID, document.getCANFrameAndInterfaceID signalID = document'.getCANFrameAndInterfaceID signalID
  format : ∀ canID interfaceID,
    document.getCANMessageFormat canID interfaceID = document'.getCANMessageFormat canID interfaceID
  pid : ∀ signalID, document.getPIDSignalDecoderFormat signalID = document'.getPIDSignalDecoderFormat signalID
  protocol : ∀ signalID, document.getNetworkProtocol signalID = document'.getNetworkProtocol signalID

theorem DecoderManifestIngestion.sameLookups_of_ready {document document' : DecoderManifestIngestion V}
    (h : document.ready = document'.ready)
    : document.SameLookups document' := by
  constructor
  . intro signalID
    unfold getCANFrameAndInterfaceID
    rw [h]
  . intro canID interfaceID
    unfold getCANMessageFormat
    rw [h]
  . intro signalID
    unfold getPIDSignalDecoderFormat
    rw [h]
  . intro signalID
    unfold getNetworkProtocol
    rw [h]

namespace ManifestIngestion

variable (ParseFromArray : Bytes → Option (DecoderManifestMsg.DecoderManifest V))

/--
The first manifest leaves nothing behind that the second one does not replace: it was not built, or its PIDs
are those of the second one, apart from those without a format that the second one lists with a CAN frame.
-/
def Forgets (old new : Bytes) : Prop :=
  ∀ oldMessage, Accepted old → readMessage ParseFromArray old = some oldMessage →
    Accepted new
      ∧ ∀ newMessage, readMessage ParseFromArray new = some newMessage →
        oldMessage.can_signals = []
          ∧ ∀ signalID ∈ oldMessage.pidSignalIDs,
            signalID ∈ newMessage.pidSignalIDs
              ∨ signalID ∈ newMessage.canSignalIDs
                ∧ lastPIDFormat oldMessage.obd_pid_signals signalID = some NOT_FOUND_PID_DECODER_FORMAT

section Dictionaries

variable {manifest manifest' : ManifestIngestion V} {old new : DecoderManifestMsg.DecoderManifest V}
  (hready : manifest.mReady = true) (hready' : manifest'.mReady = true)
  (hmanifest : manifest.dictionaries
    = buildDictionaries (buildDictionaries ({} : ManifestIngestion V).dictionaries old) new)
  (hmanifest' : manifest'.dictionaries = buildDictionaries ({} : ManifestIngestion V).dictionaries new)

include hready hready' hmanifest hmanifest'

theorem no_canSignals_of_sameLookups (h : manifest.document.SameLookups manifest'.document)
    : old.can_signals = [] := by
  apply List.eq_nil_iff_forall_not_mem.mpr
  intro canSignal hmem
  have hformat := congrArg CANMessageFormat.mSignals (h.format canSignal.message_id canSignal.interface_id)
  rw [getCANMessageFormat_document hready, getCANMessageFormat_document hready', hmanifest, hmanifest',
    buildDictionaries_format, buildDictionaries_format, buildDictionaries_format] at hformat
  have hempty : messageFormat ({} : ManifestIngestion V).dictionaries canSignal.interface_id canSignal.message_id
      = none :=
    rfl
  rw [hempty, withSignals_withSignals, withSignals_none_signals, withSignals_none_signals] at hformat
  have hnil := List.append_left_eq_self.mp hformat
  have hsignal : canSignalFormat canSignal
      ∈ frameSignals old.can_signals canSignal.interface_id canSignal.message_id := by
    apply List.mem_map_of_mem
    simp [hmem]
  rw [hnil] at hsignal
  simp at hsignal

theorem pid_replaced_of_sameLookups (h : manifest.document.SameLookups manifest'.document)
    {signalID : SignalID} (hold : signalID ∈ old.pidSignalIDs)
    : signalID ∈ new.pidSignalIDs
        ∨ signalID ∈ new.canSignalIDs
          ∧ lastPIDFormat old.obd_pid_signals signalID = some NOT_FOUND_PID_DECODER_FORMAT := by
  by_cases hpid : signalID ∈ new.pidSignalIDs
  . exact Or.inl hpid
  . have hprotocol := h.protocol signalID
    rw [getNetworkProtocol_document hready, getNetworkProtocol_document hready', hmanifest, hmanifest',
      buildDictionaries_protocol, buildDictionaries_protocol, buildDictionaries_protocol, if_neg hpid,
      if_neg hpid, if_pos hold] at hprotocol
    by_cases hcan : signalID ∈ new.canSignalIDs
    . have hformat := h.pid signalID
      rw [getPIDSignalDecoderFormat_document hready, getPIDSignalDecoderFormat_document hready', hmanifest,
        hmanifest', buildDictionaries_pid, buildDictionaries_pid, buildDictionaries_pid,
        lastPIDFormat_eq_none hpid] at hformat
      have ⟨format, hlast⟩ := lastPIDFormat_of_mem hold
      rw [hlast] at hformat ⊢
      exact Or.inr ⟨hcan, congrArg some hformat⟩
    . rw [if_neg hcan, if_neg hcan] at hprotocol
      simp at hprotocol

theorem sameLookups_of_replaced (hcan : old.can_signals = [])
    (hpids : ∀ signalID ∈ old.pidSignalIDs,
      signalID ∈ new.pidSignalIDs
        ∨ signalID ∈ new.canSignalIDs
          ∧ lastPIDFormat old.obd_pid_signals signalID = some NOT_FOUND_PID_DECODER_FORMAT)
    : manifest.document.SameLookups manifest'.document := by
  constructor
  case frame =>
    intro signalID
    rw [getCANFrameAndInterfaceID_document hready, getCANFrameAndInterfaceID_document hready', hmanifest,
      hmanifest', buildDictionaries_frame, buildDictionaries_frame, buildDictionaries_frame, hcan]
    rfl
  case format =>
    intro canID interfaceID
    rw [getCANMessageFormat_document hready, getCANMessageFormat_document hready', hmanifest, hmanifest',
      buildDictionaries_format, buildDictionaries_format, buildDictionaries_format, hcan]
    rfl
  case pid =>
    intro signalID
    rw [getPIDSignalDecoderFormat_document hready, getPIDSignalDecoderFormat_document hready', hmanifest,
      hmanifest', buildDictionaries_pid, buildDictionaries_pid, buildDictionaries_pid]
    by_cases hpid : signalID ∈ new.pidSignalIDs
    . have ⟨format, hlast⟩ := lastPIDFormat_of_mem hpid
      rw [hlast]
      rfl
    . rw [lastPIDFormat_eq_none hpid]
      by_cases hold : signalID ∈ old.pidSignalIDs
      . have ⟨_, hlast⟩ := (hpids signalID hold).resolve_left hpid
        rw [hlast]
        rfl
      . rw [lastPIDFormat_eq_none hold]
        rfl
  case protocol =>
    intro signalID
    rw [getNetworkProtocol_document hready, getNetworkProtocol_document hready', hmanifest, hmanifest',
      buildDictionaries_protocol, buildDictionaries_protocol, buildDictionaries_protocol]
    by_cases hpid : signalID ∈ new.pidSignalIDs
    . rw [if_pos hpid, if_pos hpid]
    . rw [if_neg hpid, if_neg hpid]
      by_cases hnew : signalID ∈ new.canSignalIDs
      . rw [if_pos hnew, if_pos hnew]
      . have hold : signalID ∉ old.pidSignalIDs := by
          intro hold
          cases hpids signalID hold with
          | inl hmem => exact hpid hmem
          | inr hmem => exact hnew hmem.1
        have hcanIDs : signalID ∉ old.canSignalIDs := by
          simp [DecoderManifest.canSignalIDs, hcan]
        rw [if_neg hold, if_neg hcanIDs]

end Dictionaries

theorem sameLookups_of_not_ready {manifest manifest' : ManifestIngestion V} (h : manifest.mReady = false)
    (h' : manifest'.mReady = false)
    : manifest.document.SameLookups manifest'.document := by
  apply DecoderManifestIngestion.sameLookups_of_ready
  simp [document, DecoderManifestIngestion.ready, h, h']

section Cases

variable {ParseFromArray} {old new : Bytes}

theorem sameLookups_of_unread (h : Accepted old → readMessage ParseFromArray old = none)
    : (copyDataAndBuild ParseFromArray (copyDataAndBuild ParseFromArray {} old) new).document.SameLookups
        (copyDataAndBuild ParseFromArray {} new).document := by
  generalize hfirst : copyDataAndBuild ParseFromArray {} old = first
  have ⟨hdictionaries, hready, hagain⟩ := copyDataAndBuild_unread hfirst.symm h
  by_cases haccepted : Accepted new
  . cases hread : readMessage ParseFromArray new with
    | none =>
      rw [copyDataAndBuild_none haccepted hread, copyDataAndBuild_none haccepted hread]
      exact sameLookups_of_not_ready rfl rfl
    | some message =>
      rw [copyDataAndBuild_some haccepted hread, copyDataAndBuild_some haccepted hread, hdictionaries]
      exact DecoderManifestIngestion.sameLookups_of_ready rfl
  . rw [copyDataAndBuild_of_not_accepted haccepted, copyDataAndBuild_of_not_accepted haccepted, hagain]
    exact sameLookups_of_not_ready hready rfl

theorem not_sameLookups_of_rejected {oldMessage : DecoderManifestMsg.DecoderManifest V} (hold : Accepted old)
    (hread : readMessage ParseFromArray old = some oldMessage) (hnew : ¬Accepted new)
    : ¬(copyDataAndBuild ParseFromArray (copyDataAndBuild ParseFromArray {} old) new).document.SameLookups
        (copyDataAndBuild ParseFromArray {} new).document := by
  intro h
  have hbytes : old ≠ [] := List.ne_nil_of_length_pos hold.1
  rw [copyDataAndBuild_some hold hread, copyDataAndBuild_of_not_accepted hnew,
    copyDataAndBuild_of_not_accepted hnew, build_some hbytes hread] at h
  have ⟨signalID, hprotocol⟩ := @exists_protocol V ⟨old, true, buildDictionaries _ oldMessage⟩ oldMessage
    (buildDictionaries ({} : ManifestIngestion V).dictionaries oldMessage) rfl rfl (readMessage_eq_some.mp hread).2
  exact hprotocol (h.protocol signalID)

end Cases

/--
The second `build` on one object gives the lookups of a new object exactly if the first manifest leaves nothing
behind.
-/
theorem rebuild_forgets_iff (old new : Bytes)
    : (copyDataAndBuild ParseFromArray (copyDataAndBuild ParseFromArray {} old) new).document.SameLookups
          (copyDataAndBuild ParseFromArray {} new).document
        ↔
      Forgets ParseFromArray old new := by
  by_cases hold : Accepted old
  case neg =>
    constructor
    . intro _ _ haccepted
      exact absurd haccepted hold
    . intro _
      exact sameLookups_of_unread fun haccepted => absurd haccepted hold
  cases hread : readMessage ParseFromArray old with
  | none =>
    constructor
    . intro _ oldMessage _ hread'
      rw [hread] at hread'
      simp at hread'
    . intro _
      exact sameLookups_of_unread fun _ => hread
  | some oldMessage =>
    have hforgets : Forgets ParseFromArray old new ↔ _ :=
      ⟨fun h => h oldMessage hold hread, fun h oldMessage' _ hread' => by
        cases hread.symm.trans hread'
        exact h⟩
    rw [hforgets]
    by_cases hnew : Accepted new
    case neg =>
      constructor
      . intro h
        exact absurd h (not_sameLookups_of_rejected hold hread hnew)
      . intro h
        exact absurd h.1 hnew
    cases hread' : readMessage ParseFromArray new with
    | none =>
      rw [copyDataAndBuild_none hnew hread', copyDataAndBuild_none hnew hread']
      constructor
      . intro _
        exact ⟨hnew, fun _ hsome => by simp at hsome⟩
      . intro _
        exact sameLookups_of_not_ready rfl rfl
    | some newMessage =>
      rw [copyDataAndBuild_some hold hread, copyDataAndBuild_some hnew hread', copyDataAndBuild_some hnew hread']
      constructor
      . intro h
        refine ⟨hnew, ?_⟩
        intro message hmessage
        cases hmessage
        exact ⟨no_canSignals_of_sameLookups rfl rfl rfl rfl h,
          fun _ hmem => pid_replaced_of_sameLookups rfl rfl rfl rfl h hmem⟩
      . intro ⟨_, h⟩
        have ⟨hcan, hpids⟩ := h newMessage rfl
        exact sameLookups_of_replaced rfl rfl rfl rfl hcan hpids

def oldSignal : DecoderManifestMsg.DecoderManifest Rat where
  can_signals := [⟨1, "can0", 100, false, false, 0, 0, 1, 8⟩]

def newSignal : DecoderManifestMsg.DecoderManifest Rat where
  can_signals := [⟨2, "can0", 100, false, false, 8, 0, 1, 8⟩]

def oldSignalBytes : Bytes :=
  [18, 21, 8, 1, 18, 4, 99, 97, 110, 48, 24, 100, 65, 0, 0, 0, 0, 0, 0, 240, 63, 72, 8]

def newSignalBytes : Bytes :=
  [18, 23, 8, 2, 18, 4, 99, 97, 110, 48, 24, 100, 48, 8, 65, 0, 0, 0, 0, 0, 0, 240, 63, 72, 8]

def parseSignals (bytes : Bytes) : Option (DecoderManifestMsg.DecoderManifest Rat) :=
  if bytes = oldSignalBytes then
    some oldSignal
  else if bytes = newSignalBytes then
    some newSignal
  else
    none

theorem not_rebuild_forgets
    : ¬∀ old new,
        (copyDataAndBuild parseSignals (copyDataAndBuild parseSignals {} old) new).document.SameLookups
          (copyDataAndBuild parseSignals {} new).document := by
  intro h
  have hformat := (h oldSignalBytes newSignalBytes).format 100 "can0"
  revert hformat
  decide

end ManifestIngestion

end DataManagement
