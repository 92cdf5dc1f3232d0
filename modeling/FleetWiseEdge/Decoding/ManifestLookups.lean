import FleetWiseEdge.Decoding.Lemmas.DecoderManifestIngestion

namespace DecoderManifestMsg

variable {V : Type}

def CANSignal.fieldValues (canSignal : CANSignal V) : DataManagement.CANSignalFormat V where
  mSignalID := canSignal.signal_id
  mIsBigEndian := canSignal.is_big_endian
  mIsSigned := canSignal.is_signed
  mFirstBitPosition := canSignal.start_bit
  mSizeInBits := canSignal.length
  mOffset := canSignal.offset
  mFactor := canSignal.factor
  mIsMultiplexorSignal := false
  mMultiplexorValue := 0

namespace DecoderManifest

structure WellFormed (message : DecoderManifest V) : Prop where
  distinct : (message.canSignalIDs ++ message.pidSignalIDs).Nodup
  start_bit : ∀ canSignal ∈ message.can_signals, canSignal.start_bit < 2 ^ 16
  length : ∀ canSignal ∈ message.can_signals, canSignal.length < 2 ^ 16

def signalsOf (message : DecoderManifest V) (canID : Nat) (interfaceID : String)
    : List (CANSignal V) :=
  message.can_signals.filter fun canSignal =>
    canSignal.interface_id = interfaceID ∧ canSignal.message_id = canID

end DecoderManifest

end DecoderManifestMsg

namespace DataManagement

open Cpp DataInspection DecoderManifestMsg

variable {V : Type}

structure DecoderManifestIngestion.LooksUp (document : DecoderManifestIngestion V)
    (message : DecoderManifestMsg.DecoderManifest V)
    : Prop where
  frame : ∀ canSignal ∈ message.can_signals,
    document.getCANFrameAndInterfaceID canSignal.signal_id = (canSignal.message_id, canSignal.interface_id)
      ∧ canSignal.fieldValues
          ∈ (document.getCANMessageFormat canSignal.message_id canSignal.interface_id).mSignals
  noFrame : ∀ signalID ∉ message.canSignalIDs,
    document.getCANFrameAndInterfaceID signalID = (INVALID_CAN_FRAME_ID, INVALID_CAN_INTERFACE_ID)
  format : ∀ canID interfaceID,
    (document.getCANMessageFormat canID interfaceID).mSignals
      = (message.signalsOf canID interfaceID).map CANSignal.fieldValues
  newFormat : ∀ canID interfaceID,
    message.signalsOf canID interfaceID ≠ [] →
    (document.getCANMessageFormat canID interfaceID).mMessageID = canID
      ∧ (document.getCANMessageFormat canID interfaceID).mSizeInBytes = MAX_CAN_FRAME_BYTE_SIZE
      ∧ (document.getCANMessageFormat canID interfaceID).mIsMultiplexed = false
  noFormat : ∀ canID interfaceID,
    message.signalsOf canID interfaceID = [] →
    document.getCANMessageFormat canID interfaceID = INVALID_CAN_MESSAGE_FORMAT
  rawSocket : ∀ signalID, document.getNetworkProtocol signalID = .RAW_SOCKET ↔ signalID ∈ message.canSignalIDs
  obd : ∀ signalID, document.getNetworkProtocol signalID = .OBD ↔ signalID ∈ message.pidSignalIDs
  unlisted : ∀ signalID,
    signalID ∉ message.canSignalIDs → signalID ∉ message.pidSignalIDs →
    document.getNetworkProtocol signalID = .INVALID_PROTOCOL

namespace ManifestIngestion

variable {message : DecoderManifestMsg.DecoderManifest V}

theorem canSignalFormat_eq {canSignal : CANSignal V} (hstart : canSignal.start_bit < 2 ^ 16)
    (hlength : canSignal.length < 2 ^ 16)
    : canSignalFormat canSignal = canSignal.fieldValues := by
  unfold canSignalFormat CANSignal.fieldValues u16
  rw [Nat.mod_eq_of_lt hstart, Nat.mod_eq_of_lt hlength]

theorem frameSignals_eq (h : message.WellFormed) (canID : CANRawFrameID) (interfaceID : CANInterfaceID)
    : frameSignals message.can_signals interfaceID canID
        =
      (message.signalsOf canID interfaceID).map CANSignal.fieldValues := by
  apply List.map_congr_left
  intro canSignal hsignal
  have hmem := List.mem_of_mem_filter hsignal
  exact canSignalFormat_eq (h.start_bit canSignal hmem) (h.length canSignal hmem)

theorem find?_signal (h : message.canSignalIDs.Nodup) {canSignal : CANSignal V}
    (hmem : canSignal ∈ message.can_signals)
    : (message.can_signals.find? fun other => other.signal_id = canSignal.signal_id) = some canSignal := by
  cases hfind : message.can_signals.find? fun other => other.signal_id = canSignal.signal_id with
  | none =>
    have hother := List.find?_eq_none.mp hfind canSignal hmem
    simp at hother
  | some other =>
    have hid := List.find?_some hfind
    have hsame := List.inj_on_of_nodup_map h (List.mem_of_find?_eq_some hfind) hmem (by simpa using hid)
    rw [hsame]

section Built

variable {manifest : ManifestIngestion V} (hready : manifest.mReady = true)
  (hbuilt : manifest.dictionaries = buildDictionaries ({} : ManifestIngestion V).dictionaries message)

include hready hbuilt

theorem getCANMessageFormat_built (h : message.WellFormed) (canID : CANRawFrameID) (interfaceID : CANInterfaceID)
    : manifest.document.getCANMessageFormat canID interfaceID
        =
      (withSignals canID none ((message.signalsOf canID interfaceID).map CANSignal.fieldValues)).getD
        INVALID_CAN_MESSAGE_FORMAT := by
  rw [getCANMessageFormat_document hready, hbuilt, buildDictionaries_format, frameSignals_eq h]
  rfl

theorem getCANFrameAndInterfaceID_built (signalID : SignalID)
    : manifest.document.getCANFrameAndInterfaceID signalID
        =
      ((message.can_signals.find? fun canSignal => canSignal.signal_id = signalID).map fun canSignal =>
        (canSignal.message_id, canSignal.interface_id)).getD (INVALID_CAN_FRAME_ID, INVALID_CAN_INTERFACE_ID) := by
  rw [getCANFrameAndInterfaceID_document hready, hbuilt, buildDictionaries_frame]
  rfl

theorem getNetworkProtocol_built (signalID : SignalID)
    : manifest.document.getNetworkProtocol signalID
        =
      if signalID ∈ message.pidSignalIDs then
        .OBD
      else if signalID ∈ message.canSignalIDs then
        .RAW_SOCKET
      else
        .INVALID_PROTOCOL := by
  rw [getNetworkProtocol_document hready, hbuilt, buildDictionaries_protocol]
  split
  . rfl
  . split <;> rfl

theorem looksUp_of_dictionaries (h : message.WellFormed) : manifest.document.LooksUp message := by
  have ⟨hcan, _, hdisjoint⟩ := List.nodup_append.mp h.distinct
  have hformat := getCANMessageFormat_built hready hbuilt h
  have hsignals (canID : CANRawFrameID) (interfaceID : CANInterfaceID)
      : (manifest.document.getCANMessageFormat canID interfaceID).mSignals
          = (message.signalsOf canID interfaceID).map CANSignal.fieldValues := by
    rw [hformat, withSignals_none_signals]
  have hprotocol := getNetworkProtocol_built hready hbuilt
  constructor
  case frame =>
    intro canSignal hmem
    constructor
    . rw [getCANFrameAndInterfaceID_built hready hbuilt, find?_signal hcan hmem]
      rfl
    . rw [hsignals]
      apply List.mem_map_of_mem
      simp [DecoderManifest.signalsOf, hmem]
  case noFrame =>
    intro signalID hunlisted
    rw [getCANFrameAndInterfaceID_built hready hbuilt]
    have hfind : (message.can_signals.find? fun canSignal => canSignal.signal_id = signalID) = none := by
      rw [List.find?_eq_none]
      intro canSignal hmem hid
      apply hunlisted
      exact List.mem_map.mpr ⟨canSignal, hmem, by simpa using hid⟩
    rw [hfind]
    rfl
  case format => exact hsignals
  case newFormat =>
    intro canID interfaceID hsome
    rw [hformat]
    cases hlist : (message.signalsOf canID interfaceID).map CANSignal.fieldValues with
    | nil => exact absurd (List.map_eq_nil_iff.mp hlist) hsome
    | cons signal signals => exact ⟨rfl, rfl, rfl⟩
  case noFormat =>
    intro canID interfaceID hnone
    rw [hformat, hnone]
    rfl
  case rawSocket =>
    intro signalID
    rw [hprotocol]
    split
    . next hpid =>
      have hcan : signalID ∉ message.canSignalIDs := fun hmem => hdisjoint _ hmem _ hpid rfl
      simp [hcan]
    . split <;> simp_all
  case obd =>
    intro signalID
    rw [hprotocol]
    split
    . simp_all
    . split <;> simp_all
  case unlisted =>
    intro signalID hcan hpid
    rw [hprotocol, if_neg hpid, if_neg hcan]

end Built

theorem manifest_lookups {ParseFromArray : Bytes → Option (DecoderManifestMsg.DecoderManifest V)} {bytes : Bytes}
    (h : message.WellFormed) (hparse : ParseFromArray bytes = some message)
    (hcopy : (({} : ManifestIngestion V).copyData (some bytes)).2 = true)
    (hbuild : (build ParseFromArray (({} : ManifestIngestion V).copyData (some bytes)).1).2 = true)
    : (build ParseFromArray (({} : ManifestIngestion V).copyData (some bytes)).1).1.document.LooksUp message := by
  have haccepted : Accepted bytes := by
    by_contra hrejected
    rw [copyData_of_not_accepted hrejected] at hcopy
    simp at hcopy
  have hread : readMessage ParseFromArray bytes = some message := by
    cases hread : readMessage ParseFromArray bytes with
    | none =>
      rw [copyData_some haccepted, build_none hread] at hbuild
      simp at hbuild
    | some message' =>
      have ⟨hparse', _⟩ := readMessage_eq_some.mp hread
      exact hparse'.symm.trans hparse
  have hbuilt := @copyDataAndBuild_some V ParseFromArray message {} bytes haccepted hread
  unfold copyDataAndBuild at hbuilt
  rw [hbuilt]
  exact looksUp_of_dictionaries rfl rfl h

def twoInterfaces : DecoderManifestMsg.DecoderManifest Rat where
  arn := "manifest"
  can_signals :=
    [⟨1, "can0", 100, false, false, 0, 0, 1, 8⟩, ⟨2, "can1", 100, true, true, 7, 0, 1, 16⟩,
      ⟨3, "can0", 100, false, true, 65535, 0, 1, 8⟩]
  obd_pid_signals := [⟨4, 2, 1, 12, 1, 0, 0, 2, 0, 8⟩]

def twoInterfacesBytes : Bytes :=
  [10, 8, 109, 97, 110, 105, 102, 101, 115, 116, 18, 21, 8, 1, 18, 4, 99, 97, 110, 48, 24, 100, 65, 0,
    0, 0, 0, 0, 0, 240, 63, 72, 8, 18, 27, 8, 2, 18, 4, 99, 97, 110, 49, 24, 100, 32, 1, 40, 1, 48, 7,
    65, 0, 0, 0, 0, 0, 0, 240, 63, 72, 16, 18, 27, 8, 3, 18, 4, 99, 97, 110, 48, 24, 100, 40, 1, 48,
    255, 255, 3, 65, 0, 0, 0, 0, 0, 0, 240, 63, 72, 8, 26, 21, 8, 4, 24, 2, 32, 1, 40, 12, 49, 0, 0, 0,
    0, 0, 0, 240, 63, 72, 2, 88, 8]

def parseTwoInterfaces (bytes : Bytes) : Option (DecoderManifestMsg.DecoderManifest Rat) :=
  if bytes = twoInterfacesBytes then some twoInterfaces else none

theorem manifest_lookups_twoInterfaces
    : (build parseTwoInterfaces
        (({} : ManifestIngestion Rat).copyData (some twoInterfacesBytes)).1).1.document.LooksUp twoInterfaces := by
  apply manifest_lookups
  . constructor
    . decide
    . decide
    . decide
  . rfl
  . rfl
  . rfl

end ManifestIngestion

end DataManagement
