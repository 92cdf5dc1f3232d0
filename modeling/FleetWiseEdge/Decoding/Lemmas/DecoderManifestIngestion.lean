import FleetWiseEdge.Decoding.Impl.DecoderManifestIngestion

namespace DecoderManifestMsg.DecoderManifest

variable {V : Type} (message : DecoderManifest V)

def canSignalIDs : List Nat :=
  message.can_signals.map (·.signal_id)

def pidSignalIDs : List Nat :=
  message.obd_pid_signals.map (·.signal_id)

end DecoderManifestMsg.DecoderManifest

namespace DataManagement

open Cpp DataInspection

namespace ManifestIngestion

variable {V : Type}

def messageFormat (dictionaries : DecoderManifest V) (interfaceID : CANInterfaceID) (canID : CANRawFrameID)
    : Option (CANMessageFormat V) :=
  (dictionaries.mCANMessageFormatDictionary interfaceID).bind fun frames => frames canID

def frameSignals (canSignals : List (DecoderManifestMsg.CANSignal V)) (interfaceID : CANInterfaceID)
    (canID : CANRawFrameID)
    : List (CANSignalFormat V) :=
  (canSignals.filter fun canSignal => canSignal.interface_id = interfaceID ∧ canSignal.message_id = canID).map
    canSignalFormat

def withSignals (messageID : Nat) (format : Option (CANMessageFormat V)) (signals : List (CANSignalFormat V))
    : Option (CANMessageFormat V) :=
  match signals with
  | [] => format
  | signal :: signals =>
    match format with
    | some format => some { format with mSignals := format.mSignals ++ signal :: signals }
    | none => some { newCANMessageFormat messageID signal with mSignals := signal :: signals }

theorem withSignals_withSignals (messageID : Nat) (format : Option (CANMessageFormat V))
    (signals signals' : List (CANSignalFormat V))
    : withSignals messageID (withSignals messageID format signals) signals'
        =
      withSignals messageID format (signals ++ signals') := by
  cases signals with
  | nil => rfl
  | cons signal signals =>
    cases signals' with
    | nil => simp [withSignals]
    | cons signal' signals' => cases format <;> simp [withSignals]

theorem withSignals_none_signals (messageID : Nat) (signals : List (CANSignalFormat V))
    : ((withSignals messageID none signals).getD INVALID_CAN_MESSAGE_FORMAT).mSignals = signals := by
  cases signals <;> rfl

section CANSignals

variable (dictionaries : DecoderManifest V) (canSignals : List (DecoderManifestMsg.CANSignal V))

@[simp]
theorem buildCANSignal_pid (canSignal : DecoderManifestMsg.CANSignal V)
    : (buildCANSignal dictionaries canSignal).mSignalToPIDDictionary = dictionaries.mSignalToPIDDictionary :=
  rfl

theorem foldl_buildCANSignal_pid
    : (canSignals.foldl buildCANSignal dictionaries).mSignalToPIDDictionary
        =
      dictionaries.mSignalToPIDDictionary := by
  induction canSignals generalizing dictionaries with
  | nil => rfl
  | cons canSignal canSignals ih => rw [List.foldl_cons, ih, buildCANSignal_pid]

theorem foldl_buildCANSignal_protocol (signalID : SignalID)
    : (canSignals.foldl buildCANSignal dictionaries).mSignalToVehicleDataSourceProtocol signalID
        =
      if signalID ∈ canSignals.map (·.signal_id) then
        some .RAW_SOCKET
      else
        dictionaries.mSignalToVehicleDataSourceProtocol signalID := by
  induction canSignals generalizing dictionaries with
  | nil => rfl
  | cons canSignal canSignals ih =>
    rw [List.foldl_cons, ih, List.map_cons]
    unfold buildCANSignal
    by_cases hkey : signalID = canSignal.signal_id
    . simp [hkey]
    . simp [hkey]

theorem foldl_buildCANSignal_frame (signalID : SignalID)
    : (canSignals.foldl buildCANSignal dictionaries).mSignalToCANRawFrameIDAndInterfaceIDDictionary signalID
        =
      (dictionaries.mSignalToCANRawFrameIDAndInterfaceIDDictionary signalID).or
        ((canSignals.find? fun canSignal => canSignal.signal_id = signalID).map fun canSignal =>
          (canSignal.message_id, canSignal.interface_id)) := by
  induction canSignals generalizing dictionaries with
  | nil => simp
  | cons canSignal canSignals ih =>
    rw [List.foldl_cons, ih, List.find?_cons]
    unfold buildCANSignal
    dsimp only
    by_cases hkey : canSignal.signal_id = signalID
    . subst hkey
      cases hentry : dictionaries.mSignalToCANRawFrameIDAndInterfaceIDDictionary canSignal.signal_id with
      | none => simp
      | some entry => simp [hentry]
    . cases hentry : dictionaries.mSignalToCANRawFrameIDAndInterfaceIDDictionary canSignal.signal_id with
      | none => simp [hkey, Function.update_of_ne (Ne.symm hkey)]
      | some entry => simp [hkey]

theorem buildCANSignal_format (canSignal : DecoderManifestMsg.CANSignal V) (interfaceID : CANInterfaceID)
    (canID : CANRawFrameID)
    : messageFormat (buildCANSignal dictionaries canSignal) interfaceID canID
        =
      withSignals canID (messageFormat dictionaries interfaceID canID)
        (frameSignals [canSignal] interfaceID canID) := by
  have hframes : ∀ canID,
      ((dictionaries.mCANMessageFormatDictionary canSignal.interface_id).getD fun _ => none) canID
        = messageFormat dictionaries canSignal.interface_id canID := by
    intro canID
    unfold messageFormat
    cases dictionaries.mCANMessageFormatDictionary canSignal.interface_id <;> rfl
  by_cases hinterface : canSignal.interface_id = interfaceID
  . subst hinterface
    have hnew : messageFormat (buildCANSignal dictionaries canSignal) canSignal.interface_id canID
        = Function.update
          ((dictionaries.mCANMessageFormatDictionary canSignal.interface_id).getD fun _ => none)
          canSignal.message_id
          (some
            (match messageFormat dictionaries canSignal.interface_id canSignal.message_id with
            | some messageFormat =>
              { messageFormat with mSignals := messageFormat.mSignals ++ [canSignalFormat canSignal] }
            | none => newCANMessageFormat canSignal.message_id (canSignalFormat canSignal))) canID := by
      rw [← hframes]
      conv => lhs; unfold messageFormat buildCANSignal
      dsimp only
      rw [Function.update_self]
      rfl
    by_cases hframe : canSignal.message_id = canID
    . subst hframe
      rw [hnew, Function.update_self]
      cases messageFormat dictionaries canSignal.interface_id canSignal.message_id with
      | none => simp [withSignals, frameSignals, newCANMessageFormat]
      | some format => simp [withSignals, frameSignals]
    . rw [hnew, Function.update_of_ne (Ne.symm hframe), hframes]
      simp [withSignals, frameSignals, hframe]
  . have hnew : messageFormat (buildCANSignal dictionaries canSignal) interfaceID canID
        = messageFormat dictionaries interfaceID canID := by
      unfold messageFormat buildCANSignal
      dsimp only
      rw [Function.update_of_ne (Ne.symm hinterface)]
    rw [hnew]
    simp [withSignals, frameSignals, hinterface]

theorem foldl_buildCANSignal_format (interfaceID : CANInterfaceID) (canID : CANRawFrameID)
    : messageFormat (canSignals.foldl buildCANSignal dictionaries) interfaceID canID
        =
      withSignals canID (messageFormat dictionaries interfaceID canID)
        (frameSignals canSignals interfaceID canID) := by
  induction canSignals generalizing dictionaries with
  | nil => rfl
  | cons canSignal canSignals ih =>
    rw [List.foldl_cons, ih, buildCANSignal_format, withSignals_withSignals]
    unfold frameSignals
    rw [← List.map_append, ← List.filter_append, List.singleton_append]

end CANSignals

section PIDSignals

variable (dictionaries : DecoderManifest V) (pidSignals : List (DecoderManifestMsg.OBDPIDSignal V))

theorem foldl_buildPIDSignal_frame
    : (pidSignals.foldl buildPIDSignal dictionaries).mSignalToCANRawFrameIDAndInterfaceIDDictionary
        =
      dictionaries.mSignalToCANRawFrameIDAndInterfaceIDDictionary := by
  induction pidSignals generalizing dictionaries with
  | nil => rfl
  | cons pidSignal pidSignals ih =>
    rw [List.foldl_cons, ih]
    rfl

theorem foldl_buildPIDSignal_format
    : (pidSignals.foldl buildPIDSignal dictionaries).mCANMessageFormatDictionary
        =
      dictionaries.mCANMessageFormatDictionary := by
  induction pidSignals generalizing dictionaries with
  | nil => rfl
  | cons pidSignal pidSignals ih =>
    rw [List.foldl_cons, ih]
    rfl

theorem foldl_buildPIDSignal_protocol (signalID : SignalID)
    : (pidSignals.foldl buildPIDSignal dictionaries).mSignalToVehicleDataSourceProtocol signalID
        =
      if signalID ∈ pidSignals.map (·.signal_id) then
        some .OBD
      else
        dictionaries.mSignalToVehicleDataSourceProtocol signalID := by
  induction pidSignals generalizing dictionaries with
  | nil => rfl
  | cons pidSignal pidSignals ih =>
    rw [List.foldl_cons, ih, List.map_cons]
    unfold buildPIDSignal
    by_cases hkey : signalID = pidSignal.signal_id
    . simp [hkey]
    . simp [hkey]

def lastPIDFormat (signalID : SignalID) : Option (PIDSignalDecoderFormat V) :=
  (pidSignals.reverse.find? fun pidSignal => pidSignal.signal_id = signalID).map obdPIDSignalDecoderFormat

theorem lastPIDFormat_of_mem {message : DecoderManifestMsg.DecoderManifest V} {signalID : SignalID}
    (h : signalID ∈ message.pidSignalIDs)
    : ∃ format, lastPIDFormat message.obd_pid_signals signalID = some format := by
  unfold DecoderManifestMsg.DecoderManifest.pidSignalIDs at h
  have ⟨pidSignal, hmem, hid⟩ := List.mem_map.mp h
  apply Option.isSome_iff_exists.mp
  unfold lastPIDFormat
  rw [Option.isSome_map, List.find?_isSome]
  exact ⟨pidSignal, List.mem_reverse.mpr hmem, by simpa using hid⟩

theorem lastPIDFormat_eq_none {message : DecoderManifestMsg.DecoderManifest V} {signalID : SignalID}
    (h : signalID ∉ message.pidSignalIDs)
    : lastPIDFormat message.obd_pid_signals signalID = none := by
  unfold lastPIDFormat
  rw [Option.map_eq_none_iff, List.find?_eq_none]
  intro pidSignal hmem hid
  apply h
  exact List.mem_map.mpr ⟨pidSignal, List.mem_reverse.mp hmem, by simpa using hid⟩

theorem foldl_buildPIDSignal_pid (signalID : SignalID)
    : (pidSignals.foldl buildPIDSignal dictionaries).mSignalToPIDDictionary signalID
        =
      (lastPIDFormat pidSignals signalID).or (dictionaries.mSignalToPIDDictionary signalID) := by
  induction pidSignals generalizing dictionaries with
  | nil => rfl
  | cons pidSignal pidSignals ih =>
    rw [List.foldl_cons, ih]
    unfold lastPIDFormat buildPIDSignal
    dsimp only
    rw [List.reverse_cons, List.find?_append, Option.map_or, Option.or_assoc]
    by_cases hkey : pidSignal.signal_id = signalID
    . simp [hkey]
    . simp [hkey, Function.update_of_ne (Ne.symm hkey)]

end PIDSignals

section Dictionaries

variable (dictionaries : DecoderManifest V) (message : DecoderManifestMsg.DecoderManifest V)

theorem buildDictionaries_frame (signalID : SignalID)
    : (buildDictionaries dictionaries message).mSignalToCANRawFrameIDAndInterfaceIDDictionary signalID
        =
      (dictionaries.mSignalToCANRawFrameIDAndInterfaceIDDictionary signalID).or
        ((message.can_signals.find? fun canSignal => canSignal.signal_id = signalID).map fun canSignal =>
          (canSignal.message_id, canSignal.interface_id)) := by
  unfold buildDictionaries
  rw [foldl_buildPIDSignal_frame, foldl_buildCANSignal_frame]

theorem buildDictionaries_format (interfaceID : CANInterfaceID) (canID : CANRawFrameID)
    : messageFormat (buildDictionaries dictionaries message) interfaceID canID
        =
      withSignals canID (messageFormat dictionaries interfaceID canID)
        (frameSignals message.can_signals interfaceID canID) := by
  have hpid := foldl_buildPIDSignal_format
    (message.can_signals.foldl buildCANSignal { dictionaries with arn := message.arn }) message.obd_pid_signals
  have hcan := foldl_buildCANSignal_format { dictionaries with arn := message.arn } message.can_signals
    interfaceID canID
  unfold messageFormat at hcan ⊢
  unfold buildDictionaries
  rw [hpid, hcan]

theorem buildDictionaries_protocol (signalID : SignalID)
    : (buildDictionaries dictionaries message).mSignalToVehicleDataSourceProtocol signalID
        =
      if signalID ∈ message.pidSignalIDs then
        some .OBD
      else if signalID ∈ message.canSignalIDs then
        some .RAW_SOCKET
      else
        dictionaries.mSignalToVehicleDataSourceProtocol signalID := by
  unfold buildDictionaries
  rw [foldl_buildPIDSignal_protocol, foldl_buildCANSignal_protocol]
  rfl

theorem buildDictionaries_pid (signalID : SignalID)
    : (buildDictionaries dictionaries message).mSignalToPIDDictionary signalID
        =
      (lastPIDFormat message.obd_pid_signals signalID).or (dictionaries.mSignalToPIDDictionary signalID) := by
  unfold buildDictionaries
  rw [foldl_buildPIDSignal_pid, foldl_buildCANSignal_pid]

end Dictionaries

section Getters

variable {manifest : ManifestIngestion V} (hready : manifest.mReady = true)

include hready

theorem getCANMessageFormat_document (canID : CANRawFrameID) (interfaceID : CANInterfaceID)
    : manifest.document.getCANMessageFormat canID interfaceID
        =
      (messageFormat manifest.dictionaries interfaceID canID).getD INVALID_CAN_MESSAGE_FORMAT := by
  unfold document DecoderManifestIngestion.getCANMessageFormat DecoderManifestIngestion.ready messageFormat
  rw [if_pos hready]
  dsimp only
  cases manifest.dictionaries.mCANMessageFormatDictionary interfaceID <;> rfl

theorem getCANFrameAndInterfaceID_document (signalID : SignalID)
    : manifest.document.getCANFrameAndInterfaceID signalID
        =
      (manifest.dictionaries.mSignalToCANRawFrameIDAndInterfaceIDDictionary signalID).getD
        (INVALID_CAN_FRAME_ID, INVALID_CAN_INTERFACE_ID) := by
  unfold document DecoderManifestIngestion.getCANFrameAndInterfaceID DecoderManifestIngestion.ready
  rw [if_pos hready]

theorem getNetworkProtocol_document (signalID : SignalID)
    : manifest.document.getNetworkProtocol signalID
        =
      (manifest.dictionaries.mSignalToVehicleDataSourceProtocol signalID).getD .INVALID_PROTOCOL := by
  unfold document DecoderManifestIngestion.getNetworkProtocol DecoderManifestIngestion.ready
  rw [if_pos hready]

theorem getPIDSignalDecoderFormat_document [InspectionValue V] (signalID : SignalID)
    : manifest.document.getPIDSignalDecoderFormat signalID
        =
      (manifest.dictionaries.mSignalToPIDDictionary signalID).getD NOT_FOUND_PID_DECODER_FORMAT := by
  unfold document DecoderManifestIngestion.getPIDSignalDecoderFormat DecoderManifestIngestion.ready
  rw [if_pos hready]

end Getters

theorem exists_protocol {manifest : ManifestIngestion V} {message : DecoderManifestMsg.DecoderManifest V}
    {dictionaries : DecoderManifest V} (hready : manifest.mReady = true)
    (hmanifest : manifest.dictionaries = buildDictionaries dictionaries message)
    (hsections : message.can_signals ≠ [] ∨ message.obd_pid_signals ≠ [])
    : ∃ signalID, manifest.document.getNetworkProtocol signalID ≠ .INVALID_PROTOCOL := by
  have hlisted : ∃ signalID, signalID ∈ message.canSignalIDs ∨ signalID ∈ message.pidSignalIDs := by
    cases hsections with
    | inl hcan =>
      have ⟨canSignal, hmem⟩ := List.exists_mem_of_ne_nil _ hcan
      exact ⟨canSignal.signal_id, Or.inl (List.mem_map.mpr ⟨canSignal, hmem, rfl⟩)⟩
    | inr hpid =>
      have ⟨pidSignal, hmem⟩ := List.exists_mem_of_ne_nil _ hpid
      exact ⟨pidSignal.signal_id, Or.inr (List.mem_map.mpr ⟨pidSignal, hmem, rfl⟩)⟩
  have ⟨signalID, hmem⟩ := hlisted
  refine ⟨signalID, ?_⟩
  rw [getNetworkProtocol_document hready, hmanifest, buildDictionaries_protocol]
  by_cases hpid : signalID ∈ message.pidSignalIDs
  . simp [hpid]
  . have hcan := hmem.resolve_right hpid
    simp [hpid, hcan]

section CopyDataAndBuild

variable (ParseFromArray : Bytes → Option (DecoderManifestMsg.DecoderManifest V))

def copyDataAndBuild (manifest : ManifestIngestion V) (bytes : Bytes) : ManifestIngestion V :=
  (build ParseFromArray (manifest.copyData (some bytes)).1).1

def Accepted (bytes : Bytes) : Prop :=
  0 < bytes.length ∧ bytes.length ≤ DECODER_MANIFEST_BYTE_SIZE_LIMIT

def readMessage (bytes : Bytes) : Option (DecoderManifestMsg.DecoderManifest V) :=
  (ParseFromArray bytes).filter fun message => message.can_signals ≠ [] ∨ message.obd_pid_signals ≠ []

end CopyDataAndBuild

section Built

variable {ParseFromArray : Bytes → Option (DecoderManifestMsg.DecoderManifest V)}
  {message : DecoderManifestMsg.DecoderManifest V} {manifest : ManifestIngestion V} {bytes : Bytes}

theorem readMessage_eq_some
    : readMessage ParseFromArray bytes = some message
        ↔
      ParseFromArray bytes = some message ∧ (message.can_signals ≠ [] ∨ message.obd_pid_signals ≠ []) := by
  unfold readMessage
  rw [Option.filter_eq_some_iff, decide_eq_true_iff]

theorem copyData_of_not_accepted (h : ¬Accepted bytes)
    : manifest.copyData (some bytes) = (manifest, false) := by
  unfold Accepted at h
  unfold copyData
  dsimp only
  split
  . rfl
  . rw [if_pos (by omega)]

theorem copyData_some (h : Accepted bytes)
    : manifest.copyData (some bytes) = ({ manifest with mProtoBinaryData := bytes, mReady := false }, true) := by
  unfold Accepted at h
  unfold copyData
  dsimp only
  rw [if_neg (by omega), if_neg (by omega)]

theorem build_none (h : readMessage ParseFromArray manifest.mProtoBinaryData = none)
    : build ParseFromArray manifest = (manifest, false) := by
  unfold readMessage at h
  unfold build
  split
  . rfl
  . split
    . rfl
    . next message hparse =>
      rw [hparse, Option.filter_some] at h
      rw [if_pos (by simpa using h)]

theorem build_some (hbytes : manifest.mProtoBinaryData ≠ [])
    (h : readMessage ParseFromArray manifest.mProtoBinaryData = some message)
    : build ParseFromArray manifest
        =
      ({ manifest with dictionaries := buildDictionaries manifest.dictionaries message, mReady := true },
        true) := by
  have ⟨hparse, hsections⟩ := readMessage_eq_some.mp h
  have hsome : ¬(message.can_signals.length = 0 ∧ message.obd_pid_signals.length = 0) := by
    rw [List.length_eq_zero_iff, List.length_eq_zero_iff]
    tauto
  unfold build
  rw [if_neg (by simpa using hbytes), hparse]
  dsimp only
  rw [if_neg hsome]

theorem copyDataAndBuild_of_not_accepted (h : ¬Accepted bytes)
    : copyDataAndBuild ParseFromArray manifest bytes = (build ParseFromArray manifest).1 := by
  unfold copyDataAndBuild
  rw [copyData_of_not_accepted h]

theorem copyDataAndBuild_none (h : Accepted bytes) (hread : readMessage ParseFromArray bytes = none)
    : copyDataAndBuild ParseFromArray manifest bytes
        =
      { manifest with mProtoBinaryData := bytes, mReady := false } := by
  unfold copyDataAndBuild
  rw [copyData_some h, build_none hread]

theorem copyDataAndBuild_some (h : Accepted bytes) (hread : readMessage ParseFromArray bytes = some message)
    : copyDataAndBuild ParseFromArray manifest bytes
        =
      { mProtoBinaryData := bytes
        mReady := true
        dictionaries := buildDictionaries manifest.dictionaries message } := by
  have hbytes : bytes ≠ [] := List.ne_nil_of_length_pos h.1
  unfold copyDataAndBuild
  rw [copyData_some h, build_some hbytes hread]

theorem copyDataAndBuild_unread {first : ManifestIngestion V} {old : Bytes}
    (hfirst : first = copyDataAndBuild ParseFromArray {} old)
    (h : Accepted old → readMessage ParseFromArray old = none)
    : first.dictionaries = ({} : ManifestIngestion V).dictionaries ∧ first.mReady = false
        ∧ build ParseFromArray first = (first, false) := by
  by_cases haccepted : Accepted old
  . rw [copyDataAndBuild_none haccepted (h haccepted)] at hfirst
    rw [hfirst]
    exact ⟨rfl, rfl, build_none (h haccepted)⟩
  . rw [copyDataAndBuild_of_not_accepted haccepted] at hfirst
    rw [hfirst]
    exact ⟨rfl, rfl, rfl⟩

/--
A new object behaves as the document that the manager works on, with what `build` reads from the bytes.
-/
theorem build_document (h : Accepted bytes) {document : DecoderManifestIngestion V}
    (hdocument : document
      = ⟨(readMessage ParseFromArray bytes).map (buildDictionaries ({} : ManifestIngestion V).dictionaries), false⟩)
    : (copyDataAndBuild ParseFromArray {} bytes).document.ready = document.build.1.ready
        ∧
      (build ParseFromArray (({} : ManifestIngestion V).copyData (some bytes)).1).2 = document.build.2 := by
  have hbytes : bytes ≠ [] := List.ne_nil_of_length_pos h.1
  rw [hdocument, copyData_some h]
  cases hread : readMessage ParseFromArray bytes with
  | none =>
    rw [copyDataAndBuild_none h hread, build_none hread]
    exact ⟨rfl, rfl⟩
  | some message =>
    rw [copyDataAndBuild_some h hread, build_some hbytes hread]
    exact ⟨rfl, rfl⟩

end Built

end ManifestIngestion

end DataManagement
