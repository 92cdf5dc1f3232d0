import FleetWiseEdge.Lib.KeyedList
import FleetWiseEdge.Manager.Impl.Extractors
import Mathlib.Tactic.Tauto

namespace DataManagement

open DataInspection

section Dictionary

namespace CANDecoderDictionary

variable {V : Type} {d : CANDecoderDictionary V} {ch ch' : CANChannelNumericID}
variable {fr fr' : CANRawFrameID} {m : CANMessageDecoderMethod V} {sig sig' : SignalID}

@[simp]
theorem method_empty : (empty : CANDecoderDictionary V).method ch fr = none := rfl

@[simp]
theorem method_collectSignal : (d.collectSignal sig).method ch fr = d.method ch fr := rfl

@[simp]
theorem method_addChannel : (d.addChannel ch').method ch fr = d.method ch fr := by
  unfold addChannel
  split
  . rfl
  . rename_i hnone
    unfold method
    by_cases h : ch = ch'
    . simp [h, hnone]
    . simp [h]

theorem method_setMethod
    : (d.setMethod ch' fr' m).method ch fr
        =
      if (ch', fr') = (ch, fr) then some m else d.method ch fr := by
  unfold setMethod method
  by_cases hch : ch = ch'
  . by_cases hfr : fr = fr'
    . simp [hch, hfr]
    . have hfr' : fr' ≠ fr := fun h => hfr h.symm
      cases hmethods : d.canMessageDecoderMethod ch' with
      | none => simp [hch, hfr, hfr', hmethods]
      | some methods => simp [hch, hfr, hfr', hmethods]
  . have hch' : ch' ≠ ch := fun h => hch h.symm
    simp [hch, hch']

@[simp]
theorem signalIDsToCollect_addChannel : (d.addChannel ch).signalIDsToCollect = d.signalIDsToCollect := by
  unfold addChannel
  split
  . rfl
  . rfl

@[simp]
theorem signalIDsToCollect_setMethod
    : (d.setMethod ch fr m).signalIDsToCollect = d.signalIDsToCollect :=
  rfl

theorem signalIDsToCollect_collectSignal
    : (d.collectSignal sig').signalIDsToCollect sig = (d.signalIDsToCollect sig || sig' == sig) := by
  unfold collectSignal
  by_cases h : sig = sig'
  . simp [h]
  . have h' : sig' ≠ sig := fun heq => h heq.symm
    simp [h, h']

end CANDecoderDictionary

end Dictionary

section Requests

def signalFrame {V : Type} (manifest : DecoderManifestIngestion V)
    (translator : CANInterfaceIDTranslator) (signalID : SignalID)
    : Option (CANChannelNumericID × CANRawFrameID) :=
  let (canRawFrameID, interfaceId) := manifest.getCANFrameAndInterfaceID signalID
  let canChannelID := translator.getChannelNumericID interfaceId
  if manifest.getNetworkProtocol signalID = .RAW_SOCKET ∧ canChannelID ≠ INVALID_CAN_SOURCE_NUMERIC_ID then
    some (canChannelID, canRawFrameID)
  else
    none

def signalFrameFormat {V : Type} (manifest : DecoderManifestIngestion V) (signalID : SignalID)
    : CANMessageFormat V :=
  let (canRawFrameID, interfaceId) := manifest.getCANFrameAndInterfaceID signalID
  manifest.getCANMessageFormat canRawFrameID interfaceId

def rawFrame (translator : CANInterfaceIDTranslator) (info : CanFrameCollectionInfo)
    : Option (CANChannelNumericID × CANRawFrameID) :=
  let canChannelID := translator.getChannelNumericID info.interfaceID
  if canChannelID ≠ INVALID_CAN_SOURCE_NUMERIC_ID then some (canChannelID, info.frameID) else none

inductive FrameRequest (V : Type) where
  | signal (format : CANMessageFormat V)
  | raw
  deriving DecidableEq

variable {V : Type} (manifest : DecoderManifestIngestion V) (translator : CANInterfaceIDTranslator)
variable (key : CANChannelNumericID × CANRawFrameID)

def signalRequests (info : SignalCollectionInfo) : List (FrameRequest V) :=
  if signalFrame manifest translator info.signalID = some key then
    [.signal (signalFrameFormat manifest info.signalID)]
  else
    []

def rawRequests (info : CanFrameCollectionInfo) : List (FrameRequest V) :=
  if rawFrame translator info = some key then [.raw] else []

def schemeRequests (c : CollectionScheme V) : List (FrameRequest V) :=
  c.collectSignals.flatMap (signalRequests manifest translator key)
    ++ c.collectRawCanFrames.flatMap (rawRequests translator key)

def frameRequests (schemes : List (CollectionScheme V)) : List (FrameRequest V) :=
  schemes.flatMap (schemeRequests manifest translator key)

def mergeRequest (method : Option (CANMessageDecoderMethod V)) (request : FrameRequest V)
    : Option (CANMessageDecoderMethod V) :=
  match request, method with
  | .signal format, none => some ⟨.DECODE, format⟩
  | .signal format, some method =>
    if method.collectType = .RAW then some ⟨.RAW_AND_DECODE, format⟩ else some method
  | .raw, none => some ⟨.RAW, {}⟩
  | .raw, some method => some { method with collectType := .RAW_AND_DECODE }

end Requests

section Extract

variable {V : Type} {manifest : DecoderManifestIngestion V} {translator : CANInterfaceIDTranslator}
variable {key : CANChannelNumericID × CANRawFrameID} {dictionaries : DecoderDictionaryMap V}
variable {schemes : List (CollectionScheme V)} {d : CANDecoderDictionary V}

def DecoderDictionaryMap.can (dictionaries : DecoderDictionaryMap V) : CANDecoderDictionary V :=
  (dictionaries .RAW_SOCKET).getD .empty

def DecoderDictionaryMap.entry (key : CANChannelNumericID × CANRawFrameID)
    (dictionaries : DecoderDictionaryMap V)
    : Option (CANMessageDecoderMethod V) :=
  dictionaries.can.method key.1 key.2

@[simp]
theorem can_updateDictionary_self {f : CANDecoderDictionary V → CANDecoderDictionary V}
    : DecoderDictionaryMap.can (updateDictionary .RAW_SOCKET f dictionaries) = f dictionaries.can := by
  simp [DecoderDictionaryMap.can, updateDictionary]

theorem can_updateDictionary_of_ne {networkType : VehicleDataSourceProtocol}
    {f : CANDecoderDictionary V → CANDecoderDictionary V} (h : networkType ≠ .RAW_SOCKET)
    : DecoderDictionaryMap.can (updateDictionary networkType f dictionaries) = dictionaries.can := by
  simp [DecoderDictionaryMap.can, updateDictionary, Function.update_of_ne h.symm]

theorem can_updateDictionary_id {networkType : VehicleDataSourceProtocol}
    : DecoderDictionaryMap.can (updateDictionary networkType id dictionaries) = dictionaries.can := by
  by_cases h : networkType = .RAW_SOCKET
  . simp [h]
  . apply can_updateDictionary_of_ne h

theorem method_addCANSignal {info : SignalCollectionInfo}
    (hprotocol : manifest.getNetworkProtocol info.signalID = .RAW_SOCKET)
    : (addCANSignal manifest translator info.signalID d).method key.1 key.2
        =
      (signalRequests manifest translator key info).foldl mergeRequest (d.method key.1 key.2) := by
  unfold addCANSignal signalRequests signalFrame signalFrameFormat
  simp only [hprotocol, true_and]
  by_cases hknown : translator.getChannelNumericID (manifest.getCANFrameAndInterfaceID info.signalID).2
      = INVALID_CAN_SOURCE_NUMERIC_ID
  . simp [hknown]
  . simp only [hknown, if_false, ne_eq, not_false_eq_true, if_true, Option.some_inj]
    simp only [CANDecoderDictionary.method_addChannel, CANDecoderDictionary.method_collectSignal]
    by_cases hkey : (translator.getChannelNumericID
        (manifest.getCANFrameAndInterfaceID info.signalID).2,
        (manifest.getCANFrameAndInterfaceID info.signalID).1) = key
    . rw [← hkey]
      simp only [if_true, List.foldl_cons, List.foldl_nil]
      cases hmethod : d.method (translator.getChannelNumericID
          (manifest.getCANFrameAndInterfaceID info.signalID).2)
          (manifest.getCANFrameAndInterfaceID info.signalID).1 with
      | none => simp [mergeRequest, CANDecoderDictionary.method_setMethod]
      | some method =>
        by_cases htype : method.collectType = .RAW
        . simp [mergeRequest, htype, CANDecoderDictionary.method_setMethod]
        . simp [mergeRequest, htype, hmethod]
    . simp only [hkey, if_false, List.foldl_nil]
      split
      . simp [CANDecoderDictionary.method_setMethod, hkey]
      . split
        . simp [CANDecoderDictionary.method_setMethod, hkey]
        . simp

theorem method_addRawCanFrame {info : CanFrameCollectionInfo}
    : (addRawCanFrame translator d info).method key.1 key.2
        =
      (rawRequests translator key info).foldl mergeRequest (d.method key.1 key.2) := by
  unfold addRawCanFrame rawRequests rawFrame
  by_cases hknown : translator.getChannelNumericID info.interfaceID = INVALID_CAN_SOURCE_NUMERIC_ID
  . simp [hknown]
  . simp only [hknown, if_false, ne_eq, not_false_eq_true, if_true, Option.some_inj]
    simp only [CANDecoderDictionary.method_addChannel]
    by_cases hkey : (translator.getChannelNumericID info.interfaceID, info.frameID) = key
    . rw [← hkey]
      simp only [if_true, List.foldl_cons, List.foldl_nil]
      cases hmethod : d.method (translator.getChannelNumericID info.interfaceID) info.frameID with
      | none => simp [mergeRequest, CANDecoderDictionary.method_setMethod]
      | some method => simp [mergeRequest, CANDecoderDictionary.method_setMethod]
    . simp only [hkey, if_false, List.foldl_nil]
      split
      . simp [CANDecoderDictionary.method_setMethod, hkey]
      . simp [CANDecoderDictionary.method_setMethod, hkey]

theorem addSignal_eq_raw [InspectionValue V] {info : SignalCollectionInfo}
    (h : manifest.getNetworkProtocol info.signalID = .RAW_SOCKET)
    : (addSignal manifest translator dictionaries info).can
        =
      addCANSignal manifest translator info.signalID dictionaries.can := by
  unfold addSignal
  simp only [h]
  apply can_updateDictionary_self

theorem addSignal_eq_other [InspectionValue V] {info : SignalCollectionInfo}
    (h : manifest.getNetworkProtocol info.signalID ≠ .RAW_SOCKET)
    : (addSignal manifest translator dictionaries info).can = dictionaries.can := by
  unfold addSignal
  cases hprotocol : manifest.getNetworkProtocol info.signalID with
  | INVALID_PROTOCOL => rfl
  | RAW_SOCKET => exact absurd hprotocol h
  | CAN_TP => exact can_updateDictionary_id
  | SOMEIP => exact can_updateDictionary_id
  | DOIP => exact can_updateDictionary_id
  | AVB => exact can_updateDictionary_id
  | DDS => exact can_updateDictionary_id
  | OBD =>
    apply can_updateDictionary_of_ne
    decide

theorem entry_addSignal [InspectionValue V] (info : SignalCollectionInfo)
    : (addSignal manifest translator dictionaries info).entry key
        =
      (signalRequests manifest translator key info).foldl mergeRequest (dictionaries.entry key) := by
  unfold DecoderDictionaryMap.entry
  by_cases h : manifest.getNetworkProtocol info.signalID = .RAW_SOCKET
  . rw [addSignal_eq_raw h]
    apply method_addCANSignal h
  . rw [addSignal_eq_other h]
    simp [signalRequests, signalFrame, h]

theorem can_addRawCanFrames {canFrames : List CanFrameCollectionInfo}
    : (addRawCanFrames translator dictionaries canFrames).can
        =
      canFrames.foldl (addRawCanFrame translator) dictionaries.can := by
  unfold addRawCanFrames
  cases canFrames with
  | nil => rfl
  | cons info canFrames =>
    simp only [List.isEmpty_cons, Bool.false_eq_true, if_false]
    apply can_updateDictionary_self

theorem entry_addCollectionScheme [InspectionValue V] (c : CollectionScheme V)
    : (addCollectionScheme manifest translator dictionaries c).entry key
        =
      (schemeRequests manifest translator key c).foldl mergeRequest (dictionaries.entry key) := by
  unfold addCollectionScheme schemeRequests
  rw [List.foldl_append]
  rw [← KeyedList.view_foldl (DecoderDictionaryMap.entry key) (fun s info => entry_addSignal info)]
  unfold DecoderDictionaryMap.entry
  rw [can_addRawCanFrames]
  apply KeyedList.view_foldl fun d : CANDecoderDictionary V => d.method key.1 key.2
  intro d info
  apply method_addRawCanFrame

theorem can_supported {protocols : List VehicleDataSourceProtocol}
    : DecoderDictionaryMap.can (protocols.foldl (fun dictionaries networkType =>
        updateDictionary networkType id dictionaries) dictionaries)
        =
      dictionaries.can := by
  induction protocols generalizing dictionaries with
  | nil => rfl
  | cons networkType protocols ih => rw [List.foldl_cons, ih, can_updateDictionary_id]

theorem entry_extractDictionaries [InspectionValue V] (key : CANChannelNumericID × CANRawFrameID)
    : (extractDictionaries manifest translator schemes).entry key
        =
      (frameRequests manifest translator key schemes).foldl mergeRequest none := by
  unfold extractDictionaries
  unfold DecoderDictionaryMap.entry
  rw [can_supported]
  apply KeyedList.view_foldl (DecoderDictionaryMap.entry key)
    (fun s c => entry_addCollectionScheme c)

theorem extractDictionaries_can [InspectionValue V]
    : extractDictionaries manifest translator schemes .RAW_SOCKET
        =
      some (extractDictionaries manifest translator schemes).can := by
  unfold extractDictionaries SUPPORTED_NETWORK_PROTOCOL
  simp [DecoderDictionaryMap.can, updateDictionary]

end Extract

section Collected

variable {V : Type} {manifest : DecoderManifestIngestion V} {translator : CANInterfaceIDTranslator}
variable {dictionaries : DecoderDictionaryMap V} {schemes : List (CollectionScheme V)}
variable {d : CANDecoderDictionary V} {sig : SignalID}

def DecoderDictionaryMap.collected (dictionaries : DecoderDictionaryMap V) (sig : SignalID) : Bool :=
  dictionaries.can.signalIDsToCollect sig

theorem collected_addCANSignal {signalID : SignalID}
    (h : d.signalIDsToCollect sig = true ∨
      signalID = sig ∧ translator.getChannelNumericID (manifest.getCANFrameAndInterfaceID sig).2
        ≠ INVALID_CAN_SOURCE_NUMERIC_ID)
    : (addCANSignal manifest translator signalID d).signalIDsToCollect sig = true := by
  unfold addCANSignal
  simp only
  split
  . rename_i hunknown
    cases h with
    | inl h => exact h
    | inr h =>
      rw [h.1] at hunknown
      exact absurd hunknown h.2
  . have hsig : (d.collectSignal signalID).signalIDsToCollect sig = true := by
      rw [CANDecoderDictionary.signalIDsToCollect_collectSignal]
      cases h with
      | inl h => simp [h]
      | inr h => simp [h.1]
    split
    . simp [hsig]
    . split
      . simp [hsig]
      . simp [hsig]

theorem collected_addSignal [InspectionValue V] {info : SignalCollectionInfo}
    (h : dictionaries.collected sig = true ∨
      info.signalID = sig ∧ (signalFrame manifest translator sig).isSome)
    : (addSignal manifest translator dictionaries info).collected sig = true := by
  unfold DecoderDictionaryMap.collected at h ⊢
  by_cases hprotocol : manifest.getNetworkProtocol info.signalID = .RAW_SOCKET
  . rw [addSignal_eq_raw hprotocol]
    apply collected_addCANSignal
    cases h with
    | inl h => exact Or.inl h
    | inr h =>
      apply Or.inr
      refine ⟨h.1, ?_⟩
      have hsome := h.2
      unfold signalFrame at hsome
      intro hunknown
      simp [hunknown] at hsome
  . rw [addSignal_eq_other hprotocol]
    cases h with
    | inl h => exact h
    | inr h =>
      have hsome := h.2
      rw [← h.1] at hsome
      simp [signalFrame, hprotocol] at hsome

theorem collected_addRawCanFrames {canFrames : List CanFrameCollectionInfo}
    (h : dictionaries.collected sig = true)
    : (addRawCanFrames translator dictionaries canFrames).collected sig = true := by
  unfold DecoderDictionaryMap.collected at h ⊢
  rw [can_addRawCanFrames]
  generalize dictionaries.can = d at h
  induction canFrames generalizing d with
  | nil => exact h
  | cons info canFrames ih =>
    rw [List.foldl_cons]
    apply ih
    unfold addRawCanFrame
    simp only
    split
    . exact h
    . split
      . simp [h]
      . simp [h]

theorem collected_addSignals [InspectionValue V] {infos : List SignalCollectionInfo}
    (h : dictionaries.collected sig = true)
    : (infos.foldl (addSignal manifest translator) dictionaries).collected sig = true := by
  induction infos generalizing dictionaries with
  | nil => exact h
  | cons info infos ih =>
    rw [List.foldl_cons]
    apply ih
    apply collected_addSignal (Or.inl h)

theorem collected_extractDictionaries [InspectionValue V] {c : CollectionScheme V} (hc : c ∈ schemes)
    {info : SignalCollectionInfo} (hinfo : info ∈ c.collectSignals)
    (hframe : (signalFrame manifest translator info.signalID).isSome)
    : (extractDictionaries manifest translator schemes).collected info.signalID = true := by
  unfold extractDictionaries DecoderDictionaryMap.collected
  rw [can_supported]
  apply KeyedList.foldl_of_mem (fun dictionaries : DecoderDictionaryMap V =>
    dictionaries.collected info.signalID = true) _ _ hc
  . intro dictionaries c h
    apply collected_addRawCanFrames
    apply collected_addSignals h
  . intro dictionaries
    apply collected_addRawCanFrames
    apply KeyedList.foldl_of_mem (fun dictionaries : DecoderDictionaryMap V =>
      dictionaries.collected info.signalID = true) _ _ hinfo
    . intro dictionaries info' h
      apply collected_addSignal (Or.inl h)
    . intro dictionaries
      apply collected_addSignal (Or.inr ⟨rfl, hframe⟩)

end Collected

section Merge

variable {V : Type} {requests : List (FrameRequest V)} {format : CANMessageFormat V}

def RawTwiceFirst (requests : List (FrameRequest V)) : Prop := [.raw, .raw] <+: requests

def OneFormat (requests : List (FrameRequest V)) (format : CANMessageFormat V) : Prop :=
  ∀ request ∈ requests, request = .raw ∨ request = .signal format

structure MergedAsRequested (requests : List (FrameRequest V)) (format : CANMessageFormat V)
    (method : Option (CANMessageDecoderMethod V)) : Prop where
  entry : method.isSome ↔ requests ≠ []
  decode : ∀ m, method = some m → (m.collectType = .DECODE ↔ FrameRequest.raw ∉ requests)
  raw : ∀ m, method = some m → (m.collectType = .RAW ↔ FrameRequest.signal format ∉ requests)
  format : ∀ m, method = some m → FrameRequest.signal format ∈ requests → m.format = format

theorem merge_both {f : CANMessageFormat V}
    : requests.foldl mergeRequest (some ⟨.RAW_AND_DECODE, f⟩) = some ⟨.RAW_AND_DECODE, f⟩ := by
  induction requests with
  | nil => rfl
  | cons request requests ih =>
    rw [List.foldl_cons]
    cases request with
    | signal format => simpa [mergeRequest] using ih
    | raw => simpa [mergeRequest] using ih

theorem merge_decode (requests : List (FrameRequest V)) (f : CANMessageFormat V)
    : FrameRequest.raw ∈ requests
        ∧ requests.foldl mergeRequest (some ⟨.DECODE, f⟩) = some ⟨.RAW_AND_DECODE, f⟩
        ∨
      FrameRequest.raw ∉ requests
        ∧ requests.foldl mergeRequest (some ⟨.DECODE, f⟩) = some ⟨.DECODE, f⟩ := by
  induction requests with
  | nil => simp
  | cons request requests ih =>
    rw [List.foldl_cons]
    cases request with
    | signal format => simpa [mergeRequest] using ih
    | raw =>
      apply Or.inl
      simpa [mergeRequest] using merge_both

theorem merge_requests (h : OneFormat requests format)
    : MergedAsRequested requests format (requests.foldl mergeRequest none)
        ↔
      (RawTwiceFirst requests → FrameRequest.signal {} ∈ requests) := by
  match requests, h with
  | [], _ =>
    constructor
    . intro _ htwice
      simp [RawTwiceFirst] at htwice
    . intro _
      refine ⟨by simp, ?_, ?_, ?_⟩
      . intro m hm
        cases hm
      . intro m hm
        cases hm
      . intro m hm
        cases hm
  | .signal f :: rest, h =>
    have hf : f = format := by simpa using h (.signal f) (by simp)
    have hfold : (FrameRequest.signal f :: rest).foldl mergeRequest none
        = rest.foldl mergeRequest (some ⟨.DECODE, f⟩) := rfl
    constructor
    . intro _ htwice
      simp [RawTwiceFirst] at htwice
    . intro _
      rw [hfold]
      cases merge_decode rest f with
      | inl hraw =>
        rw [hraw.2]
        constructor <;> simp [hraw.1, hf]
      | inr hraw =>
        rw [hraw.2]
        constructor <;> simp [hraw.1, hf]
  | [.raw], _ =>
    constructor
    . intro _ htwice
      simp [RawTwiceFirst] at htwice
    . intro _
      constructor <;> simp [mergeRequest]
  | .raw :: .signal f :: rest, h =>
    have hf : f = format := by simpa using h (.signal f) (by simp)
    have hfold : (FrameRequest.raw :: .signal f :: rest).foldl mergeRequest none
        = some ⟨.RAW_AND_DECODE, f⟩ := merge_both
    constructor
    . intro _ htwice
      simp [RawTwiceFirst] at htwice
    . intro _
      rw [hfold]
      constructor <;> simp [hf]
  | .raw :: .raw :: rest, h =>
    have hfold : (FrameRequest.raw :: .raw :: rest).foldl mergeRequest none
        = some (⟨.RAW_AND_DECODE, {}⟩ : CANMessageDecoderMethod V) := merge_both
    have htwice : RawTwiceFirst (FrameRequest.raw :: .raw :: rest) := by simp [RawTwiceFirst]
    rw [hfold]
    constructor
    . intro hmerged _
      have hsignal : FrameRequest.signal format ∈ FrameRequest.raw :: .raw :: rest := by
        have hraw := hmerged.raw _ rfl
        simpa using hraw
      have hformat := hmerged.format _ rfl hsignal
      rw [← hformat] at hsignal
      exact hsignal
    . intro hempty
      have hsignal := hempty htwice
      have hformat : ({} : CANMessageFormat V) = format := by simpa using h _ hsignal
      rw [← hformat]
      constructor <;> simp_all

end Merge

section Requested

variable {V : Type} (manifest : DecoderManifestIngestion V) (translator : CANInterfaceIDTranslator)
variable (schemes : List (CollectionScheme V)) (key : CANChannelNumericID × CANRawFrameID)

def SignalRequested : Prop :=
  ∃ c ∈ schemes, ∃ info ∈ c.collectSignals, signalFrame manifest translator info.signalID = some key

def RawRequested : Prop :=
  ∃ c ∈ schemes, ∃ info ∈ c.collectRawCanFrames, rawFrame translator info = some key

/--
The CAN dictionary holds what the collection schemes request, and holds it in the way they request it.
-/
structure CollectsAsRequested (d : CANDecoderDictionary V) : Prop where
  entry : ∀ ch fr, (d.method ch fr).isSome
    ↔ SignalRequested manifest translator schemes (ch, fr) ∨ RawRequested translator schemes (ch, fr)
  decode : ∀ ch fr m, d.method ch fr = some m → (m.collectType = .DECODE
    ↔ SignalRequested manifest translator schemes (ch, fr) ∧ ¬RawRequested translator schemes (ch, fr))
  raw : ∀ ch fr m, d.method ch fr = some m → (m.collectType = .RAW
    ↔ ¬SignalRequested manifest translator schemes (ch, fr) ∧ RawRequested translator schemes (ch, fr))
  rawAndDecode : ∀ ch fr m, d.method ch fr = some m → (m.collectType = .RAW_AND_DECODE
    ↔ SignalRequested manifest translator schemes (ch, fr) ∧ RawRequested translator schemes (ch, fr))
  signal : ∀ c ∈ schemes, ∀ info ∈ c.collectSignals, ∀ ch fr,
    signalFrame manifest translator info.signalID = some (ch, fr) →
    (∃ m, d.method ch fr = some m ∧ m.format = signalFrameFormat manifest info.signalID)
      ∧ d.signalIDsToCollect info.signalID = true

/--
Before any signal of a frame is requested, the bytes of the frame are requested once at most, unless the
format of the frame is the empty one.
-/
def RawOnceBeforeSignals : Prop :=
  ∀ key, RawTwiceFirst (frameRequests manifest translator key schemes) →
    FrameRequest.signal {} ∈ frameRequests manifest translator key schemes

variable {manifest translator schemes key}

theorem raw_mem_frameRequests
    : FrameRequest.raw ∈ frameRequests manifest translator key schemes
        ↔
      RawRequested translator schemes key := by
  simp [frameRequests, schemeRequests, signalRequests, rawRequests, RawRequested, List.mem_flatMap]

theorem signal_mem_frameRequests {format : CANMessageFormat V}
    : FrameRequest.signal format ∈ frameRequests manifest translator key schemes
        ↔
      ∃ c ∈ schemes, ∃ info ∈ c.collectSignals,
        signalFrame manifest translator info.signalID = some key
          ∧ format = signalFrameFormat manifest info.signalID := by
  simp [frameRequests, schemeRequests, signalRequests, rawRequests, List.mem_flatMap]

theorem signalFrameFormat_eq {sig sig' : SignalID}
    (h : signalFrame manifest translator sig = some key)
    (h' : signalFrame manifest translator sig' = some key)
    : signalFrameFormat manifest sig = signalFrameFormat manifest sig' := by
  unfold signalFrame at h h'
  simp only [Option.ite_none_right_eq_some, Option.some_inj] at h h'
  have hframe : (manifest.getCANFrameAndInterfaceID sig).1
      = (manifest.getCANFrameAndInterfaceID sig').1 := by
    rw [← h'.2, Prod.mk.injEq] at h
    exact h.2.2
  have hinterface : (manifest.getCANFrameAndInterfaceID sig).2
      = (manifest.getCANFrameAndInterfaceID sig').2 := by
    rw [← h'.2, Prod.mk.injEq] at h
    exact translator.getChannelNumericID_inj h.1.2 h.2.1
  unfold signalFrameFormat
  simp only
  rw [hframe, hinterface]

theorem oneFormat_frameRequests (manifest : DecoderManifestIngestion V)
    (translator : CANInterfaceIDTranslator) (schemes : List (CollectionScheme V))
    (key : CANChannelNumericID × CANRawFrameID)
    : ∃ format, OneFormat (frameRequests manifest translator key schemes) format
        ∧ (SignalRequested manifest translator schemes key ↔
            FrameRequest.signal format ∈ frameRequests manifest translator key schemes) := by
  by_cases h : SignalRequested manifest translator schemes key
  . have ⟨c, hc, info, hinfo, hframe⟩ := h
    refine ⟨signalFrameFormat manifest info.signalID, ?_, ?_⟩
    . intro request hrequest
      cases request with
      | raw => exact Or.inl rfl
      | signal format =>
        have ⟨_, _, info', _, hframe', hformat⟩ := signal_mem_frameRequests.mp hrequest
        apply Or.inr
        rw [hformat, signalFrameFormat_eq hframe' hframe]
    . simp only [h, true_iff]
      exact signal_mem_frameRequests.mpr ⟨c, hc, info, hinfo, hframe, rfl⟩
  . have hnone : ∀ format, FrameRequest.signal format ∉ frameRequests manifest translator key schemes := by
      intro format hmem
      have ⟨c, hc, info, hinfo, hframe, _⟩ := signal_mem_frameRequests.mp hmem
      exact h ⟨c, hc, info, hinfo, hframe⟩
    refine ⟨{}, ?_, ?_⟩
    . intro request hrequest
      cases request with
      | raw => exact Or.inl rfl
      | signal format => exact absurd hrequest (hnone format)
    . simp [h, hnone]

theorem frameRequests_ne_nil_iff
    : frameRequests manifest translator key schemes ≠ []
        ↔
      SignalRequested manifest translator schemes key ∨ RawRequested translator schemes key := by
  constructor
  . intro hne
    have ⟨request, hmem⟩ := List.exists_mem_of_ne_nil _ hne
    cases request with
    | raw => exact Or.inr (raw_mem_frameRequests.mp hmem)
    | signal format =>
      have ⟨c, hc, info, hinfo, hframe, _⟩ := signal_mem_frameRequests.mp hmem
      exact Or.inl ⟨c, hc, info, hinfo, hframe⟩
  . intro hrequested
    cases hrequested with
    | inl hsignal =>
      have ⟨c, hc, info, hinfo, hframe⟩ := hsignal
      exact List.ne_nil_of_mem (signal_mem_frameRequests.mpr ⟨c, hc, info, hinfo, hframe, rfl⟩)
    | inr hraw => exact List.ne_nil_of_mem (raw_mem_frameRequests.mpr hraw)

theorem mergedAsRequested_iff {format : CANMessageFormat V}
    {method : Option (CANMessageDecoderMethod V)}
    (hsignal : SignalRequested manifest translator schemes key ↔
      FrameRequest.signal format ∈ frameRequests manifest translator key schemes)
    (h : MergedAsRequested (frameRequests manifest translator key schemes) format method)
    : (method.isSome ↔ SignalRequested manifest translator schemes key
          ∨ RawRequested translator schemes key)
        ∧
      (∀ m, method = some m → (m.collectType = .DECODE ↔ ¬RawRequested translator schemes key))
        ∧
      (∀ m, method = some m →
        (m.collectType = .RAW ↔ ¬SignalRequested manifest translator schemes key)) := by
  refine ⟨?_, ?_, ?_⟩
  . rw [h.entry, frameRequests_ne_nil_iff]
  . intro m hm
    rw [h.decode m hm, raw_mem_frameRequests]
  . intro m hm
    rw [h.raw m hm, hsignal]

theorem collectsAsRequested_iff {d : CANDecoderDictionary V}
    (hentry : ∀ ch fr, d.method ch fr
      = (frameRequests manifest translator (ch, fr) schemes).foldl mergeRequest none)
    (hcollected : ∀ c ∈ schemes, ∀ info ∈ c.collectSignals,
      (signalFrame manifest translator info.signalID).isSome →
      d.signalIDsToCollect info.signalID = true)
    : CollectsAsRequested manifest translator schemes d
        ↔
      RawOnceBeforeSignals manifest translator schemes := by
  constructor
  . intro h key
    have ⟨format, hone, hsignal⟩ := oneFormat_frameRequests manifest translator schemes key
    apply (merge_requests hone).mp
    have hmethod : d.method key.1 key.2
        = (frameRequests manifest translator key schemes).foldl mergeRequest none := hentry key.1 key.2
    rw [← hmethod]
    have hsome := h.entry key.1 key.2
    constructor
    . rw [hsome, frameRequests_ne_nil_iff]
    . intro m hm
      have hrequested := hsome.mp (by simp [hm])
      rw [h.decode _ _ m hm, raw_mem_frameRequests]
      tauto
    . intro m hm
      have hrequested := hsome.mp (by simp [hm])
      rw [h.raw _ _ m hm, ← hsignal]
      tauto
    . intro m hm hmem
      have ⟨c, hc, info, hinfo, hframe, hformat⟩ := signal_mem_frameRequests.mp hmem
      have ⟨⟨m', hm', hformat'⟩, _⟩ := h.signal c hc info hinfo key.1 key.2 hframe
      rw [hm, Option.some_inj] at hm'
      rw [hm', hformat', hformat]
  . intro h
    have hmerged : ∀ key, ∃ format,
        (SignalRequested manifest translator schemes key ↔
          FrameRequest.signal format ∈ frameRequests manifest translator key schemes)
        ∧ MergedAsRequested (frameRequests manifest translator key schemes) format
            (d.method key.1 key.2) := by
      intro key
      have ⟨format, hone, hsignal⟩ := oneFormat_frameRequests manifest translator schemes key
      refine ⟨format, hsignal, ?_⟩
      rw [hentry]
      exact (merge_requests hone).mpr (h key)
    constructor
    . intro ch fr
      have ⟨format, hsignal, hm⟩ := hmerged (ch, fr)
      exact (mergedAsRequested_iff hsignal hm).1
    . intro ch fr m heq
      have ⟨format, hsignal, hm⟩ := hmerged (ch, fr)
      have ⟨hsome, hdecode, _⟩ := mergedAsRequested_iff hsignal hm
      have hrequested := hsome.mp (by simp [heq])
      rw [hdecode m heq]
      tauto
    . intro ch fr m heq
      have ⟨format, hsignal, hm⟩ := hmerged (ch, fr)
      have ⟨hsome, _, hraw⟩ := mergedAsRequested_iff hsignal hm
      have hrequested := hsome.mp (by simp [heq])
      rw [hraw m heq]
      tauto
    . intro ch fr m heq
      have ⟨format, hsignal, hm⟩ := hmerged (ch, fr)
      have ⟨hsome, hdecode, hraw⟩ := mergedAsRequested_iff hsignal hm
      have hdecode := hdecode m heq
      have hraw := hraw m heq
      cases htype : m.collectType with
      | DECODE => simp_all
      | RAW => simp_all
      | RAW_AND_DECODE => simp_all
    . intro c hc info hinfo ch fr hframe
      have ⟨format, hsignal, hm⟩ := hmerged (ch, fr)
      have hrequested : SignalRequested manifest translator schemes (ch, fr) := ⟨c, hc, info, hinfo, hframe⟩
      have hsome := (mergedAsRequested_iff hsignal hm).1.mpr (Or.inl hrequested)
      have ⟨m, heq⟩ := Option.isSome_iff_exists.mp hsome
      constructor
      . refine ⟨m, heq, ?_⟩
        have ⟨_, _, info', _, hframe', hformat⟩ := signal_mem_frameRequests.mp (hsignal.mp hrequested)
        rw [hm.format m heq (hsignal.mp hrequested), hformat]
        exact signalFrameFormat_eq hframe' hframe
      . apply hcollected c hc info hinfo
        simp [hframe]

end Requested

section Extractor

namespace CollectionSchemeManager

variable {V : Type} [InspectionValue V]

/--
The CAN dictionary collects as the enabled collection schemes request exactly if the bytes of no frame are
requested twice before a signal of it.
-/
theorem can_dictionary_collects (s : CollectionSchemeManager V)
    : let manifest := s.mDecoderManifest.getD ⟨none, false⟩
      let schemes := s.mEnabledCollectionSchemeMap.values
      ∃ d, s.decoderDictionaryExtractor .RAW_SOCKET = some d
        ∧ (CollectsAsRequested manifest s.mCANIDTranslator schemes d
            ↔ RawOnceBeforeSignals manifest s.mCANIDTranslator schemes) := by
  refine ⟨s.decoderDictionaryExtractor.can, extractDictionaries_can, ?_⟩
  apply collectsAsRequested_iff
  . intro ch fr
    exact entry_extractDictionaries (ch, fr)
  . intro c hc info hinfo hframe
    exact collected_extractDictionaries hc hinfo hframe

def rawTwice : CollectionSchemeManager Rat :=
  let scheme (id : String) : CollectionScheme Rat :=
    { collectionSchemeID := id
      decoderManifestID := "manifest"
      startTime := 0
      expiryTime := 100
      probabilityToSend := 1 }
  let rawFrames : List CanFrameCollectionInfo := [{ frameID := 256, interfaceID := "can0" }]
  let schemes :=
    [{ scheme "first" with collectRawCanFrames := rawFrames },
     { scheme "second" with collectRawCanFrames := rawFrames },
     { scheme "third" with collectSignals := [{ signalID := 7 }] }]
  { mCheckinIntervalInMsec := 0
    mEnabledCollectionSchemeMap := schemes.foldl (fun m c => m.insert c.collectionSchemeID c) ∅
    mCANIDTranslator := CANInterfaceIDTranslator.empty.add "can0"
    mDecoderManifest := some
      { content := some
          { arn := "manifest"
            mSignalToVehicleDataSourceProtocol := fun _ => some .RAW_SOCKET
            mSignalToCANRawFrameIDAndInterfaceIDDictionary := fun _ => some (256, "can0")
            mCANMessageFormatDictionary := fun _ => some fun _ =>
              some { mMessageID := 256, mSizeInBytes := 8 }
            mSignalToPIDDictionary := fun _ => none }
        mReady := true } }

theorem can_dictionary_rawTwice
    : (rawTwice.decoderDictionaryExtractor .RAW_SOCKET).bind (·.method 0 256)
        = some ⟨.RAW_AND_DECODE, {}⟩
        ∧
      ∀ d, rawTwice.decoderDictionaryExtractor .RAW_SOCKET = some d →
        ¬CollectsAsRequested (rawTwice.mDecoderManifest.getD ⟨none, false⟩) rawTwice.mCANIDTranslator
          rawTwice.mEnabledCollectionSchemeMap.values d := by
  have hmethod : (rawTwice.decoderDictionaryExtractor .RAW_SOCKET).bind (·.method 0 256)
      = some ⟨.RAW_AND_DECODE, {}⟩ := by
    decide +kernel
  refine ⟨hmethod, ?_⟩
  intro d hd hcollects
  rw [hd, Option.bind_some] at hmethod
  have hthird : ∃ c ∈ rawTwice.mEnabledCollectionSchemeMap.values,
      c.collectSignals = [{ signalID := 7 }] := by
    decide +kernel
  have ⟨c, hc, hsignals⟩ := hthird
  have ⟨⟨m, hm, hformat⟩, _⟩ := hcollects.signal c hc { signalID := 7 } (by simp [hsignals]) 0 256
    (by decide +kernel)
  rw [hmethod, Option.some_inj] at hm
  rw [← hm] at hformat
  revert hformat
  decide +kernel

end CollectionSchemeManager

end Extractor

end DataManagement
