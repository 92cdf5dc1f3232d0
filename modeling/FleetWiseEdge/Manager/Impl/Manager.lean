import FleetWiseEdge.Lib.Loop
import FleetWiseEdge.Lib.PriorityQueue
import FleetWiseEdge.Manager.Impl.Documents
import Mathlib.Data.String.Basic
import Std.Data.ExtTreeMap

/-!
This module contains the collection scheme manager: its maps of enabled and idle collection schemes, the
timeline of their start and stop times, and the functions that change them.
-/

namespace DataManagement

open Cpp DataInspection

abbrev TimeData := Nat × String

def TimeData.le (a b : TimeData) : Prop := a.1 < b.1 ∨ a.1 = b.1 ∧ a.2 ≤ b.2

instance : DecidableRel TimeData.le := fun a b => inferInstanceAs (Decidable (a.1 < b.1 ∨ _))

instance : Std.Total TimeData.le where
  total a b := by
    unfold TimeData.le
    cases le_total a.2 b.2 with
    | inl hid =>
      simp only [hid, and_true]
      omega
    | inr hid =>
      simp only [hid, and_true]
      omega

instance : IsTrans TimeData TimeData.le where
  trans a b c hab hbc := by
    unfold TimeData.le at *
    cases hab with
    | inl hab =>
      apply Or.inl
      omega
    | inr hab =>
      cases hbc with
      | inl hbc =>
        apply Or.inl
        omega
      | inr hbc => exact Or.inr ⟨hab.1.trans hbc.1, le_trans hab.2 hbc.2⟩

abbrev TimeLine := PriorityQueue TimeData TimeData.le

abbrev SchemeMap (V : Type) := Std.ExtTreeMap String (CollectionScheme V)

/--
The receiver of the checkin messages. `results` are the values that its `sendCheckin` is going to return.
-/
structure SchemaListener where
  results : Nat → Bool
  checkins : List (List String) := []

def SchemaListener.sendCheckin (listener : SchemaListener) (documentARNs : List String)
    : SchemaListener × Bool :=
  ({ results := fun n => listener.results (n + 1)
     checkins := listener.checkins ++ [documentARNs] },
   listener.results 0)

/--
The documents in the persistent storage. `results` tells which of the writes to come are successful.
-/
structure SchemaPersistency (V : Type) where
  collectionSchemeList : Option (CollectionSchemeIngestionList V) := none
  decoderManifest : Option (DecoderManifestIngestion V) := none
  results : Nat → Bool

structure CollectionSchemeManager (V : Type) where
  mSchemaListenerPtr : Option SchemaListener := none
  mIdleCollectionSchemeMap : SchemeMap V := ∅
  mEnabledCollectionSchemeMap : SchemeMap V := ∅
  currentDecoderManifestID : String := ""
  mCheckinIntervalInMsec : Nat
  mCollectionSchemeList : Option (CollectionSchemeIngestionList V) := none
  mDecoderManifest : Option (DecoderManifestIngestion V) := none
  mTimeLine : TimeLine := .empty
  mCollectionSchemeAvailable : Bool := false
  mCollectionSchemeListInput : Option (CollectionSchemeIngestionList V) := none
  mDecoderManifestAvailable : Bool := false
  mDecoderManifestInput : Option (DecoderManifestIngestion V) := none
  mProcessCollectionScheme : Bool := false
  mProcessDecoderManifest : Bool := false
  mSchemaPersistency : Option (SchemaPersistency V) := none
  mUseLocalDictionary : Bool := false
  mCANIDTranslator : CANInterfaceIDTranslator := .empty

def CHECKIN : String := "Checkin"

def RETRY_CHECKIN_INTERVAL_IN_MILLISECOND : Nat := 5000

namespace CollectionSchemeManager

variable {V : Type}

def isCollectionSchemeLoaded (s : CollectionSchemeManager V) : Bool :=
  !s.mEnabledCollectionSchemeMap.isEmpty || !s.mIdleCollectionSchemeMap.isEmpty

def pushTime (s : CollectionSchemeManager V) (time : Nat) (id : String)
    : CollectionSchemeManager V :=
  { s with mTimeLine := s.mTimeLine.push (time, id) }

def enable (s : CollectionSchemeManager V) (id : String) (collectionScheme : CollectionScheme V)
    : CollectionSchemeManager V :=
  { s with mEnabledCollectionSchemeMap := s.mEnabledCollectionSchemeMap.insert id collectionScheme }

def setIdle (s : CollectionSchemeManager V) (id : String) (collectionScheme : CollectionScheme V)
    : CollectionSchemeManager V :=
  { s with mIdleCollectionSchemeMap := s.mIdleCollectionSchemeMap.insert id collectionScheme }

def eraseEnabled (s : CollectionSchemeManager V) (id : String) : CollectionSchemeManager V :=
  { s with mEnabledCollectionSchemeMap := s.mEnabledCollectionSchemeMap.erase id }

def eraseIdle (s : CollectionSchemeManager V) (id : String) : CollectionSchemeManager V :=
  { s with mIdleCollectionSchemeMap := s.mIdleCollectionSchemeMap.erase id }

/--
What `cleanupCollectionSchemes` leaves of the timeline, the last `CHECKIN` that comes to its top.
-/
def onlyCheckin (timeLine : TimeLine) : TimeLine :=
  let saveTimeData : TimeData :=
    timeLine.entries.foldl (fun save entry => if entry.2 = CHECKIN then entry else save) (0, "")
  if saveTimeData.1 ≠ 0 then
    PriorityQueue.empty.push saveTimeData
  else
    .empty

def cleanupCollectionSchemes (s : CollectionSchemeManager V) : CollectionSchemeManager V :=
  if s.mEnabledCollectionSchemeMap.isEmpty && s.mIdleCollectionSchemeMap.isEmpty then
    s
  else
    { s with
      mEnabledCollectionSchemeMap := ∅
      mIdleCollectionSchemeMap := ∅
      mTimeLine := onlyCheckin s.mTimeLine }

section Rebuild

def rebuildLoop (currTime : Nat) (collectionSchemeList : List (CollectionScheme V))
    (ret : Bool) (s : CollectionSchemeManager V)
    : CollectionSchemeManager V × Bool :=
  match collectionSchemeList with
  | [] => (s, ret)
  | collectionScheme :: rest =>
    if collectionScheme.decoderManifestID ≠ s.currentDecoderManifestID then
      (s.cleanupCollectionSchemes, false)
    else
      let startTime := collectionScheme.startTime
      let stopTime := collectionScheme.expiryTime
      let id := collectionScheme.collectionSchemeID
      if startTime > currTime then
        rebuildLoop currTime rest ret
          (((s.setIdle id collectionScheme).pushTime startTime id).pushTime stopTime id)
      else if stopTime > currTime then
        rebuildLoop currTime rest true ((s.enable id collectionScheme).pushTime stopTime id)
      else
        rebuildLoop currTime rest ret s

def rebuildMapsandTimeLine (s : CollectionSchemeManager V) (currTime : Nat)
    : CollectionSchemeManager V × Bool :=
  match s.mCollectionSchemeList with
  | none => (s, false)
  | some list => rebuildLoop currTime list.getCollectionSchemes false s

end Rebuild

section Update

/--
The body of the loop of `updateMapsandTimeLine` for a collection scheme with the right manifest. The
second component tells whether it sets `ret`.
-/
def updateScheme (s : CollectionSchemeManager V) (currTime : Nat)
    (collectionScheme : CollectionScheme V)
    : CollectionSchemeManager V × Bool :=
  let startTime := collectionScheme.startTime
  let stopTime := collectionScheme.expiryTime
  let id := collectionScheme.collectionSchemeID
  match s.mEnabledCollectionSchemeMap[id]?, s.mIdleCollectionSchemeMap[id]? with
  | some currCollectionScheme, _ =>
    if stopTime ≤ currTime then
      (s.eraseEnabled id, true)
    else if stopTime ≠ currCollectionScheme.expiryTime then
      ((s.enable id collectionScheme).pushTime stopTime id, false)
    else
      (s, false)
  | none, some currCollectionScheme =>
    if startTime ≤ currTime ∧ stopTime > currTime then
      (((s.eraseIdle id).enable id collectionScheme).pushTime stopTime id, true)
    else if startTime > currTime ∧ (startTime ≠ currCollectionScheme.startTime
        ∨ stopTime ≠ currCollectionScheme.expiryTime) then
      (((s.setIdle id collectionScheme).pushTime startTime id).pushTime stopTime id, false)
    else
      (s, false)
  | none, none =>
    if startTime ≤ currTime ∧ stopTime > currTime then
      ((s.enable id collectionScheme).pushTime stopTime id, true)
    else if startTime > currTime then
      (((s.setIdle id collectionScheme).pushTime startTime id).pushTime stopTime id, false)
    else
      (s, false)

/--
The loop over the new collection schemes. It has no result if a collection scheme needs another manifest.
-/
def updateLoop (currTime : Nat) (collectionSchemeList : List (CollectionScheme V))
    (ret : Bool) (s : CollectionSchemeManager V)
    : CollectionSchemeManager V × Option Bool :=
  match collectionSchemeList with
  | [] => (s, some ret)
  | collectionScheme :: rest =>
    if collectionScheme.decoderManifestID ≠ s.currentDecoderManifestID then
      (s.cleanupCollectionSchemes, none)
    else
      let (s, changed) := s.updateScheme currTime collectionScheme
      updateLoop currTime rest (ret || changed) s

/--
The two loops that remove what is not in the new list. The second component tells whether one of them
sets `ret`.
-/
def removeMissing (s : CollectionSchemeManager V) (newCollectionSchemeIDs : List String)
    : CollectionSchemeManager V × Bool :=
  ({ s with
      mIdleCollectionSchemeMap := s.mIdleCollectionSchemeMap.filter fun id _ =>
        newCollectionSchemeIDs.contains id
      mEnabledCollectionSchemeMap := s.mEnabledCollectionSchemeMap.filter fun id _ =>
        newCollectionSchemeIDs.contains id },
   s.mEnabledCollectionSchemeMap.keys.any fun id => !newCollectionSchemeIDs.contains id)

def updateMapsandTimeLine (s : CollectionSchemeManager V) (currTime : Nat)
    : CollectionSchemeManager V × Bool :=
  match s.mCollectionSchemeList with
  | none => (s, false)
  | some list =>
    match updateLoop currTime list.getCollectionSchemes false s with
    | (s, none) => (s, false)
    | (s, some ret) =>
      let (s, removed) := s.removeMissing (list.getCollectionSchemes.map (·.collectionSchemeID))
      (s, ret || removed)

end Update

section CheckTimeLine

def sendCheckin (s : CollectionSchemeManager V) : CollectionSchemeManager V × Bool :=
  let checkinMsg :=
    s.mEnabledCollectionSchemeMap.keys ++ s.mIdleCollectionSchemeMap.keys
      ++ (if s.currentDecoderManifestID = "" then [] else [s.currentDecoderManifestID])
  match s.mSchemaListenerPtr with
  | none => (s, false)
  | some listener =>
    let (listener, sent) := listener.sendCheckin checkinMsg
    ({ s with mSchemaListenerPtr := some listener }, sent)

-- The next entry is pushed while the one that is served is still on top.
def serveCheckin (s : CollectionSchemeManager V) (currTime : Nat)
    : CollectionSchemeManager V :=
  let (s, checkinSuccess) := s.sendCheckin
  if checkinSuccess then
    if s.mCheckinIntervalInMsec > 0 then
      s.pushTime (u64 (currTime + s.mCheckinIntervalInMsec)) CHECKIN
    else
      s
  else
    let minimumCheckinInterval := min RETRY_CHECKIN_INTERVAL_IN_MILLISECOND s.mCheckinIntervalInMsec
    s.pushTime (u64 (currTime + minimumCheckinInterval)) CHECKIN

def popTime (s : CollectionSchemeManager V) : CollectionSchemeManager V :=
  { s with mTimeLine := s.mTimeLine.pop }

def checkTimeLinePass (currTime : Nat) (state : CollectionSchemeManager V × Bool)
    : Pass (CollectionSchemeManager V × Bool) :=
  let (s, ret) := state
  match s.mTimeLine.top with
  | none => .leave (s, ret)
  | some (topTime, topCollectionSchemeID) =>
    if topCollectionSchemeID = CHECKIN then
      if currTime < topTime then
        .leave (s, ret)
      else
        .again ((s.serveCheckin currTime).popTime, ret)
    else
      match s.mEnabledCollectionSchemeMap[topCollectionSchemeID]?,
          s.mIdleCollectionSchemeMap[topCollectionSchemeID]? with
      | some currCollectionScheme, _ =>
        if currCollectionScheme.expiryTime ≠ topTime then
          .again (s.popTime, ret)
        else if topTime ≤ currTime then
          .again ((s.eraseEnabled topCollectionSchemeID).popTime, true)
        else
          .leave (s, ret)
      | none, some currCollectionScheme =>
        if currCollectionScheme.startTime ≠ topTime then
          .again (s.popTime, ret)
        else if topTime ≤ currTime then
          .again
            (((s.enable topCollectionSchemeID currCollectionScheme).eraseIdle
              topCollectionSchemeID).popTime, true)
        else
          .leave (s, ret)
      | none, none => .again (s.popTime, ret)

/--
There is no result if the loop does not end with this much fuel.
-/
def checkTimeLine (fuel : Nat) (s : CollectionSchemeManager V) (currTime : Nat)
    : Option (CollectionSchemeManager V × Bool) :=
  match s.mTimeLine.top with
  | none => some (s, false)
  | some (topTime, _) =>
    if currTime < topTime then
      some (s, false)
    else
      Loop.run (checkTimeLinePass currTime) fuel (s, false)

end CheckTimeLine

end CollectionSchemeManager

end DataManagement
