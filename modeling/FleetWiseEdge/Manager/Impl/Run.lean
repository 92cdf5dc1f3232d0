import FleetWiseEdge.Manager.Impl.Extractors

namespace DataManagement

open DataInspection

namespace CollectionSchemeManager

variable {V : Type}

def onCollectionSchemeUpdate (s : CollectionSchemeManager V)
    (collectionSchemeList : Option (CollectionSchemeIngestionList V))
    : CollectionSchemeManager V :=
  { s with
    mCollectionSchemeListInput := collectionSchemeList
    mCollectionSchemeAvailable := true }

def onDecoderManifestUpdate (s : CollectionSchemeManager V)
    (decoderManifest : Option (DecoderManifestIngestion V))
    : CollectionSchemeManager V :=
  { s with
    mDecoderManifestInput := decoderManifest
    mDecoderManifestAvailable := true }

def takeCollectionSchemeList (s : CollectionSchemeManager V) : CollectionSchemeManager V :=
  if s.mCollectionSchemeAvailable && s.mCollectionSchemeListInput.isSome then
    { s with
      mCollectionSchemeList := s.mCollectionSchemeListInput
      mProcessCollectionScheme := true
      mCollectionSchemeAvailable := false }
  else
    { s with mCollectionSchemeAvailable := false }

def takeDecoderManifest (s : CollectionSchemeManager V) : CollectionSchemeManager V :=
  if s.mDecoderManifestAvailable && s.mDecoderManifestInput.isSome then
    { s with
      mDecoderManifest := s.mDecoderManifestInput
      mProcessDecoderManifest := true
      mDecoderManifestAvailable := false }
  else
    { s with mDecoderManifestAvailable := false }

def updateAvailable (s : CollectionSchemeManager V) : CollectionSchemeManager V :=
  s.takeCollectionSchemeList.takeDecoderManifest

section Persistency

def SchemaPersistency.write (persistency : SchemaPersistency V)
    (f : SchemaPersistency V → SchemaPersistency V)
    : SchemaPersistency V :=
  let written := if persistency.results 0 then f persistency else persistency
  { written with results := fun n => persistency.results (n + 1) }

def storeCollectionSchemeList (s : CollectionSchemeManager V) : CollectionSchemeManager V :=
  { s with
    mSchemaPersistency := s.mSchemaPersistency.map fun persistency =>
      SchemaPersistency.write persistency fun p =>
        { p with collectionSchemeList := s.mCollectionSchemeList } }

def storeDecoderManifest (s : CollectionSchemeManager V) : CollectionSchemeManager V :=
  { s with
    mSchemaPersistency := s.mSchemaPersistency.map fun persistency =>
      SchemaPersistency.write persistency fun p => { p with decoderManifest := s.mDecoderManifest } }

/--
`copyData` resets `mReady`, the document has to be built again.
-/
def retrieveCollectionSchemeList (s : CollectionSchemeManager V) : CollectionSchemeManager V :=
  match s.mSchemaPersistency.bind (·.collectionSchemeList) with
  | none => s
  | some list =>
    { s with
      mCollectionSchemeList := some { list with mReady := false }
      mProcessCollectionScheme := true }

def retrieveDecoderManifest (s : CollectionSchemeManager V) : CollectionSchemeManager V :=
  match s.mSchemaPersistency.bind (·.decoderManifest) with
  | none => s
  | some manifest =>
    { s with
      mDecoderManifest := some { manifest with mReady := false }
      mProcessDecoderManifest := true }

end Persistency

section Process

def acceptDecoderManifest (s : CollectionSchemeManager V) (id : String) (currTime : Nat)
    : CollectionSchemeManager V × Bool :=
  let s := { s with currentDecoderManifestID := id }.storeDecoderManifest
  if s.isCollectionSchemeLoaded then
    (s.cleanupCollectionSchemes, false)
  else
    s.rebuildMapsandTimeLine currTime

def processDecoderManifest (s : CollectionSchemeManager V) (currTime : Nat)
    : CollectionSchemeManager V × Bool :=
  match s.mDecoderManifest.map DecoderManifestIngestion.build with
  | none => (s, false)
  | some (manifest, built) =>
    let s := { s with mDecoderManifest := some manifest }
    if !built then
      (s, false)
    else if manifest.getID = s.currentDecoderManifestID then
      (s, false)
    else
      s.acceptDecoderManifest manifest.getID currTime

def acceptCollectionScheme (s : CollectionSchemeManager V) (currTime : Nat)
    : CollectionSchemeManager V × Bool :=
  let s := s.storeCollectionSchemeList
  if s.isCollectionSchemeLoaded then
    s.updateMapsandTimeLine currTime
  else
    s.rebuildMapsandTimeLine currTime

def processCollectionScheme (s : CollectionSchemeManager V) (currTime : Nat)
    : CollectionSchemeManager V × Bool :=
  match s.mCollectionSchemeList.map CollectionSchemeIngestionList.build with
  | none => (s, false)
  | some (list, built) =>
    let s := { s with mCollectionSchemeList := some list }
    if !built then
      (s, false)
    else
      s.acceptCollectionScheme currTime

end Process

section DoWork

variable [InspectionValue V]

structure Extraction (V : Type) where
  inspectionMatrix : InspectionMatrix V
  -- nothing if a local dictionary is used
  decoderDictionaries : Option (DecoderDictionaryMap V)

def extract (s : CollectionSchemeManager V) : Extraction V where
  inspectionMatrix := s.inspectionMatrixExtractor
  decoderDictionaries := if s.mUseLocalDictionary then none else some s.decoderDictionaryExtractor

/--
The values that the clock has during one pass of `doWork`, in the order in which they are read.
-/
structure PassTimes where
  decoderManifest : Nat
  collectionScheme : Nat
  check : Nat

def processAvailableManifest {V : Type} (s : CollectionSchemeManager V) (currTime : Nat)
    : CollectionSchemeManager V × Bool :=
  if s.mProcessDecoderManifest then
    { s with mProcessDecoderManifest := false }.processDecoderManifest currTime
  else
    (s, false)

def processAvailableList {V : Type} (s : CollectionSchemeManager V) (currTime : Nat)
    : CollectionSchemeManager V × Bool :=
  if s.mProcessCollectionScheme then
    { s with mProcessCollectionScheme := false }.processCollectionScheme currTime
  else
    (s, false)

def doWorkPass (fuel : Nat) (s : CollectionSchemeManager V) (times : PassTimes)
    : Option (CollectionSchemeManager V × Option (Extraction V)) :=
  let (s, manifestChanged) := s.processAvailableManifest times.decoderManifest
  let (s, listChanged) := s.processAvailableList times.collectionScheme
  (s.checkTimeLine fuel times.check).map fun (s, timeLineChanged) =>
    (s, if manifestChanged || listChanged || timeLineChanged then some s.extract else none)

def prepareCheckinTimer {V : Type} (s : CollectionSchemeManager V) (currTime : Nat)
    : CollectionSchemeManager V :=
  s.pushTime currTime CHECKIN

def prepareWork {V : Type} (s : CollectionSchemeManager V) (currTime : Nat)
    : CollectionSchemeManager V :=
  let s := (s.prepareCheckinTimer currTime).retrieveCollectionSchemeList
  if s.mUseLocalDictionary then s else s.retrieveDecoderManifest

end DoWork

end CollectionSchemeManager

end DataManagement
