import FleetWiseEdge.Lib.Machine
import FleetWiseEdge.Manager.Impl.Run

/-!
This module contains the collection scheme manager as a machine: the single calls of its functions in any
order, and the thread that executes `doWork` while documents arrive and the device restarts.
-/

namespace DataManagement

open DataInspection
open CollectionSchemeManager (Extraction PassTimes)

def DEFAULT_CHECKIN_INTERVAL_IN_MILLISECOND : Nat := 300000

structure ManagerConfig (V : Type) where
  checkinIntervalMsec : Nat
  schemaPersistencyPtr : Option (SchemaPersistency V) := none
  canIDTranslator : CANInterfaceIDTranslator := .empty
  schemaListenerPtr : Option SchemaListener := none
  useLocalDictionary : Bool := false

namespace CollectionSchemeManager

variable {V : Type}

def init (config : ManagerConfig V) : CollectionSchemeManager V where
  mCheckinIntervalInMsec :=
    if config.checkinIntervalMsec > 0 then
      config.checkinIntervalMsec
    else
      DEFAULT_CHECKIN_INTERVAL_IN_MILLISECOND
  mSchemaPersistency := config.schemaPersistencyPtr
  mCANIDTranslator := config.canIDTranslator
  mSchemaListenerPtr := config.schemaListenerPtr
  mUseLocalDictionary := config.useLocalDictionary

def restart (s : CollectionSchemeManager V) : CollectionSchemeManager V where
  mCheckinIntervalInMsec := s.mCheckinIntervalInMsec
  mSchemaPersistency := s.mSchemaPersistency
  mCANIDTranslator := s.mCANIDTranslator
  mSchemaListenerPtr := s.mSchemaListenerPtr
  mUseLocalDictionary := s.mUseLocalDictionary

end CollectionSchemeManager

/--
The calls that change a manager. A document that arrives was not built yet.
-/
inductive ManagerCall (V : Type) where
  | onCollectionSchemeUpdate (content : Option (List (CollectionScheme V)))
  | onDecoderManifestUpdate (content : Option (DecoderManifest V))
  | updateAvailable
  | prepareCheckinTimer (currTime : Nat)
  | processDecoderManifest (currTime : Nat)
  | processCollectionScheme (currTime : Nat)
  | checkTimeLine (currTime : Nat)
  | cleanupCollectionSchemes
  | retrieveCollectionSchemeList
  | retrieveDecoderManifest
  | restart

namespace ManagerCall

variable {V : Type}

def call (fuel : Nat) (s : CollectionSchemeManager V) (c : ManagerCall V)
    : Option (CollectionSchemeManager V × Option Bool) :=
  match c with
  | .onCollectionSchemeUpdate content => some (s.onCollectionSchemeUpdate (some { content }), none)
  | .onDecoderManifestUpdate content => some (s.onDecoderManifestUpdate (some { content }), none)
  | .updateAvailable => some (s.updateAvailable, none)
  | .prepareCheckinTimer currTime => some (s.prepareCheckinTimer currTime, none)
  | .processDecoderManifest currTime =>
    let (s, changed) := s.processDecoderManifest currTime
    some (s, some changed)
  | .processCollectionScheme currTime =>
    let (s, changed) := s.processCollectionScheme currTime
    some (s, some changed)
  | .checkTimeLine currTime =>
    (s.checkTimeLine fuel currTime).map fun (s, changed) => (s, some changed)
  | .cleanupCollectionSchemes => some (s.cleanupCollectionSchemes, none)
  | .retrieveCollectionSchemeList => some (s.retrieveCollectionSchemeList, none)
  | .retrieveDecoderManifest => some (s.retrieveDecoderManifest, none)
  | .restart => some (s.restart, none)

def next (fuel : Nat) (state : Option (CollectionSchemeManager V)) (c : ManagerCall V)
    : Option (CollectionSchemeManager V) :=
  state.bind fun s => (call fuel s c).map (·.1)

end ManagerCall

structure Worker (V : Type) where
  manager : CollectionSchemeManager V
  enabledCollectionSchemeMapChanged : Bool := false

/--
What happens to the thread. `process` is the pass of its loop from `updateAvailable` up to the timeline,
`checkTimeLine` the rest of it, `restart` the begin of `doWork` in the next process.
-/
inductive WorkEvent (V : Type) where
  | onCollectionSchemeUpdate (content : Option (List (CollectionScheme V)))
  | onDecoderManifestUpdate (content : Option (DecoderManifest V))
  | process (manifestTime listTime : Nat)
  | checkTimeLine (currTime : Nat)
  | restart (startTime manifestTime listTime : Nat)

structure Observation (V : Type) where
  mEnabledCollectionSchemeMap : SchemeMap V
  mIdleCollectionSchemeMap : SchemeMap V
  currentDecoderManifestID : String
  extraction : Option (Extraction V)

namespace Worker

variable {V : Type}

def processAvailable (w : Worker V) (manifestTime listTime : Nat) : Worker V :=
  let (manager, manifestChanged) := w.manager.processAvailableManifest manifestTime
  let (manager, listChanged) := manager.processAvailableList listTime
  { manager
    enabledCollectionSchemeMapChanged :=
      w.enabledCollectionSchemeMapChanged || manifestChanged || listChanged }

def process (w : Worker V) (manifestTime listTime : Nat) : Worker V :=
  { w with manager := w.manager.updateAvailable }.processAvailable manifestTime listTime

-- `doWork` before its loop, and the documents it has read are processed before it waits for new ones.
def start (config : ManagerConfig V) (startTime manifestTime listTime : Nat) : Worker V :=
  { manager := (CollectionSchemeManager.init config).prepareWork startTime : Worker V }.processAvailable
    manifestTime listTime

def restart (w : Worker V) (startTime manifestTime listTime : Nat) : Worker V :=
  { manager := w.manager.restart.prepareWork startTime : Worker V }.processAvailable manifestTime listTime

variable [InspectionValue V]

def checkTimeLine (fuel : Nat) (w : Worker V) (currTime : Nat)
    : Option (Worker V × Option (Extraction V)) :=
  (w.manager.checkTimeLine fuel currTime).map fun (manager, timeLineChanged) =>
    ({ manager },
      if w.enabledCollectionSchemeMapChanged || timeLineChanged then some manager.extract else none)

def observe (w : Worker V) (extraction : Option (Extraction V)) : Observation V where
  mEnabledCollectionSchemeMap := w.manager.mEnabledCollectionSchemeMap
  mIdleCollectionSchemeMap := w.manager.mIdleCollectionSchemeMap
  currentDecoderManifestID := w.manager.currentDecoderManifestID
  extraction

def step (fuel : Nat) (state : Option (Worker V)) (e : WorkEvent V)
    : Option (Worker V) × List (Observation V) :=
  match state with
  | none => (none, [])
  | some w =>
    match e with
    | .onCollectionSchemeUpdate content =>
      (some { w with manager := w.manager.onCollectionSchemeUpdate (some { content }) }, [])
    | .onDecoderManifestUpdate content =>
      (some { w with manager := w.manager.onDecoderManifestUpdate (some { content }) }, [])
    | .process manifestTime listTime =>
      let w := w.process manifestTime listTime
      (some w, [w.observe none])
    | .checkTimeLine currTime =>
      match w.checkTimeLine fuel currTime with
      | none => (none, [])
      | some (w, extraction) => (some w, [w.observe extraction])
    | .restart startTime manifestTime listTime =>
      let w := w.restart startTime manifestTime listTime
      (some w, [w.observe none])

-- A pass of the loop of `doWork` is a step that processes the documents and one that checks the timeline.
theorem doWorkPass_eq (fuel : Nat) (s : CollectionSchemeManager V)
    (times : PassTimes)
    : s.doWorkPass fuel times
        =
      ((Worker.processAvailable { manager := s } times.decoderManifest times.collectionScheme).checkTimeLine
        fuel times.check).map fun (w, extraction) => (w.manager, extraction) := by
  simp [CollectionSchemeManager.doWorkPass, processAvailable, checkTimeLine, Function.comp_def]

end Worker

end DataManagement
