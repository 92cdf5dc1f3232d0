import FleetWiseEdge.Inspection.Lemmas.Geohash
import FleetWiseEdge.Inspection.Lemmas.Configuration

/-!
This module contains how geohash conditions influence each other: the engine has one `GeohashFunctionNode`,
which every evaluation of a geohash node and every payload of a condition change.
-/

namespace DataInspection

open Cpp DataManagement

inductive GeohashEntry (V : Type) where
  | evaluated (s : CollectionInspectionEngine V) (e : Evaluation)
  | published (s : CollectionInspectionEngine V) (i : Nat) (mGeohashInfo : GeohashInfo)

/--
What is remembered of each condition: the geohash at its previous evaluation, and the geohash of the
evaluation that triggered it as long as its payload is to come.
-/
structure GeohashReader where
  own : Nat → Option String := fun _ => none
  pending : Nat → Option String := fun _ => none

namespace GeohashReader

variable {V : Type} [InspectionValue V]

def observe (r : GeohashReader) (entry : GeohashEntry V) : GeohashReader :=
  match entry with
  | .evaluated s e =>
    match s.latestGeohash e.index with
    | none => r
    | some geohash =>
      { own := Function.update r.own e.index (some geohash)
        pending := if e.triggered then Function.update r.pending e.index (some geohash) else r.pending }
  | .published _ i _ => { r with pending := Function.update r.pending i none }

/--
A geohash condition is true if its geohash differs from the one at its own previous evaluation, and the
payload of a condition carries the geohash with which it triggered.
-/
def Isolated (r : GeohashReader) (entry : GeohashEntry V) : Prop :=
  match entry with
  | .evaluated s e =>
    (s.geohashFunctionAt e.index).all fun (_, f) =>
      e.isTrue = (s.latestGeohash e.index).any fun geohash =>
        (r.own e.index).all fun previous =>
          geohashAt f.precision geohash ≠ geohashAt f.precision previous
  | .published _ i mGeohashInfo =>
    (r.pending i).all fun geohash => mGeohashInfo.mGeohashString = geohash

/--
The stored geohash compares to the current one as that of the condition's own previous evaluation does, and
it differs if there was none. When a condition is published, the node still has its geohash to be read.
-/
def Undisturbed (r : GeohashReader) (entry : GeohashEntry V) : Prop :=
  match entry with
  | .evaluated s e =>
    (s.geohashFunctionAt e.index).all fun (_, f) =>
      (s.latestGeohash e.index).all fun geohash =>
        let stored := s.mGeohashFunctionNode.mGeohashInfo.mGeohashString
        match r.own e.index with
        | none => geohashAt f.precision geohash ≠ geohashAt f.precision stored
        | some previous =>
          geohashAt f.precision geohash = geohashAt f.precision stored
            ↔ geohashAt f.precision geohash = geohashAt f.precision previous
  | .published s i _ =>
    (r.pending i).all fun geohash =>
      s.mGeohashFunctionNode.hasNewGeohash
        && s.mGeohashFunctionNode.mGeohashInfo.mGeohashString = geohash

def Complete (r : GeohashReader) : Prop :=
  ∀ i geohash, r.pending i = some geohash → geohash.length = Geohash.MAX_PRECISION

/--
What the engine does: it compares with the stored geohash, and a payload takes the geohash of the node if it
is new.
-/
def Shared (r : GeohashReader) (entry : GeohashEntry V) : Prop :=
  r.Complete
    ∧
  match entry with
  | .evaluated s e =>
    ∀ condition f, s.geohashFunctionAt e.index = some (condition, f) →
      e.isTrue = (s.latestGeohash e.index).any fun geohash =>
        geohashAt f.precision geohash
          ≠ geohashAt f.precision s.mGeohashFunctionNode.mGeohashInfo.mGeohashString
  | .published s _ mGeohashInfo =>
    mGeohashInfo
      = if s.mGeohashFunctionNode.hasNewGeohash then s.mGeohashFunctionNode.mGeohashInfo else {}

instance (r : GeohashReader) (entry : GeohashEntry V) : Decidable (r.Isolated entry) :=
  match entry with
  | .evaluated .. => inferInstanceAs (Decidable (_ = true))
  | .published .. => inferInstanceAs (Decidable (_ = true))

instance (r : GeohashReader) (entry : GeohashEntry V) : Decidable (r.Undisturbed entry) :=
  match entry with
  | .evaluated .. => inferInstanceAs (Decidable (_ = true))
  | .published .. => inferInstanceAs (Decidable (_ = true))

theorem isolated_iff {r : GeohashReader} {entry : GeohashEntry V} (h : r.Shared entry)
    : r.Isolated entry ↔ r.Undisturbed entry := by
  have ⟨hcomplete, hshared⟩ := h
  cases entry with
  | evaluated s e =>
    unfold Isolated Undisturbed
    dsimp only at hshared ⊢
    cases hf : s.geohashFunctionAt e.index with
    | none => exact Iff.rfl
    | some found =>
      have ⟨condition, f⟩ := found
      rw [Option.all_some, Option.all_some]
      dsimp only
      rw [hshared condition f hf]
      cases s.latestGeohash e.index with
      | none => simp
      | some geohash =>
        cases r.own e.index with
        | none => simp
        | some previous =>
          simp only [Option.any_some, Option.all_some, decide_eq_true_eq, decide_eq_decide]
          exact not_iff_not
  | published s i mGeohashInfo =>
    unfold Isolated Undisturbed
    dsimp only at hshared ⊢
    cases hpending : r.pending i with
    | none => exact Iff.rfl
    | some geohash =>
      have hlength := hcomplete i geohash hpending
      rw [hshared]
      simp only [Option.all_some, decide_eq_true_eq, Bool.and_eq_true]
      split
      . rename_i hnew
        simp [hnew]
      . rename_i hnot
        apply iff_of_false
        . intro hempty
          rw [← hempty] at hlength
          cases hlength
        . intro hheld
          exact hnot hheld.1

end GeohashReader

namespace CollectionInspectionEngine

variable {V : Type} [InspectionValue V] {s : CollectionInspectionEngine V} {r : GeohashReader}

def loopEntries (currentTime : Nat) (toEvaluate : Bitset) (remaining i : Nat)
    (s : CollectionInspectionEngine V)
    : List (GeohashEntry V) :=
  match remaining with
  | 0 => []
  | remaining + 1 =>
    let first := if toEvaluate.test i then s.evaluateCondition currentTime i else (s, [])
    first.2.map (.evaluated s) ++ loopEntries currentTime toEvaluate remaining (i + 1) first.1

def evaluationEntries (s : CollectionInspectionEngine V) (currentTime : Nat) : List (GeohashEntry V) :=
  let s := s.beforeEvaluation currentTime
  if s.conditionsToEvaluate.none MAX_NUMBER_OF_ACTIVE_CONDITION then
    []
  else
    loopEntries currentTime s.conditionsToEvaluate s.mConditions.length 0 s

def geohashEntries (s : CollectionInspectionEngine V) (event : EngineEvent V) : List (GeohashEntry V) :=
  match event with
  | .evaluateConditions currentTime => s.evaluationEntries currentTime
  | .collectNextDataToSend currentTime =>
    ((s.collectNextDataToSend currentTime).data.map fun (i, data) =>
      .published s i data.mGeohashInfo).toList
  | _ => []

def geohashStep (s : CollectionInspectionEngine V) (event : EngineEvent V)
    : CollectionInspectionEngine V × List (GeohashEntry V) :=
  ((s.step event).1, s.geohashEntries event)

def geohashTrace (s : CollectionInspectionEngine V) (events : List (EngineEvent V))
    : List (GeohashEntry V) :=
  (Machine.run geohashStep s events).2

structure Remembers (s : CollectionInspectionEngine V) (r : GeohashReader) : Prop where
  encoded : s.mGeohashFunctionNode.Encoded
  complete : r.Complete

open GeohashReader

omit [InspectionValue V] in
theorem GeohashReader.Complete.update {i : Nat} {geohash : String} (h : r.Complete)
    (hlength : geohash.length = Geohash.MAX_PRECISION)
    : GeohashReader.Complete { r with pending := Function.update r.pending i (some geohash) } := by
  intro j other hother
  dsimp only at hother
  by_cases hj : j = i
  . rw [hj, Function.update_self] at hother
    rw [← Option.some_inj.mp hother]
    exact hlength
  . rw [Function.update_of_ne hj] at hother
    exact h j other hother

theorem Remembers.afterEvaluation (h : Remembers s r) {condition : ActiveCondition V} {i : Nat}
    (currentTime : Nat) (hcond : s.mConditions[i]? = some condition)
    : let entry := .evaluated s ⟨i, s.isTrueNow condition, s.triggersNow condition i⟩
      r.Shared entry ∧ Remembers (s.afterEvaluation condition currentTime i) (r.observe entry) := by
  refine ⟨⟨h.complete, ?_⟩, ?_, ?_⟩
  . intro condition' f hf
    have heq := (geohashFunctionAt_eq_some hf).1
    rw [hcond] at heq
    rw [Option.some_inj.mp heq]
    exact isTrueNow_geohash h.encoded hf
  . unfold CollectionInspectionEngine.afterEvaluation
    dsimp only
    apply eval_snd GeohashFunctionNode.Encoded _ _ _ h.encoded
    intro node latitude longitude precision gpsUnitType hnode
    exact hnode.evaluateGeohash latitude longitude precision gpsUnitType
  . unfold observe
    dsimp only
    cases hlatest : s.latestGeohash i with
    | none => exact h.complete
    | some geohash =>
      dsimp only
      split
      . exact GeohashReader.Complete.update h.complete (latestGeohash_length hlatest)
      . exact h.complete

theorem Remembers.loopEntries {currentTime : Nat} {toEvaluate : Bitset} (remaining i : Nat)
    (h : Remembers s r)
    : let entries := s.loopEntries currentTime toEvaluate remaining i
      Machine.Always Shared observe r entries
        ∧
      Remembers (s.evaluateLoop currentTime toEvaluate remaining i).1 (entries.foldl observe r) := by
  induction remaining generalizing i s r with
  | zero => exact ⟨trivial, h⟩
  | succ remaining ih =>
    have hfirst : let first := if toEvaluate.test i then s.evaluateCondition currentTime i else (s, [])
        Machine.Always Shared observe r (first.2.map (.evaluated s))
          ∧ Remembers first.1 ((first.2.map (.evaluated s)).foldl observe r) := by
      dsimp only
      split
      . cases hcond : s.mConditions[i]? with
        | none =>
          rw [evaluateCondition_none hcond]
          exact ⟨trivial, h⟩
        | some condition =>
          by_cases hdue : isDue condition currentTime
          . rw [evaluateCondition_due hcond hdue]
            have hafter := h.afterEvaluation currentTime hcond
            exact ⟨⟨hafter.1, trivial⟩, hafter.2⟩
          . rw [evaluateCondition_not_due hcond hdue]
            exact ⟨trivial, h⟩
      . exact ⟨trivial, h⟩
    rw [evaluateLoop_succ]
    unfold CollectionInspectionEngine.loopEntries
    dsimp only at hfirst ⊢
    have hrest := ih (i + 1) hfirst.2
    rw [Machine.always_append, List.foldl_append]
    exact ⟨⟨hfirst.1, hrest.1⟩, hrest.2⟩

theorem Remembers.evaluateConditions (h : Remembers s r) (currentTime : Nat)
    : Machine.Always Shared observe r (s.evaluationEntries currentTime)
        ∧
      Remembers (s.evaluateConditions currentTime).1
        ((s.evaluationEntries currentTime).foldl observe r) := by
  have hbefore : Remembers (s.beforeEvaluation currentTime) r := by
    unfold beforeEvaluation
    split
    . exact ⟨h.encoded, h.complete⟩
    . exact h
  rw [evaluateConditions_split]
  unfold evaluationEntries evaluateMarked
  dsimp only
  split
  . exact ⟨trivial, hbefore⟩
  . exact hbefore.loopEntries _ 0

omit [InspectionValue V] in
theorem collectData_geohash (s : CollectionInspectionEngine V) (condition : ActiveCondition V)
    (conditionId : Nat)
    : (s.collectData condition conditionId).2.2.mGeohashInfo
        = (if s.mGeohashFunctionNode.hasNewGeohash then s.mGeohashFunctionNode.mGeohashInfo else {})
        ∧
      (s.collectData condition conditionId).1.mGeohashFunctionNode
        = (if s.mGeohashFunctionNode.hasNewGeohash then
            s.mGeohashFunctionNode.consumeGeohash
          else
            s.mGeohashFunctionNode) := by
  have ⟨_, _, hframe⟩ := collectSamples_frame s condition conditionId
  unfold collectData
  dsimp only
  rw [hframe]
  split
  . refine ⟨rfl, ?_⟩
    split <;> rfl
  . refine ⟨rfl, ?_⟩
    split <;> rfl

theorem Remembers.publish (h : Remembers s r) (condition : ActiveCondition V) (i currentTime : Nat)
    : let entry := .published s i (s.publish condition i currentTime).2.1.mGeohashInfo
      r.Shared entry ∧ Remembers (s.publish condition i currentTime).1 (r.observe entry) := by
  have hcollected := collectData_geohash (s.generateEventID currentTime).1
    { condition with mEventID := (s.generateEventID currentTime).2 } i
  refine ⟨⟨h.complete, hcollected.1⟩, ?_, ?_⟩
  . have hnode : (s.publish condition i currentTime).1.mGeohashFunctionNode = _ := hcollected.2
    rw [hnode]
    split
    . exact h.encoded.consumeGeohash
    . exact h.encoded
  . intro j geohash hgeohash
    unfold observe at hgeohash
    dsimp only at hgeohash
    by_cases hj : j = i
    . rw [hj, Function.update_self] at hgeohash
      cases hgeohash
    . rw [Function.update_of_ne hj] at hgeohash
      exact h.complete j geohash hgeohash

theorem Remembers.geohashStep (h : Remembers s r) (event : EngineEvent V)
    : Machine.Always Shared observe r (s.geohashStep event).2
        ∧
      Remembers (s.geohashStep event).1 ((s.geohashStep event).2.foldl observe r) := by
  cases event with
  | addNewSignal id receiveTime value => exact ⟨trivial, h.encoded, h.complete⟩
  | addNewRawCanFrame canID channelID receiveTime buffer size =>
    exact ⟨trivial, h.encoded, h.complete⟩
  | setActiveDTCs activeDTCs => exact ⟨trivial, h.encoded, h.complete⟩
  | evaluateConditions currentTime => exact h.evaluateConditions currentTime
  | collectNextDataToSend currentTime =>
    have ⟨s', ⟨_, _, _, hskimmed⟩, hcases⟩ := collectNextDataToSend_spec s currentTime
    have hnode : s'.mGeohashFunctionNode = s.mGeohashFunctionNode := by rw [hskimmed]
    have h' : Remembers s' r := by
      refine ⟨?_, h.complete⟩
      rw [hnode]
      exact h.encoded
    unfold CollectionInspectionEngine.geohashStep geohashEntries step
    dsimp only
    rcases hcases with ⟨hdata, hengine⟩ | ⟨i, condition, _, hdata, hengine⟩
    . rw [hdata, hengine]
      exact ⟨trivial, h'⟩
    . rw [hdata, hengine]
      have hpublish := h'.publish condition i currentTime
      refine ⟨⟨?_, trivial⟩, hpublish.2⟩
      have hshared := hpublish.1
      unfold Shared at hshared ⊢
      dsimp only at hshared ⊢
      rw [← hnode]
      exact hshared

end CollectionInspectionEngine

open CollectionInspectionEngine GeohashReader

theorem geohash_isolation {V : Type} [InspectionValue V] (s : CollectionInspectionEngine V)
    (hnode : s.mGeohashFunctionNode.Encoded) (events : List (EngineEvent V))
    : Machine.Always Isolated observe {} (s.geohashTrace events)
        ↔
      Machine.Always Undisturbed observe {} (s.geohashTrace events) := by
  have hinitial : Remembers s {} := ⟨hnode, nofun⟩
  have hshared := Machine.run_monitored_from Remembers (fun s r event h => h.geohashStep event)
    hinitial events
  apply Machine.always_congr_of _ hshared
  intro r entry
  exact isolated_iff

def geohashCondition : ConditionWithCollectedData Rat where
  condition := some 0
  minimumPublishInterval := 0
  afterDuration := 0
  signals := [⟨1, 50, 0, 77777, true⟩, ⟨2, 50, 0, 77777, true⟩]
  canFrames := []
  includeActiveDtcs := false
  triggerOnlyOnRisingEdge := false
  probabilityToSend := 1
  metaData := {}
  imageCollectionInfos := []
  includeImageCapture := false

def geohashEngine (conditions : Nat) : CollectionInspectionEngine Rat :=
  emptyEngine.onChangeInspectionMatrix (.inserted Rat)
    ⟨List.replicate conditions geohashCondition,
      [{ nodeType := .GEOHASHFUNCTION, floatingValue := 0, function :=
        { geohashFunction := { latitudeSignalID := 1, longitudeSignalID := 2, precision := 5 } } }]⟩

def positionEvents : List (EngineEvent Rat) :=
  [.addNewSignal 1 1 37, .addNewSignal 2 1 (-122), .evaluateConditions 1, .collectNextDataToSend 1]

theorem geohash_isolation_alone
    : Machine.Always Isolated observe {} ((geohashEngine 1).geohashTrace positionEvents) := by
  rw [geohash_isolation (geohashEngine 1) (Or.inl (by decide +kernel)) positionEvents]
  decide +kernel

theorem geohash_isolation_twoConditions
    : ¬Machine.Always Isolated observe {} ((geohashEngine 2).geohashTrace positionEvents) := by
  decide +kernel

end DataInspection
