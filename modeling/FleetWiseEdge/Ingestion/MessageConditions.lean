import FleetWiseEdge.Ingestion.Trees
import FleetWiseEdge.Inspection.Lemmas.Configuration
import FleetWiseEdge.Manager.Lemmas.Origins

/-!
This module contains the proof that the conditions which the inspection engine evaluates have the meaning that
the received messages give them, from the bytes of a document on.
-/

namespace CollectionSchemesMsg

variable {V : Type}

/--
The condition of a collection scheme. One that is time based has a condition that is always true.
-/
def CollectionSchemeType.conditionTree (collection_scheme_type : CollectionSchemeType V)
    : Option (ConditionNode V) :=
  match collection_scheme_type with
  | .conditionBasedCollectionScheme scheme => some scheme.condition_tree
  | .timeBasedCollectionScheme _ => some (.nodeBooleanValue true)
  | .notSet => none

def ConditionNode.isSet (node : ConditionNode V) : Bool :=
  match node with
  | .nodeOperator _ none _ | .nodeFunction .notSet | .notSet => false
  | _ => true

end CollectionSchemesMsg

namespace DataManagement

open Cpp CollectionSchemesMsg DataInspection CollectionSchemeIngestion

section Expression

variable {V : Type} [InspectionValue V]

theorem buildCondition_within (address : Nat → Nat) (tree : ConditionNode V)
    : Within address (buildCondition tree).2.mExpressionNodes MAX_EQUATION_DEPTH (buildCondition tree).1 0
        (buildCondition tree).2.nextIndex := by
  have hfresh : Fresh (NodeVector.resize (V := V) (getNumberOfNodes tree MAX_EQUATION_DEPTH)) := by
    intro i n _ hn
    have hn := List.mem_of_getElem? hn
    simp only [NodeVector.resize, List.mem_replicate] at hn
    rw [hn.2]
    exact ⟨rfl, rfl⟩
  apply serializeNode_within hfresh
  . simp [NodeVector.resize]
  . intro i _ _
    rfl

theorem buildExpression_within (address : Nat → Nat) (collection_scheme_type : CollectionSchemeType V)
    : ∃ high, Within address (buildExpression collection_scheme_type).2 MAX_EQUATION_DEPTH
        (buildExpression collection_scheme_type).1 0 high := by
  cases collection_scheme_type with
  | notSet => exact ⟨0, Within.null 0 0⟩
  | timeBasedCollectionScheme scheme => exact ⟨1, Within.leaf rfl rfl rfl⟩
  | conditionBasedCollectionScheme scheme => exact ⟨_, buildCondition_within address scheme.condition_tree⟩

variable {collection_scheme_type : CollectionSchemeType V} {tree : ConditionNode V}

theorem eval_buildExpression (htree : collection_scheme_type.conditionTree = some tree)
    (buffers : List (SignalHistoryBuffer V)) (condition : ActiveCondition V) (geohash : GeohashFunctionNode)
    (depth : Nat)
    : eval (buildExpression collection_scheme_type).2 buffers (buildExpression collection_scheme_type).1
          condition geohash depth
        =
      eval (buildCondition tree).2.mExpressionNodes buffers (buildCondition tree).1 condition geohash depth := by
  cases collection_scheme_type with
  | notSet => cases htree
  | conditionBasedCollectionScheme scheme =>
    cases htree
    rfl
  | timeBasedCollectionScheme scheme =>
    cases htree
    cases depth <;> rfl

theorem eval_buildCondition (hgeohash : tree.hasGeohash = false) (buffers : List (SignalHistoryBuffer V))
    (condition : ActiveCondition V) (geohash : GeohashFunctionNode)
    : eval (buildCondition tree).2.mExpressionNodes buffers (buildCondition tree).1 condition geohash
          MAX_EQUATION_DEPTH
        =
      (reference (fun id => getLatestSignalValue buffers id condition)
          (fun function id => getSampleWindowFunction buffers function id condition) tree MAX_EQUATION_DEPTH,
        geohash) := by
  apply serializeNode_meaning hgeohash
  . simp [NodeVector.resize]
  . intro i _ _
    rfl

theorem buildExpression_ne_none (htree : collection_scheme_type.conditionTree = some tree)
    (hset : tree.isSet = true)
    : (buildExpression collection_scheme_type).1 ≠ none := by
  cases collection_scheme_type with
  | notSet => cases htree
  | timeBasedCollectionScheme scheme => simp [buildExpression]
  | conditionBasedCollectionScheme scheme =>
    cases htree
    simp only [buildExpression, buildCondition]
    generalize NodeVector.resize (V := V) (getNumberOfNodes scheme.condition_tree MAX_EQUATION_DEPTH) = nodes
    unfold MAX_EQUATION_DEPTH serializeNode
    cases hnode : scheme.condition_tree with
    | notSet => simp [hnode, ConditionNode.isSet] at hset
    | nodeDoubleValue value => simp
    | nodeSignalId id => simp
    | nodeBooleanValue value => simp
    | nodeFunction function =>
      cases function with
      | notSet => simp [hnode, ConditionNode.isSet] at hset
      | windowFunction signal_id window_type => simp
      | geohashFunction latitude longitude precision gps_unit => simp
    | nodeOperator op left_child right_child =>
      cases left_child with
      | none => simp [hnode, ConditionNode.isSet] at hset
      | some left_child =>
        dsimp only
        split
        . simp
        . cases right_child with
          | none => simp
          | some right_child =>
            dsimp only
            split <;> simp

end Expression

section Ingested

variable {V : Type} [InspectionValue V]

/--
The collection scheme was built from the message. Its nodes have different addresses.
-/
structure Ingested (message : CollectionSchemesMsg.CollectionScheme V) (c : CollectionScheme V) : Prop where
  built : (copyData message).build.2 = true
  scheme : ∃ address, Function.Injective address ∧ c = (copyData message).build.1.collectionScheme address

namespace Ingested

variable {message : CollectionSchemesMsg.CollectionScheme V} {c : CollectionScheme V}

theorem build_eq (h : (copyData message).build.2 = true)
    : message.campaign_arn ≠ "" ∧ message.decoder_manifest_arn ≠ ""
        ∧ message.start_time_ms_epoch ≤ message.expiry_time_ms_epoch
        ∧ (copyData message).build.1
          =
        { mProtoCollectionSchemeMessagePtr := message
          mReady := true
          mCollectedSignals := message.signal_information.map readSignalInformation
          mCollectedRawCAN := message.raw_can_frames_to_collect.map readRawCanFrame
          mImagesCaptureData := message.image_data.filterMap readImageData
          mExpressionNode := (buildExpression message.collection_scheme_type).1
          mExpressionNodes := (buildExpression message.collection_scheme_type).2 } := by
  unfold build at h ⊢
  dsimp only [copyData] at h ⊢
  by_cases hid : message.campaign_arn = "" ∨ message.decoder_manifest_arn = ""
  . rw [if_pos hid] at h
    cases h
  . rw [if_neg hid] at h ⊢
    by_cases htime : message.expiry_time_ms_epoch < message.start_time_ms_epoch
    . rw [if_pos htime] at h
      cases h
    . rw [if_neg htime] at h ⊢
      rw [not_or] at hid
      exact ⟨hid.1, hid.2, by omega, rfl⟩

theorem collectionSchemeID (h : Ingested message c) : c.collectionSchemeID = message.campaign_arn := by
  have ⟨address, _, heq⟩ := h.scheme
  have ⟨_, _, _, hbuild⟩ := build_eq h.built
  rw [heq, hbuild]
  rfl

theorem condition (h : Ingested message c)
    : ∃ address, Function.Injective address
        ∧ c.condition = treeOf address (buildExpression message.collection_scheme_type).2 MAX_EQUATION_DEPTH
          (buildExpression message.collection_scheme_type).1 := by
  have ⟨address, hinjective, heq⟩ := h.scheme
  have ⟨_, _, _, hbuild⟩ := build_eq h.built
  refine ⟨address, hinjective, ?_⟩
  rw [heq, hbuild]
  rfl

theorem unfolds (h : Ingested message c)
    : Unfolds (buildExpression message.collection_scheme_type).2
        (buildExpression message.collection_scheme_type).1 c.condition := by
  have ⟨address, _, hcondition⟩ := h.condition
  have ⟨high, hwithin⟩ := buildExpression_within address message.collection_scheme_type
  rw [hcondition]
  exact hwithin.unfolds

theorem nodup_addresses (h : Ingested message c) : c.condition.addresses.Nodup := by
  have ⟨address, hinjective, hcondition⟩ := h.condition
  have ⟨high, hwithin⟩ := buildExpression_within address message.collection_scheme_type
  have ⟨indices, haddresses, hnodup, _⟩ := hwithin.indices
  rw [hcondition, haddresses]
  exact hnodup.map hinjective

theorem condition_ne_null {tree : ConditionNode V} (h : Ingested message c)
    (htree : message.collection_scheme_type.conditionTree = some tree) (hset : tree.isSet = true)
    : c.condition ≠ .null := by
  intro hnull
  have hunfolds := h.unfolds
  rw [hnull] at hunfolds
  generalize hptr : (buildExpression message.collection_scheme_type).1 = ptr at hunfolds
  cases hunfolds with
  | null => exact buildExpression_ne_none htree hset hptr

end Ingested

end Ingested

section Matrix

variable {V : Type} [InspectionValue V] {schemes : List (CollectionScheme V)}

def DisjointNodes (schemes : List (CollectionScheme V)) : Prop :=
  ∀ c ∈ schemes, ∀ c' ∈ schemes, c.collectionSchemeID ≠ c'.collectionSchemeID →
    ∀ a ∈ c.condition.addresses, a ∉ c'.condition.addresses

omit [InspectionValue V] in
theorem noneShared_of_disjointNodes (hids : schemes.Pairwise (·.collectionSchemeID ≠ ·.collectionSchemeID))
    (hnodup : ∀ c ∈ schemes, c.condition.addresses.Nodup) (hdisjoint : DisjointNodes schemes)
    : NoneShared schemes := by
  unfold NoneShared
  rw [List.nodup_flatMap]
  refine ⟨hnodup, ?_⟩
  apply hids.imp_of_mem
  intro c c' hc hc' hne a ha ha'
  exact hdisjoint c hc c' hc' hne a ha ha'

omit [InspectionValue V] in
theorem pairwise_values {m : SchemeMap V}
    (h : ∀ (id : String) c, m[id]? = some c → c.collectionSchemeID = id)
    : m.values.Pairwise (·.collectionSchemeID ≠ ·.collectionSchemeID) := by
  rw [SchemeMap.values_eq, List.pairwise_map]
  apply Std.ExtTreeMap.distinct_keys_toList.imp_of_mem
  intro (id, c) (id', c') hmem hmem' hne heq
  have hc := h id c (Std.ExtTreeMap.mem_toList_iff_getElem?_eq_some.mp hmem)
  have hc' := h id' c' (Std.ExtTreeMap.mem_toList_iff_getElem?_eq_some.mp hmem')
  apply hne
  dsimp only at heq ⊢
  rw [← hc, ← hc', heq, Std.compare_self]

variable {received : CollectionSchemesMsg.CollectionScheme V → Prop} {s : CollectionSchemeManager V}

theorem eval_matrix
    (horigins : CollectionSchemeManager.Origins (fun c => ∃ message, received message ∧ Ingested message c) s)
    (hdisjoint : DisjointNodes s.enabledCollectionSchemes) {i : Nat} {p : ConditionWithCollectedData V}
    (hp : s.inspectionMatrixExtractor.conditions[i]? = some p)
    : ∃ message, received message ∧ message.campaign_arn = p.metaData.collectionSchemeID
        ∧ ∀ tree, message.collection_scheme_type.conditionTree = some tree → tree.isSet = true →
          ∀ buffers condition geohash depth,
            eval s.inspectionMatrixExtractor.expressionNodeStorage buffers p.condition condition geohash depth
              =
            eval (buildCondition tree).2.mExpressionNodes buffers (buildCondition tree).1 condition geohash
              depth := by
  have hfrom : ∀ c ∈ s.enabledCollectionSchemes, ∃ message, received message ∧ Ingested message c := by
    intro c hc
    have ⟨id, hid⟩ := SchemeMap.mem_values_iff.mp hc
    exact (horigins.maps.enabled id c hid).2
  have hshared : NoneShared s.enabledCollectionSchemes := by
    apply noneShared_of_disjointNodes ?_ ?_ hdisjoint
    . apply pairwise_values
      intro id c hc
      exact (horigins.maps.enabled id c hc).1
    . intro c hc
      have ⟨message, _, hingested⟩ := hfrom c hc
      exact hingested.nodup_addresses
  have hconditions : s.inspectionMatrixExtractor.conditions = _ :=
    extractMatrix_conditions s.mCANIDTranslator s.enabledCollectionSchemes
  rw [hconditions, List.getElem?_map, Option.map_eq_some_iff] at hp
  have ⟨c, hc, heq⟩ := hp
  have hmem := List.mem_of_getElem? hc
  have ⟨message, hreceived, hingested⟩ := hfrom c hmem
  refine ⟨message, hreceived, ?_, ?_⟩
  . rw [← heq]
    exact hingested.collectionSchemeID.symm
  . intro tree htree hset buffers condition geohash depth
    have hunfolds : Unfolds s.inspectionMatrixExtractor.expressionNodeStorage
        (elementPtr (allNodes s.enabledCollectionSchemes)
          ((flattenAll s.enabledCollectionSchemes).indexOf c.condition.ptr)) c.condition :=
      unfolds_condition hshared hmem (hingested.condition_ne_null htree hset)
    rw [← heq, ← eval_buildExpression htree]
    exact eval_of_unfolds hunfolds hingested.unfolds buffers condition geohash depth

end Matrix

section Evaluations

variable {V : Type} [InspectionValue V] {s : CollectionInspectionEngine V}

open CollectionInspectionEngine

theorem mem_evaluateConditions {currentTime : Nat} {e : Evaluation}
    (h : e ∈ (s.evaluateConditions currentTime).2)
    : ∃ s', SameConfiguration (s.beforeEvaluation currentTime) s'
        ∧ s'.mSignalBuffers = (s.beforeEvaluation currentTime).mSignalBuffers
        ∧ ∃ ac, s'.mConditions[e.index]? = some ac ∧ e.isTrue = s'.isTrueNow ac := by
  rw [evaluateConditions_split] at h
  generalize s.beforeEvaluation currentTime = start at h ⊢
  unfold evaluateMarked at h
  split at h
  . cases h
  . revert h
    apply evaluateLoop_induction (motive := fun _ s _ log => e ∈ log →
      ∃ s', SameConfiguration s s' ∧ s'.mSignalBuffers = s.mSignalBuffers
        ∧ ∃ ac, s'.mConditions[e.index]? = some ac ∧ e.isTrue = s'.isTrueNow ac)
    . intro _ _ hmem
      cases hmem
    . intro _ _ _ _ hrest
      exact hrest
    . intro i s _ log ac hac _ _ _ hrest hmem
      cases List.mem_cons.mp hmem with
      | inl hself =>
        rw [hself]
        exact ⟨s, SameConfiguration.refl s, rfl, ac, hac, rfl⟩
      | inr hmem =>
        have ⟨s', hsame, hbuffers, hevaluated⟩ := hrest hmem
        exact ⟨s', (afterEvaluation_sameConfiguration s ac currentTime i).trans hsame, hbuffers, hevaluated⟩
    . intro j _ htest
      unfold conditionsToEvaluate at htest
      rw [Bitset.test_and, Bool.and_eq_true] at htest
      exact htest.2

theorem run_sameConfiguration (s : CollectionInspectionEngine V) (events : List (EngineEvent V))
    : SameConfiguration s (s.run events).1 := by
  induction events generalizing s with
  | nil => exact SameConfiguration.refl s
  | cons event events ih => exact (step_sameConfiguration s event).trans (ih (s.step event).1)

theorem beforeEvaluation_sameConfiguration (s : CollectionInspectionEngine V) (currentTime : Nat)
    : SameConfiguration s (s.beforeEvaluation currentTime) := by
  unfold beforeEvaluation
  split
  . exact updateAllFixedWindowFunctions_sameConfiguration s currentTime
  . exact SameConfiguration.refl s

end Evaluations

section Received

variable {V : Type} [InspectionValue V]

namespace CollectionSchemeIngestionList

/--
What `build` makes of the bytes of a document, `memory i` is where the nodes of its `i`th collection scheme are.
-/
def contentOf (parseFromArray : List UInt8 → Option (CollectionSchemes V)) (memory : Nat → Nat → Nat)
    (data : List UInt8)
    : Option (List (CollectionScheme V)) :=
  if data.isEmpty then
    none
  else
    (parseFromArray data).map fun message =>
      (Members.buildAll message).mapIdx fun i pICPPtr => pICPPtr.collectionScheme (memory i)

/--
The list was built from one of the documents. Different nodes of it have different addresses.
-/
def FromDocument (parseFromArray : List UInt8 → Option (CollectionSchemes V)) (documents : List (List UInt8))
    (content : List (CollectionScheme V))
    : Prop :=
  ∃ data ∈ documents, ∃ memory, (∀ i, Function.Injective (memory i))
    ∧ contentOf parseFromArray memory data = some content

def Received (parseFromArray : List UInt8 → Option (CollectionSchemes V)) (documents : List (List UInt8))
    (message : CollectionSchemesMsg.CollectionScheme V)
    : Prop :=
  ∃ data ∈ documents, ∃ document, parseFromArray data = some document ∧ message ∈ document.collection_schemes

variable {parseFromArray : List UInt8 → Option (CollectionSchemes V)}

theorem mem_buildAll {message : CollectionSchemes V} {pICPPtr : CollectionSchemeIngestion V}
    : pICPPtr ∈ Members.buildAll message
        ↔
      ∃ scheme ∈ message.collection_schemes,
        (copyData scheme).build.2 = true ∧ pICPPtr = (copyData scheme).build.1 := by
  unfold Members.buildAll
  rw [List.mem_filterMap]
  constructor
  . intro ⟨scheme, hmem, hbuilt⟩
    refine ⟨scheme, hmem, ?_⟩
    dsimp only at hbuilt
    split at hbuilt
    . next htrue =>
      cases hbuilt
      exact ⟨htrue, rfl⟩
    . cases hbuilt
  . intro ⟨scheme, hmem, hbuilt, heq⟩
    refine ⟨scheme, hmem, ?_⟩
    dsimp only
    rw [if_pos hbuilt, heq]

theorem FromDocument.ingested {documents : List (List UInt8)} {content : List (CollectionScheme V)}
    (h : FromDocument parseFromArray documents content)
    : ∀ c ∈ content, ∃ message, Received parseFromArray documents message ∧ Ingested message c := by
  intro c hc
  obtain ⟨data, hdata, memory, hinjective, hcontent⟩ := h
  unfold contentOf at hcontent
  split at hcontent
  . cases hcontent
  . obtain ⟨document, hparse, heq⟩ := Option.map_eq_some_iff.mp hcontent
    rw [← heq, List.mem_mapIdx] at hc
    obtain ⟨i, hi, hscheme⟩ := hc
    obtain ⟨message, hmem, hbuilt, hobject⟩ := mem_buildAll.mp (List.getElem_mem hi)
    refine ⟨message, ⟨data, hdata, document, hparse, hmem⟩, hbuilt, memory i,
      hinjective i, ?_⟩
    rw [← hscheme, hobject]

end CollectionSchemeIngestionList

open CollectionInspectionEngine CollectionSchemeIngestionList
open CollectionSchemeManager (ListFrom)

def ManagerConfig.HasList (config : ManagerConfig V) (content : List (CollectionScheme V)) : Prop :=
  ∃ p ∈ config.schemaPersistencyPtr, ∃ list, p.collectionSchemeList = some list ∧ list.content = some content

def HasList (config : ManagerConfig V) (calls : List (ManagerCall V)) (content : List (CollectionScheme V))
    : Prop :=
  config.HasList content ∨ .onCollectionSchemeUpdate (some content) ∈ calls

/--
`documents` have arrived or were stored. Whatever the manager and the engine do, a condition that is evaluated
belongs to a message of one of them. If the root of its tree is set and there is no geohash function in it, the
result is what the reference semantics says about the tree.
-/
theorem evaluation_of_message (parseFromArray : List UInt8 → Option (CollectionSchemes V))
    (documents : List (List UInt8)) (config : ManagerConfig V) (calls : List (ManagerCall V)) (fuel : Nat)
    (hlists : ∀ content, HasList config calls content → FromDocument parseFromArray documents content)
    {manager : CollectionSchemeManager V}
    (hrun : calls.foldl (ManagerCall.next fuel) (some (CollectionSchemeManager.init config)) = some manager)
    (hmemory : DisjointNodes manager.enabledCollectionSchemes)
    (haccepted : manager.inspectionMatrixExtractor.Accepted)
    (engine : CollectionInspectionEngine V) (order : IterationOrder V) (events : List (EngineEvent V))
    (currentTime : Nat)
    : let s := ((engine.onChangeInspectionMatrix order manager.inspectionMatrixExtractor).run events).1
      ∀ e ∈ (s.evaluateConditions currentTime).2,
        ∃ ac, s.mConditions[e.index]? = some ac
          ∧ ∃ message, Received parseFromArray documents message
            ∧ message.campaign_arn = ac.mCondition.metaData.collectionSchemeID
            ∧ ∀ tree, message.collection_scheme_type.conditionTree = some tree → tree.isSet = true →
              tree.hasGeohash = false →
                let buffers := (s.beforeEvaluation currentTime).mSignalBuffers
                e.isTrue
                  =
                (reference (fun id => getLatestSignalValue buffers id ac)
                  (fun function id => getSampleWindowFunction buffers function id ac) tree
                  MAX_EQUATION_DEPTH).isTrue := by
  intro s e he
  have horigins : CollectionSchemeManager.Origins
      (fun c => ∃ message, Received parseFromArray documents message ∧ Ingested message c) manager := by
    apply (CollectionSchemeManager.Origins.init config ?_).calls ?_ hrun
    . intro p hp list content hlist hcontent
      exact (hlists content (Or.inl ⟨p, hp, list, hlist, hcontent⟩)).ingested
    . intro content hmem
      exact (hlists content (Or.inr hmem)).ingested
  have ⟨s', hsame, hbuffers, ac', hac', htrue⟩ := mem_evaluateConditions he
  have hsetup : SameConfiguration
      (engine.onChangeInspectionMatrix order manager.inspectionMatrixExtractor) s :=
    run_sameConfiguration _ events
  have hbefore := beforeEvaluation_sameConfiguration s currentTime
  have ⟨ac, hac, hconf⟩ := (hbefore.trans hsame).getElem? hac'
  have ⟨hactive, _⟩ := activeCondition_of_sameConfiguration order haccepted hsetup hac
  have hp : manager.inspectionMatrixExtractor.conditions[e.index]? = some ac.mCondition := by
    unfold activeConditions at hactive
    rw [List.getElem?_take] at hactive
    split at hactive
    . exact hactive
    . cases hactive
  have ⟨message, hreceived, hid, heval⟩ := eval_matrix horigins hmemory hp
  refine ⟨ac, hac, message, hreceived, hid, ?_⟩
  intro tree htree hset hgeohash
  have hstorage : s'.mActiveInspectionMatrix = manager.inspectionMatrixExtractor := by
    rw [(hsetup.trans (hbefore.trans hsame)).matrix]
    exact (onChangeInspectionMatrix_settings order haccepted).2.2
  have hvalue : s'.evalCondition ac'
      = (reference (fun id => getLatestSignalValue s'.mSignalBuffers id ac')
          (fun function id => getSampleWindowFunction s'.mSignalBuffers function id ac') tree
          MAX_EQUATION_DEPTH,
        s'.mGeohashFunctionNode) := by
    unfold evalCondition
    rw [hstorage, ← configuration_mCondition hconf, heval tree htree hset]
    exact eval_buildCondition hgeohash s'.mSignalBuffers ac' s'.mGeohashFunctionNode
  have hsignals (id : SignalID) : getLatestSignalValue s'.mSignalBuffers id ac'
      = getLatestSignalValue (s.beforeEvaluation currentTime).mSignalBuffers id ac := by
    rw [hbuffers]
    unfold getLatestSignalValue
    rw [configuration_mEvaluationSignals hconf]
  have hwindows (function : WindowFunction) (id : SignalID)
      : getSampleWindowFunction s'.mSignalBuffers function id ac'
        = getSampleWindowFunction (s.beforeEvaluation currentTime).mSignalBuffers function id ac := by
    rw [hbuffers]
    unfold getSampleWindowFunction
    rw [configuration_mEvaluationFunctions hconf]
  rw [htrue]
  unfold isTrueNow
  rw [hvalue]
  simp only [hsignals, hwindows]

def greaterThree : ConditionNode Rat :=
  .nodeOperator .COMPARE_BIGGER (some (.nodeSignalId 7)) (some (.nodeDoubleValue 3))

def greaterThreeCampaign : CollectionSchemesMsg.CollectionScheme Rat where
  campaign_arn := "c"
  decoder_manifest_arn := "m"
  expiry_time_ms_epoch := 100
  collection_scheme_type := .conditionBasedCollectionScheme { condition_tree := greaterThree }
  signal_information := [{ signal_id := 7, sample_buffer_size := 2 }]

def greaterThreeData : List UInt8 :=
  [0x0A, 0x25, 0x0A, 0x01, 0x63, 0x12, 0x01, 0x6D, 0x20, 0x64, 0x32, 0x15, 0x1A, 0x13, 0x0A, 0x11, 0x0A, 0x02,
    0x20, 0x07, 0x12, 0x09, 0x19, 0x00, 0x00, 0x00, 0x00, 0x00, 0x00, 0x08, 0x40, 0x18, 0x01, 0x4A, 0x04, 0x08,
    0x07, 0x10, 0x02]

def parseGreaterThree (data : List UInt8) : Option (CollectionSchemes Rat) :=
  if data = greaterThreeData then some { collection_schemes := [greaterThreeCampaign] } else none

def greaterThreeCalls : List (ManagerCall Rat) :=
  [.onDecoderManifestUpdate (some (noSignals "m")),
    .onCollectionSchemeUpdate
      (some [(copyData greaterThreeCampaign).build.1.collectionScheme fun i => 64 + i]),
    .updateAvailable, .processDecoderManifest 50, .processCollectionScheme 50]

theorem greaterThree_fromDocument {content : List (CollectionScheme Rat)}
    (h : HasList { checkinIntervalMsec := 1000 } greaterThreeCalls content)
    : FromDocument parseGreaterThree [greaterThreeData] content := by
  have heq : content = [(copyData greaterThreeCampaign).build.1.collectionScheme fun i => 64 + i] := by
    simpa [HasList, ManagerConfig.HasList, greaterThreeCalls] using h
  refine ⟨greaterThreeData, List.mem_singleton_self _, fun _ i => 64 + i, ?_, ?_⟩
  . intro _ i j hij
    exact Nat.add_left_cancel hij
  . rw [heq]
    decide +kernel

theorem evaluation_of_message_greaterThree
    : ∃ manager,
        greaterThreeCalls.foldl (ManagerCall.next 10)
            (some (CollectionSchemeManager.init { checkinIntervalMsec := 1000 }))
          = some manager
        ∧
        let s := ((emptyEngine.onChangeInspectionMatrix (.inserted Rat) manager.inspectionMatrixExtractor).run
          [.addNewSignal 7 10 5]).1
        (s.evaluateConditions 20).2 = [⟨0, true, true⟩]
          ∧ ∃ ac, s.mConditions[0]? = some ac
            ∧ (reference (fun id => getLatestSignalValue (s.beforeEvaluation 20).mSignalBuffers id ac)
              (fun function id => getSampleWindowFunction (s.beforeEvaluation 20).mSignalBuffers function id ac)
              greaterThree MAX_EQUATION_DEPTH).isTrue = true := by
  refine ⟨_, rfl, ?_⟩
  intro s
  have hevaluations : (s.evaluateConditions 20).2 = [⟨0, true, true⟩] := by decide +kernel
  refine ⟨hevaluations, ?_⟩
  have ⟨ac, hac, message, ⟨data, _, document, hparse, hmem⟩, _, hvalue⟩ :=
    evaluation_of_message parseGreaterThree [greaterThreeData] { checkinIntervalMsec := 1000 } greaterThreeCalls 10
      (fun content => greaterThree_fromDocument) rfl
      (by unfold DisjointNodes; decide +kernel) (by decide +kernel) emptyEngine (.inserted Rat)
      [.addNewSignal 7 10 5] 20 ⟨0, true, true⟩ (by rw [hevaluations]; exact List.mem_singleton_self _)
  have hmessage : message = greaterThreeCampaign := by
    unfold parseGreaterThree at hparse
    split at hparse
    . cases hparse
      exact List.mem_singleton.mp hmem
    . cases hparse
  exact ⟨ac, hac, (hvalue greaterThree (by rw [hmessage]; rfl) rfl rfl).symm⟩

end Received

end DataManagement
