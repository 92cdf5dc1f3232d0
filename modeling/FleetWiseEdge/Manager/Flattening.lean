import FleetWiseEdge.Manager.Impl.Extractors

/-!
This module contains the correctness proof of the inspection matrix that is extracted from the enabled
collection schemes: unfolding the expression of a condition in the node storage gives the condition tree of
its collection scheme.
-/

namespace DataManagement

open DataInspection

variable {V : Type}

namespace ExpressionTree

def inorder (tree : ExpressionTree V) : List (TreeNode V) :=
  match tree with
  | .null => []
  | .node address data left right =>
    left.inorder ++ ⟨address, data, left, right⟩ :: right.inorder

def addresses (tree : ExpressionTree V) : List Nat := tree.inorder.map (·.address)

theorem length_inorder {tree : ExpressionTree V} : tree.inorder.length = tree.size := by
  induction tree with
  | null => rfl
  | node address data left right ihl ihr =>
    simp only [inorder, size, List.length_append, List.length_cons]
    omega

theorem mem_inorder_child {tree : ExpressionTree V} {node node' : TreeNode V} (h : node ∈ tree.inorder)
    (h' : node' ∈ node.left.inorder ∨ node' ∈ node.right.inorder)
    : node' ∈ tree.inorder := by
  induction tree with
  | null => simp [inorder] at h
  | node address data left right ihl ihr =>
    simp only [inorder, List.mem_append, List.mem_cons] at h ⊢
    cases h with
    | inl h => exact Or.inl (ihl h)
    | inr h =>
      cases h with
      | inr h => exact Or.inr (Or.inr (ihr h))
      | inl h =>
        rw [h] at h'
        cases h' with
        | inl h' => exact Or.inl h'
        | inr h' => exact Or.inr (Or.inr h')

end ExpressionTree

section Traversal

-- What the loop is going to visit if it starts with this stack.
def pending (nodeStack : List (TreeNode V)) : List (TreeNode V) :=
  nodeStack.flatMap fun node => node :: node.right.inorder

theorem pending_pushLeft {tree : ExpressionTree V} {nodeStack : List (TreeNode V)}
    : pending (pushLeft tree nodeStack) = tree.inorder ++ pending nodeStack := by
  induction tree generalizing nodeStack with
  | null => rfl
  | node address data left right ihl ihr =>
    unfold pushLeft ExpressionTree.inorder
    rw [ihl]
    simp [pending]

theorem visitNodes_eq {remaining : Nat} {nodeStack : List (TreeNode V)} {f : FlattenedNodes V}
    (h : (pending nodeStack).length ≤ remaining)
    : visitNodes remaining nodeStack f = (pending nodeStack).foldl FlattenedNodes.visit f := by
  induction remaining generalizing nodeStack f with
  | zero =>
    have hnil : pending nodeStack = [] := by
      apply List.length_eq_zero_iff.mp
      omega
    rw [hnil]
    rfl
  | succ remaining ih =>
    cases nodeStack with
    | nil => rfl
    | cons node nodeStack =>
      have hpending : pending (node :: nodeStack) = node :: pending (pushLeft node.right nodeStack) := by
        rw [pending_pushLeft]
        simp [pending]
      rw [hpending] at h ⊢
      unfold visitNodes
      apply ih
      simp only [List.length_cons] at h
      omega

theorem flattenTree_eq (f : FlattenedNodes V) (tree : ExpressionTree V)
    : flattenTree f tree = tree.inorder.foldl FlattenedNodes.visit f := by
  have hpending : pending (pushLeft tree []) = tree.inorder := by
    rw [pending_pushLeft]
    simp [pending]
  unfold flattenTree
  rw [visitNodes_eq, hpending]
  rw [hpending, ExpressionTree.length_inorder]

end Traversal

section Numbering

namespace FlattenedNodes

def Numbered (f : FlattenedNodes V) : Prop :=
  ∀ i node, f.nodes[i]? = some node → f.nodeToIndexMap node.address = some i

theorem Numbered.visit {f : FlattenedNodes V} {node : TreeNode V} (h : f.Numbered)
    (hnew : node.address ∉ f.nodes.map (·.address))
    : (f.visit node).Numbered := by
  intro i node' hnode
  simp only [FlattenedNodes.visit, List.getElem?_append] at hnode ⊢
  split at hnode
  . have hmem : node' ∈ f.nodes := List.mem_of_getElem? hnode
    have hne : node'.address ≠ node.address := by
      intro heq
      apply hnew
      rw [← heq]
      exact List.mem_map_of_mem hmem
    rw [Function.update_of_ne hne]
    exact h i node' hnode
  . have ⟨hi, heq⟩ := List.getElem?_eq_some_iff.mp hnode
    simp only [List.length_singleton] at hi
    have : i = f.nodes.length := by omega
    simp only [List.getElem_singleton] at heq
    rw [← heq, this, Function.update_self]

theorem nodes_visitAll {f : FlattenedNodes V} {nodes : List (TreeNode V)}
    : (nodes.foldl FlattenedNodes.visit f).nodes = f.nodes ++ nodes := by
  induction nodes generalizing f with
  | nil => simp
  | cons node nodes ih =>
    rw [List.foldl_cons, ih]
    simp [FlattenedNodes.visit]

theorem Numbered.visitAll {f : FlattenedNodes V} {nodes : List (TreeNode V)} (h : f.Numbered)
    (hnodup : ((f.nodes ++ nodes).map (·.address)).Nodup)
    : (nodes.foldl FlattenedNodes.visit f).Numbered := by
  induction nodes generalizing f with
  | nil => exact h
  | cons node nodes ih =>
    rw [List.foldl_cons]
    apply ih
    . apply h.visit
      rw [List.map_append, List.nodup_append] at hnodup
      intro hmem
      exact hnodup.2.2 _ hmem node.address (by simp) rfl
    . simpa [FlattenedNodes.visit] using hnodup

end FlattenedNodes

end Numbering

section Unfold

def ExpressionNode.data (node : ExpressionNode V) : ExpressionNodeData V :=
  ⟨node.nodeType, node.floatingValue, node.booleanValue, node.signalID, node.function⟩

/--
Following the pointers from here leads through the nodes of the tree. None of them leaves the storage.
-/
inductive Unfolds (storage : List (ExpressionNode V)) : ExpressionNodePtr → ExpressionTree V → Prop where
  | null : Unfolds storage none .null
  | node {i address : Nat} {node : ExpressionNode V} {left right : ExpressionTree V}
      (hnode : storage[i]? = some node) (hleft : Unfolds storage node.left left)
      (hright : Unfolds storage node.right right)
      : Unfolds storage (some i) (.node address node.data left right)

def PointsInside (storage : List (ExpressionNode V)) (ptr : ExpressionNodePtr) : Prop :=
  ∀ i, ptr = some i → i < storage.length

namespace FlattenedNodes

variable {f : FlattenedNodes V} {tree : ExpressionTree V}

theorem Numbered.unfolds (h : f.Numbered) (hmem : ∀ node ∈ tree.inorder, node ∈ f.nodes)
    : Unfolds (f.nodes.map f.copyNode) (f.relink tree) tree := by
  induction tree with
  | null => exact .null
  | node address data left right ihl ihr =>
    have hroot : (⟨address, data, left, right⟩ : TreeNode V) ∈ f.nodes := by
      apply hmem
      simp [ExpressionTree.inorder]
    have ⟨i, hi⟩ := List.mem_iff_getElem?.mp hroot
    have hindex : f.indexOf (some address) = i := by
      simp [FlattenedNodes.indexOf, h i _ hi]
    have hcopy : (f.nodes.map f.copyNode)[i]? = some (f.copyNode ⟨address, data, left, right⟩) := by
      rw [List.getElem?_map, hi]
      rfl
    have hrelink : f.relink (.node address data left right) = some i := by
      simp [FlattenedNodes.relink, ExpressionTree.ptr, hindex]
    rw [hrelink]
    apply Unfolds.node hcopy
    . apply ihl
      intro node hnode
      apply hmem
      simp [ExpressionTree.inorder, hnode]
    . apply ihr
      intro node hnode
      apply hmem
      simp [ExpressionTree.inorder, hnode]

end FlattenedNodes

theorem Unfolds.pointsInside {storage : List (ExpressionNode V)} {ptr : ExpressionNodePtr}
    {tree : ExpressionTree V} (h : Unfolds storage ptr tree)
    : PointsInside storage ptr := by
  intro i hi
  cases h with
  | null => cases hi
  | node hnode _ _ =>
    have ⟨hlt, _⟩ := List.getElem?_eq_some_iff.mp hnode
    simp only [Option.some_inj] at hi
    omega

end Unfold

section Extract

variable {translator : CANInterfaceIDTranslator} {schemes : List (CollectionScheme V)}

def allNodes (schemes : List (CollectionScheme V)) : List (TreeNode V) :=
  schemes.flatMap (·.condition.inorder)

def flattenAll (schemes : List (CollectionScheme V)) : FlattenedNodes V :=
  (allNodes schemes).foldl FlattenedNodes.visit {}

def NoneShared (schemes : List (CollectionScheme V)) : Prop :=
  (schemes.flatMap (·.condition.addresses)).Nodup

theorem foldl_flattenTree {f : FlattenedNodes V}
    : schemes.foldl (fun f c => flattenTree f c.condition) f
        =
      (allNodes schemes).foldl FlattenedNodes.visit f := by
  induction schemes generalizing f with
  | nil => rfl
  | cons c schemes ih =>
    rw [List.foldl_cons, ih, flattenTree_eq]
    simp [allNodes]

theorem extractMatrix_conditions (translator : CANInterfaceIDTranslator)
    (schemes : List (CollectionScheme V))
    : (extractMatrix translator schemes).conditions
        =
      schemes.map fun c =>
        { addConditionData translator c with
          condition := elementPtr (allNodes schemes) ((flattenAll schemes).indexOf c.condition.ptr) } := by
  unfold extractMatrix elementPtr
  simp only [foldl_flattenTree, FlattenedNodes.nodes_visitAll, List.isEmpty_map]
  rfl

theorem extractMatrix_storage
    : (extractMatrix translator schemes).expressionNodeStorage
        =
      (allNodes schemes).map (flattenAll schemes).copyNode := by
  unfold extractMatrix
  simp only [foldl_flattenTree, FlattenedNodes.nodes_visitAll]
  rfl

theorem numbered_flattenAll (h : NoneShared schemes) : (flattenAll schemes).Numbered := by
  apply FlattenedNodes.Numbered.visitAll
  . intro i node hnode
    simp at hnode
  . simpa [allNodes, NoneShared, ExpressionTree.addresses, List.map_flatMap] using h

theorem nodes_flattenAll : (flattenAll schemes).nodes = allNodes schemes := by
  simp [flattenAll, FlattenedNodes.nodes_visitAll]

theorem mem_allNodes {c : CollectionScheme V} (hc : c ∈ schemes)
    : ∀ node ∈ c.condition.inorder, node ∈ allNodes schemes := by
  intro node hnode
  exact List.mem_flatMap.mpr ⟨c, hc, hnode⟩

theorem allNodes_eq_nil : allNodes schemes = [] ↔ ∀ c ∈ schemes, c.condition = .null := by
  unfold allNodes
  rw [List.flatMap_eq_nil_iff]
  refine forall₂_congr fun c _ => ?_
  cases c.condition with
  | null => simp [ExpressionTree.inorder]
  | node address data left right => simp [ExpressionTree.inorder]

theorem elementPtr_eq_some {c : CollectionScheme V} (hc : c ∈ schemes) (hnull : c.condition ≠ .null)
    (index : Nat)
    : elementPtr (allNodes schemes) index = some index := by
  unfold elementPtr
  rw [if_neg]
  rw [List.isEmpty_iff, allNodes_eq_nil]
  exact fun hall => hnull (hall c hc)

theorem unfolds_condition (h : NoneShared schemes) {c : CollectionScheme V} (hc : c ∈ schemes)
    (hnull : c.condition ≠ .null)
    : Unfolds (extractMatrix translator schemes).expressionNodeStorage
        (elementPtr (allNodes schemes) ((flattenAll schemes).indexOf c.condition.ptr)) c.condition := by
  have hunfolds : Unfolds ((flattenAll schemes).nodes.map (flattenAll schemes).copyNode)
      ((flattenAll schemes).relink c.condition) c.condition := by
    apply (numbered_flattenAll h).unfolds
    rw [nodes_flattenAll]
    exact mem_allNodes hc
  have hrelink : (flattenAll schemes).relink c.condition
      = some ((flattenAll schemes).indexOf c.condition.ptr) := by
    cases hcond : c.condition with
    | null => exact absurd hcond hnull
    | node address data left right => simp [FlattenedNodes.relink, ExpressionTree.ptr]
  rw [hrelink, nodes_flattenAll] at hunfolds
  rw [extractMatrix_storage, elementPtr_eq_some hc hnull]
  exact hunfolds

theorem children_pointInside (h : NoneShared schemes) {node : ExpressionNode V}
    (hnode : node ∈ (extractMatrix translator schemes).expressionNodeStorage)
    : PointsInside (extractMatrix translator schemes).expressionNodeStorage node.left
        ∧
      PointsInside (extractMatrix translator schemes).expressionNodeStorage node.right := by
  rw [extractMatrix_storage] at hnode ⊢
  have ⟨treeNode, hmem, hcopy⟩ := List.mem_map.mp hnode
  have ⟨c, hc, hinorder⟩ := List.mem_flatMap.mp hmem
  have hchild : ∀ tree : ExpressionTree V,
      (∀ node' ∈ tree.inorder, node' ∈ treeNode.left.inorder ∨ node' ∈ treeNode.right.inorder) →
      PointsInside ((allNodes schemes).map (flattenAll schemes).copyNode)
        ((flattenAll schemes).relink tree) := by
    intro tree htree
    have hunfolds : Unfolds ((flattenAll schemes).nodes.map (flattenAll schemes).copyNode)
        ((flattenAll schemes).relink tree) tree := by
      apply (numbered_flattenAll h).unfolds
      rw [nodes_flattenAll]
      intro node' hnode'
      apply mem_allNodes hc
      apply ExpressionTree.mem_inorder_child hinorder
      exact htree node' hnode'
    rw [nodes_flattenAll] at hunfolds
    exact hunfolds.pointsInside
  rw [← hcopy]
  constructor
  . apply hchild treeNode.left
    intro node' hnode'
    exact Or.inl hnode'
  . apply hchild treeNode.right
    intro node' hnode'
    exact Or.inr hnode'

end Extract

section Extractor

variable {s : CollectionSchemeManager V}

namespace CollectionSchemeManager

def enabledCollectionSchemes (s : CollectionSchemeManager V) : List (CollectionScheme V) :=
  s.mEnabledCollectionSchemeMap.values

/--
There is one condition for each enabled collection scheme, and its expression unfolds to the condition tree
of that collection scheme. All pointers stay in the storage.
-/
theorem expression_flattening
    (hnull : ∀ c ∈ s.enabledCollectionSchemes, c.condition ≠ .null)
    (hshared : NoneShared s.enabledCollectionSchemes)
    : let matrix := s.inspectionMatrixExtractor
      let storage := matrix.expressionNodeStorage
      matrix.conditions.length = s.enabledCollectionSchemes.length
        ∧
      (∀ (i : Nat) (c : CollectionScheme V), s.enabledCollectionSchemes[i]? = some c →
        ∃ condition, matrix.conditions[i]? = some condition
          ∧ condition.metaData.collectionSchemeID = c.collectionSchemeID
          ∧ condition.condition ≠ none
          ∧ Unfolds storage condition.condition c.condition)
        ∧
      (∀ condition ∈ matrix.conditions, PointsInside storage condition.condition)
        ∧
      ∀ node ∈ storage, PointsInside storage node.left ∧ PointsInside storage node.right := by
  have hconditions := extractMatrix_conditions s.mCANIDTranslator s.enabledCollectionSchemes
  refine ⟨?_, ?_, ?_, ?_⟩
  . exact (congrArg List.length hconditions).trans (by simp)
  . intro i c hi
    have hc := List.mem_of_getElem? hi
    refine ⟨{ addConditionData s.mCANIDTranslator c with
      condition := elementPtr (allNodes s.enabledCollectionSchemes)
        ((flattenAll s.enabledCollectionSchemes).indexOf c.condition.ptr) }, ?_, rfl, ?_, ?_⟩
    . apply Eq.trans (congrArg (·[i]?) hconditions)
      simp [hi]
    . rw [elementPtr_eq_some hc (hnull c hc)]
      simp
    . exact unfolds_condition hshared hc (hnull c hc)
  . intro condition hmem
    have hmem' := hconditions ▸ hmem
    have ⟨c, hc, heq⟩ := List.mem_map.mp hmem'
    rw [← heq]
    exact (unfolds_condition hshared hc (hnull c hc)).pointsInside
  . intro node hnode
    exact children_pointInside hshared hnode

def comparison (address : Nat) : ExpressionTree Rat :=
  .node address { nodeType := .OPERATOR_SMALLER, floatingValue := 0 }
    (.node (address + 1) { nodeType := .FLOAT, floatingValue := 2 } .null .null)
    (.node (address + 2) { nodeType := .FLOAT, floatingValue := 5 } .null .null)

def conjunction (address : Nat) : ExpressionTree Rat :=
  .node address { nodeType := .OPERATOR_LOGICAL_AND, floatingValue := 0 }
    (.node (address + 1) { nodeType := .SIGNAL, floatingValue := 0, signalID := 7 } .null .null)
    (.node (address + 2) { nodeType := .BOOLEAN, floatingValue := 0, booleanValue := true } .null .null)

def schemeWith (id : String) (condition : ExpressionTree Rat) : CollectionScheme Rat where
  collectionSchemeID := id
  decoderManifestID := "manifest"
  startTime := 0
  expiryTime := 100
  probabilityToSend := 1
  condition := condition

def managerWith (schemes : List (CollectionScheme Rat)) : CollectionSchemeManager Rat :=
  schemes.foldl (fun s c => s.enable c.collectionSchemeID c) { mCheckinIntervalInMsec := 0 }

def twoConditions : CollectionSchemeManager Rat :=
  managerWith [schemeWith "first" (comparison 16), schemeWith "second" (conjunction 32)]

theorem expression_flattening_two
    : let matrix := twoConditions.inspectionMatrixExtractor
      matrix.conditions.length = 2
        ∧
      ∀ condition ∈ matrix.conditions, PointsInside matrix.expressionNodeStorage condition.condition := by
  have ⟨hlength, _, hinside, _⟩ := twoConditions.expression_flattening (by decide +kernel)
    (by unfold NoneShared; decide +kernel)
  refine ⟨?_, hinside⟩
  rw [hlength]
  decide +kernel

end CollectionSchemeManager

end Extractor

section NullCondition

variable {s : CollectionSchemeManager V} {schemes : List (CollectionScheme V)} {i : Nat}
variable {c : CollectionScheme V} {translator : CANInterfaceIDTranslator}

theorem eraseIdx_of_getElem? {α : Type} {l : List α} {a : α} (h : l[i]? = some a)
    : ∃ before after, l = before ++ a :: after ∧ l.eraseIdx i = before ++ after := by
  have ⟨hlt, hget⟩ := List.getElem?_eq_some_iff.mp h
  refine ⟨l.take i, l.drop (i + 1), ?_, List.eraseIdx_eq_take_drop_succ l i⟩
  rw [← hget, List.getElem_cons_drop, List.take_append_drop]

theorem allNodes_eraseIdx (hi : schemes[i]? = some c) (hnull : c.condition = .null)
    : allNodes (schemes.eraseIdx i) = allNodes schemes := by
  have ⟨before, after, heq, herase⟩ := eraseIdx_of_getElem? hi
  rw [herase, heq]
  simp [allNodes, hnull, ExpressionTree.inorder]

theorem extractMatrix_eraseIdx (hi : schemes[i]? = some c) (hnull : c.condition = .null)
    : (extractMatrix translator schemes).conditions.eraseIdx i
        =
      (extractMatrix translator (schemes.eraseIdx i)).conditions
        ∧
      (extractMatrix translator schemes).expressionNodeStorage
        =
      (extractMatrix translator (schemes.eraseIdx i)).expressionNodeStorage := by
  have hflatten : flattenAll (schemes.eraseIdx i) = flattenAll schemes := by
    unfold flattenAll
    rw [allNodes_eraseIdx hi hnull]
  constructor
  . rw [extractMatrix_conditions, extractMatrix_conditions, hflatten, allNodes_eraseIdx hi hnull, List.eraseIdx_map]
  . rw [extractMatrix_storage, extractMatrix_storage, hflatten, allNodes_eraseIdx hi hnull]

theorem condition_of_null (hi : schemes[i]? = some c) (hnull : c.condition = .null)
    : (extractMatrix translator schemes).conditions[i]?
        =
      some { addConditionData translator c with condition := elementPtr (allNodes schemes) 0 } := by
  rw [extractMatrix_conditions, List.getElem?_map, hi]
  simp [hnull, ExpressionTree.ptr, FlattenedNodes.indexOf]

theorem storage_zero {node : ExpressionNode V}
    (h : (extractMatrix translator schemes).expressionNodeStorage[0]? = some node)
    : ∃ c ∈ schemes, ∃ treeNode ∈ c.condition.inorder, node.data = treeNode.data := by
  rw [extractMatrix_storage, List.getElem?_map, Option.map_eq_some_iff] at h
  have ⟨treeNode, hget, heq⟩ := h
  have ⟨c, hc, hmem⟩ := List.mem_flatMap.mp (List.mem_of_getElem? hget)
  refine ⟨c, hc, treeNode, hmem, ?_⟩
  rw [← heq]
  rfl

namespace CollectionSchemeManager

/--
The condition of the `i`th enabled collection scheme has no expression and all other conditions are as
without it.
-/
def BorrowsNothing (s : CollectionSchemeManager V) (i : Nat) : Prop :=
  let matrix := s.inspectionMatrixExtractor
  let others := extractMatrix s.mCANIDTranslator (s.enabledCollectionSchemes.eraseIdx i)
  (∀ condition, matrix.conditions[i]? = some condition → condition.condition = none)
    ∧
  matrix.conditions.eraseIdx i = others.conditions
    ∧
  matrix.expressionNodeStorage = others.expressionNodeStorage

/--
The condition of a collection scheme without condition tree has no expression exactly if no enabled collection
scheme has a condition tree. Otherwise it points to the first node of another tree.
-/
theorem null_condition_borrows (hi : s.enabledCollectionSchemes[i]? = some c)
    (hnull : c.condition = .null)
    : (s.BorrowsNothing i ↔ ∀ c' ∈ s.enabledCollectionSchemes, c'.condition = .null)
        ∧
      let matrix := s.inspectionMatrixExtractor
      let others := extractMatrix s.mCANIDTranslator (s.enabledCollectionSchemes.eraseIdx i)
      ((∃ c' ∈ s.enabledCollectionSchemes, c'.condition ≠ .null) →
        ∃ condition node, matrix.conditions[i]? = some condition
          ∧ condition.condition = some 0
          ∧ matrix.expressionNodeStorage[0]? = some node
          ∧ ∃ c' ∈ s.enabledCollectionSchemes, ∃ treeNode ∈ c'.condition.inorder,
              node.data = treeNode.data)
        ∧
      matrix.conditions.eraseIdx i = others.conditions
        ∧
      matrix.expressionNodeStorage = others.expressionNodeStorage := by
  have hcondition : s.inspectionMatrixExtractor.conditions[i]?
      = some { addConditionData s.mCANIDTranslator c with
          condition := elementPtr (allNodes s.enabledCollectionSchemes) 0 } :=
    condition_of_null hi hnull
  have hothers : s.inspectionMatrixExtractor.conditions.eraseIdx i
        = (extractMatrix s.mCANIDTranslator (s.enabledCollectionSchemes.eraseIdx i)).conditions
      ∧ s.inspectionMatrixExtractor.expressionNodeStorage
        = (extractMatrix s.mCANIDTranslator (s.enabledCollectionSchemes.eraseIdx i)).expressionNodeStorage :=
    extractMatrix_eraseIdx hi hnull
  refine ⟨⟨?_, ?_⟩, ?_, hothers⟩
  . intro h
    have hnone : elementPtr (allNodes s.enabledCollectionSchemes) 0 = none := h.1 _ hcondition
    rw [← allNodes_eq_nil, ← List.isEmpty_iff]
    unfold elementPtr at hnone
    split at hnone
    . next hempty => exact hempty
    . cases hnone
  . intro hall
    refine ⟨?_, hothers⟩
    intro condition heq
    rw [hcondition, allNodes_eq_nil.mpr hall] at heq
    cases heq
    rfl
  . intro hexists
    obtain ⟨c', hc', htree⟩ := hexists
    have hne : s.inspectionMatrixExtractor.expressionNodeStorage ≠ [] := by
      intro hnil
      have hnodes : (allNodes s.enabledCollectionSchemes).map _ = [] := extractMatrix_storage.symm.trans hnil
      exact htree (allNodes_eq_nil.mp (List.map_eq_nil_iff.mp hnodes) c' hc')
    have hlength := List.length_pos_iff.mpr hne
    exact ⟨_, _, hcondition, elementPtr_eq_some hc' htree 0, List.getElem?_eq_getElem hlength,
      storage_zero (List.getElem?_eq_getElem hlength)⟩

def oneNullCondition : CollectionSchemeManager Rat :=
  managerWith [schemeWith "first" .null, schemeWith "second" (comparison 16)]

theorem null_condition_borrows_first : ¬oneNullCondition.BorrowsNothing 0 := by
  have hfirst : oneNullCondition.enabledCollectionSchemes[0]? = some (schemeWith "first" .null) := by
    decide +kernel
  intro h
  have hall := (null_condition_borrows hfirst rfl).1.mp h (schemeWith "second" (comparison 16)) (by decide +kernel)
  cases hall

theorem null_condition_borrows_constant
    : let matrix := oneNullCondition.inspectionMatrixExtractor
      matrix.conditions.map (fun condition => (condition.metaData.collectionSchemeID, condition.condition))
        = [("first", some 0), ("second", some 1)]
        ∧
      matrix.expressionNodeStorage.head?.map (·.floatingValue) = some 2
        ∧
      ¬oneNullCondition.BorrowsNothing 0 := by
  refine ⟨by decide +kernel, by decide +kernel, ?_⟩
  intro h
  have hnone := h.1 { addConditionData {} (schemeWith "first" .null) with condition := some 0 }
    (by decide +kernel)
  cases hnone

end CollectionSchemeManager

end NullCondition

end DataManagement
