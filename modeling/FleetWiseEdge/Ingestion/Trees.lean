import FleetWiseEdge.Ingestion.Condition
import FleetWiseEdge.Ingestion.Impl.CollectionSchemeIngestion
import FleetWiseEdge.Manager.Flattening

namespace DataManagement

open CollectionSchemesMsg DataInspection CollectionSchemeIngestion

section Unfolds

variable {V : Type} [InspectionValue V] {storage storage' : List (ExpressionNode V)}
variable {ptr ptr' : ExpressionNodePtr} {tree : ExpressionTree V}

theorem eval_of_unfolds (h : Unfolds storage ptr tree) (h' : Unfolds storage' ptr' tree)
    (buffers : List (SignalHistoryBuffer V)) (condition : ActiveCondition V) (geohash : GeohashFunctionNode)
    (depth : Nat)
    : eval storage buffers ptr condition geohash depth = eval storage' buffers ptr' condition geohash depth := by
  induction h generalizing ptr' geohash depth with
  | null =>
    cases h'
    cases depth with
    | zero => rfl
    | succ depth => rfl
  | @node i address node left right hnode hleft hright ihleft ihright =>
    cases depth with
    | zero => rfl
    | succ depth =>
      generalize hdata : node.data = data at h'
      cases h' with
      | @node i' _ node' _ _ hnode' hleft' hright' =>
        have hderef : deref storage (some i) = some node := hnode
        have hderef' : deref storage' (some i') = some node' := hnode'
        simp only [ExpressionNode.data, ExpressionNodeData.mk.injEq] at hdata
        have ⟨htype, hfloating, hboolean, hsignal, hfunction⟩ := hdata
        unfold eval
        simp only [hderef, hderef', htype, hfloating, hboolean, hsignal, hfunction]
        simp only [fun geohash => ihleft hleft' geohash depth, fun geohash => ihright hright' geohash depth]

end Unfolds

section TreeOf

variable {V : Type} {nodes : List (ExpressionNode V)} {address : Nat → Nat} {n : ExpressionNode V}
variable {index depth : Nat}

theorem treeOf_null : treeOf address nodes depth none = .null := by
  cases depth <;> rfl

theorem treeOf_node (h : nodes[index]? = some n)
    : treeOf address nodes (depth + 1) (some index)
        =
      .node (address index) n.data (treeOf address nodes depth n.left)
        (treeOf address nodes depth n.right) := by
  rw [treeOf, h]
  rfl

/--
The tree behind a pointer whose nodes have different indices from `low` up to `high`.
-/
structure Within (address : Nat → Nat) (nodes : List (ExpressionNode V)) (depth : Nat)
    (ptr : ExpressionNodePtr) (low high : Nat)
    : Prop where
  unfolds : Unfolds nodes ptr (treeOf address nodes depth ptr)
  indices : ∃ indices : List Nat, (treeOf address nodes depth ptr).addresses = indices.map address
    ∧ indices.Nodup ∧ ∀ i ∈ indices, low ≤ i ∧ i < high

theorem Within.null (low high : Nat) : Within address nodes depth none low high := by
  refine ⟨?_, [], ?_⟩
  . rw [treeOf_null]
    exact .null
  . rw [treeOf_null]
    simp [ExpressionTree.addresses, ExpressionTree.inorder]

theorem Within.node {middle high : Nat} (h : nodes[index]? = some n) (hlow : index < middle)
    (hleft : Within address nodes depth n.left (index + 1) middle)
    (hright : Within address nodes depth n.right middle high) (hhigh : middle ≤ high)
    : Within address nodes (depth + 1) (some index) index high := by
  have ⟨left, hleftAddresses, hleftNodup, hleftBounds⟩ := hleft.indices
  have ⟨right, hrightAddresses, hrightNodup, hrightBounds⟩ := hright.indices
  constructor
  . rw [treeOf_node h]
    exact .node h hleft.unfolds hright.unfolds
  . refine ⟨left ++ index :: right, ?_, ?_, ?_⟩
    . rw [treeOf_node h]
      simp only [ExpressionTree.addresses, ExpressionTree.inorder, List.map_append, List.map_cons]
        at hleftAddresses hrightAddresses ⊢
      rw [hleftAddresses, hrightAddresses]
    . rw [List.nodup_append, List.nodup_cons]
      refine ⟨hleftNodup, ⟨?_, hrightNodup⟩, ?_⟩
      . intro hmem
        have := hrightBounds index hmem
        omega
      . intro i hi j hj heq
        have hi := hleftBounds i hi
        cases List.mem_cons.mp hj with
        | inl hself => omega
        | inr hj =>
          have hj := hrightBounds j hj
          omega
    . intro i hi
      rw [List.mem_append, List.mem_cons] at hi
      cases hi with
      | inl hi =>
        have := hleftBounds i hi
        omega
      | inr hi =>
        cases hi with
        | inl hi => omega
        | inr hi =>
          have := hrightBounds i hi
          omega

theorem Within.leaf (h : nodes[index]? = some n) (hleft : n.left = none) (hright : n.right = none)
    : Within address nodes (depth + 1) (some index) index (index + 1) := by
  apply Within.node h (Nat.lt_succ_self index)
  . rw [hleft]
    apply Within.null
  . rw [hright]
    apply Within.null
  . exact Nat.le_refl _

theorem Within.mono {ptr : ExpressionNodePtr} {low high low' high' : Nat}
    (h : Within address nodes depth ptr low high) (hlow : low' ≤ low) (hhigh : high ≤ high')
    : Within address nodes depth ptr low' high' := by
  have ⟨indices, haddresses, hnodup, hbounds⟩ := h.indices
  refine ⟨h.unfolds, indices, haddresses, hnodup, ?_⟩
  intro i hi
  have := hbounds i hi
  omega

end TreeOf

section Serialize

variable {V : Type} [InspectionValue V] {storage : List (ExpressionNode V)} {address : Nat → Nat}
variable {nodes : NodeVector V} {index depth : Nat}

def Fresh (nodes : NodeVector V) : Prop :=
  ∀ i n, nodes.nextIndex ≤ i → nodes.mExpressionNodes[i]? = some n → n.left = none ∧ n.right = none

omit [InspectionValue V] in
theorem Fresh.modify (h : Fresh nodes) (hindex : index < nodes.nextIndex)
    (f : ExpressionNode V → ExpressionNode V)
    : Fresh (nodes.modify index f) := by
  intro i n hi hn
  have hne : i ≠ index := by
    simp only [NodeVector.modify] at hi
    omega
  rw [getElem?_modify_ne hne] at hn
  exact h i n hi hn

theorem Fresh.emplace_back (h : Fresh nodes) : Fresh nodes.emplace_back := by
  intro i n hi hn
  simp only [NodeVector.emplace_back, List.getElem?_append] at hi hn
  split at hn
  . exact h i n (by omega) hn
  . have hn := List.mem_of_getElem? hn
    rw [List.mem_singleton] at hn
    rw [hn]
    exact ⟨rfl, rfl⟩

theorem Fresh.emplace_back_self {n : ExpressionNode V} (h : Fresh nodes)
    (hn : nodes.emplace_back.mExpressionNodes[nodes.nextIndex]? = some n)
    : n.left = none ∧ n.right = none := by
  simp only [NodeVector.emplace_back, List.getElem?_append] at hn
  split at hn
  . exact h _ n (Nat.le_refl _) hn
  . have hn := List.mem_of_getElem? hn
    rw [List.mem_singleton] at hn
    rw [hn]
    exact ⟨rfl, rfl⟩

omit [InspectionValue V] in
theorem Fresh.pop_back (h : Fresh nodes) : Fresh nodes.pop_back := by
  intro i n hi hn
  simp only [NodeVector.pop_back, List.getElem?_dropLast] at hi hn
  split at hn
  . exact h i n hi hn
  . cases hn

theorem serializeNode_fresh (node : ConditionNode V) (depth : Nat) (h : Fresh nodes)
    : Fresh (serializeNode node nodes depth).2 := by
  induction depth generalizing node nodes with
  | zero => exact h
  | succ depth ih =>
    have hnext : nodes.nextIndex < nodes.emplace_back.nextIndex := Nat.lt_succ_self _
    have hleaf := h.emplace_back.modify hnext
    cases node with
    | notSet => exact h.emplace_back.pop_back
    | nodeDoubleValue value => exact hleaf _
    | nodeSignalId id => exact hleaf _
    | nodeBooleanValue value => exact hleaf _
    | nodeFunction function =>
      cases function with
      | notSet => exact h.emplace_back.pop_back
      | windowFunction signal_id window_type => exact hleaf _
      | geohashFunction latitude longitude precision gps_unit => exact hleaf _
    | nodeOperator op left_child right_child =>
      cases left_child with
      | none => exact h.emplace_back.pop_back
      | some left_child =>
        unfold serializeNode
        dsimp only
        have hopened := hleaf fun n => { n with nodeType := convertOperatorType op }
        generalize hgrown : nodes.emplace_back.modify nodes.nextIndex
          (fun n => { n with nodeType := convertOperatorType op }) = opened at hopened ⊢
        have hindex : nodes.nextIndex < opened.nextIndex := by
          rw [← hgrown]
          exact hnext
        split
        . exact hopened.modify hindex _
        . have hgrows := serializeNode_grows left_child opened depth
          have hindexLeft : nodes.nextIndex < (serializeNode left_child opened depth).2.nextIndex := by
            have := hgrows.next_le
            omega
          have hlinked := (ih left_child hopened).modify hindexLeft fun n =>
            { n with left := (serializeNode left_child opened depth).1 }
          cases right_child with
          | none => exact hlinked.modify hindexLeft _
          | some right_child =>
            dsimp only
            split
            . apply (ih right_child hlinked).modify
              have hnextRight := (serializeNode_grows right_child
                ((serializeNode left_child opened depth).2.modify nodes.nextIndex fun n =>
                  { n with left := (serializeNode left_child opened depth).1 }) depth).next_le
              exact Nat.lt_of_lt_of_le hindexLeft hnextRight
            . exact hlinked.modify hindexLeft _

theorem Fresh.leaf {f : ExpressionNode V → ExpressionNode V} (h : Fresh nodes)
    (hnext : nodes.nextIndex ≤ nodes.mExpressionNodes.length)
    (hagree : Agree storage (nodes.emplace_back.modify nodes.nextIndex f) nodes.nextIndex
      (nodes.nextIndex + 1))
    (hf : ∀ n, (f n).left = n.left ∧ (f n).right = n.right)
    : Within address storage (depth + 1) (some nodes.nextIndex) nodes.nextIndex (nodes.nextIndex + 1) := by
  have ⟨n, hn⟩ := getElem?_emplace_back hnext
  have ⟨hleft, hright⟩ := h.emplace_back_self hn
  have hstored : storage[nodes.nextIndex]? = some (f n) := by
    rw [hagree nodes.nextIndex (Nat.le_refl _) (Nat.lt_succ_self _)]
    exact getElem?_modify_self hn
  apply Within.leaf hstored
  . rw [(hf n).1]
    exact hleft
  . rw [(hf n).2]
    exact hright

section Operator

variable {opened afterLeft afterRight : NodeVector V} {count count' : Nat} {n : ExpressionNode V}
variable {leftPtr rightPtr : ExpressionNodePtr}

omit [InspectionValue V] in
theorem Within.linked (hnode : opened.mExpressionNodes[index]? = some n)
    (hindex : opened.nextIndex = index + 1)
    (hroom : opened.nextIndex + count ≤ opened.mExpressionNodes.length)
    (hgrowsLeft : Grows count opened afterLeft)
    (hgrowsRight
      : Grows count' (afterLeft.modify index fun n => { n with left := leftPtr }) afterRight)
    (hagree
      : Agree storage (afterRight.modify index fun n => { n with right := rightPtr }) index
          afterRight.nextIndex)
    (hleft : Agree storage afterLeft opened.nextIndex afterLeft.nextIndex →
      Within address storage depth leftPtr opened.nextIndex afterLeft.nextIndex)
    (hright : Agree storage afterRight afterLeft.nextIndex afterRight.nextIndex →
      Within address storage depth rightPtr afterLeft.nextIndex afterRight.nextIndex)
    : Within address storage (depth + 1) (some index) index afterRight.nextIndex := by
  have hnextLeft := hgrowsLeft.next_le
  have hcountLeft := hgrowsLeft.next_count
  have hsizeLeft := hgrowsLeft.size_le
  have hnextRight : afterLeft.nextIndex ≤ afterRight.nextIndex := hgrowsRight.next_le
  have hlinkedLength
      : (afterLeft.modify index fun n => { n with left := leftPtr }).mExpressionNodes.length
          = afterLeft.mExpressionNodes.length := by
    simp [NodeVector.modify]
  have hframe (i : Nat) (hi : i < afterLeft.nextIndex)
      : afterRight.mExpressionNodes[i]?
          = (afterLeft.modify index fun n => { n with left := leftPtr }).mExpressionNodes[i]? := by
    apply hgrowsRight.frame i hi
    omega
  have hlinked : storage[index]? = some { n with left := leftPtr, right := rightPtr } := by
    rw [hagree index (by omega) (by omega)]
    suffices h : afterRight.mExpressionNodes[index]? = some { n with left := leftPtr } from
      getElem?_modify_self h
    rw [hframe index (by omega)]
    apply getElem?_modify_self (f := fun n => { n with left := leftPtr })
    rw [hgrowsLeft.frame index (by omega) (by omega)]
    exact hnode
  have hleft : Within address storage depth leftPtr (index + 1) afterLeft.nextIndex := by
    rw [← hindex]
    apply hleft
    intro i hlow hhigh
    rw [hagree i (by omega) (by omega)]
    rw [getElem?_modify_ne (by omega), hframe i hhigh]
    apply getElem?_modify_ne
    omega
  have hright : Within address storage depth rightPtr afterLeft.nextIndex afterRight.nextIndex := by
    apply hright
    intro i hlow hhigh
    rw [hagree i (by omega) hhigh]
    apply getElem?_modify_ne
    omega
  exact Within.node hlinked (by omega) hleft hright hnextRight

end Operator

theorem serializeNode_within {node : ConditionNode V} (hfresh : Fresh nodes)
    (hroom : nodes.nextIndex + getNumberOfNodes node depth ≤ nodes.mExpressionNodes.length)
    (hagree : Agree storage (serializeNode node nodes depth).2 nodes.nextIndex
      (serializeNode node nodes depth).2.nextIndex)
    : Within address storage depth (serializeNode node nodes depth).1 nodes.nextIndex
        (serializeNode node nodes depth).2.nextIndex := by
  induction depth generalizing node nodes with
  | zero => exact Within.null _ _
  | succ depth ih =>
    have hnext : nodes.nextIndex ≤ nodes.mExpressionNodes.length := by omega
    cases node with
    | notSet => exact Within.null _ _
    | nodeDoubleValue value => exact hfresh.leaf hnext hagree fun n => ⟨rfl, rfl⟩
    | nodeSignalId id => exact hfresh.leaf hnext hagree fun n => ⟨rfl, rfl⟩
    | nodeBooleanValue value => exact hfresh.leaf hnext hagree fun n => ⟨rfl, rfl⟩
    | nodeFunction function =>
      cases function with
      | notSet => exact Within.null _ _
      | windowFunction signal_id window_type => exact hfresh.leaf hnext hagree fun n => ⟨rfl, rfl⟩
      | geohashFunction latitude longitude precision gps_unit =>
        exact hfresh.leaf hnext hagree fun n => ⟨rfl, rfl⟩
    | nodeOperator op left_child right_child =>
      cases left_child with
      | none => exact Within.null _ _
      | some left_child =>
        simp only [getNumberOfNodes] at hroom
        unfold serializeNode at hagree ⊢
        dsimp only at hagree ⊢
        obtain ⟨n, hn⟩ := getElem?_emplace_back hnext
        have hopened := getElem?_modify_self (f := fun n => { n with nodeType := convertOperatorType op }) hn
        have hfreshOpened := hfresh.emplace_back.modify (Nat.lt_succ_self nodes.nextIndex)
          fun n => { n with nodeType := convertOperatorType op }
        have hchildren := hfresh.emplace_back_self hn
        generalize hgrown : nodes.emplace_back.modify nodes.nextIndex
          (fun n => { n with nodeType := convertOperatorType op }) = opened at hagree hopened hfreshOpened ⊢
        have hopenedNext : opened.nextIndex = nodes.nextIndex + 1 := by
          rw [← hgrown]
          rfl
        have hopenedSize : opened.mExpressionNodes.length = nodes.mExpressionNodes.length + 1 := by
          simp [← hgrown, NodeVector.modify, NodeVector.emplace_back]
        by_cases hboolean : convertOperatorType op = .BOOLEAN
        . rw [if_pos hboolean] at hagree ⊢
          have hself : storage[nodes.nextIndex]?
              = some { n with nodeType := convertOperatorType op, booleanValue := false } := by
            rw [hagree nodes.nextIndex (by omega) (by simp [NodeVector.modify, hopenedNext])]
            exact getElem?_modify_self hopened
          have hleaf : Within address storage (depth + 1) (some nodes.nextIndex) nodes.nextIndex
              (nodes.nextIndex + 1) :=
            Within.leaf hself hchildren.1 hchildren.2
          apply hleaf.mono (Nat.le_refl _)
          simp [NodeVector.modify, hopenedNext]
        . rw [if_neg hboolean] at hagree ⊢
          have hgrowsLeft := serializeNode_grows left_child opened depth
          have hroomLeft : opened.nextIndex + getNumberOfNodes left_child depth
              ≤ opened.mExpressionNodes.length := by
            omega
          have hleft := ih hfreshOpened hroomLeft
          cases right_child with
          | none =>
            apply Within.linked hopened hopenedNext hroomLeft hgrowsLeft Grows.refl hagree hleft
            intro _
            exact Within.null _ _
          | some right_child =>
            dsimp only at hroom hagree ⊢
            by_cases hnot : convertOperatorType op ≠ .OPERATOR_LOGICAL_NOT
            . rw [if_pos hnot] at hagree ⊢
              apply Within.linked hopened hopenedNext hroomLeft hgrowsLeft
                (serializeNode_grows right_child _ depth) hagree hleft
              intro hagreeRight
              apply ih _ _ hagreeRight
              . apply (serializeNode_fresh left_child depth hfreshOpened).modify
                have := hgrowsLeft.next_le
                omega
              . have hcount := hgrowsLeft.next_count
                have hsize := hgrowsLeft.size_le
                simp only [NodeVector.modify, List.length_modify]
                omega
            . rw [if_neg hnot] at hagree ⊢
              apply Within.linked hopened hopenedNext hroomLeft hgrowsLeft Grows.refl hagree hleft
              intro _
              exact Within.null _ _

end Serialize

end DataManagement
