import FleetWiseEdge.Ingestion.Impl.Condition
import FleetWiseEdge.Inspection.Impl.Evaluate

namespace DataManagement

open CollectionSchemesMsg DataInspection

section Reference

variable {V : Type} [InspectionValue V]

def implemented (op : Operator) : Bool :=
  match op with
  | .COMPARE_NOT_EQUAL | .unknown _ => false
  | _ => true

def operate (op : Operator) (left right : EvalResult V) : EvalResult V :=
  match op with
  | .COMPARE_SMALLER => .ofBool (InspectionValue.lt left.resultValueDouble right.resultValueDouble)
  | .COMPARE_BIGGER => .ofBool (InspectionValue.lt right.resultValueDouble left.resultValueDouble)
  | .COMPARE_SMALLER_EQUAL => .ofBool (InspectionValue.le left.resultValueDouble right.resultValueDouble)
  | .COMPARE_BIGGER_EQUAL => .ofBool (InspectionValue.le right.resultValueDouble left.resultValueDouble)
  | .COMPARE_EQUAL =>
    .ofBool (InspectionValue.lt
      (InspectionValue.abs (InspectionValue.sub left.resultValueDouble right.resultValueDouble))
      EVAL_EQUAL_DISTANCE)
  | .LOGICAL_AND => .ofBool (left.resultValueBool && right.resultValueBool)
  | .LOGICAL_OR => .ofBool (left.resultValueBool || right.resultValueBool)
  | .LOGICAL_NOT => .ofBool !left.resultValueBool
  | .ARITHMETIC_PLUS => .ofDouble (InspectionValue.add left.resultValueDouble right.resultValueDouble)
  | .ARITHMETIC_MINUS => .ofDouble (InspectionValue.sub left.resultValueDouble right.resultValueDouble)
  | .ARITHMETIC_MULTIPLY => .ofDouble (InspectionValue.mul left.resultValueDouble right.resultValueDouble)
  | .ARITHMETIC_DIVIDE => .ofDouble (InspectionValue.div left.resultValueDouble right.resultValueDouble)
  | .COMPARE_NOT_EQUAL | .unknown _ => .ofBool false

def operateChecked (op : Operator) (left right : EvalResult V) : EvalResult V :=
  if left.code ≠ .SUCCESSFUL then
    .ofCode left.code
  else if op = .LOGICAL_NOT then
    operate op left right
  else if right.code ≠ .SUCCESSFUL then
    .ofCode right.code
  else
    operate op left right

/--
The reference semantics of a condition tree, given what the signals and the windows are.
-/
def reference (signals : SignalID → EvalResult V) (windows : WindowFunction → SignalID → EvalResult V)
    (node : ConditionNode V) (depth : Nat)
    : EvalResult V :=
  match depth with
  | 0 => .ofCode .STACK_DEPTH_REACHED
  | depth + 1 =>
    match node with
    | .nodeDoubleValue value => .ofDouble value
    | .nodeBooleanValue value => .ofBool value
    | .nodeSignalId id => signals id
    | .nodeFunction (.windowFunction signal_id window_type) =>
      windows (convertFunctionType window_type) signal_id
    | .nodeOperator op (some left_child) right_child =>
      if implemented op then
        operateChecked op (reference signals windows left_child depth)
          (match right_child with
            | none => .ofCode .STACK_DEPTH_REACHED
            | some right_child => reference signals windows right_child depth)
      else
        .ofBool false
    -- nodes that are not set and operators without a left child; geohash nodes have no such meaning
    | _ => .ofCode .STACK_DEPTH_REACHED
termination_by structural depth

end Reference

def NodeVector.Settled {V : Type} (nodes : NodeVector V) (capacity : Nat) : Prop :=
  nodes.mExpressionNodes.length ≤ nodes.capacity
    ∧ (nodes.capacity = capacity
      ∨ nodes.mExpressionNodes.length = nodes.capacity ∧ max 1 (2 * nodes.capacity) = capacity)

structure Grows {V : Type} (count : Nat) (nodes nodes' : NodeVector V) : Prop where
  next_le : nodes.nextIndex ≤ nodes'.nextIndex
  next_count : nodes'.nextIndex ≤ nodes.nextIndex + count
  size_le : nodes.mExpressionNodes.length ≤ nodes'.mExpressionNodes.length
  size_next
    : nodes'.mExpressionNodes.length + nodes.nextIndex ≤ nodes.mExpressionNodes.length + nodes'.nextIndex
  allocations : ∃ new, nodes'.allocations = nodes.allocations ++ new
    ∧ new.map (·.index) = List.range' nodes.nextIndex (nodes'.nextIndex - nodes.nextIndex)
    ∧ (∀ a ∈ new, a.size ≤ nodes.mExpressionNodes.length + count)
    ∧ ∀ capacity, nodes.Settled capacity → nodes.mExpressionNodes.length + count ≤ capacity →
      ∀ a ∈ new, a.capacity = capacity
  length_le : nodes'.mExpressionNodes.length ≤ nodes.mExpressionNodes.length + count
  settled : ∀ capacity, nodes.Settled capacity →
    nodes.mExpressionNodes.length + count ≤ capacity → nodes'.Settled capacity
  frame : ∀ i < nodes.nextIndex, i < nodes.mExpressionNodes.length →
    nodes'.mExpressionNodes[i]? = nodes.mExpressionNodes[i]?

section Grows

variable {V : Type} [InspectionValue V] {count count' : Nat} {nodes nodes' nodes'' : NodeVector V}

omit [InspectionValue V] in
theorem Grows.refl : Grows 0 nodes nodes := by
  constructor
  . omega
  . omega
  . omega
  . omega
  . exact ⟨[], by simp⟩
  . omega
  . intro capacity hsettled hroom
    apply hsettled
  . intros
    rfl

omit [InspectionValue V] in
theorem Grows.trans (h : Grows count nodes nodes') (h' : Grows count' nodes' nodes'')
    : Grows (count + count') nodes nodes'' := by
  have := h.next_le
  have := h'.next_le
  have := h.next_count
  have := h'.next_count
  have := h.size_next
  have := h'.size_next
  have hsize := h.size_le
  have hsize' := h'.size_le
  have hlength := h.length_le
  have hlength' := h'.length_le
  constructor
  . omega
  . omega
  . omega
  . omega
  . have ⟨new, hnew, hindex, hsizes, hcapacity⟩ := h.allocations
    have ⟨new', hnew', hindex', hsizes', hcapacity'⟩ := h'.allocations
    refine ⟨new ++ new', ?_, ?_, ?_, ?_⟩
    . rw [hnew', hnew, List.append_assoc]
    . rw [List.map_append, hindex, hindex']
      have hstart : nodes'.nextIndex = nodes.nextIndex + (nodes'.nextIndex - nodes.nextIndex) := by omega
      have hlength : nodes''.nextIndex - nodes.nextIndex
          = nodes'.nextIndex - nodes.nextIndex + (nodes''.nextIndex - nodes'.nextIndex) := by
        omega
      rw [hlength, ← List.range'_append_1, ← hstart]
    . intro a ha
      rw [List.mem_append] at ha
      cases ha with
      | inl hold =>
        have := hsizes a hold
        omega
      | inr hlater =>
        have := hsizes' a hlater
        omega
    . intro capacity hsettled hroom a ha
      rw [List.mem_append] at ha
      cases ha with
      | inl hold =>
        apply hcapacity capacity hsettled ?_ a hold
        omega
      | inr hlater =>
        apply hcapacity' capacity ?_ ?_ a hlater
        . apply h.settled capacity hsettled
          omega
        . omega
  . omega
  . intro capacity hsettled hroom
    apply h'.settled capacity
    . apply h.settled capacity hsettled
      omega
    . omega
  . intro i hi hlength
    rw [h'.frame i (by omega) (by omega), h.frame i hi hlength]

omit [InspectionValue V] in
theorem Grows.mono (h : Grows count nodes nodes') (hle : count ≤ count') : Grows count' nodes nodes' := by
  have hcount := h.next_count
  have hlength := h.length_le
  have ⟨new, hnew, hindex, hsizes, hcapacity⟩ := h.allocations
  constructor
  . apply h.next_le
  . omega
  . apply h.size_le
  . apply h.size_next
  . refine ⟨new, hnew, hindex, ?_, ?_⟩
    . intro a ha
      have := hsizes a ha
      omega
    . intro capacity hsettled hroom
      apply hcapacity capacity hsettled
      omega
  . omega
  . intro capacity hsettled hroom
    apply h.settled capacity hsettled
    omega
  . apply h.frame

omit [InspectionValue V] in
theorem Grows.modify (h : Grows count nodes nodes') (index : Nat) (hindex : nodes.nextIndex ≤ index)
    (f : ExpressionNode V → ExpressionNode V)
    : Grows count nodes (nodes'.modify index f) := by
  constructor
  . apply h.next_le
  . apply h.next_count
  . simpa [NodeVector.modify] using h.size_le
  . simpa [NodeVector.modify] using h.size_next
  . apply h.allocations
  . simpa [NodeVector.modify] using h.length_le
  . intro capacity hsettled hroom
    simpa [NodeVector.Settled, NodeVector.modify] using h.settled capacity hsettled hroom
  . intro i hi hlength
    have hne : index ≠ i := by omega
    simp [NodeVector.modify, hne, h.frame i hi hlength]

omit [InspectionValue V] in
theorem capacityForOneMore_of_settled {capacity : Nat} (h : nodes.Settled capacity)
    (hroom : nodes.mExpressionNodes.length + 1 ≤ capacity)
    : nodes.capacityForOneMore = capacity := by
  have ⟨hle, hcapacity⟩ := h
  unfold NodeVector.capacityForOneMore
  split <;> omega

theorem grows_emplace_back : Grows 1 nodes nodes.emplace_back := by
  have hlength : nodes.emplace_back.mExpressionNodes.length = nodes.mExpressionNodes.length + 1 := by
    simp [NodeVector.emplace_back]
  have hnext : nodes.emplace_back.nextIndex = nodes.nextIndex + 1 := rfl
  constructor
  . omega
  . omega
  . omega
  . omega
  . refine ⟨[⟨nodes.nextIndex, nodes.mExpressionNodes.length + 1, nodes.capacityForOneMore⟩], rfl, ?_, ?_, ?_⟩
    . simp [hnext]
    . simp
    . intro capacity hsettled hroom
      simp [capacityForOneMore_of_settled hsettled hroom]
  . omega
  . intro capacity hsettled hroom
    have hcapacity : nodes.emplace_back.capacity = capacity := capacityForOneMore_of_settled hsettled hroom
    constructor
    . omega
    . apply Or.inl hcapacity
  . intro i hi hlength
    apply List.getElem?_append_left hlength

theorem grows_pop_back : Grows 1 nodes nodes.emplace_back.pop_back := by
  have hnodes : nodes.emplace_back.pop_back.mExpressionNodes = nodes.mExpressionNodes := by
    simp [NodeVector.emplace_back, NodeVector.pop_back]
  have hnext : nodes.emplace_back.pop_back.nextIndex = nodes.nextIndex + 1 := rfl
  constructor
  . omega
  . omega
  . simp [hnodes]
  . rw [hnodes]
    omega
  . apply grows_emplace_back.allocations
  . simp [hnodes]
  . intro capacity hsettled hroom
    have hcapacity : nodes.emplace_back.pop_back.capacity = capacity :=
      capacityForOneMore_of_settled hsettled hroom
    constructor
    . rw [hnodes]
      omega
    . apply Or.inl hcapacity
  . simp [hnodes]

theorem serializeNode_grows (node : ConditionNode V) (nodes : NodeVector V) (depth : Nat)
    : Grows (getNumberOfNodes node depth) nodes (serializeNode node nodes depth).2 := by
  induction depth generalizing node nodes with
  | zero => exact Grows.refl
  | succ depth ih =>
    have hleaf (f : ExpressionNode V → ExpressionNode V)
        : Grows 1 nodes (nodes.emplace_back.modify nodes.nextIndex f) := by
      apply grows_emplace_back.modify
      omega
    cases node with
    | notSet => exact grows_pop_back
    | nodeDoubleValue value => apply hleaf
    | nodeSignalId id => apply hleaf
    | nodeBooleanValue value => apply hleaf
    | nodeFunction function =>
      cases function with
      | notSet => exact grows_pop_back
      | windowFunction signal_id window_type => apply hleaf
      | geohashFunction latitude longitude precision gps_unit => apply hleaf
    | nodeOperator op left_child right_child =>
      cases left_child with
      | none =>
        apply Grows.mono grows_pop_back
        simp only [getNumberOfNodes]
        omega
      | some left_child =>
        unfold serializeNode
        dsimp only
        have hoperator := hleaf fun n => { n with nodeType := convertOperatorType op }
        split
        . apply Grows.mono (hoperator.modify _ (by omega) _)
          simp only [getNumberOfNodes]
          omega
        . have hleft := hoperator.trans (ih left_child _)
          have hleft := hleft.modify nodes.nextIndex (by omega) fun n =>
            { n with left := (serializeNode left_child (nodes.emplace_back.modify nodes.nextIndex
              fun n => { n with nodeType := convertOperatorType op }) depth).1 }
          cases right_child with
          | none =>
            apply Grows.mono (hleft.modify _ (by omega) _)
            simp [getNumberOfNodes]
          | some right_child =>
            dsimp only
            split
            . apply (hleft.trans (ih right_child _)).modify
              omega
            . apply Grows.mono (hleft.modify _ (by omega) _)
              simp [getNumberOfNodes]

end Grows

section Meaning

variable {V : Type} [InspectionValue V]

theorem convertOperatorType_eq_boolean_iff (op : Operator)
    : convertOperatorType op = .BOOLEAN ↔ implemented op = false := by
  cases op <;> simp [convertOperatorType, implemented]

variable {storage : List (ExpressionNode V)} {buffers : List (SignalHistoryBuffer V)}
variable {condition : ActiveCondition V} {geohash : GeohashFunctionNode}

theorem eval_operator {op : Operator} (himplemented : implemented op = true) {index depth : Nat}
    {node : ExpressionNode V} {left right : EvalResult V} (hnode : storage[index]? = some node)
    (htype : node.nodeType = convertOperatorType op)
    (hleft : eval storage buffers node.left condition geohash depth = (left, geohash))
    (hright : op ≠ .LOGICAL_NOT →
      eval storage buffers node.right condition geohash depth = (right, geohash))
    : eval storage buffers (some index) condition geohash (depth + 1)
        =
      (operateChecked op left right, geohash) := by
  have hderef : deref storage (some index) = some node := hnode
  unfold eval operateChecked
  simp only [hderef, htype, hleft]
  cases op
  case COMPARE_NOT_EQUAL => cases himplemented
  case unknown => cases himplemented
  case LOGICAL_NOT =>
    simp only [convertOperatorType, if_true]
    split <;> rfl
  all_goals
    simp only [hright (by simp), convertOperatorType, reduceCtorEq, if_false]
    split
    . rfl
    . split <;> rfl

def Agree (storage : List (ExpressionNode V)) (nodes : NodeVector V) (low high : Nat) : Prop :=
  ∀ i, low ≤ i → i < high → storage[i]? = nodes.mExpressionNodes[i]?

section Modify

variable {nodes : NodeVector V} {index i : Nat} {f : ExpressionNode V → ExpressionNode V}

omit [InspectionValue V] in
theorem getElem?_modify_ne (h : i ≠ index)
    : (nodes.modify index f).mExpressionNodes[i]? = nodes.mExpressionNodes[i]? := by
  simp [NodeVector.modify, Ne.symm h]

omit [InspectionValue V] in
theorem getElem?_modify_self {node : ExpressionNode V} (h : nodes.mExpressionNodes[index]? = some node)
    : (nodes.modify index f).mExpressionNodes[index]? = some (f node) := by
  simp [NodeVector.modify, h]

theorem getElem?_emplace_back (h : nodes.nextIndex ≤ nodes.mExpressionNodes.length)
    : ∃ node, nodes.emplace_back.mExpressionNodes[nodes.nextIndex]? = some node := by
  have hlt : nodes.nextIndex < nodes.emplace_back.mExpressionNodes.length := by
    simp only [NodeVector.emplace_back, List.length_append, List.length_singleton]
    omega
  exact ⟨_, List.getElem?_eq_getElem hlt⟩

theorem getElem?_leaf (h : nodes.nextIndex ≤ nodes.mExpressionNodes.length)
    (hagree : Agree storage (nodes.emplace_back.modify nodes.nextIndex f) nodes.nextIndex
      (nodes.nextIndex + 1))
    : ∃ node, storage[nodes.nextIndex]? = some (f node) := by
  have ⟨node, hnode⟩ := getElem?_emplace_back h
  exists node
  rw [hagree nodes.nextIndex (by omega) (by omega)]
  apply getElem?_modify_self hnode

end Modify

section Operator

variable {op : Operator} {opened afterLeft afterRight : NodeVector V} {index depth count count' : Nat}
variable {leftPtr rightPtr : ExpressionNodePtr} {left right : EvalResult V} {node : ExpressionNode V}

theorem eval_linked (himplemented : implemented op = true)
    (hnode : opened.mExpressionNodes[index]? = some node) (htype : node.nodeType = convertOperatorType op)
    (hindex : index < opened.nextIndex)
    (hroom : opened.nextIndex + count ≤ opened.mExpressionNodes.length)
    (hgrowsLeft : Grows count opened afterLeft)
    (hgrowsRight
      : Grows count' (afterLeft.modify index fun n => { n with left := leftPtr }) afterRight)
    (hagree
      : Agree storage (afterRight.modify index fun n => { n with right := rightPtr }) index
          afterRight.nextIndex)
    (hleft : Agree storage afterLeft opened.nextIndex afterLeft.nextIndex →
      eval storage buffers leftPtr condition geohash depth = (left, geohash))
    (hright : op ≠ .LOGICAL_NOT → Agree storage afterRight afterLeft.nextIndex afterRight.nextIndex →
      eval storage buffers rightPtr condition geohash depth = (right, geohash))
    : eval storage buffers (some index) condition geohash (depth + 1)
        =
      (operateChecked op left right, geohash) := by
  have hnextLeft := hgrowsLeft.next_le
  have hcountLeft := hgrowsLeft.next_count
  have hsizeLeft := hgrowsLeft.size_le
  have hnextRight : afterLeft.nextIndex ≤ afterRight.nextIndex := hgrowsRight.next_le
  have hlinkedLength
      : (afterLeft.modify index fun n => { n with left := leftPtr }).mExpressionNodes.length
          = afterLeft.mExpressionNodes.length := by
    simp [NodeVector.modify]
  have hframe (i : Nat) (hi : i < afterLeft.nextIndex)
      : afterRight.mExpressionNodes[i]?
          = (afterLeft.modify index fun n => { n with left := leftPtr }).mExpressionNodes[i]? := by
    apply hgrowsRight.frame i hi
    omega
  -- the node itself is only written to by its own links
  have hlinked : storage[index]? = some { node with left := leftPtr, right := rightPtr } := by
    rw [hagree index (by omega) (by omega)]
    suffices h : afterRight.mExpressionNodes[index]? = some { node with left := leftPtr } from
      getElem?_modify_self h
    rw [hframe index (by omega)]
    apply getElem?_modify_self (f := fun n => { n with left := leftPtr })
    rw [hgrowsLeft.frame index hindex (by omega)]
    exact hnode
  apply eval_operator himplemented hlinked htype
  . apply hleft
    intro i hlow hhigh
    rw [hagree i (by omega) (by omega)]
    rw [getElem?_modify_ne (by omega), hframe i hhigh]
    apply getElem?_modify_ne
    omega
  . intro hnot
    apply hright hnot
    intro i hlow hhigh
    rw [hagree i (by omega) hhigh]
    apply getElem?_modify_ne
    omega

end Operator

theorem serializeNode_meaning {node : ConditionNode V} {nodes : NodeVector V} {depth : Nat}
    (hgeohash : node.hasGeohash = false)
    (hroom : nodes.nextIndex + getNumberOfNodes node depth ≤ nodes.mExpressionNodes.length)
    (hagree : Agree storage (serializeNode node nodes depth).2 nodes.nextIndex
      (serializeNode node nodes depth).2.nextIndex)
    : eval storage buffers (serializeNode node nodes depth).1 condition geohash depth
        =
      (reference (fun id => getLatestSignalValue buffers id condition)
        (fun function id => getSampleWindowFunction buffers function id condition) node depth,
        geohash) := by
  induction depth generalizing node nodes with
  | zero => rfl
  | succ depth ih =>
    have hnext : nodes.nextIndex ≤ nodes.mExpressionNodes.length := by omega
    cases node with
    | notSet => rfl
    | nodeDoubleValue value =>
      have ⟨node, hnode⟩ := getElem?_leaf hnext hagree
      simp [serializeNode, eval, deref, hnode, reference]
    | nodeSignalId id =>
      have ⟨node, hnode⟩ := getElem?_leaf hnext hagree
      simp [serializeNode, eval, deref, hnode, reference]
    | nodeBooleanValue value =>
      have ⟨node, hnode⟩ := getElem?_leaf hnext hagree
      simp [serializeNode, eval, deref, hnode, reference]
    | nodeFunction function =>
      cases function with
      | notSet => rfl
      | windowFunction signal_id window_type =>
        have ⟨node, hnode⟩ := getElem?_leaf hnext hagree
        simp [serializeNode, eval, deref, hnode, reference]
      | geohashFunction latitude longitude precision gps_unit => cases hgeohash
    | nodeOperator op left_child right_child =>
      cases left_child with
      | none => rfl
      | some left_child =>
        have ⟨hgeohashLeft, hgeohashRight⟩ := ConditionNode.hasGeohash_operator hgeohash
        simp only [getNumberOfNodes] at hroom
        unfold serializeNode at hagree ⊢
        unfold reference
        dsimp only at hagree ⊢
        have ⟨node, hnode⟩ := getElem?_emplace_back hnext
        have hopened := getElem?_modify_self (f := fun n => { n with nodeType := convertOperatorType op })
          hnode
        generalize hgrown : nodes.emplace_back.modify nodes.nextIndex
          (fun n => { n with nodeType := convertOperatorType op }) = opened at hagree hopened ⊢
        have hopenedNext : opened.nextIndex = nodes.nextIndex + 1 := by
          rw [← hgrown]
          rfl
        have hopenedSize : opened.mExpressionNodes.length = nodes.mExpressionNodes.length + 1 := by
          simp [← hgrown, NodeVector.modify, NodeVector.emplace_back]
        cases himplemented : implemented op with
        | false =>
          have hboolean := (convertOperatorType_eq_boolean_iff op).mpr himplemented
          rw [if_pos hboolean] at hagree ⊢
          have hself : storage[nodes.nextIndex]?
              = some { node with nodeType := convertOperatorType op, booleanValue := false } := by
            rw [hagree nodes.nextIndex (by omega) (by simp [NodeVector.modify, hopenedNext])]
            apply getElem?_modify_self hopened
          simp [eval, deref, hself, hboolean]
        | true =>
          have hboolean : ¬convertOperatorType op = .BOOLEAN := by
            simp [convertOperatorType_eq_boolean_iff, himplemented]
          rw [if_neg hboolean] at hagree ⊢
          rw [if_pos rfl]
          have hgrowsLeft := serializeNode_grows left_child opened depth
          have hroomLeft : opened.nextIndex + getNumberOfNodes left_child depth
              ≤ opened.mExpressionNodes.length := by
            omega
          have hleft := ih hgeohashLeft hroomLeft
          cases right_child with
          | none =>
            apply eval_linked himplemented hopened rfl (by omega) hroomLeft hgrowsLeft Grows.refl hagree
              hleft
            intros
            cases depth <;> rfl
          | some right_child =>
            dsimp only at hroom
            by_cases hnot : op = .LOGICAL_NOT
            . have htype : ¬convertOperatorType op ≠ .OPERATOR_LOGICAL_NOT := by simp [hnot, convertOperatorType]
              dsimp only at hagree ⊢
              rw [if_neg htype] at hagree ⊢
              apply eval_linked himplemented hopened rfl (by omega) hroomLeft hgrowsLeft Grows.refl hagree
                hleft
              intro hne
              exact absurd hnot hne
            . have htype : convertOperatorType op ≠ .OPERATOR_LOGICAL_NOT := by
                cases op <;> simp_all [convertOperatorType]
              dsimp only at hagree ⊢
              rw [if_pos htype] at hagree ⊢
              apply eval_linked himplemented hopened rfl (by omega) hroomLeft hgrowsLeft
                (serializeNode_grows right_child _ depth) hagree hleft
              intro _ hagreeRight
              apply ih (hgeohashRight right_child rfl) _ hagreeRight
              have hcount := hgrowsLeft.next_count
              have hsize := hgrowsLeft.size_le
              simp only [NodeVector.modify, List.length_modify]
              omega

theorem buildCondition_settled (condition_tree : ConditionNode V)
    : (NodeVector.resize (V := V) (getNumberOfNodes condition_tree MAX_EQUATION_DEPTH)).Settled
        (2 * getNumberOfNodes condition_tree MAX_EQUATION_DEPTH) := by
  have hpos : 0 < getNumberOfNodes condition_tree MAX_EQUATION_DEPTH := by
    unfold MAX_EQUATION_DEPTH getNumberOfNodes
    split <;> omega
  constructor
  . simp [NodeVector.resize]
  . apply Or.inr
    constructor
    . simp [NodeVector.resize]
    . simp only [NodeVector.resize]
      omega

/--
The condition that is built is evaluated as the reference semantics of its tree says, whatever the signals and
windows are. While it is built the indices are distinct and below the count, the vector has at most twice as
many elements, and its capacity does not change any more once the first node was handed out.
-/
theorem buildCondition_meaning (condition_tree : ConditionNode V)
    (hgeohash : condition_tree.hasGeohash = false)
    : (∀ buffers condition geohash,
        eval (buildCondition condition_tree).2.mExpressionNodes buffers (buildCondition condition_tree).1
            condition geohash MAX_EQUATION_DEPTH
          =
        (reference (fun id => getLatestSignalValue buffers id condition)
            (fun function id => getSampleWindowFunction buffers function id condition) condition_tree
            MAX_EQUATION_DEPTH,
          geohash))
      ∧ ((buildCondition condition_tree).2.allocations.map (·.index)).Nodup
      ∧ ∀ a ∈ (buildCondition condition_tree).2.allocations,
        a.index < getNumberOfNodes condition_tree MAX_EQUATION_DEPTH
          ∧ a.size ≤ 2 * getNumberOfNodes condition_tree MAX_EQUATION_DEPTH
          ∧ a.capacity = 2 * getNumberOfNodes condition_tree MAX_EQUATION_DEPTH := by
  have hlength : (NodeVector.resize (V := V)
      (getNumberOfNodes condition_tree MAX_EQUATION_DEPTH)).mExpressionNodes.length
        = getNumberOfNodes condition_tree MAX_EQUATION_DEPTH := by
    simp [NodeVector.resize]
  have hgrows := serializeNode_grows condition_tree
    (NodeVector.resize (getNumberOfNodes condition_tree MAX_EQUATION_DEPTH)) MAX_EQUATION_DEPTH
  have hcount := hgrows.next_count
  have ⟨new, hnew, hindex, hsize, hcapacity⟩ := hgrows.allocations
  have hallocations : (buildCondition condition_tree).2.allocations = new := hnew
  rw [hallocations]
  constructor
  . intro buffers condition geohash
    apply serializeNode_meaning hgeohash
    . simp [NodeVector.resize]
    . intro i _ _
      rfl
  . constructor
    . rw [hindex]
      exact List.nodup_range'
    . intro a ha
      have hmem : a.index ∈ new.map (·.index) := List.mem_map_of_mem ha
      rw [hindex, List.mem_range'_1] at hmem
      have hsize := hsize a ha
      have hcapacity := hcapacity _ (buildCondition_settled condition_tree) (by omega) a ha
      have hstart : (NodeVector.resize (V := V)
        (getNumberOfNodes condition_tree MAX_EQUATION_DEPTH)).nextIndex = 0 := rfl
      omega

theorem buildCondition_meaning_and
    : ∃ condition_tree : ConditionNode Rat,
        condition_tree.hasGeohash = false
          ∧ getNumberOfNodes condition_tree MAX_EQUATION_DEPTH = 7
          ∧ (buildCondition condition_tree).1 = some 0
          ∧ (buildCondition condition_tree).2.allocations.map (·.index) = [0, 1, 2, 3, 4, 5]
          ∧ ((buildCondition condition_tree).2.allocations.map (·.index)).Nodup
          ∧ ∀ buffers condition geohash,
            eval (buildCondition condition_tree).2.mExpressionNodes buffers
                (buildCondition condition_tree).1 condition geohash MAX_EQUATION_DEPTH
              =
            (reference (fun id => getLatestSignalValue buffers id condition)
                (fun function id => getSampleWindowFunction buffers function id condition) condition_tree
                MAX_EQUATION_DEPTH,
              geohash) := by
  exists .nodeOperator .LOGICAL_AND
    (some (.nodeOperator .LOGICAL_NOT
      (some (.nodeOperator .COMPARE_SMALLER (some (.nodeDoubleValue (3 / 2))) (some (.nodeSignalId 7)))) none))
    (some (.nodeOperator .COMPARE_NOT_EQUAL (some (.nodeBooleanValue true)) none))
  refine ⟨by decide, by decide, by decide, by decide, ?_, ?_⟩
  . exact (buildCondition_meaning _ (by decide)).2.1
  . exact (buildCondition_meaning _ (by decide)).1

end Meaning

end DataManagement
