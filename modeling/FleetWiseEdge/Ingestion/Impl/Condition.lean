import FleetWiseEdge.Types.Condition
import FleetWiseEdge.Types.Inspection

/-!
This module contains the part of `CollectionSchemeIngestion::build` that turns the condition tree of a
message into expression nodes.
-/

namespace DataManagement

open CollectionSchemesMsg DataInspection

def convertFunctionType (function : WindowType) : WindowFunction :=
  match function with
  | .LAST_WINDOW_MIN => .LAST_FIXED_WINDOW_MIN
  | .LAST_WINDOW_MAX => .LAST_FIXED_WINDOW_MAX
  | .LAST_WINDOW_AVG => .LAST_FIXED_WINDOW_AVG
  | .PREV_LAST_WINDOW_MIN => .PREV_LAST_FIXED_WINDOW_MIN
  | .PREV_LAST_WINDOW_MAX => .PREV_LAST_FIXED_WINDOW_MAX
  | .PREV_LAST_WINDOW_AVG => .PREV_LAST_FIXED_WINDOW_AVG
  | .unknown _ => .NONE

def convertOperatorType (op : Operator) : ExpressionNodeType :=
  match op with
  | .COMPARE_SMALLER => .OPERATOR_SMALLER
  | .COMPARE_BIGGER => .OPERATOR_BIGGER
  | .COMPARE_SMALLER_EQUAL => .OPERATOR_SMALLER_EQUAL
  | .COMPARE_BIGGER_EQUAL => .OPERATOR_BIGGER_EQUAL
  | .COMPARE_EQUAL => .OPERATOR_EQUAL
  | .COMPARE_NOT_EQUAL => .BOOLEAN
  | .LOGICAL_AND => .OPERATOR_LOGICAL_AND
  | .LOGICAL_OR => .OPERATOR_LOGICAL_OR
  | .LOGICAL_NOT => .OPERATOR_LOGICAL_NOT
  | .ARITHMETIC_PLUS => .OPERATOR_ARITHMETIC_PLUS
  | .ARITHMETIC_MINUS => .OPERATOR_ARITHMETIC_MINUS
  | .ARITHMETIC_MULTIPLY => .OPERATOR_ARITHMETIC_MULTIPLY
  | .ARITHMETIC_DIVIDE => .OPERATOR_ARITHMETIC_DIVIDE
  | .unknown _ => .BOOLEAN

section Count

variable {V : Type}

-- The depth bounds the count by 2 ^ MAX_EQUATION_DEPTH, so the `uint32_t` of the source does not overflow.
def getNumberOfNodes (node : ConditionNode V) (depth : Nat) : Nat :=
  match depth with
  | 0 => 0
  | depth + 1 =>
    match node with
    | .nodeOperator _ left_child right_child =>
      1 + (match left_child with
          | none => 0
          | some left => getNumberOfNodes left depth)
        + (match right_child with
          | none => 0
          | some right => getNumberOfNodes right depth)
    | _ => 1
termination_by structural depth

end Count

structure Allocation where
  index : Nat
  size : Nat
  capacity : Nat
  deriving DecidableEq, Repr

structure NodeVector (V : Type) where
  mExpressionNodes : List (ExpressionNode V)
  capacity : Nat
  nextIndex : Nat := 0
  allocations : List Allocation := []

namespace NodeVector

variable {V : Type}

def resize [InspectionValue V] (numNodes : Nat) : NodeVector V where
  mExpressionNodes :=
    List.replicate numNodes { nodeType := .FLOAT, floatingValue := InspectionValue.ofNat 0 }
  capacity := numNodes

def capacityForOneMore (nodes : NodeVector V) : Nat :=
  if nodes.mExpressionNodes.length < nodes.capacity then
    nodes.capacity
  else
    max 1 (2 * nodes.mExpressionNodes.length)

-- The current node is the one at the old `nextIndex`, not the one that is added at the end.
def emplace_back [InspectionValue V] (nodes : NodeVector V) : NodeVector V where
  mExpressionNodes :=
    nodes.mExpressionNodes ++ [{ nodeType := .FLOAT, floatingValue := InspectionValue.ofNat 0 }]
  capacity := nodes.capacityForOneMore
  nextIndex := nodes.nextIndex + 1
  allocations := nodes.allocations
    ++ [⟨nodes.nextIndex, nodes.mExpressionNodes.length + 1, nodes.capacityForOneMore⟩]

def pop_back (nodes : NodeVector V) : NodeVector V :=
  { nodes with mExpressionNodes := nodes.mExpressionNodes.dropLast }

def modify (nodes : NodeVector V) (index : Nat) (f : ExpressionNode V → ExpressionNode V)
    : NodeVector V :=
  { nodes with mExpressionNodes := nodes.mExpressionNodes.modify index f }

end NodeVector

section Serialize

variable {V : Type} [InspectionValue V]

def serializeNode (node : ConditionNode V) (nodes : NodeVector V) (remainingDepth : Nat)
    : ExpressionNodePtr × NodeVector V :=
  match remainingDepth with
  | 0 => (none, nodes)
  | remainingDepth + 1 =>
    let currentNode := nodes.nextIndex
    let nodes := nodes.emplace_back
    match node with
    | .nodeSignalId id =>
      (some currentNode, nodes.modify currentNode fun n => { n with signalID := id, nodeType := .SIGNAL })
    | .nodeDoubleValue value =>
      (some currentNode,
        nodes.modify currentNode fun n => { n with floatingValue := value, nodeType := .FLOAT })
    | .nodeBooleanValue value =>
      (some currentNode,
        nodes.modify currentNode fun n => { n with booleanValue := value, nodeType := .BOOLEAN })
    | .nodeFunction (.windowFunction signal_id window_type) =>
      (some currentNode,
        nodes.modify currentNode fun n =>
          { n with
            signalID := signal_id
            function := { n.function with windowFunction := convertFunctionType window_type }
            nodeType := .WINDOWFUNCTION })
    | .nodeFunction (.geohashFunction latitude longitude precision gps_unit) =>
      (some currentNode,
        nodes.modify currentNode fun n =>
          { n with
            nodeType := .GEOHASHFUNCTION
            function := { n.function with
              geohashFunction :=
                { latitudeSignalID := latitude
                  longitudeSignalID := longitude
                  precision := precision % 2 ^ 8
                  gpsUnitType := gps_unit } } })
    | .nodeOperator op (some left_child) right_child =>
      let nodeType := convertOperatorType op
      let nodes := nodes.modify currentNode fun n => { n with nodeType }
      if nodeType = .BOOLEAN then
        -- no valid function
        (some currentNode, nodes.modify currentNode fun n => { n with booleanValue := false })
      else
        let (left, nodes) := serializeNode left_child nodes remainingDepth
        let nodes := nodes.modify currentNode fun n => { n with left }
        match right_child with
        | some right_child =>
          if nodeType ≠ .OPERATOR_LOGICAL_NOT then
            let (right, nodes) := serializeNode right_child nodes remainingDepth
            (some currentNode, nodes.modify currentNode fun n => { n with right })
          else
            (some currentNode, nodes.modify currentNode fun n => { n with right := none })
        | none => (some currentNode, nodes.modify currentNode fun n => { n with right := none })
    -- an invalid node takes an element from the end of the vector, and its index stays handed out
    | .nodeOperator _ none _ | .nodeFunction .notSet | .notSet => (none, nodes.pop_back)
termination_by structural remainingDepth

def buildCondition (condition_tree : ConditionNode V) : ExpressionNodePtr × NodeVector V :=
  let numNodes := getNumberOfNodes condition_tree MAX_EQUATION_DEPTH
  serializeNode condition_tree (NodeVector.resize numNodes) MAX_EQUATION_DEPTH

end Serialize

end DataManagement
