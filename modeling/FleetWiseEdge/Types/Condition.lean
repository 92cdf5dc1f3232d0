import FleetWiseEdge.Types.Expression

namespace CollectionSchemesMsg

open DataManagement

/--
An enumeration of proto3 is open: a message may contain a value that is not known here.
-/
inductive Operator where
  | COMPARE_SMALLER
  | COMPARE_BIGGER
  | COMPARE_SMALLER_EQUAL
  | COMPARE_BIGGER_EQUAL
  | COMPARE_EQUAL
  | COMPARE_NOT_EQUAL
  | LOGICAL_AND
  | LOGICAL_OR
  | LOGICAL_NOT
  | ARITHMETIC_PLUS
  | ARITHMETIC_MINUS
  | ARITHMETIC_MULTIPLY
  | ARITHMETIC_DIVIDE
  | unknown (value : Int)
  deriving DecidableEq, Repr

inductive WindowType where
  | LAST_WINDOW_MIN
  | LAST_WINDOW_MAX
  | LAST_WINDOW_AVG
  | PREV_LAST_WINDOW_MIN
  | PREV_LAST_WINDOW_MAX
  | PREV_LAST_WINDOW_AVG
  | unknown (value : Int)
  deriving DecidableEq, Repr

inductive NodeFunction where
  | notSet
  | windowFunction (signal_id : SignalID) (window_type : WindowType)
  | geohashFunction (latitude_signal_id longitude_signal_id : SignalID) (geohash_precision : Nat)
    (gps_unit : GPSUnitType)
  deriving DecidableEq, Repr

def NodeFunction.isGeohash (function : NodeFunction) : Bool :=
  match function with
  | .geohashFunction .. => true
  | _ => false

inductive ConditionNode (V : Type) where
  | notSet
  | nodeOperator (operator : Operator) (left_child right_child : Option (ConditionNode V))
  | nodeFunction (function : NodeFunction)
  | nodeDoubleValue (value : V)
  | nodeSignalId (id : SignalID)
  | nodeBooleanValue (value : Bool)

namespace ConditionNode

variable {V : Type}

def hasGeohash (node : ConditionNode V) : Bool :=
  match node with
  | .nodeOperator _ (some left) (some right) => left.hasGeohash || right.hasGeohash
  | .nodeOperator _ (some left) none => left.hasGeohash
  | .nodeOperator _ none (some right) => right.hasGeohash
  | .nodeFunction function => function.isGeohash
  | _ => false

theorem hasGeohash_operator {operator : Operator} {left_child : ConditionNode V}
    {right_child : Option (ConditionNode V)}
    (h : (nodeOperator operator (some left_child) right_child).hasGeohash = false)
    : left_child.hasGeohash = false ∧ ∀ right ∈ right_child, right.hasGeohash = false := by
  cases right_child with
  | none =>
    rw [hasGeohash] at h
    simpa using h
  | some right_child =>
    rw [hasGeohash, Bool.or_eq_false_iff] at h
    simpa using h

end ConditionNode

end CollectionSchemesMsg
