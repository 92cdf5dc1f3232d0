import FleetWiseEdge.Types.Basic

/-!
This module contains the expression nodes a condition is made of. Nodes live in a vector and point
to their children in it, the model keeps such a pointer as an index and `nullptr` as `none`.
-/

namespace DataManagement

abbrev SignalID := Nat

def INVALID_SIGNAL_ID : SignalID := 0xFFFFFFFF

inductive ExpressionNodeType where
  | FLOAT
  | SIGNAL
  | WINDOWFUNCTION
  | GEOHASHFUNCTION
  | BOOLEAN
  | OPERATOR_SMALLER
  | OPERATOR_BIGGER
  | OPERATOR_SMALLER_EQUAL
  | OPERATOR_BIGGER_EQUAL
  | OPERATOR_EQUAL
  | OPERATOR_LOGICAL_AND
  | OPERATOR_LOGICAL_OR
  | OPERATOR_LOGICAL_NOT
  | OPERATOR_ARITHMETIC_PLUS
  | OPERATOR_ARITHMETIC_MINUS
  | OPERATOR_ARITHMETIC_MULTIPLY
  | OPERATOR_ARITHMETIC_DIVIDE
  deriving DecidableEq, Repr

inductive WindowFunction where
  | LAST_FIXED_WINDOW_AVG
  | PREV_LAST_FIXED_WINDOW_AVG
  | LAST_FIXED_WINDOW_MIN
  | PREV_LAST_FIXED_WINDOW_MIN
  | LAST_FIXED_WINDOW_MAX
  | PREV_LAST_FIXED_WINDOW_MAX
  | NONE
  deriving DecidableEq, Repr

inductive GPSUnitType where
  | DECIMAL_DEGREE
  | MICROARCSECOND
  | MILLIARCSECOND
  | ARCSECOND
  deriving DecidableEq, Repr

structure GeohashFunction where
  latitudeSignalID : SignalID := 0
  longitudeSignalID : SignalID := 0
  precision : Nat := 0
  gpsUnitType : GPSUnitType := .DECIMAL_DEGREE
  deriving DecidableEq, Repr

structure ExpressionFunction where
  geohashFunction : GeohashFunction := {}
  windowFunction : WindowFunction := .NONE
  deriving DecidableEq, Repr

abbrev ExpressionNodePtr := Option Nat

structure ExpressionNode (V : Type) where
  nodeType : ExpressionNodeType
  left : ExpressionNodePtr := none
  right : ExpressionNodePtr := none
  floatingValue : V
  booleanValue : Bool := false
  signalID : SignalID := 0
  function : ExpressionFunction := {}
  deriving DecidableEq, Repr

end DataManagement
