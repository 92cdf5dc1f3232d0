import FleetWiseEdge.Inspection.Lemmas.Engine
import FleetWiseEdge.Inspection.Lemmas.Eval
import FleetWiseEdge.Inspection.SampleLedger

/-!
This module contains the abstract model of one condition: unbounded lists of samples, its own windows,
no marks, no other conditions. The engine shows every condition the behaviour of this model.
-/

namespace DataInspection

open Cpp DataManagement

section Meaning

variable {V : Type} [InspectionValue V]

/--
The meaning of an expression without geohash nodes, given what the signals and the windows are.
-/
def meaning (expressionNodeStorage : List (ExpressionNode V)) (signals : SignalID → EvalResult V)
    (windows : WindowFunction → SignalID → EvalResult V) (expression : ExpressionNodePtr)
    (remainingStackDepth : Nat)
    : EvalResult V :=
  match remainingStackDepth with
  | 0 => .ofCode .STACK_DEPTH_REACHED
  | remainingStackDepth + 1 =>
    match deref expressionNodeStorage expression with
    | none => .ofCode .STACK_DEPTH_REACHED
    | some node =>
      match node.nodeType with
      | .FLOAT => .ofDouble node.floatingValue
      | .BOOLEAN => .ofBool node.booleanValue
      | .SIGNAL => signals node.signalID
      | .WINDOWFUNCTION => windows node.function.windowFunction node.signalID
      | nodeType =>
        let left := meaning expressionNodeStorage signals windows node.left remainingStackDepth
        if left.code ≠ .SUCCESSFUL then
          .ofCode left.code
        else if nodeType = .OPERATOR_LOGICAL_NOT then
          applyOperator nodeType left (.ofCode .SUCCESSFUL)
        else
          let right := meaning expressionNodeStorage signals windows node.right remainingStackDepth
          if right.code ≠ .SUCCESSFUL then
            .ofCode right.code
          else
            applyOperator nodeType left right

theorem eval_eq_meaning {storage : List (ExpressionNode V)} {buffers : List (SignalHistoryBuffer V)}
    {condition : ActiveCondition V} {signals : SignalID → EvalResult V}
    {windows : WindowFunction → SignalID → EvalResult V}
    (hsignals : ∀ id, getLatestSignalValue buffers id condition = signals id)
    (hwindows : ∀ function id,
      getSampleWindowFunction buffers function id condition = windows function id)
    (expression : ExpressionNodePtr) (node : GeohashFunctionNode) (depth : Nat)
    (h : usesGeohash storage expression depth = false)
    : (eval storage buffers expression condition node depth).1
        =
      meaning storage signals windows expression depth := by
  induction depth generalizing expression node with
  | zero => rfl
  | succ depth ih =>
    unfold usesGeohash at h
    unfold eval meaning
    cases hderef : deref storage expression with
    | none => rfl
    | some n =>
      rw [hderef] at h
      dsimp only at h ⊢
      cases htype : n.nodeType <;> simp only [htype, Bool.or_eq_false_iff] at h ⊢
      case SIGNAL => exact hsignals _
      case WINDOWFUNCTION => exact hwindows _ _
      case GEOHASHFUNCTION => cases h
      all_goals
        rw [← ih n.left node h.1]
        split
        . rfl
        . first
          | rfl
          | rw [← ih n.right (eval storage buffers n.left condition node depth).2 h.2]
            split <;> first | rfl | (split <;> rfl)

end Meaning

/--
The state of a condition. It is `waiting` from a trigger until its payload is published.
-/
structure ConditionModel (V : Type) [InspectionValue V] where
  samples : SampleLedger Unit V := Ledger.empty
  windows : FixedWindowPtr → FixedTimeWindowFunctionData V := fun ptr => .ofSize ptr.windowSizeMs
  lastTrigger : Nat := 0
  waiting : Bool := false
  currentlyTrue : Bool := true

inductive ConditionOutput (V : Type) where
  | triggered (currentTime : Nat)
  | published (triggerTime : Nat) (signals : List (CollectedSignal V))
  deriving DecidableEq, Repr

namespace ConditionModel

variable {V : Type} [InspectionValue V]

def accepts (c : ConditionModel V) (k : SignalBufferPtr) (receiveTime : Nat) : Bool :=
  decide (k.minimumSampleIntervalMs = 0)
    || decide (receiveTime ≥
      u64 (((c.samples.stored k).head?.map Prod.snd).getD 0 + k.minimumSampleIntervalMs))

def accepted (c : ConditionModel V) (id : SignalID) (receiveTime : Nat) (value : V)
    (k : SignalBufferPtr)
    : List (V × Nat) :=
  if k.signalID = id && c.accepts k receiveTime then [(value, receiveTime)] else []

def addNewSignal (c : ConditionModel V) (id : SignalID) (receiveTime : Nat) (value : V)
    : ConditionModel V :=
  { c with
    samples := c.samples.grow (c.accepted id receiveTime value)
    windows := fun ptr =>
      if ptr.buffer.signalID = id && c.accepts ptr.buffer receiveTime then
        (c.windows ptr).sampled value receiveTime
      else
        c.windows ptr }

def tick (c : ConditionModel V) (currentTime : Nat) : ConditionModel V :=
  { c with windows := fun ptr => (c.windows ptr).ticked currentTime }

section Condition

variable (storage : List (ExpressionNode V)) (ac : ActiveCondition V)

def signalValue (c : ConditionModel V) (id : SignalID) : EvalResult V :=
  match ac.mEvaluationSignals id with
  | none => .ofCode .SIGNAL_NOT_FOUND
  | some k =>
    if u32 (c.samples.stored k).length = 0 then
      .ofCode .SIGNAL_NOT_FOUND
    else
      match (c.samples.stored k).head? with
      | some sample => .ofDouble sample.1
      | none => .ofCode .SIGNAL_NOT_FOUND

def windowValue (c : ConditionModel V) (function : WindowFunction) (id : SignalID) : EvalResult V :=
  match ac.mEvaluationFunctions id with
  | none => .ofCode .SIGNAL_NOT_FOUND
  | some ptr => windowFunctionValue (c.windows ptr) function

def isTrue (c : ConditionModel V) : Bool :=
  (meaning storage (c.signalValue ac) (c.windowValue ac) ac.mCondition.condition
    MAX_EQUATION_DEPTH).isTrue

def triggers (c : ConditionModel V) : Bool :=
  c.isTrue storage ac && (!ac.mCondition.triggerOnlyOnRisingEdge || !c.currentlyTrue)

def evaluate (c : ConditionModel V) (currentTime : Nat)
    : ConditionModel V × List (ConditionOutput V) :=
  if !c.waiting && decide (currentTime ≥ u64 (c.lastTrigger + ac.mCondition.minimumPublishInterval)) then
    ({ c with
        currentlyTrue := c.isTrue storage ac
        waiting := c.triggers storage ac
        lastTrigger := if c.triggers storage ac then currentTime else c.lastTrigger },
      if c.triggers storage ac then [.triggered currentTime] else [])
  else
    (c, [])

def isReady (c : ConditionModel V) (currentTime : Nat) : Bool :=
  c.waiting && decide (currentTime ≥ u64 (c.lastTrigger + ac.mCondition.afterDuration))

def publish (c : ConditionModel V) : ConditionModel V × List (ConditionOutput V) :=
  let (samples, signals) := SampleLedger.collect () ac.mCondition.collectedSignals c.samples
  ({ c with samples, waiting := false }, [.published c.lastTrigger signals])

def drain (c : ConditionModel V) (currentTime : Nat)
    : ConditionModel V × List (ConditionOutput V) :=
  if c.isReady ac currentTime then c.publish ac else (c, [])

def step (c : ConditionModel V) (input : InspectionInput V)
    : ConditionModel V × List (ConditionOutput V) :=
  let c := input.signals.foldl (fun c s => c.addNewSignal s.signalID s.receiveTime s.value) c
  let (c, triggers) := (c.tick input.currentTime).evaluate storage ac input.currentTime
  let (c, payloads) := c.drain ac input.currentTime
  (c, triggers ++ payloads)

def run (c : ConditionModel V) (inputs : List (InspectionInput V))
    : ConditionModel V × List (ConditionOutput V) :=
  Machine.run (step storage ac) c inputs

end Condition

end ConditionModel

end DataInspection
