import FleetWiseEdge.Inspection.Impl.Setup

namespace DataInspection

open Cpp DataManagement

structure EvalResult (V : Type) where
  code : ExpressionErrorCode
  resultValueDouble : V
  resultValueBool : Bool

structure Evaluation where
  index : Nat
  isTrue : Bool
  triggered : Bool
  deriving DecidableEq, Repr

namespace EvalResult

variable {V : Type} [InspectionValue V]

def ofCode (code : ExpressionErrorCode) : EvalResult V := ⟨code, InspectionValue.ofNat 0, false⟩

def ofDouble (value : V) : EvalResult V := ⟨.SUCCESSFUL, value, false⟩

def ofBool (value : Bool) : EvalResult V := ⟨.SUCCESSFUL, InspectionValue.ofNat 0, value⟩

def isTrue (r : EvalResult V) : Bool := r.code = .SUCCESSFUL && r.resultValueBool

end EvalResult

section Eval

variable {V : Type} [InspectionValue V]

def EVAL_EQUAL_DISTANCE : V :=
  InspectionValue.div (InspectionValue.ofNat 1) (InspectionValue.ofNat 1000)

def bufferAt (mSignalBuffers : List (SignalHistoryBuffer V)) (ptr : SignalBufferPtr)
    : Option (SignalHistoryBuffer V) :=
  KeyedList.lookup SignalHistoryBuffer.ptr ptr mSignalBuffers

def windowAt (mSignalBuffers : List (SignalHistoryBuffer V)) (ptr : FixedWindowPtr)
    : Option (FixedTimeWindowFunctionData V) :=
  (bufferAt mSignalBuffers ptr.buffer).bind fun buf => buf.getFixedWindow ptr.windowSizeMs

def getLatestSignalValue (mSignalBuffers : List (SignalHistoryBuffer V)) (id : SignalID)
    (condition : ActiveCondition V)
    : EvalResult V :=
  match (condition.mEvaluationSignals id).bind (bufferAt mSignalBuffers) with
  | none => .ofCode .SIGNAL_NOT_FOUND
  | some s =>
    if s.mCounter = 0 then
      .ofCode .SIGNAL_NOT_FOUND
    else
      match s.mBuffer[s.mCurrentPosition]? with
      | some sample => .ofDouble sample.content
      -- a ring that holds a sample has its position in bounds
      | none => .ofCode .SIGNAL_NOT_FOUND

def windowFunctionValue (w : FixedTimeWindowFunctionData V) (function : WindowFunction)
    : EvalResult V :=
  let last (value : V) : EvalResult V :=
    if w.mLastAvailable then .ofDouble value else ⟨.FUNCTION_DATA_NOT_AVAILABLE, value, false⟩
  let previousLast (value : V) : EvalResult V :=
    if w.mPreviousLastAvailable then
      .ofDouble value
    else
      ⟨.FUNCTION_DATA_NOT_AVAILABLE, value, false⟩
  match function with
  | .LAST_FIXED_WINDOW_AVG => last w.mLastAvg
  | .LAST_FIXED_WINDOW_MIN => last w.mLastMin
  | .LAST_FIXED_WINDOW_MAX => last w.mLastMax
  | .PREV_LAST_FIXED_WINDOW_AVG => previousLast w.mPreviousLastAvg
  | .PREV_LAST_FIXED_WINDOW_MIN => previousLast w.mPreviousLastMin
  | .PREV_LAST_FIXED_WINDOW_MAX => previousLast w.mPreviousLastMax
  | .NONE => .ofCode .NOT_IMPLEMENTED_FUNCTION

def getSampleWindowFunction (mSignalBuffers : List (SignalHistoryBuffer V))
    (function : WindowFunction) (signalID : SignalID) (condition : ActiveCondition V)
    : EvalResult V :=
  match (condition.mEvaluationFunctions signalID).bind (windowAt mSignalBuffers) with
  | none => .ofCode .SIGNAL_NOT_FOUND
  | some w => windowFunctionValue w function

def getGeohashFunctionNode (mSignalBuffers : List (SignalHistoryBuffer V))
    (geohashFunction : GeohashFunction) (condition : ActiveCondition V)
    (mGeohashFunctionNode : GeohashFunctionNode)
    : EvalResult V × GeohashFunctionNode :=
  let latitude := getLatestSignalValue mSignalBuffers geohashFunction.latitudeSignalID condition
  if latitude.code ≠ .SUCCESSFUL then
    (.ofCode latitude.code, mGeohashFunctionNode)
  else
    let longitude := getLatestSignalValue mSignalBuffers geohashFunction.longitudeSignalID condition
    if longitude.code ≠ .SUCCESSFUL then
      (.ofCode longitude.code, mGeohashFunctionNode)
    else
      let mGeohashFunctionNode :=
        mGeohashFunctionNode.evaluateGeohash latitude.resultValueDouble longitude.resultValueDouble
          geohashFunction.precision geohashFunction.gpsUnitType
      (.ofBool mGeohashFunctionNode.mIsGeohashNew, mGeohashFunctionNode)

def applyOperator (nodeType : ExpressionNodeType) (left right : EvalResult V) : EvalResult V :=
  match nodeType with
  | .OPERATOR_SMALLER =>
    .ofBool (InspectionValue.lt left.resultValueDouble right.resultValueDouble)
  | .OPERATOR_BIGGER =>
    .ofBool (InspectionValue.lt right.resultValueDouble left.resultValueDouble)
  | .OPERATOR_SMALLER_EQUAL =>
    .ofBool (InspectionValue.le left.resultValueDouble right.resultValueDouble)
  | .OPERATOR_BIGGER_EQUAL =>
    .ofBool (InspectionValue.le right.resultValueDouble left.resultValueDouble)
  | .OPERATOR_EQUAL =>
    .ofBool (InspectionValue.lt
      (InspectionValue.abs (InspectionValue.sub left.resultValueDouble right.resultValueDouble))
      EVAL_EQUAL_DISTANCE)
  | .OPERATOR_LOGICAL_AND => .ofBool (left.resultValueBool && right.resultValueBool)
  | .OPERATOR_LOGICAL_OR => .ofBool (left.resultValueBool || right.resultValueBool)
  | .OPERATOR_LOGICAL_NOT => .ofBool !left.resultValueBool
  | .OPERATOR_ARITHMETIC_PLUS =>
    .ofDouble (InspectionValue.add left.resultValueDouble right.resultValueDouble)
  | .OPERATOR_ARITHMETIC_MINUS =>
    .ofDouble (InspectionValue.sub left.resultValueDouble right.resultValueDouble)
  | .OPERATOR_ARITHMETIC_MULTIPLY =>
    .ofDouble (InspectionValue.mul left.resultValueDouble right.resultValueDouble)
  | .OPERATOR_ARITHMETIC_DIVIDE =>
    .ofDouble (InspectionValue.div left.resultValueDouble right.resultValueDouble)
  | _ => .ofCode .NOT_IMPLEMENTED_TYPE

def eval (expressionNodeStorage : List (ExpressionNode V))
    (mSignalBuffers : List (SignalHistoryBuffer V)) (expression : ExpressionNodePtr)
    (condition : ActiveCondition V) (mGeohashFunctionNode : GeohashFunctionNode)
    (remainingStackDepth : Nat)
    : EvalResult V × GeohashFunctionNode :=
  match remainingStackDepth with
  | 0 => (.ofCode .STACK_DEPTH_REACHED, mGeohashFunctionNode)
  | remainingStackDepth + 1 =>
    match deref expressionNodeStorage expression with
    | none => (.ofCode .STACK_DEPTH_REACHED, mGeohashFunctionNode)
    | some node =>
      match node.nodeType with
      | .FLOAT => (.ofDouble node.floatingValue, mGeohashFunctionNode)
      | .BOOLEAN => (.ofBool node.booleanValue, mGeohashFunctionNode)
      | .SIGNAL => (getLatestSignalValue mSignalBuffers node.signalID condition, mGeohashFunctionNode)
      | .WINDOWFUNCTION =>
        (getSampleWindowFunction mSignalBuffers node.function.windowFunction node.signalID condition,
          mGeohashFunctionNode)
      | .GEOHASHFUNCTION =>
        getGeohashFunctionNode mSignalBuffers node.function.geohashFunction condition
          mGeohashFunctionNode
      | nodeType =>
        let (left, mGeohashFunctionNode) :=
          eval expressionNodeStorage mSignalBuffers node.left condition mGeohashFunctionNode
            remainingStackDepth
        if left.code ≠ .SUCCESSFUL then
          (.ofCode left.code, mGeohashFunctionNode)
        else if nodeType = .OPERATOR_LOGICAL_NOT then
          -- this operator does not have a right operand
          (applyOperator nodeType left (.ofCode .SUCCESSFUL), mGeohashFunctionNode)
        else
          let (right, mGeohashFunctionNode) :=
            eval expressionNodeStorage mSignalBuffers node.right condition mGeohashFunctionNode
              remainingStackDepth
          if right.code ≠ .SUCCESSFUL then
            (.ofCode right.code, mGeohashFunctionNode)
          else
            (applyOperator nodeType left right, mGeohashFunctionNode)

end Eval

namespace CollectionInspectionEngine

variable {V : Type} [InspectionValue V]

def evalCondition (s : CollectionInspectionEngine V) (condition : ActiveCondition V)
    : EvalResult V × GeohashFunctionNode :=
  eval s.mActiveInspectionMatrix.expressionNodeStorage s.mSignalBuffers
    condition.mCondition.condition condition s.mGeohashFunctionNode MAX_EQUATION_DEPTH

def evaluateCondition (s : CollectionInspectionEngine V) (currentTime i : Nat)
    : CollectionInspectionEngine V × List Evaluation :=
  match s.mConditions[i]? with
  | none => (s, [])
  | some condition =>
    if currentTime ≥ u64 (condition.mLastTrigger + condition.mCondition.minimumPublishInterval) then
      let (result, mGeohashFunctionNode) := s.evalCondition condition
      let s :=
        { s with
          mGeohashFunctionNode
          mConditionsWithInputSignalChanged := s.mConditionsWithInputSignalChanged.set i false }
      if result.isTrue then
        let triggered :=
          !condition.mCondition.triggerOnlyOnRisingEdge
            || !s.mConditionsWithConditionCurrentlyTrue.test i
        let s :=
          if triggered then
            { s with
              mConditionsNotTriggeredWaitingPublished :=
                s.mConditionsNotTriggeredWaitingPublished.set i false
              mConditions := s.mConditions.modify i fun condition =>
                { condition with mLastTrigger := currentTime } }
          else
            s
        ({ s with
            mConditionsWithConditionCurrentlyTrue :=
              s.mConditionsWithConditionCurrentlyTrue.set i true },
          [⟨i, true, triggered⟩])
      else
        ({ s with
            mConditionsWithConditionCurrentlyTrue :=
              s.mConditionsWithConditionCurrentlyTrue.set i false },
          [⟨i, false, false⟩])
    else
      (s, [])

def evaluateLoop (currentTime : Nat) (conditionsToEvaluate : Bitset) (remaining i : Nat)
    (s : CollectionInspectionEngine V)
    : CollectionInspectionEngine V × List Evaluation :=
  match remaining with
  | 0 => (s, [])
  | remaining + 1 =>
    let (s, evaluations) :=
      if conditionsToEvaluate.test i then s.evaluateCondition currentTime i else (s, [])
    let (s, later) := evaluateLoop currentTime conditionsToEvaluate remaining (i + 1) s
    (s, evaluations ++ later)

def conditionsToEvaluate (s : CollectionInspectionEngine V) : Bitset :=
  (s.mConditionsWithConditionCurrentlyTrue.or s.mConditionsWithInputSignalChanged).and
    s.mConditionsNotTriggeredWaitingPublished

def evaluateConditions (s : CollectionInspectionEngine V) (currentTime : Nat)
    : CollectionInspectionEngine V × List Evaluation :=
  let s :=
    if currentTime ≥ s.mNextWindowFunctionTimesOut then
      s.updateAllFixedWindowFunctions currentTime
    else
      s
  if s.conditionsToEvaluate.none MAX_NUMBER_OF_ACTIVE_CONDITION then
    (s, [])
  else
    s.evaluateLoop currentTime s.conditionsToEvaluate s.mConditions.length 0

def oneConditionIsTrue (evaluations : List Evaluation) : Bool := evaluations.any (·.isTrue)

end CollectionInspectionEngine

end DataInspection
