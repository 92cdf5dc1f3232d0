import FleetWiseEdge.Inspection.Impl.Engine

/-!
This module contains `CollectionInspectionEngine::onChangeInspectionMatrix`, which builds the buffers
and the conditions of the engine from an `InspectionMatrix`.
-/

namespace DataInspection

open Cpp DataManagement

/--
The order in which a loop over an `std::unordered_map` of buffers goes through them.
-/
structure IterationOrder (V : Type) where
  apply : List (SignalHistoryBuffer V) → List (SignalHistoryBuffer V)
  perm : ∀ buffers, (apply buffers).Perm buffers

def IterationOrder.inserted (V : Type) : IterationOrder V where
  apply buffers := buffers
  perm _ := List.Perm.refl _

section Expression

variable {V : Type}

def deref (expressionNodeStorage : List (ExpressionNode V)) (expression : ExpressionNodePtr)
    : Option (ExpressionNode V) :=
  expression.bind fun idx => expressionNodeStorage[idx]?

def isSignalPartOfEval (expressionNodeStorage : List (ExpressionNode V))
    (expression : ExpressionNodePtr) (signalID : SignalID) (remainingStackDepth : Nat)
    : Bool :=
  match remainingStackDepth with
  | 0 => false
  | remainingStackDepth + 1 =>
    match deref expressionNodeStorage expression with
    | none => false
    | some node =>
      match node.nodeType with
      | .SIGNAL | .WINDOWFUNCTION => node.signalID = signalID
      | .GEOHASHFUNCTION =>
        node.function.geohashFunction.latitudeSignalID = signalID
          || node.function.geohashFunction.longitudeSignalID = signalID
      | _ =>
        let leftRet :=
          isSignalPartOfEval expressionNodeStorage node.left signalID remainingStackDepth
        let rightRet :=
          isSignalPartOfEval expressionNodeStorage node.right signalID remainingStackDepth
        leftRet || rightRet

end Expression

/--
The loop over one kind of buffers in `preAllocateBuffers`. It stops at the first buffer that does not
fit and sets its `mSize` to 0.
-/
def allocateBuffers {σ α : Type} (get : σ → HistoryBuffer α) (set : σ → HistoryBuffer α → σ)
    (sizeofSample : Nat) (emptySample : Sample α) (buffers : List σ) (usedBytes : Nat)
    : List σ × Nat × Bool :=
  match buffers with
  | [] => ([], usedBytes, true)
  | buf :: bufs =>
    let buffer := get buf
    let requiredBytes := buffer.mSize * sizeofSample
    if usedBytes + requiredBytes > MAX_SAMPLE_MEMORY then
      (set buf { buffer with mSize := 0 } :: bufs, usedBytes, false)
    else
      let buf := set buf { buffer with mBuffer := List.replicate buffer.mSize emptySample }
      let (bufs, usedBytes, allFit) :=
        allocateBuffers get set sizeofSample emptySample bufs (usedBytes + requiredBytes)
      (buf :: bufs, usedBytes, allFit)

def emptySignalSample {V : Type} [InspectionValue V] : Sample V :=
  ⟨InspectionValue.ofNat 0, 0, Bitset.ofBool false⟩

def emptyCanFrameSample : Sample CanFrameContent :=
  ⟨⟨0, Vector.replicate _ 0⟩, 0, Bitset.ofBool false⟩

namespace CollectionInspectionEngine

variable {V : Type} [InspectionValue V]

/--
`use` is what the caller does with the buffer that it gets a reference to.
-/
def addSignalToBuffer (s : CollectionInspectionEngine V)
    (signal : InspectionMatrixSignalCollectionInfo)
    (use : SignalHistoryBuffer V → SignalHistoryBuffer V)
    : CollectionInspectionEngine V :=
  { s with
    mSignalBuffers :=
      KeyedList.insert SignalHistoryBuffer.ptr signal.ptr
        (fun buffer => use { buffer with mSize := max buffer.mSize signal.sampleBufferSize })
        (use (.ofRequest signal.signalID signal.sampleBufferSize signal.minimumSampleIntervalMs))
        s.mSignalBuffers }

/--
The loop over the signals of one condition. The second component is false if
`onChangeInspectionMatrix` returns from it.
-/
def setupSignals (signals : List InspectionMatrixSignalCollectionInfo)
    (s : CollectionInspectionEngine V)
    : CollectionInspectionEngine V × Bool :=
  match signals with
  | [] => (s, true)
  | signal :: rest =>
    if signal.signalID = INVALID_SIGNAL_ID then
      (s, false)
    else if signal.sampleBufferSize = 0 then
      (s, false)
    else
      setupSignals rest (s.addSignalToBuffer signal fun buf =>
        buf.addFixedWindow signal.fixedWindowPeriod)

def setupCanFrames (canFrames : List InspectionMatrixCanFrameCollectionInfo)
    (s : CollectionInspectionEngine V)
    : CollectionInspectionEngine V :=
  match canFrames with
  | [] => s
  | c :: rest =>
    setupCanFrames rest
      { s with
        mCanFrameBuffers :=
          KeyedList.insert CanFrameHistoryBuffer.ptr c.ptr
            (fun buf => { buf with mSize := max buf.mSize c.sampleBufferSize })
            (.ofRequest c.frameID c.channelID c.sampleBufferSize c.minimumSampleIntervalMs)
            s.mCanFrameBuffers }

def setupConditions (conditions : List (ConditionWithCollectedData V))
    (s : CollectionInspectionEngine V)
    : CollectionInspectionEngine V × Bool :=
  match conditions with
  | [] => (s, true)
  | p :: rest =>
    if s.mConditions.length ≥ MAX_NUMBER_OF_ACTIVE_CONDITION then
      (s, true)
    else
      let s := { s with mConditions := s.mConditions ++ [{ mCondition := p }] }
      if p.signals.length > MAX_DIFFERENT_SIGNAL_IDS then
        (s, false)
      else
        match setupSignals p.signals s with
        | (s, false) => (s, false)
        | (s, true) => setupConditions rest (s.setupCanFrames p.canFrames)

def linkSignal (conditionIndex : Nat) (s : CollectionInspectionEngine V)
    (signal : InspectionMatrixSignalCollectionInfo)
    : CollectionInspectionEngine V :=
  match KeyedList.lookup SignalHistoryBuffer.ptr signal.ptr s.mSignalBuffers,
      s.mConditions[conditionIndex]? with
  | some buf, some ac =>
    if isSignalPartOfEval s.mActiveInspectionMatrix.expressionNodeStorage ac.mCondition.condition
        signal.signalID MAX_EQUATION_DEPTH then
      { s with
        mSignalBuffers :=
          KeyedList.update SignalHistoryBuffer.ptr signal.ptr
            (fun buf =>
              { buf with
                mConditionsThatEvaluateOnThisSignal :=
                  buf.mConditionsThatEvaluateOnThisSignal.set conditionIndex true })
            s.mSignalBuffers
        mConditions := s.mConditions.modify conditionIndex fun ac =>
          { ac with
            mEvaluationSignals := Function.update ac.mEvaluationSignals signal.signalID (some signal.ptr)
            mEvaluationFunctions :=
              match buf.getFixedWindow signal.fixedWindowPeriod with
              | some window =>
                Function.update ac.mEvaluationFunctions signal.signalID
                  (some ⟨signal.ptr, window.mWindowSizeMs⟩)
              | none => ac.mEvaluationFunctions } }
    else
      s
  | _, _ => s

def linkConditions (conditions : List (ActiveCondition V)) (conditionIndex : Nat)
    (s : CollectionInspectionEngine V)
    : CollectionInspectionEngine V :=
  match conditions with
  | [] => s
  | ac :: rest =>
    linkConditions rest (conditionIndex + 1)
      (ac.mCondition.signals.foldl (linkSignal conditionIndex) s)

/--
The result of `preAllocateBuffers` is not used by its caller, it is the second component here.
-/
def preAllocateBuffers (s : CollectionInspectionEngine V) (order : IterationOrder V)
    : CollectionInspectionEngine V × Bool :=
  let (signalBuffers, usedBytes, signalsFit) :=
    allocateBuffers SignalHistoryBuffer.toHistoryBuffer
      (fun buf buffer => { buf with toHistoryBuffer := buffer })
      SIZEOF_SIGNAL_SAMPLE emptySignalSample (order.apply s.mSignalBuffers) 0
  let s := { s with mSignalBuffers := signalBuffers }
  if signalsFit then
    let (canFrameBuffers, _, canFramesFit) :=
      allocateBuffers CanFrameHistoryBuffer.toHistoryBuffer
        (fun buf buffer => { buf with toHistoryBuffer := buffer })
        SIZEOF_CAN_FRAME_SAMPLE emptyCanFrameSample s.mCanFrameBuffers usedBytes
    ({ s with mCanFrameBuffers := canFrameBuffers }, canFramesFit)
  else
    (s, false)

def clear (s : CollectionInspectionEngine V) : CollectionInspectionEngine V :=
  { s with
    mSignalBuffers := []
    mCanFrameBuffers := []
    mConditions := []
    mNextConditionToCollectedIndex := 0
    mNextWindowFunctionTimesOut := 0
    mConditionsWithInputSignalChanged := Bitset.ofBool false
    mConditionsWithConditionCurrentlyTrue := Bitset.ofBool false
    mConditionsNotTriggeredWaitingPublished := Bitset.ofBool false }

def beforeSetup (s : CollectionInspectionEngine V) (activeInspectionMatrix : InspectionMatrix V)
    : CollectionInspectionEngine V :=
  { s.clear with
    mActiveInspectionMatrix := activeInspectionMatrix
    mConditionsNotTriggeredWaitingPublished := Bitset.ofBool true }

def onChangeInspectionMatrix (s : CollectionInspectionEngine V) (order : IterationOrder V)
    (activeInspectionMatrix : InspectionMatrix V)
    : CollectionInspectionEngine V :=
  match (s.beforeSetup activeInspectionMatrix).setupConditions activeInspectionMatrix.conditions with
  | (s, false) => s
  | (s, true) =>
    let s := s.linkConditions s.mConditions 0
    -- Assume all conditions are currently true
    let s := { s with mConditionsWithConditionCurrentlyTrue := Bitset.ofBool true }
    (s.preAllocateBuffers order).1

end CollectionInspectionEngine

section Accepted

variable {V : Type}

def ConditionWithCollectedData.Valid (p : ConditionWithCollectedData V) : Prop :=
  p.signals.length ≤ MAX_DIFFERENT_SIGNAL_IDS
    ∧
  ∀ s ∈ p.signals, s.signalID ≠ INVALID_SIGNAL_ID ∧ s.sampleBufferSize ≠ 0

instance (p : ConditionWithCollectedData V) : Decidable p.Valid :=
  inferInstanceAs (Decidable (_ ∧ _))

def InspectionMatrix.Accepted (m : InspectionMatrix V) : Prop :=
  ∀ p ∈ m.conditions.take MAX_NUMBER_OF_ACTIVE_CONDITION, p.Valid

instance (m : InspectionMatrix V) : Decidable m.Accepted :=
  inferInstanceAs (Decidable (∀ p ∈ _, _))

end Accepted

end DataInspection
