import FleetWiseEdge.Inspection.Lemmas.Collect

namespace DataInspection

open Cpp DataManagement

def usesGeohash {V : Type} (expressionNodeStorage : List (ExpressionNode V))
    (expression : ExpressionNodePtr) (remainingStackDepth : Nat)
    : Bool :=
  match remainingStackDepth with
  | 0 => false
  | remainingStackDepth + 1 =>
    match deref expressionNodeStorage expression with
    | none => false
    | some node =>
      match node.nodeType with
      | .GEOHASHFUNCTION => true
      | .FLOAT | .BOOLEAN | .SIGNAL | .WINDOWFUNCTION => false
      | _ =>
        usesGeohash expressionNodeStorage node.left remainingStackDepth
          || usesGeohash expressionNodeStorage node.right remainingStackDepth

def InspectionMatrix.NoGeohash {V : Type} (m : InspectionMatrix V) : Prop :=
  ∀ p ∈ m.conditions, usesGeohash m.expressionNodeStorage p.condition MAX_EQUATION_DEPTH = false

instance {V : Type} (m : InspectionMatrix V) : Decidable m.NoGeohash :=
  inferInstanceAs (Decidable (∀ p ∈ _, _))

section Eval

variable {V : Type} [InspectionValue V] {storage : List (ExpressionNode V)}
variable {buffers buffers' : List (SignalHistoryBuffer V)} {condition condition' : ActiveCondition V}

theorem eval_congr
    (hsignals : ∀ id, getLatestSignalValue buffers id condition
      = getLatestSignalValue buffers' id condition')
    (hwindows : ∀ function id, getSampleWindowFunction buffers function id condition
      = getSampleWindowFunction buffers' function id condition')
    (expression : ExpressionNodePtr) (node : GeohashFunctionNode) (depth : Nat)
    : eval storage buffers expression condition node depth
        =
      eval storage buffers' expression condition' node depth := by
  induction depth generalizing expression node with
  | zero => rfl
  | succ depth ih =>
    unfold eval getGeohashFunctionNode
    simp only [hsignals, hwindows, ih]

theorem eval_of_not_usesGeohash (expression : ExpressionNodePtr) (node : GeohashFunctionNode)
    (depth : Nat) (h : usesGeohash storage expression depth = false)
    : eval storage buffers expression condition node depth
        =
      ((eval storage buffers expression condition {} depth).1, node) := by
  induction depth generalizing expression node with
  | zero => rfl
  | succ depth ih =>
    unfold usesGeohash at h
    unfold eval
    cases hderef : deref storage expression with
    | none => rfl
    | some n =>
      rw [hderef] at h
      dsimp only at h ⊢
      have hoperator : usesGeohash storage n.left depth = false →
          usesGeohash storage n.right depth = false → ∀ node,
          eval storage buffers n.left condition node depth
              = ((eval storage buffers n.left condition {} depth).1, node)
            ∧
          eval storage buffers n.right condition node depth
              = ((eval storage buffers n.right condition {} depth).1, node) :=
        fun hleft hright node => ⟨ih n.left node hleft, ih n.right node hright⟩
      cases htype : n.nodeType <;> simp only [htype, Bool.or_eq_false_iff] at h ⊢
      case GEOHASHFUNCTION => simp at h
      all_goals
        have hnode := hoperator h.1 h.2
        rw [(hnode node).1, (hnode {}).1]
        dsimp only
        rw [(hnode node).2, (hnode {}).2]
        split
        . rfl
        . first
          | rfl
          | split <;> first | rfl | (split <;> rfl)

open CollectionInspectionEngine

theorem getLatestSignalValue_congr
    (href : condition'.mEvaluationSignals = condition.mEvaluationSignals)
    (hbuffers : ∀ id ptr, condition.mEvaluationSignals id = some ptr →
      bufferAt buffers' ptr = bufferAt buffers ptr)
    (id : SignalID)
    : getLatestSignalValue buffers' id condition' = getLatestSignalValue buffers id condition := by
  unfold getLatestSignalValue
  rw [href]
  cases hptr : condition.mEvaluationSignals id with
  | none => rfl
  | some ptr =>
    dsimp only [Option.bind_some]
    rw [hbuffers id ptr hptr]

theorem getSampleWindowFunction_congr
    (href : condition'.mEvaluationFunctions = condition.mEvaluationFunctions)
    (hbuffers : ∀ id ptr, condition.mEvaluationFunctions id = some ptr →
      bufferAt buffers' ptr.buffer = bufferAt buffers ptr.buffer)
    (function : WindowFunction) (id : SignalID)
    : getSampleWindowFunction buffers' function id condition'
        =
      getSampleWindowFunction buffers function id condition := by
  unfold getSampleWindowFunction
  rw [href]
  cases hptr : condition.mEvaluationFunctions id with
  | none => rfl
  | some ptr =>
    dsimp only [Option.bind_some]
    unfold windowAt
    rw [hbuffers id ptr hptr]

omit [InspectionValue V] in
theorem lookup_sameReadings (h : List.Forall₂ SameReadings buffers buffers') (k : SignalBufferPtr)
    : Option.Rel SameReadings (bufferAt buffers k) (bufferAt buffers' k) :=
  KeyedList.lookup_forall₂ (h.imp fun _ _ h => ⟨h.ptr, h⟩) k

theorem getLatestSignalValue_sameReadings (h : List.Forall₂ SameReadings buffers buffers')
    (href : condition'.mEvaluationSignals = condition.mEvaluationSignals) (id : SignalID)
    : getLatestSignalValue buffers' id condition' = getLatestSignalValue buffers id condition := by
  unfold getLatestSignalValue
  rw [href]
  cases hptr : condition.mEvaluationSignals id with
  | none => rfl
  | some ptr =>
    dsimp only [Option.bind_some]
    have hrel := lookup_sameReadings h ptr
    generalize bufferAt buffers ptr = found at hrel ⊢
    generalize bufferAt buffers' ptr = found' at hrel ⊢
    cases hrel with
    | none => rfl
    | some hsame =>
      rename_i b b'
      dsimp only
      rw [hsame.1]
      dsimp only
      split
      . rfl
      . have hcontent : (b'.mBuffer[b.mCurrentPosition]?).map (·.content)
            = (b.mBuffer[b.mCurrentPosition]?).map (·.content) := by
          rw [← List.getElem?_map, ← List.getElem?_map]
          rw [hsame.2]
        cases hslot : b.mBuffer[b.mCurrentPosition]? with
        | none =>
          rw [hslot] at hcontent
          simp only [Option.map_none, Option.map_eq_none_iff] at hcontent
          rw [hcontent]
        | some sample =>
          rw [hslot] at hcontent
          simp only [Option.map_some, Option.map_eq_some_iff] at hcontent
          obtain ⟨sample', hsample', heq⟩ := hcontent
          rw [hsample']
          dsimp only
          rw [heq]

omit [InspectionValue V] in
theorem windowAt_sameReadings (h : List.Forall₂ SameReadings buffers buffers') (ptr : FixedWindowPtr)
    : windowAt buffers' ptr = windowAt buffers ptr := by
  unfold windowAt
  have hrel := lookup_sameReadings h ptr.buffer
  generalize bufferAt buffers ptr.buffer = found at hrel ⊢
  generalize bufferAt buffers' ptr.buffer = found' at hrel ⊢
  cases hrel with
  | none => rfl
  | some hsame =>
    dsimp only [Option.bind_some]
    rw [hsame.1]
    rfl

theorem getSampleWindowFunction_sameReadings (h : List.Forall₂ SameReadings buffers buffers')
    (href : condition'.mEvaluationFunctions = condition.mEvaluationFunctions)
    (function : WindowFunction) (id : SignalID)
    : getSampleWindowFunction buffers' function id condition'
        =
      getSampleWindowFunction buffers function id condition := by
  unfold getSampleWindowFunction
  rw [href]
  cases condition.mEvaluationFunctions id with
  | none => rfl
  | some ptr =>
    dsimp only [Option.bind_some]
    rw [windowAt_sameReadings h]

end Eval

end DataInspection
