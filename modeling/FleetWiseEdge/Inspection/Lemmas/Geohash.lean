import FleetWiseEdge.Inspection.Lemmas.Eval
import FleetWiseEdge.Inspection.Lemmas.Evaluate

namespace DataInspection

open Cpp DataManagement

def geohashAt (precision : Nat) (geohash : String) : List Char := geohash.toList.take precision

theorem Geohash.encode_length {V : Type} [InspectionValue V] {lat lon : V} {precision : Nat}
    {geohash : String} (h : Geohash.encode lat lon precision = some geohash)
    : geohash.length = precision := by
  unfold Geohash.encode at h
  rw [Option.bind_eq_bind, Option.bind_eq_some_iff] at h
  have ⟨hashBits, _, heq⟩ := h
  rw [← Option.some_inj.mp heq]
  simp

namespace GeohashFunctionNode

variable {V : Type} [InspectionValue V] {node : GeohashFunctionNode} {precision : Nat}

def Encoded (node : GeohashFunctionNode) : Prop :=
  node.mGeohashInfo.mGeohashString = ""
    ∨
  node.mGeohashInfo.mGeohashString.length = Geohash.MAX_PRECISION

theorem geohashAt_min {geohash : String} (h : geohash.length ≤ Geohash.MAX_PRECISION)
    : geohashAt (min precision Geohash.MAX_PRECISION) geohash = geohashAt precision geohash := by
  unfold geohashAt
  rw [← String.length_toList] at h
  cases Nat.le_total precision Geohash.MAX_PRECISION with
  | inl hle => rw [Nat.min_eq_left hle]
  | inr hge =>
    rw [Nat.min_eq_right hge, List.take_of_length_le h, List.take_of_length_le]
    omega

theorem Encoded.evaluateGeohash (h : node.Encoded) (latitude longitude : V) (precision : Nat)
    (gpsUnitType : GPSUnitType)
    : (node.evaluateGeohash latitude longitude precision gpsUnitType).Encoded := by
  unfold GeohashFunctionNode.evaluateGeohash
  dsimp only
  split
  . rename_i geohash hencode
    exact Or.inr (Geohash.encode_length hencode)
  . exact h

theorem Encoded.consumeGeohash (h : node.Encoded) : node.consumeGeohash.Encoded := h

theorem Encoded.evaluateGeohash_some (h : node.Encoded) {latitude longitude : V}
    {gpsUnitType : GPSUnitType} {geohash : String}
    (hencode : Geohash.encode (convertToDecimalDegree latitude gpsUnitType)
      (convertToDecimalDegree longitude gpsUnitType) Geohash.MAX_PRECISION = some geohash)
    : (node.evaluateGeohash latitude longitude precision gpsUnitType).mIsGeohashNew
          = decide (geohashAt precision geohash
              ≠ geohashAt precision node.mGeohashInfo.mGeohashString)
        ∧
      (node.evaluateGeohash latitude longitude precision gpsUnitType).mGeohashInfo.mGeohashString
          = geohash := by
  have hlength := Geohash.encode_length hencode
  have hcurrent : geohashAt (min precision Geohash.MAX_PRECISION) geohash
      = geohashAt precision geohash := geohashAt_min (by omega)
  have hle := Nat.min_le_right precision Geohash.MAX_PRECISION
  unfold GeohashFunctionNode.evaluateGeohash
  dsimp only
  rw [hencode]
  refine ⟨?_, rfl⟩
  dsimp only
  rw [hlength]
  cases h with
  | inl hempty =>
    rw [hempty]
    cases hzero : precision with
    | zero => simp [geohashAt]
    | succ n =>
      have hne : geohashAt (n + 1) geohash ≠ geohashAt (n + 1) "" := by
        intro heq
        have hlengths := congrArg List.length heq
        unfold geohashAt at hlengths
        rw [List.length_take, String.length_toList, hlength] at hlengths
        simp [Geohash.MAX_PRECISION] at hlengths
      simp [hne, Geohash.MAX_PRECISION]
  | inr hstored =>
    have hprevious := @geohashAt_min precision _ (Nat.le_of_eq hstored)
    unfold geohashAt at hcurrent hprevious ⊢
    rw [hstored, hcurrent, hprevious]
    simp [hle]

theorem Encoded.evaluateGeohash_isNew (h : node.Encoded) (latitude longitude : V)
    (gpsUnitType : GPSUnitType)
    : (node.evaluateGeohash latitude longitude precision gpsUnitType).mIsGeohashNew
        =
      (Geohash.encode (convertToDecimalDegree latitude gpsUnitType)
        (convertToDecimalDegree longitude gpsUnitType) Geohash.MAX_PRECISION).any fun geohash =>
          geohashAt precision geohash ≠ geohashAt precision node.mGeohashInfo.mGeohashString := by
  cases hencode : Geohash.encode (convertToDecimalDegree latitude gpsUnitType)
      (convertToDecimalDegree longitude gpsUnitType) Geohash.MAX_PRECISION with
  | none =>
    unfold GeohashFunctionNode.evaluateGeohash
    dsimp only
    rw [hencode]
    rfl
  | some geohash =>
    rw [(h.evaluateGeohash_some hencode).1]
    rfl

end GeohashFunctionNode

section Eval

variable {V : Type} [InspectionValue V] {storage : List (ExpressionNode V)}
variable {buffers : List (SignalHistoryBuffer V)} {condition : ActiveCondition V}

theorem getGeohashFunctionNode_snd (P : GeohashFunctionNode → Prop)
    (hP : ∀ (node : GeohashFunctionNode) (latitude longitude : V) precision gpsUnitType,
      P node → P (node.evaluateGeohash latitude longitude precision gpsUnitType))
    (f : GeohashFunction) {node : GeohashFunctionNode} (h : P node)
    : P (getGeohashFunctionNode buffers f condition node).2 := by
  unfold getGeohashFunctionNode
  dsimp only
  split
  . exact h
  . split
    . exact h
    . exact hP _ _ _ _ _ h

theorem eval_snd (P : GeohashFunctionNode → Prop)
    (hP : ∀ (node : GeohashFunctionNode) (latitude longitude : V) precision gpsUnitType,
      P node → P (node.evaluateGeohash latitude longitude precision gpsUnitType))
    (expression : ExpressionNodePtr) {node : GeohashFunctionNode} (depth : Nat) (h : P node)
    : P (eval storage buffers expression condition node depth).2 := by
  induction depth generalizing expression node with
  | zero => exact h
  | succ depth ih =>
    unfold eval
    cases deref storage expression with
    | none => exact h
    | some n =>
      dsimp only
      have hleft := ih n.left h
      have hright := ih n.right hleft
      split
      . exact h
      . exact h
      . exact h
      . exact h
      . exact getGeohashFunctionNode_snd P hP n.function.geohashFunction h
      . split
        . exact hleft
        . split
          . exact hleft
          . split
            . exact hright
            . exact hright

end Eval

namespace CollectionInspectionEngine

variable {V : Type} [InspectionValue V] {s : CollectionInspectionEngine V}

def geohashFunctionAt (s : CollectionInspectionEngine V) (i : Nat)
    : Option (ActiveCondition V × GeohashFunction) := do
  let condition ← s.mConditions[i]?
  let node ← deref s.mActiveInspectionMatrix.expressionNodeStorage condition.mCondition.condition
  if node.nodeType = .GEOHASHFUNCTION then some (condition, node.function.geohashFunction) else none

/--
The geohash of the latest position that the geohash condition `i` reads. There is none as long as a signal
is missing, and for a position that is out of range.
-/
def latestGeohash (s : CollectionInspectionEngine V) (i : Nat) : Option String := do
  let (condition, f) ← s.geohashFunctionAt i
  let latitude := getLatestSignalValue s.mSignalBuffers f.latitudeSignalID condition
  let longitude := getLatestSignalValue s.mSignalBuffers f.longitudeSignalID condition
  if latitude.code = .SUCCESSFUL && longitude.code = .SUCCESSFUL then
    Geohash.encode
      (GeohashFunctionNode.convertToDecimalDegree latitude.resultValueDouble f.gpsUnitType)
      (GeohashFunctionNode.convertToDecimalDegree longitude.resultValueDouble f.gpsUnitType)
      Geohash.MAX_PRECISION
  else
    none

theorem latestGeohash_length {i : Nat} {geohash : String} (h : s.latestGeohash i = some geohash)
    : geohash.length = Geohash.MAX_PRECISION := by
  unfold latestGeohash at h
  rw [Option.bind_eq_bind, Option.bind_eq_some_iff] at h
  have ⟨_, _, hencode⟩ := h
  dsimp only at hencode
  split at hencode
  . exact Geohash.encode_length hencode
  . cases hencode

theorem geohashFunctionAt_eq_some {i : Nat} {condition : ActiveCondition V} {f : GeohashFunction}
    (h : s.geohashFunctionAt i = some (condition, f))
    : s.mConditions[i]? = some condition
        ∧
      s.evalCondition condition
        = getGeohashFunctionNode s.mSignalBuffers f condition s.mGeohashFunctionNode := by
  unfold geohashFunctionAt at h
  simp only [Option.bind_eq_bind, Option.bind_eq_some_iff] at h
  have ⟨condition', hcond, n, hderef, hroot⟩ := h
  split at hroot
  . rename_i htype
    have heq := Option.some_inj.mp hroot
    rw [Prod.mk.injEq] at heq
    rw [← heq.1, ← heq.2]
    refine ⟨hcond, ?_⟩
    unfold evalCondition eval
    rw [hderef]
    simp only [htype, MAX_EQUATION_DEPTH]
  . cases hroot

theorem isTrueNow_geohash (hnode : s.mGeohashFunctionNode.Encoded) {i : Nat}
    {condition : ActiveCondition V} {f : GeohashFunction}
    (hf : s.geohashFunctionAt i = some (condition, f))
    : s.isTrueNow condition
        =
      (s.latestGeohash i).any fun geohash =>
        geohashAt f.precision geohash
          ≠ geohashAt f.precision s.mGeohashFunctionNode.mGeohashInfo.mGeohashString := by
  unfold isTrueNow latestGeohash
  rw [(geohashFunctionAt_eq_some hf).2, hf]
  unfold getGeohashFunctionNode
  dsimp only [Option.bind_eq_bind, Option.bind_some]
  by_cases hlatitude : (getLatestSignalValue s.mSignalBuffers f.latitudeSignalID condition).code
      = .SUCCESSFUL
  . by_cases hlongitude : (getLatestSignalValue s.mSignalBuffers f.longitudeSignalID condition).code
        = .SUCCESSFUL
    . simp only [hlatitude, hlongitude, ne_eq, not_true_eq_false, if_false, decide_true, Bool.and_self,
        if_true]
      exact hnode.evaluateGeohash_isNew _ _ _
    . simp [hlatitude, hlongitude, EvalResult.ofCode, EvalResult.isTrue]
  . simp [hlatitude, EvalResult.ofCode, EvalResult.isTrue]

end CollectionInspectionEngine

end DataInspection
