import Mathlib.Order.Bounds.Basic
import FleetWiseEdge.Inspection.Lemmas.Scan

namespace DataInspection

open Cpp DataManagement

def Observation.handled {V : Type} (observation : Observation V) : Option Nat :=
  match observation with
  | .evaluated _ _ _ _ => none
  | .refused _ i => some i
  | .published _ i _ => some i

namespace CollectionInspectionEngine

variable {V : Type} [InspectionValue V]

def examinedLoop (currentTime remaining : Nat) (s : CollectionInspectionEngine V) : List Nat :=
  match remaining with
  | 0 => []
  | remaining + 1 =>
    match s.mConditions[s.current]? with
    | none => []
    | some condition =>
      let next (s' : CollectionInspectionEngine V) := s'.setCursor (s.current + 1)
      if s.mConditionsNotTriggeredWaitingPublished.test s.current then
        s.current :: examinedLoop currentTime remaining (next s)
      else if isReady condition currentTime then
        match ((s.setCursor s.current).stopWaiting s.current).shallSendData
          condition.mCondition.probabilityToSend with
        | (_, true) => [s.current]
        | (s', false) => s.current :: examinedLoop currentTime remaining (next s')
      else
        s.current :: examinedLoop currentTime remaining (next s)

def examined (s : CollectionInspectionEngine V) (currentTime : Nat) : List Nat :=
  if s.mConditionsNotTriggeredWaitingPublished.all MAX_NUMBER_OF_ACTIVE_CONDITION then
    []
  else
    s.examinedLoop currentTime s.mConditions.length

variable {s : CollectionInspectionEngine V} {currentTime : Nat}

structure Examines (order : List Nat) (next : NextDataToSend V) (examined : List Nat) : Prop where
  prefixed : examined <+: order
  null : next.data = none → examined = order
  last : ∀ j data, next.data = some (j, data) → examined.getLast? = some j

omit [InspectionValue V] in
theorem Examines.cons {order examined refused : List Nat} {next : NextDataToSend V} {i : Nat}
    (h : Examines order next examined)
    : Examines (i :: order) { next with refused } (i :: examined) where
  prefixed := List.cons_prefix_cons.mpr ⟨rfl, h.prefixed⟩
  null := by
    intro hnull
    rw [h.null hnull]
  last := by
    intro j data hdata
    have hlast := h.last j data hdata
    rw [List.getLast?_cons, hlast]
    rfl

omit [InspectionValue V] in
theorem mem_taken_of_data {j : Nat} {data : TriggeredCollectionSchemeData V} {next : NextDataToSend V}
    (hdata : next.data = some (j, data))
    : j ∈ taken next := by
  unfold taken
  rw [hdata]
  simp

theorem card_collectNextDataToSend_lt (hsize : s.mConditions.length ≤ MAX_NUMBER_OF_ACTIVE_CONDITION)
    {published : Nat × TriggeredCollectionSchemeData V}
    (hdata : (s.collectNextDataToSend currentTime).data = some published)
    : (s.collectNextDataToSend currentTime).engine.waitingConditions.card
        < s.waitingConditions.card := by
  have hscanned := collectNextDataToSend_scanned s currentTime hsize
  have hmem := mem_taken_of_data hdata
  have ⟨_, time, _, hwaits⟩ := hscanned.due published.1 hmem
  exact hscanned.took.card_lt hwaits hmem

end CollectionInspectionEngine

end DataInspection
