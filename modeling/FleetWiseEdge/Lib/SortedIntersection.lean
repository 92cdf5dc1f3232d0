import Mathlib.Order.Lattice
import Mathlib.Data.List.Nodup

namespace SortedIntersection

variable {α : Type} [LinearOrder α]

def setIntersection (xs ys : List α) : List α :=
  match xs, ys with
  | [], _ => []
  | _ :: _, [] => []
  | x :: xs, y :: ys =>
    if x < y then
      setIntersection xs (y :: ys)
    else if y < x then
      setIntersection (x :: xs) ys
    else
      x :: setIntersection xs ys
termination_by xs.length + ys.length
decreasing_by
  all_goals simp only [List.length_cons]
  all_goals omega

variable {xs ys : List α}

theorem setIntersection_sublist (xs ys : List α) : (setIntersection xs ys).Sublist ys := by
  induction xs, ys using setIntersection.induct with
  | case1 ys => simp [setIntersection]
  | case2 x xs => simp [setIntersection]
  | case3 x xs y ys hlt ih =>
    unfold setIntersection
    rw [if_pos hlt]
    exact ih
  | case4 x xs y ys hnlt hlt ih =>
    unfold setIntersection
    rw [if_neg hnlt, if_pos hlt]
    exact ih.cons y
  | case5 x xs y ys hnlt hnlt' ih =>
    have heq : x = y := le_antisymm (not_lt.mp hnlt') (not_lt.mp hnlt)
    unfold setIntersection
    rw [if_neg hnlt, if_neg hnlt', heq]
    exact ih.cons_cons y

theorem mem_setIntersection (hxs : xs.Pairwise (· ≤ ·)) (hys : ys.Pairwise (· ≤ ·)) {a : α}
    : a ∈ setIntersection xs ys ↔ a ∈ xs ∧ a ∈ ys := by
  induction xs, ys using setIntersection.induct with
  | case1 ys => simp [setIntersection]
  | case2 x xs => simp [setIntersection]
  | case3 x xs y ys hlt ih =>
    unfold setIntersection
    rw [if_pos hlt, ih hxs.of_cons hys, List.mem_cons (a := a) (l := xs)]
    -- `x` is smaller than all of `y :: ys`
    have hnot : a ∈ y :: ys → a ≠ x := by
      intro hmem heq
      rw [heq, List.mem_cons] at hmem
      cases hmem with
      | inl hxy => exact absurd hlt (by rw [hxy]; exact lt_irrefl y)
      | inr hrest => exact absurd hlt (not_lt.mpr (List.rel_of_pairwise_cons hys hrest))
    constructor
    . intro ⟨hx, hy⟩
      exact ⟨Or.inr hx, hy⟩
    . intro ⟨hx, hy⟩
      exact ⟨hx.resolve_left (hnot hy), hy⟩
  | case4 x xs y ys hnlt hlt ih =>
    unfold setIntersection
    rw [if_neg hnlt, if_pos hlt, ih hxs hys.of_cons, List.mem_cons (a := a) (l := ys)]
    have hnot : a ∈ x :: xs → a ≠ y := by
      intro hmem heq
      rw [heq, List.mem_cons] at hmem
      cases hmem with
      | inl hxy => exact absurd hlt (by rw [hxy]; exact lt_irrefl x)
      | inr hrest => exact absurd hlt (not_lt.mpr (List.rel_of_pairwise_cons hxs hrest))
    constructor
    . intro ⟨hx, hy⟩
      exact ⟨hx, Or.inr hy⟩
    . intro ⟨hx, hy⟩
      exact ⟨hx, hy.resolve_left (hnot hx)⟩
  | case5 x xs y ys hnlt hnlt' ih =>
    have heq : x = y := le_antisymm (not_lt.mp hnlt') (not_lt.mp hnlt)
    unfold setIntersection
    rw [if_neg hnlt, if_neg hnlt', List.mem_cons, ih hxs.of_cons hys.of_cons]
    rw [List.mem_cons, List.mem_cons, heq]
    tauto

theorem pairwise_setIntersection (xs : List α) (hys : ys.Pairwise (· < ·))
    : (setIntersection xs ys).Pairwise (· < ·) :=
  hys.sublist (setIntersection_sublist xs ys)

end SortedIntersection
