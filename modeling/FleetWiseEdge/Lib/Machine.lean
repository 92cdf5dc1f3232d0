import Mathlib.Data.List.Basic

/-!
This module contains the theory of deterministic machines that take one event after the other and
write a log: invariants of runs, simulation of one machine by another, monitors that read the log, and what
ranks say about the progress of a run.
-/

namespace Machine

variable {σ τ ε ω ω' π μ : Type}

def run (step : σ → ε → σ × List ω) (s : σ) (events : List ε) : σ × List ω :=
  match events with
  | [] => (s, [])
  | e :: es =>
    let next := step s e
    let rest := run step next.1 es
    (rest.1, next.2 ++ rest.2)

def Always (ok : σ → ε → Prop) (next : σ → ε → σ) (s : σ) (events : List ε) : Prop :=
  match events with
  | [] => True
  | e :: es => ok s e ∧ Always ok next (next s e) es

instance decidableAlways {ok : σ → ε → Prop} [∀ s e, Decidable (ok s e)] (next : σ → ε → σ) (s : σ)
    (events : List ε)
    : Decidable (Always ok next s events) :=
  match events with
  | [] => isTrue trivial
  | e :: es => @instDecidableAnd _ _ _ (decidableAlways next (next s e) es)

section Always

variable {ok ok' : σ → ε → Prop} {next : σ → ε → σ} {s : σ} {es : List ε}

@[simp]
theorem always_nil : Always ok next s [] := trivial

@[simp]
theorem always_cons {e : ε}
    : Always ok next s (e :: es) ↔ ok s e ∧ Always ok next (next s e) es :=
  Iff.rfl

theorem always_append {es' : List ε}
    : Always ok next s (es ++ es')
        ↔
      Always ok next s es ∧ Always ok next (es.foldl next s) es' := by
  induction es generalizing s with
  | nil => simp
  | cons e es ih => simp [ih, and_assoc]

theorem always_split {pre post : List ε} {e : ε} (h : Always ok next s (pre ++ e :: post))
    : ok (pre.foldl next s) e := by
  rw [always_append] at h
  exact h.2.1

theorem always_congr_of {base : σ → ε → Prop} (h : ∀ s e, base s e → (ok s e ↔ ok' s e))
    (hbase : Always base next s es)
    : Always ok next s es ↔ Always ok' next s es := by
  induction es generalizing s with
  | nil => exact Iff.rfl
  | cons e es ih => rw [always_cons, always_cons, h s e hbase.1, ih hbase.2]

theorem always_true : Always (fun _ _ => True) next s es := by
  induction es generalizing s with
  | nil => trivial
  | cons e es ih => exact ⟨trivial, ih⟩

theorem always_congr (h : ∀ s e, ok s e ↔ ok' s e) : Always ok next s es ↔ Always ok' next s es :=
  always_congr_of (fun s e _ => h s e) always_true

theorem always_of_forall (good : ε → Prop) (himp : ∀ s e, good e → ok s e) (h : ∀ e ∈ es, good e)
    : Always ok next s es := by
  induction es generalizing s with
  | nil => trivial
  | cons e es ih =>
    constructor
    . apply himp
      exact h e (by simp)
    . apply ih
      intro e he
      exact h e (by simp [he])

theorem always_congr_while (P : σ → Prop) (h : ∀ s e, P s → (ok s e ↔ ok' s e))
    (hstep : ∀ s e, P s → ok' s e → P (next s e)) (hinit : P s)
    : Always ok next s es ↔ Always ok' next s es := by
  induction es generalizing s with
  | nil => exact Iff.rfl
  | cons e es ih =>
    rw [always_cons, always_cons, h s e hinit]
    apply and_congr_right
    intro hok
    exact ih (hstep s e hinit hok)

theorem always_invariant (P : σ → Prop) (hstep : ∀ s e, ok s e → P s → P (next s e)) (hinit : P s)
    (hok : Always ok next s es)
    : P (es.foldl next s) := by
  induction es generalizing s with
  | nil => exact hinit
  | cons e es ih => exact ih (hstep s e hok.1 hinit) hok.2

end Always

section Run

variable {step : σ → ε → σ × List ω} {s : σ} {es : List ε}

@[simp]
theorem run_nil : run step s [] = (s, []) := rfl

theorem run_cons {e : ε}
    : run step s (e :: es)
        =
      ((run step (step s e).1 es).1, (step s e).2 ++ (run step (step s e).1 es).2) :=
  rfl

theorem run_append {es' : List ε}
    : run step s (es ++ es')
        =
      ((run step (run step s es).1 es').1, (run step s es).2 ++ (run step (run step s es).1 es').2) := by
  induction es generalizing s with
  | nil => simp [run]
  | cons e es ih => rw [List.cons_append, run_cons, ih, run_cons, List.append_assoc]

theorem run_invariant (P : σ → Prop) (ok : σ → ε → Prop)
    (hstep : ∀ s e, ok s e → P s → P (step s e).1) (hinit : P s)
    (hok : Always ok (fun s e => (step s e).1) s es)
    : P (run step s es).1 := by
  induction es generalizing s with
  | nil => exact hinit
  | cons e es ih =>
    rw [run_cons]
    apply ih
    . exact hstep s e hok.1 hinit
    . exact hok.2

end Run

section Simulation

variable {step : σ → ε → σ × List ω} {step' : τ → ε → τ × List ω'}

/--
A step simulation lifts to runs. Of the two logs only the entries that `f` and `g` keep are compared.
-/
theorem run_simulation (R : σ → τ → Prop) (ok : σ → ε → Prop) {f : ω → Option π} {g : ω' → Option π}
    (hstep : ∀ s t e, ok s e → R s t →
      R (step s e).1 (step' t e).1 ∧ (step s e).2.filterMap f = (step' t e).2.filterMap g)
    {s : σ} {t : τ} {es : List ε} (hinit : R s t)
    (hok : Always ok (fun s e => (step s e).1) s es)
    : R (run step s es).1 (run step' t es).1
        ∧
      (run step s es).2.filterMap f = (run step' t es).2.filterMap g := by
  induction es generalizing s t with
  | nil => exact ⟨hinit, rfl⟩
  | cons e es ih =>
    have hnext := hstep s t e hok.1 hinit
    have hrest := ih hnext.1 hok.2
    rw [run_cons, run_cons]
    constructor
    . exact hrest.1
    . rw [List.filterMap_append, List.filterMap_append]
      rw [hnext.2, hrest.2]

end Simulation

section Filter

variable {γ : Type} {step : σ → ε → σ × List ω} {step' : τ → ε → τ × List ω}

def withHistory (step : σ → ε → σ × List ω) (history : σ → γ → ε → γ) (state : σ × γ) (e : ε) : σ × γ :=
  ((step state.1 e).1, history state.1 state.2 e)

theorem run_filter {history : σ → γ → ε → γ} (keep : ε → Bool) (R : σ → γ → τ → Prop)
    (ok : σ × γ → ε → Prop)
    (hskip : ∀ s g t e, ok (s, g) e → keep e = false → R s g t →
      R (step s e).1 (history s g e) t ∧ (step s e).2 = [])
    (hkeep : ∀ s g t e, ok (s, g) e → keep e = true → R s g t →
      R (step s e).1 (history s g e) (step' t e).1 ∧ (step s e).2 = (step' t e).2)
    {s : σ} {g : γ} {t : τ} {es : List ε} (hinit : R s g t)
    (hok : Always ok (withHistory step history) (s, g) es)
    : (run step s es).2 = (run step' t (es.filter keep)).2 := by
  induction es generalizing s g t with
  | nil => rfl
  | cons e es ih =>
    cases hkept : keep e with
    | false =>
      have ⟨hnext, hlog⟩ := hskip s g t e hok.1 hkept hinit
      rw [List.filter_cons_of_neg (by simp [hkept]), run_cons]
      dsimp only
      rw [hlog, List.nil_append]
      apply ih hnext hok.2
    | true =>
      have ⟨hnext, hlog⟩ := hkeep s g t e hok.1 hkept hinit
      rw [List.filter_cons_of_pos hkept, run_cons, run_cons]
      dsimp only
      rw [hlog, ih hnext hok.2]

end Filter

section Monitor

variable {step : σ → ε → σ × List ω}
variable {legal : μ → ω → Prop} {observe : μ → ω → μ}

theorem run_monitored (Agree : σ → μ → Prop) (ok : σ → ε → Prop)
    (hstep : ∀ s m e, ok s e → Agree s m →
      Always legal observe m (step s e).2 ∧ Agree (step s e).1 ((step s e).2.foldl observe m))
    {s : σ} {m : μ} {es : List ε} (hinit : Agree s m)
    (hok : Always ok (fun s e => (step s e).1) s es)
    : Always legal observe m (run step s es).2
        ∧
      Agree (run step s es).1 ((run step s es).2.foldl observe m) := by
  induction es generalizing s m with
  | nil => exact ⟨trivial, hinit⟩
  | cons e es ih =>
    have hnext := hstep s m e hok.1 hinit
    have hrest := ih hnext.2 hok.2
    rw [run_cons]
    rw [always_append]
    rw [List.foldl_append]
    exact ⟨⟨hnext.1, hrest.1⟩, hrest.2⟩

theorem run_monitored_from (Agree : σ → μ → Prop)
    (hstep : ∀ s m e, Agree s m →
      Always legal observe m (step s e).2 ∧ Agree (step s e).1 ((step s e).2.foldl observe m))
    {s : σ} {m : μ} (hinit : Agree s m) (es : List ε)
    : Always legal observe m (run step s es).2 := by
  have hrun := run_monitored Agree (fun _ _ => True) (fun s m e _ h => hstep s m e h) hinit
    (@always_true _ _ _ s es)
  exact hrun.1

theorem run_observed (Agree : σ → μ → Prop) (ok : σ → ε → Prop)
    (hstep : ∀ s m e, ok s e → Agree s m → Agree (step s e).1 ((step s e).2.foldl observe m))
    {s : σ} {m : μ} {es : List ε} (hinit : Agree s m)
    (hok : Always ok (fun s e => (step s e).1) s es)
    : Agree (run step s es).1 ((run step s es).2.foldl observe m) := by
  have hrun := run_monitored Agree ok (fun s m e hok h => ⟨always_true, hstep s m e hok h⟩) hinit hok
  exact hrun.2

theorem run_monitored_history {γ : Type} {history : σ → γ → ε → γ} (Agree : σ → γ → μ → Prop)
    (ok : σ × γ → ε → Prop)
    (hstep : ∀ s g m e, ok (s, g) e → Agree s g m →
      Always legal observe m (step s e).2
        ∧ Agree (step s e).1 (history s g e) ((step s e).2.foldl observe m))
    {s : σ} {g : γ} {m : μ} {es : List ε} (hinit : Agree s g m)
    (hok : Always ok (withHistory step history) (s, g) es)
    : Always legal observe m (run step s es).2 := by
  induction es generalizing s g m with
  | nil => trivial
  | cons e es ih =>
    have hnext := hstep s g m e hok.1 hinit
    rw [run_cons]
    rw [always_append]
    exact ⟨hnext.1, ih hnext.2 hok.2⟩

end Monitor

section Progress

variable {next : σ → ε → σ} {counted : ε → Bool}

theorem foldl_rank (rank : σ → Nat) (I : σ → Prop) (good : ε → Prop) {s : σ} {es : List ε}
    (hstep : ∀ s e, I s → good e → I (next s e))
    (hcounted : ∀ s e, I s → good e → counted e = true → rank (next s e) ≤ rank s - 1)
    (hother : ∀ s e, I s → good e → counted e = false → rank (next s e) ≤ rank s) (hinit : I s)
    (hgood : ∀ e ∈ es, good e)
    : I (es.foldl next s) ∧ rank (es.foldl next s) ≤ rank s - es.countP counted := by
  induction es generalizing s with
  | nil => exact ⟨hinit, Nat.le_refl _⟩
  | cons e es ih =>
    have he := hgood e List.mem_cons_self
    have ⟨hlast, hrest⟩ := ih (hstep s e hinit he) fun later hlater => hgood later (List.mem_cons_of_mem e hlater)
    refine ⟨hlast, ?_⟩
    rw [List.foldl_cons]
    cases hcount : counted e with
    | true =>
      have hlower := hcounted s e hinit he hcount
      rw [List.countP_cons_of_pos hcount]
      omega
    | false =>
      have hsame := hother s e hinit he hcount
      rw [List.countP_cons_of_neg (by simp [hcount])]
      omega

end Progress

section Fairness

variable {κ : Type} {next : σ → ε → σ} {kind : ε → Option κ} {s : σ} {es : Nat → ε}

def stateAt (next : σ → ε → σ) (s : σ) (es : Nat → ε) (n : Nat) : σ :=
  match n with
  | 0 => s
  | n + 1 => next (stateAt next s es n) (es n)

def Fair (kind : ε → Option κ) (es : Nat → ε) : Prop := ∀ k n, ∃ m, n ≤ m ∧ kind (es m) = some k

theorem stateAt_invariant (I : σ → Prop) (hstep : ∀ s n, I s → I (next s (es n))) {n m : Nat}
    (h : I (stateAt next s es n)) (hle : n ≤ m)
    : I (stateAt next s es m) := by
  induction hle with
  | refl => exact h
  | step _ ih => exact hstep _ _ ih

/--
In each state there is a kind of events that lowers the rank. Another event leaves the rank and the kind as they
are if it does not lower the rank itself, so that a fair run gets to the goal.
-/
theorem fair_progress (I goal : σ → Prop) (rank : σ → Nat) (helpful : σ → κ)
    (hinvariant : ∀ s n, I s → I (next s (es n)))
    (hhelpful : ∀ s e, I s → ¬ goal s → kind e = some (helpful s) →
      goal (next s e) ∨ rank (next s e) < rank s)
    (hother : ∀ s e, I s → ¬ goal s →
      goal (next s e) ∨ rank (next s e) < rank s
        ∨ (rank (next s e) = rank s ∧ helpful (next s e) = helpful s))
    (hfair : Fair kind es) {n : Nat} (h : I (stateAt next s es n))
    : ∃ m, n ≤ m ∧ goal (stateAt next s es m) := by
  -- the induction is on the rank, until the next event of the helpful kind
  induction hrank : rank (stateAt next s es n) using Nat.strongRecOn generalizing n with
  | _ r ih =>
    by_contra hnever
    have hnot (m : Nat) (hle : n ≤ m) : ¬ goal (stateAt next s es m) := fun hgoal => hnever ⟨m, hle, hgoal⟩
    have hlower {m : Nat} (hle : n ≤ m) (hlt : rank (stateAt next s es m) < r) : False := by
      obtain ⟨last, hlast, hgoal⟩ := ih _ hlt (stateAt_invariant I hinvariant h hle) rfl
      exact hnot last (Nat.le_trans hle hlast) hgoal
    have hsame {m : Nat} (hle : n ≤ m)
        : rank (stateAt next s es m) = r ∧ helpful (stateAt next s es m) = helpful (stateAt next s es n) := by
      induction hle with
      | refl => exact ⟨hrank, rfl⟩
      | @step m hle hbefore =>
        have hstep := hother _ (es m) (stateAt_invariant I hinvariant h hle) (hnot m hle)
        rcases hstep with hgoal | hlt | ⟨hequal, hkind⟩
        . exact absurd hgoal (hnot (m + 1) (Nat.le_succ_of_le hle))
        . rw [hbefore.1] at hlt
          exact (hlower (Nat.le_succ_of_le hle) hlt).elim
        . exact ⟨hequal.trans hbefore.1, hkind.trans hbefore.2⟩
    obtain ⟨m, hle, hkind⟩ := hfair (helpful (stateAt next s es n)) n
    obtain ⟨hrankNow, hhelpfulNow⟩ := hsame hle
    rw [← hhelpfulNow] at hkind
    cases hhelpful _ (es m) (stateAt_invariant I hinvariant h hle) (hnot m hle) hkind with
    | inl hgoal => exact hnot (m + 1) (Nat.le_succ_of_le hle) hgoal
    | inr hlt =>
      rw [hrankNow] at hlt
      exact hlower (Nat.le_succ_of_le hle) hlt

end Fairness

end Machine
