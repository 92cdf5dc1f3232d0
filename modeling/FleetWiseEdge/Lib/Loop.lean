import Mathlib.Order.Basic

/-!
This module contains the theory of loops that need not end: a loop is run with fuel, its result does not
depend on the fuel, and there are rules for what holds after it and for its termination.
-/

inductive Pass (σ : Type) where
  | again (s : σ)
  | leave (s : σ)

def Pass.map {σ τ : Type} (f : σ → τ) (pass : Pass σ) : Pass τ :=
  match pass with
  | .again s => .again (f s)
  | .leave s => .leave (f s)

namespace Loop

variable {σ : Type} {body : σ → Pass σ} {s s' : σ} {fuel : Nat}

def run (body : σ → Pass σ) (fuel : Nat) (s : σ) : Option σ :=
  match fuel with
  | 0 => none
  | fuel + 1 =>
    match body s with
    | .again s' => run body fuel s'
    | .leave s' => some s'

theorem run_again (h : body s = .again s') : run body (fuel + 1) s = run body fuel s' := by
  simp [run, h]

theorem run_leave (h : body s = .leave s') : run body (fuel + 1) s = some s' := by
  simp [run, h]

theorem run_mono {fuel' : Nat} (h : run body fuel s = some s') (hle : fuel ≤ fuel')
    : run body fuel' s = some s' := by
  induction fuel generalizing s fuel' with
  | zero => cases h
  | succ fuel ih =>
    cases fuel' with
    | zero => omega
    | succ fuel' =>
      cases hbody : body s with
      | again t =>
        rw [run_again hbody] at h ⊢
        apply ih h
        omega
      | leave t =>
        rw [run_leave hbody] at h ⊢
        exact h

theorem run_invariant (Inv Post : σ → Prop)
    (hagain : ∀ s s', Inv s → body s = .again s' → Inv s')
    (hleave : ∀ s s', Inv s → body s = .leave s' → Post s') (h : run body fuel s = some s')
    (hinit : Inv s)
    : Post s' := by
  induction fuel generalizing s with
  | zero => cases h
  | succ fuel ih =>
    cases hbody : body s with
    | again t =>
      rw [run_again hbody] at h
      apply ih h
      apply hagain s t hinit hbody
    | leave t =>
      rw [run_leave hbody] at h
      rw [← Option.some_inj.mp h]
      apply hleave s t hinit hbody

theorem run_terminates (Inv : σ → Prop) (measure : σ → Nat)
    (hagain : ∀ s s', Inv s → body s = .again s' → Inv s' ∧ measure s' < measure s) (hinit : Inv s)
    (hfuel : measure s < fuel)
    : ∃ s', run body fuel s = some s' := by
  induction fuel generalizing s with
  | zero => omega
  | succ fuel ih =>
    cases hbody : body s with
    | again t =>
      have ⟨hinv, hless⟩ := hagain s t hinit hbody
      rw [run_again hbody]
      apply ih hinv
      omega
    | leave t =>
      rw [run_leave hbody]
      exact ⟨t, rfl⟩

theorem run_diverges (Inv : σ → Prop) (hagain : ∀ s, Inv s → ∃ s', body s = .again s' ∧ Inv s') (h : Inv s)
    : run body fuel s = none := by
  induction fuel generalizing s with
  | zero => rfl
  | succ fuel ih =>
    have ⟨s', hbody, hinv⟩ := hagain s h
    rw [run_again hbody]
    apply ih hinv

theorem run_map (f : σ → σ) (hbody : ∀ s, body (f s) = (body s).map f)
    : run body fuel (f s) = (run body fuel s).map f := by
  induction fuel generalizing s with
  | zero => rfl
  | succ fuel ih =>
    have hpass := hbody s
    cases hs : body s with
    | again t =>
      rw [hs] at hpass
      rw [run_again hpass, run_again hs]
      apply ih
    | leave t =>
      rw [hs] at hpass
      rw [run_leave hpass, run_leave hs]
      rfl

end Loop
