import Mathlib.Algebra.GroupWithZero.Nat
import Mathlib.Data.List.Forall2
import Mathlib.Data.List.Perm.Basic
import Mathlib.Tactic.Tauto

/-!
This module contains the theory of lists that are searched by a key, where only the first element with
a key counts.
-/

namespace KeyedList

variable {κ σ : Type} [DecidableEq κ] (key : σ → κ)

def lookup (k : κ) (l : List σ) : Option σ :=
  l.find? fun a => key a = k

def update (k : κ) (f : σ → σ) (l : List σ) : List σ :=
  match l with
  | [] => []
  | a :: as => if key a = k then f a :: as else a :: update k f as

def insert (k : κ) (f : σ → σ) (new : σ) (l : List σ) : List σ :=
  match l with
  | [] => [new]
  | a :: as => if key a = k then f a :: as else a :: insert k f new as

variable {key} {k k' : κ} {f : σ → σ} {new : σ} {l : List σ}

@[simp]
theorem lookup_nil : lookup key k [] = none := rfl

theorem lookup_cons (a : σ) (as : List σ)
    : lookup key k (a :: as) = if key a = k then some a else lookup key k as := by
  unfold lookup
  rw [List.find?_cons]
  split <;> simp_all

theorem key_of_lookup {a : σ} (h : lookup key k l = some a) : key a = k := by
  have := List.find?_some h
  simpa using this

theorem mem_of_lookup {a : σ} (h : lookup key k l = some a) : a ∈ l :=
  List.mem_of_find?_eq_some h

theorem lookup_eq_none_iff : lookup key k l = none ↔ k ∉ l.map key := by
  simp [lookup]

theorem lookup_of_mem (hnodup : (l.map key).Nodup) {a : σ} (h : a ∈ l)
    : lookup key (key a) l = some a := by
  induction l with
  | nil => simp at h
  | cons b bs ih =>
    rw [List.map_cons, List.nodup_cons] at hnodup
    rw [lookup_cons]
    rw [List.mem_cons] at h
    cases h with
    | inl heq =>
      rw [heq]
      rw [if_pos rfl]
    | inr hmem =>
      rw [if_neg]
      . exact ih hnodup.2 hmem
      . intro heq
        apply hnodup.1
        rw [heq]
        exact List.mem_map_of_mem hmem

theorem lookup_perm {l' : List σ} (hperm : l'.Perm l) (hnodup : (l.map key).Nodup)
    : lookup key k l' = lookup key k l := by
  have hnodup' : (l'.map key).Nodup := (hperm.map key).nodup_iff.mpr hnodup
  cases h : lookup key k l' with
  | none =>
    rw [lookup_eq_none_iff] at h
    rw [(hperm.map key).mem_iff] at h
    exact (lookup_eq_none_iff.mpr h).symm
  | some a =>
    have hmem := hperm.mem_iff.mp (mem_of_lookup h)
    have := lookup_of_mem hnodup hmem
    rw [key_of_lookup h] at this
    exact this.symm

section Map

variable {g : σ → σ}

theorem lookup_map (hkey : ∀ a, key (g a) = key a)
    : lookup key k (l.map g) = (lookup key k l).map g := by
  unfold lookup
  rw [List.find?_map]
  simp only [Function.comp_def, hkey]

end Map

section Forall₂

variable {R : σ → σ → Prop} {l' l'' : List σ}

theorem forall₂_trans (htrans : ∀ a b c, R a b → R b c → R a c) (h : List.Forall₂ R l l')
    (h' : List.Forall₂ R l' l'')
    : List.Forall₂ R l l'' := by
  induction h generalizing l'' with
  | nil => exact h'
  | cons hhead htail ih =>
    cases h' with
    | cons hhead' htail' =>
      apply List.Forall₂.cons
      . exact htrans _ _ _ hhead hhead'
      . exact ih htail'

theorem update_forall₂ (hrefl : ∀ a, R a a) (hf : ∀ a, lookup key k l = some a → R a (f a))
    : List.Forall₂ R l (update key k f l) := by
  induction l with
  | nil => exact List.Forall₂.nil
  | cons a as ih =>
    unfold update
    split
    . rename_i hk
      apply List.Forall₂.cons
      . apply hf
        rw [lookup_cons]
        exact if_pos hk
      . exact List.forall₂_same.mpr fun a _ => hrefl a
    . rename_i hk
      apply List.Forall₂.cons (hrefl a)
      apply ih
      intro b hb
      apply hf
      rw [lookup_cons]
      rw [if_neg hk]
      exact hb

theorem lookup_forall₂ (h : List.Forall₂ (fun a b => key b = key a ∧ R a b) l l') (k : κ)
    : Option.Rel R (lookup key k l) (lookup key k l') := by
  induction h with
  | nil => exact Option.Rel.none
  | cons hhead htail ih =>
    rw [lookup_cons, lookup_cons]
    rw [hhead.1]
    split
    . exact Option.Rel.some hhead.2
    . exact ih

theorem mem_forall₂ (h : List.Forall₂ R l l') {b : σ} (hb : b ∈ l') : ∃ a ∈ l, R a b := by
  induction h with
  | nil => simp at hb
  | cons hhead htail ih =>
    rw [List.mem_cons] at hb
    cases hb with
    | inl heq => exact ⟨_, by simp, heq ▸ hhead⟩
    | inr hmem =>
      obtain ⟨a, ha, hrel⟩ := ih hmem
      exact ⟨a, by simp [ha], hrel⟩

omit [DecidableEq κ] in
theorem keys_forall₂ (h : List.Forall₂ (fun a b => key b = key a ∧ R a b) l l')
    : l'.map key = l.map key := by
  induction h with
  | nil => rfl
  | cons hhead htail ih => simp [hhead.1, ih]

end Forall₂

section Update

theorem lookup_update (hkey : ∀ a, key (f a) = key a)
    : lookup key k' (update key k f l)
        =
      if k' = k then (lookup key k l).map f else lookup key k' l := by
  induction l with
  | nil => simp [update]
  | cons a as ih =>
    unfold update
    split
    . rename_i hk
      simp only [lookup_cons, hkey, hk, if_true]
      by_cases heq : k' = k
      . simp [heq]
      . simp [heq, Ne.symm heq]
    . rename_i hk
      simp only [lookup_cons, ih, hk, if_false]
      by_cases heq : k' = k
      . simp [heq, hk]
      . simp [heq]

end Update

section Insert

theorem insert_forall {P : σ → Prop} (hf : ∀ a, key a = k → P a → P (f a)) (hnew : P new)
    (h : ∀ a ∈ l, P a)
    : ∀ a ∈ insert key k f new l, P a := by
  induction l with
  | nil =>
    intro a ha
    rw [List.mem_singleton.mp ha]
    exact hnew
  | cons b bs ih =>
    have hb := h b (by simp)
    have hbs : ∀ a ∈ bs, P a := fun a ha => h a (by simp [ha])
    unfold insert
    split
    . rename_i hkey
      intro a ha
      rw [List.mem_cons] at ha
      cases ha with
      | inl heq => exact heq ▸ hf b hkey hb
      | inr hmem => exact hbs a hmem
    . intro a ha
      rw [List.mem_cons] at ha
      cases ha with
      | inl heq => exact heq ▸ hb
      | inr hmem => exact ih hbs a hmem

theorem keys_insert (hkey : ∀ a, key (f a) = key a) (hnew : key new = k)
    : (insert key k f new l).map key
        =
      if k ∈ l.map key then l.map key else l.map key ++ [k] := by
  induction l with
  | nil => simp [insert, hnew]
  | cons a as ih =>
    unfold insert
    split
    . rename_i hk
      simp [hkey, hk]
    . rename_i hk
      rw [List.map_cons, ih]
      simp only [List.map_cons, List.mem_cons, Ne.symm hk, false_or]
      split <;> simp

theorem nodup_insert (hkey : ∀ a, key (f a) = key a) (hnew : key new = k)
    (hnodup : (l.map key).Nodup)
    : ((insert key k f new l).map key).Nodup := by
  rw [keys_insert hkey hnew]
  split
  . assumption
  . rename_i hmem
    rw [List.nodup_append]
    refine ⟨hnodup, by simp, ?_⟩
    intro a ha b hb heq
    rw [List.mem_singleton] at hb
    exact hmem (hb ▸ heq ▸ ha)

theorem lookup_insert_self (hkey : ∀ a, key (f a) = key a) (hnew : key new = k)
    : lookup key k (insert key k f new l) = some ((lookup key k l).elim new f) := by
  induction l with
  | nil => simp [insert, lookup_cons, hnew]
  | cons a as ih =>
    unfold insert
    split
    . rename_i hk
      simp [lookup_cons, hkey, hk]
    . rename_i hk
      simp [lookup_cons, hk, ih]

theorem lookup_insert_ne (hkey : ∀ a, key (f a) = key a) (hnew : key new = k) (hne : k' ≠ k)
    : lookup key k' (insert key k f new l) = lookup key k' l := by
  induction l with
  | nil => simp [insert, lookup_cons, hnew, Ne.symm hne]
  | cons a as ih =>
    unfold insert
    split
    . rename_i hk
      simp [lookup_cons, hkey, hk, Ne.symm hne]
    . simp [lookup_cons, ih]

end Insert

theorem view_foldl {σ τ ρ π : Type} {apply : σ → ρ → σ} {merge : τ → π → τ}
    {requests : ρ → List π} (view : σ → τ) (h : ∀ s r, view (apply s r) = (requests r).foldl merge (view s)) (s : σ)
    (rs : List ρ)
    : view (rs.foldl apply s) = (rs.flatMap requests).foldl merge (view s) := by
  induction rs generalizing s with
  | nil => rfl
  | cons r rs ih => rw [List.foldl_cons, ih, h, List.flatMap_cons, List.foldl_append]

theorem foldl_of_mem {σ ρ : Type} {apply : σ → ρ → σ} (P : σ → Prop) {r : ρ} {rs : List ρ}
    (hkeep : ∀ s r, P s → P (apply s r)) (hr : ∀ s, P (apply s r)) (hmem : r ∈ rs) (s : σ)
    : P (rs.foldl apply s) := by
  have hfold : ∀ (rs : List ρ) (s : σ), P s → P (rs.foldl apply s) := by
    intro rs
    induction rs with
    | nil => exact fun s h => h
    | cons r rs ih => exact fun s h => ih _ (hkeep s r h)
  have ⟨before, after, hsplit⟩ := List.append_of_mem hmem
  rw [hsplit, List.foldl_append, List.foldl_cons]
  apply hfold
  apply hr

omit [DecidableEq κ] in
theorem total_le {size : σ → Nat} {l' : List σ} (hnodup : (l.map key).Nodup)
    (hle : ∀ a ∈ l, ∃ b ∈ l', key b = key a ∧ size a ≤ size b)
    : (l.map size).sum ≤ (l'.map size).sum := by
  induction l generalizing l' with
  | nil => simp
  | cons a as ih =>
    rw [List.map_cons, List.nodup_cons] at hnodup
    obtain ⟨b, hb, hkey, hsize⟩ := hle a (by simp)
    obtain ⟨pre, post, hsplit⟩ := List.append_of_mem hb
    have hrest : (as.map size).sum ≤ ((pre ++ post).map size).sum := by
      apply ih hnodup.2
      intro c hc
      obtain ⟨d, hd, hdkey, hdsize⟩ := hle c (by simp [hc])
      refine ⟨d, ?_, hdkey, hdsize⟩
      rw [hsplit] at hd
      simp only [List.mem_append, List.mem_cons] at hd ⊢
      have hne : d ≠ b := by
        intro heq
        apply hnodup.1
        rw [← hkey, ← heq, hdkey]
        exact List.mem_map_of_mem hc
      tauto
    simp only [hsplit, List.map_append, List.map_cons, List.sum_append, List.sum_cons] at hrest ⊢
    omega

end KeyedList
