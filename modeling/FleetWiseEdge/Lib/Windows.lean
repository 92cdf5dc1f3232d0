import Mathlib.Data.List.Basic

/-!
This module contains the theory of fixed windows over a sequence of timed items: the windows are aligned at
an origin and have one length, the period. An item need not carry a value.
-/

namespace Windows

section Index

variable {origin period time time' : Nat}

def index (origin period time : Nat) : Nat := (time - origin) / period

theorem index_mono (h : time ≤ time') : index origin period time ≤ index origin period time' := by
  apply Nat.div_le_div_right
  omega

@[simp]
theorem index_origin : index origin period origin = 0 := by
  simp [index]

theorem index_eq_iff {k : Nat} (hperiod : 0 < period) (horigin : origin ≤ time)
    : index origin period time = k
        ↔
      origin + k * period ≤ time ∧ time < origin + k * period + period := by
  unfold index
  rw [Nat.div_eq_iff hperiod]
  omega

theorem start_le (horigin : origin ≤ time) : origin + index origin period time * period ≤ time := by
  have := Nat.div_mul_le_self (time - origin) period
  unfold index
  omega

theorem index_sub_div {k : Nat} (hle : origin + k * period ≤ time)
    : (time - (origin + k * period)) / period = index origin period time - k := by
  unfold index
  rw [Nat.mul_comm k period] at hle ⊢
  rw [Nat.sub_add_eq]
  apply Nat.sub_mul_div_of_le
  omega

end Index

section Content

variable {β α : Type} {origin period : Nat} {time : β → Nat} {value : β → Option α}

def content (origin period : Nat) (time : β → Nat) (value : β → Option α) (k : Nat) (items : List β)
    : List α :=
  items.filterMap fun item =>
    if index origin period (time item) = k then value item else none

theorem mem_content {k : Nat} {items : List β} {a : α}
    : a ∈ content origin period time value k items
        ↔
      ∃ item ∈ items, index origin period (time item) = k ∧ value item = some a := by
  simp [content, List.mem_filterMap]

theorem content_concat_of_eq {k : Nat} {items : List β} {item : β}
    (h : index origin period (time item) = k)
    : content origin period time value k (items ++ [item])
        =
      content origin period time value k items ++ (value item).toList := by
  unfold content
  rw [List.filterMap_append]
  cases hvalue : value item <;> simp [h, hvalue]

theorem content_concat_of_ne {k : Nat} {items : List β} {item : β}
    (h : index origin period (time item) ≠ k)
    : content origin period time value k (items ++ [item])
        =
      content origin period time value k items := by
  unfold content
  rw [List.filterMap_append]
  simp [h]

theorem content_eq_nil {k : Nat} {items : List β}
    (h : ∀ item ∈ items, index origin period (time item) ≠ k)
    : content origin period time value k items = [] := by
  unfold content
  rw [List.filterMap_eq_nil_iff]
  intro item hitem
  rw [if_neg (h item hitem)]

end Content

end Windows
