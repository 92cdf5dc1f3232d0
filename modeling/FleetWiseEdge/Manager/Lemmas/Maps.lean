import FleetWiseEdge.Manager.Impl.Manager

namespace DataManagement

section SchemeMap

variable {V : Type} {m : SchemeMap V} {id id' : String} {c : CollectionScheme V}

@[simp]
theorem SchemeMap.getElem?_insert : (m.insert id c)[id']? = if id = id' then some c else m[id']? := by
  rw [Std.ExtTreeMap.getElem?_insert]
  simp

@[simp]
theorem SchemeMap.getElem?_erase : (m.erase id)[id']? = if id = id' then none else m[id']? := by
  rw [Std.ExtTreeMap.getElem?_erase]
  simp

theorem SchemeMap.getElem?_filter {f : String → Bool}
    : (m.filter fun id _ => f id)[id]? = if f id then m[id]? else none := by
  rw [Std.ExtTreeMap.getElem?_filter]
  cases hf : f id with
  | false => simp [hf]
  | true =>
    simp only [Std.ExtTreeMap.getKey_eq, hf, if_true]
    simp only [Option.pfilter_eq_filter]
    cases m[id]? with
    | none => rfl
    | some c => rfl

theorem SchemeMap.isEmpty_iff : m.isEmpty = true ↔ ∀ id : String, m[id]? = none := by
  rw [Std.ExtTreeMap.isEmpty_iff]
  constructor
  . intro h id
    simp [h]
  . intro h
    apply Std.ExtTreeMap.ext_getElem?
    intro id
    simp [h id]

theorem SchemeMap.mem_keys_iff : id ∈ m.keys ↔ ∃ c, m[id]? = some c := by
  rw [Std.ExtTreeMap.mem_keys]
  constructor
  . intro h
    exact ⟨m[id], by simp⟩
  . intro ⟨c, hc⟩
    rw [Std.ExtTreeMap.mem_iff_isSome_getElem?, hc]
    rfl

theorem SchemeMap.values_eq (m : SchemeMap V) : m.values = m.toList.map (·.2) := by
  cases m with
  | mk inner =>
    cases inner with
    | mk t =>
      change t.inner.values = (Std.DTreeMap.Internal.Impl.Const.toList t.inner).map (·.2)
      rw [Std.DTreeMap.Internal.Impl.values_eq_map_snd]
      rw [Std.DTreeMap.Internal.Impl.Const.toList_eq_toListModel_map]
      simp

theorem SchemeMap.mem_values_iff : c ∈ m.values ↔ ∃ id : String, m[id]? = some c := by
  rw [SchemeMap.values_eq, List.mem_map]
  constructor
  . intro ⟨(id, c'), hmem, heq⟩
    rw [← heq]
    exact ⟨id, Std.ExtTreeMap.mem_toList_iff_getElem?_eq_some.mp hmem⟩
  . intro ⟨id, hc⟩
    exact ⟨(id, c), Std.ExtTreeMap.mem_toList_iff_getElem?_eq_some.mpr hc, rfl⟩

end SchemeMap

namespace CollectionSchemeManager

attribute [simp] pushTime popTime enable setIdle eraseEnabled eraseIdle

end CollectionSchemeManager

end DataManagement
