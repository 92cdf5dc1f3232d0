import Mathlib.Data.Nat.ModEq
import FleetWiseEdge.Inspection.Lemmas.Drain

namespace DataInspection

open Cpp DataManagement

namespace CollectionInspectionEngine

variable {V : Type}

def readyTime (ac : ActiveCondition V) : Nat := u64 (ac.mLastTrigger + ac.mCondition.afterDuration)

def WaitsUntil (s : CollectionInspectionEngine V) (j time : Nat) : Prop :=
  (s.mConditions.map readyTime)[j]? = some time
    ∧ s.mConditionsNotTriggeredWaitingPublished.test j = false

def Due (s : CollectionInspectionEngine V) (currentTime j : Nat) : Prop :=
  ∃ time ≤ currentTime, s.WaitsUntil j time

def circle (s : CollectionInspectionEngine V) (remaining : Nat) : List Nat :=
  (List.range remaining).map fun d => (s.current + d) % s.mConditions.length

section Circle

variable {s : CollectionInspectionEngine V} {remaining : Nat}

theorem circle_succ (hpos : 0 < s.mConditions.length)
    : s.circle (remaining + 1) = s.current :: (s.setCursor (s.current + 1)).circle remaining := by
  have hlt := current_lt hpos
  unfold circle
  rw [List.range_succ_eq_map, List.map_cons, List.map_map]
  congr 1
  . rw [Nat.add_zero, Nat.mod_eq_of_lt hlt]
  . apply List.map_congr_left
    intro d _
    rw [current_setCursor]
    dsimp only [Function.comp_apply]
    show _ = _ % s.mConditions.length
    split
    . have hwrap : s.current + (d + 1) = s.mConditions.length + d := by omega
      rw [Nat.succ_eq_add_one, hwrap, Nat.add_mod_left, Nat.zero_add]
    . congr 1
      omega

theorem circle_refused (i j : Nat) (mRandomNumbers : Nat → V)
    : ((((s.setCursor i).stopWaiting i).setRandomNumbers mRandomNumbers).setCursor j).circle remaining
        =
      (s.setCursor j).circle remaining := by
  unfold circle current
  simp only [mConditions_setCursor, mConditions_stopWaiting, mConditions_setRandomNumbers]
  rfl

theorem circle_nodup (hle : remaining ≤ s.mConditions.length) : (s.circle remaining).Nodup := by
  unfold circle
  rw [List.nodup_map_iff_inj_on List.nodup_range]
  intro d hd e he heq
  rw [List.mem_range] at hd he
  have hcongr : d % s.mConditions.length = e % s.mConditions.length :=
    Nat.ModEq.add_left_cancel' s.current heq
  rwa [Nat.mod_eq_of_lt (by omega), Nat.mod_eq_of_lt (by omega)] at hcongr

end Circle

structure Took (s s' : CollectionInspectionEngine V) (taken : List Nat) : Prop where
  bits : ∀ j, s'.mConditionsNotTriggeredWaitingPublished.test j = false
    ↔ s.mConditionsNotTriggeredWaitingPublished.test j = false ∧ j ∉ taken
  readyTimes : s'.mConditions.map readyTime = s.mConditions.map readyTime

section Took

variable {s s' s'' : CollectionInspectionEngine V} {taken taken' : List Nat} {i j : Nat}

theorem Took.refl (s : CollectionInspectionEngine V) : Took s s [] where
  bits := by simp
  readyTimes := rfl

theorem Took.trans (h : Took s s' taken) (h' : Took s' s'' taken') : Took s s'' (taken ++ taken') where
  bits := by
    intro j
    rw [h'.bits, h.bits, List.mem_append]
    tauto
  readyTimes := h'.readyTimes.trans h.readyTimes

theorem Took.waitsUntil_iff (h : Took s s' taken) {time : Nat}
    : s'.WaitsUntil j time ↔ s.WaitsUntil j time ∧ j ∉ taken := by
  unfold WaitsUntil
  rw [h.readyTimes, h.bits]
  tauto

theorem Took.due_iff (h : Took s s' taken) {currentTime : Nat}
    : s'.Due currentTime j ↔ s.Due currentTime j ∧ j ∉ taken := by
  unfold Due
  simp only [h.waitsUntil_iff]
  tauto

theorem took_setCursor (s : CollectionInspectionEngine V) (i : Nat) : Took s (s.setCursor i) [] where
  bits := by simp [setCursor]
  readyTimes := rfl

theorem took_setRandomNumbers (s : CollectionInspectionEngine V) (mRandomNumbers : Nat → V)
    : Took s (s.setRandomNumbers mRandomNumbers) [] where
  bits := by simp [setRandomNumbers]
  readyTimes := rfl

theorem took_stopWaiting (s : CollectionInspectionEngine V) (i : Nat) : Took s (s.stopWaiting i) [i] where
  bits := by
    intro j
    unfold stopWaiting
    dsimp only
    rw [Bitset.test_set, List.mem_singleton]
    split
    . next heq => simp [heq]
    . next hne => simp [hne]
  readyTimes := rfl

theorem took_publish (s : CollectionInspectionEngine V) (condition : ActiveCondition V)
    (i currentTime : Nat)
    : Took s (s.publish condition i currentTime).1 [] := by
  have ⟨_, _, _, _, _, mEventID, mLastDataTimestampPublished, hframe⟩ :=
    publish_frame s condition i currentTime
  rw [hframe]
  constructor
  . simp
  . dsimp only
    apply List.ext_getElem?
    intro k
    rw [List.getElem?_map, List.getElem?_map, List.getElem?_modify]
    cases s.mConditions[k]? with
    | none => rfl
    | some ac =>
      simp only [Option.map_some]
      split <;> rfl

end Took

def taken (next : NextDataToSend V) : List Nat := next.refused ++ (next.data.map (·.1)).toList

structure MinimumWait (s : CollectionInspectionEngine V) (currentTime : Nat) (order : List Nat)
    (minimumWaitTimeMs waitTimeMs : Nat) : Prop where
  le : waitTimeMs ≤ minimumWaitTimeMs
  lower : ∀ j ∈ order, ∀ time, s.WaitsUntil j time → currentTime < time →
    waitTimeMs ≤ u32 (time - currentTime)
  attained : waitTimeMs = minimumWaitTimeMs
    ∨ ∃ j ∈ order, ∃ time, s.WaitsUntil j time ∧ currentTime < time
        ∧ waitTimeMs = u32 (time - currentTime)

structure Scanned (s : CollectionInspectionEngine V) (currentTime : Nat) (order : List Nat)
    (minimumWaitTimeMs : Nat) (next : NextDataToSend V) : Prop where
  took : Took s next.engine (taken next)
  due : ∀ j ∈ taken next, j ∈ order ∧ s.Due currentTime j
  nodup : (taken next).Nodup
  all : next.data = none → ∀ j ∈ order, s.Due currentTime j → j ∈ taken next
  wait : next.data = none → ∃ waitTimeMs, next.waitTimeMs = some waitTimeMs
    ∧ MinimumWait s currentTime order minimumWaitTimeMs waitTimeMs

section MinimumWait

variable {s s' : CollectionInspectionEngine V} {order taken : List Nat}
variable {currentTime minimumWaitTimeMs waitTimeMs j time : Nat}

theorem MinimumWait.skip (hnot : ∀ time, s.WaitsUntil j time → time ≤ currentTime)
    (h : MinimumWait s currentTime order minimumWaitTimeMs waitTimeMs)
    : MinimumWait s currentTime (j :: order) minimumWaitTimeMs waitTimeMs := by
  constructor
  . exact h.le
  . intro k hk time hwaits hlate
    cases List.mem_cons.mp hk with
    | inl heq =>
      rw [heq] at hwaits
      have := hnot time hwaits
      omega
    | inr hmem => exact h.lower k hmem time hwaits hlate
  . cases h.attained with
    | inl heq => exact Or.inl heq
    | inr hsome =>
      have ⟨k, hk, hattained⟩ := hsome
      exact Or.inr ⟨k, List.mem_cons_of_mem _ hk, hattained⟩

theorem MinimumWait.early (hwaits : s.WaitsUntil j time) (hlate : currentTime < time)
    (h : MinimumWait s currentTime order (min minimumWaitTimeMs (u32 (time - currentTime))) waitTimeMs)
    : MinimumWait s currentTime (j :: order) minimumWaitTimeMs waitTimeMs := by
  have hle := h.le
  constructor
  . omega
  . intro k hk time' hwaits' hlate'
    cases List.mem_cons.mp hk with
    | inl heq =>
      have hsame : time' = time := by
        rw [heq] at hwaits'
        exact Option.some_inj.mp (hwaits'.1.symm.trans hwaits.1)
      rw [hsame]
      omega
    | inr hmem => exact h.lower k hmem time' hwaits' hlate'
  . cases h.attained with
    | inl heq =>
      by_cases hmin : minimumWaitTimeMs ≤ u32 (time - currentTime)
      . exact Or.inl (by omega)
      . exact Or.inr ⟨j, List.mem_cons_self, time, hwaits, hlate, by omega⟩
    | inr hsome =>
      have ⟨k, hk, hattained⟩ := hsome
      exact Or.inr ⟨k, List.mem_cons_of_mem _ hk, hattained⟩

theorem MinimumWait.of_took (htook : Took s s' taken) (hnot : ∀ j ∈ order, j ∉ taken)
    (h : MinimumWait s' currentTime order minimumWaitTimeMs waitTimeMs)
    : MinimumWait s currentTime order minimumWaitTimeMs waitTimeMs := by
  constructor
  . exact h.le
  . intro j hj time hwaits
    exact h.lower j hj time (htook.waitsUntil_iff.mpr ⟨hwaits, hnot j hj⟩)
  . cases h.attained with
    | inl heq => exact Or.inl heq
    | inr hsome =>
      have ⟨j, hj, time, hwaits, hattained⟩ := hsome
      exact Or.inr ⟨j, hj, time, (htook.waitsUntil_iff.mp hwaits).1, hattained⟩

end MinimumWait

section Scanned

variable {s s' : CollectionInspectionEngine V} {order : List Nat} {next : NextDataToSend V}
variable {currentTime minimumWaitTimeMs minimumWaitTimeMs' j time : Nat}

theorem scanned_nil
    : Scanned s currentTime [] minimumWaitTimeMs
        { engine := s, waitTimeMs := some minimumWaitTimeMs } where
  took := Took.refl s
  due := by simp [taken]
  nodup := by simp [taken]
  all := by simp
  wait := by
    intro _
    refine ⟨minimumWaitTimeMs, rfl, Nat.le_refl _, ?_, Or.inl rfl⟩
    intro j hj
    contradiction

theorem Scanned.of_took (htook : Took s s' []) (h : Scanned s' currentTime order minimumWaitTimeMs next)
    : Scanned s currentTime order minimumWaitTimeMs next := by
  have hdue : ∀ j, s'.Due currentTime j ↔ s.Due currentTime j := by
    intro j
    simp [htook.due_iff]
  constructor
  . have hall := htook.trans h.took
    rwa [List.nil_append] at hall
  . intro j hj
    rw [← hdue]
    exact h.due j hj
  . exact h.nodup
  . intro hnull j hj
    rw [← hdue]
    exact h.all hnull j hj
  . intro hnull
    have ⟨waitTimeMs, heq, hmin⟩ := h.wait hnull
    exact ⟨waitTimeMs, heq, hmin.of_took htook (by simp)⟩

theorem Scanned.pass (hnot : ¬s.Due currentTime j)
    (hwait : ∀ waitTimeMs, MinimumWait s currentTime order minimumWaitTimeMs' waitTimeMs →
      MinimumWait s currentTime (j :: order) minimumWaitTimeMs waitTimeMs)
    (h : Scanned s currentTime order minimumWaitTimeMs' next)
    : Scanned s currentTime (j :: order) minimumWaitTimeMs next := by
  constructor
  . exact h.took
  . intro k hk
    have ⟨hmem, hdue⟩ := h.due k hk
    exact ⟨List.mem_cons_of_mem _ hmem, hdue⟩
  . exact h.nodup
  . intro hnull k hk hdue
    cases List.mem_cons.mp hk with
    | inl heq =>
      rw [heq] at hdue
      contradiction
    | inr hmem => exact h.all hnull k hmem hdue
  . intro hnull
    have ⟨waitTimeMs, heq, hmin⟩ := h.wait hnull
    exact ⟨waitTimeMs, heq, hwait waitTimeMs hmin⟩

theorem Scanned.refuse (hwaits : s.WaitsUntil j time) (hready : time ≤ currentTime) (hj : j ∉ order)
    (htook : Took s s' [j]) (h : Scanned s' currentTime order minimumWaitTimeMs next)
    : Scanned s currentTime (j :: order) minimumWaitTimeMs
        { next with refused := j :: next.refused } := by
  have htaken : taken { next with refused := j :: next.refused } = j :: taken next := rfl
  have hne : ∀ k ∈ order, k ∉ [j] := by
    intro k hk heq
    rw [List.mem_singleton] at heq
    rw [heq] at hk
    contradiction
  constructor
  . rw [htaken]
    exact htook.trans h.took
  . intro k hk
    rw [htaken, List.mem_cons] at hk
    cases hk with
    | inl heq =>
      rw [heq]
      exact ⟨List.mem_cons_self, time, hready, hwaits⟩
    | inr hmem =>
      have ⟨horder, hdue⟩ := h.due k hmem
      exact ⟨List.mem_cons_of_mem _ horder, (htook.due_iff.mp hdue).1⟩
  . rw [htaken, List.nodup_cons]
    refine ⟨?_, h.nodup⟩
    intro hmem
    exact hj (h.due j hmem).1
  . intro hnull k hk hdue
    rw [htaken, List.mem_cons]
    cases List.mem_cons.mp hk with
    | inl heq => exact Or.inl heq
    | inr hmem => exact Or.inr (h.all hnull k hmem (htook.due_iff.mpr ⟨hdue, hne k hmem⟩))
  . intro hnull
    have ⟨waitTimeMs, heq, hmin⟩ := h.wait hnull
    refine ⟨waitTimeMs, heq, ?_⟩
    apply MinimumWait.skip _ (hmin.of_took htook hne)
    intro time' hwaits'
    have hsame : time' = time := Option.some_inj.mp (hwaits'.1.symm.trans hwaits.1)
    omega

theorem scanned_publish {engine : CollectionInspectionEngine V}
    {data : TriggeredCollectionSchemeData V} {eventMetadata : Option (List EventMetadata)}
    (hwaits : s.WaitsUntil j time) (hready : time ≤ currentTime) (htook : Took s engine [j])
    : Scanned s currentTime (j :: order) minimumWaitTimeMs
        { engine, data := some (j, data), eventMetadata } := by
  constructor
  . exact htook
  . intro k hk
    rw [show k = j by simpa [taken] using hk]
    exact ⟨List.mem_cons_self, time, hready, hwaits⟩
  . simp [taken]
  . intro hnull
    contradiction
  . intro hnull
    contradiction

end Scanned

section Loop

variable {s : CollectionInspectionEngine V} {condition : ActiveCondition V}

theorem waitsUntil_current {i : Nat} (hcond : s.mConditions[i]? = some condition)
    (hwait : s.mConditionsNotTriggeredWaitingPublished.test i = false)
    : s.WaitsUntil i (readyTime condition) := by
  refine ⟨?_, hwait⟩
  rw [List.getElem?_map, hcond]
  rfl

variable [InspectionValue V]

/--
The loop goes through the conditions of the circle one after the other.
-/
theorem collectLoop_scanned (s : CollectionInspectionEngine V) (currentTime : Nat)
    {remaining : Nat} (hle : remaining ≤ s.mConditions.length) (minimumWaitTimeMs : Nat)
    : Scanned s currentTime (s.circle remaining) minimumWaitTimeMs
        (s.collectLoop currentTime remaining minimumWaitTimeMs) := by
  induction remaining generalizing s minimumWaitTimeMs with
  | zero => exact scanned_nil
  | succ remaining ih =>
    have hpos : 0 < s.mConditions.length := by omega
    have hlt := current_lt hpos
    have hnodup := circle_nodup hle
    rw [circle_succ hpos] at hnodup ⊢
    have hcond : s.mConditions[s.current]? = some s.mConditions[s.current] :=
      List.getElem?_eq_getElem hlt
    have hnext : ∀ minimumWaitTimeMs', Scanned s currentTime
        ((s.setCursor (s.current + 1)).circle remaining) minimumWaitTimeMs'
          ((s.setCursor (s.current + 1)).collectLoop currentTime remaining minimumWaitTimeMs') := by
      intro minimumWaitTimeMs'
      apply Scanned.of_took (took_setCursor s (s.current + 1))
      exact ih (s.setCursor (s.current + 1)) (by simp; omega) _
    cases hwait : s.mConditionsNotTriggeredWaitingPublished.test s.current with
    | true =>
      have hnot : ∀ time, ¬s.WaitsUntil s.current time := by
        intro time hwaits
        rw [hwaits.2] at hwait
        contradiction
      rw [collectLoop_not_waiting hcond hwait]
      apply (hnext minimumWaitTimeMs).pass
      . intro ⟨time, _, hwaits⟩
        exact hnot time hwaits
      . intro waitTimeMs
        apply MinimumWait.skip
        intro time hwaits
        exact absurd hwaits (hnot time)
    | false =>
      have hwaits := waitsUntil_current hcond hwait
      by_cases hready : isReady s.mConditions[s.current] currentTime
      . have ⟨mRandomNumbers, hrandom⟩ :=
          shallSendData_fst ((s.setCursor s.current).stopWaiting s.current)
            s.mConditions[s.current].mCondition.probabilityToSend
        have htook : Took s
            (((s.setCursor s.current).stopWaiting s.current).setRandomNumbers mRandomNumbers)
            [s.current] :=
          ((took_setCursor s s.current).trans (took_stopWaiting _ s.current)).trans
            (took_setRandomNumbers _ mRandomNumbers)
        cases hsend : (((s.setCursor s.current).stopWaiting s.current).shallSendData
            s.mConditions[s.current].mCondition.probabilityToSend).2 with
        | true =>
          rw [collectLoop_publish hcond hwait hready hsend]
          dsimp only
          rw [hrandom]
          exact scanned_publish hwaits hready (htook.trans (took_publish _ _ _ _))
        | false =>
          rw [collectLoop_refuse hcond hwait hready hsend]
          dsimp only
          rw [hrandom]
          apply Scanned.refuse hwaits hready (List.nodup_cons.mp hnodup).1
            (htook.trans (took_setCursor _ (s.current + 1)))
          rw [← circle_refused s.current (s.current + 1) mRandomNumbers]
          exact ih _ (by simp; omega) _
      . rw [collectLoop_not_ready hcond hwait hready]
        have hlate : currentTime < readyTime s.mConditions[s.current] := by
          unfold isReady at hready
          unfold readyTime
          omega
        apply (hnext _).pass
        . intro ⟨time, hle, hwaits'⟩
          have hsame := Option.some_inj.mp (hwaits'.1.symm.trans hwaits.1)
          omega
        . intro waitTimeMs
          exact MinimumWait.early hwaits hlate

/--
The bit set has room for 256 conditions. A call that finds all its bits set has nobody to wait for.
-/
theorem collectNextDataToSend_scanned (s : CollectionInspectionEngine V) (currentTime : Nat)
    (hsize : s.mConditions.length ≤ MAX_NUMBER_OF_ACTIVE_CONDITION)
    : Scanned s currentTime (s.circle s.mConditions.length) (2 ^ 32 - 1)
        (s.collectNextDataToSend currentTime) := by
  unfold collectNextDataToSend
  dsimp only
  split
  . next hall =>
    rw [Bitset.all_iff] at hall
    have hnot : ∀ j time, ¬s.WaitsUntil j time := by
      intro j time hwaits
      have hlt := (List.getElem?_eq_some_iff.mp hwaits.1).1
      rw [List.length_map] at hlt
      have hbit := hall j (by omega)
      rw [hwaits.2] at hbit
      contradiction
    have hempty : Scanned s currentTime [] (2 ^ 32 - 1)
        { engine := s, waitTimeMs := some (2 ^ 32 - 1) } := scanned_nil
    refine ⟨hempty.took, by simp [taken], hempty.nodup, ?_, ?_⟩
    . intro _ j _ hdue
      have ⟨time, _, hwaits⟩ := hdue
      exact absurd hwaits (hnot j time)
    . intro _
      refine ⟨2 ^ 32 - 1, rfl, Nat.le_refl _, ?_, Or.inl rfl⟩
      intro j _ time hwaits
      exact absurd hwaits (hnot j time)
  . exact collectLoop_scanned s currentTime (Nat.le_refl _) _

end Loop

section Until

variable {s s' : CollectionInspectionEngine V} {taken : List Nat}

theorem Took.length (h : Took s s' taken) : s'.mConditions.length = s.mConditions.length := by
  have hlength := congrArg List.length h.readyTimes
  rwa [List.length_map, List.length_map] at hlength

theorem Took.card_lt (h : Took s s' taken) {j time : Nat} (hwaits : s.WaitsUntil j time)
    (hj : j ∈ taken)
    : s'.waitingConditions.card < s.waitingConditions.card := by
  have hlt := (List.getElem?_eq_some_iff.mp hwaits.1).1
  rw [List.length_map] at hlt
  apply Finset.card_lt_card
  rw [Finset.ssubset_iff_of_subset]
  . refine ⟨j, ?_, ?_⟩
    . unfold waitingConditions
      rw [Finset.mem_filter, Finset.mem_range]
      exact ⟨hlt, hwaits.2⟩
    . unfold waitingConditions
      rw [Finset.mem_filter, h.bits]
      simp [hj]
  . intro k
    unfold waitingConditions
    rw [Finset.mem_filter, Finset.mem_filter, h.length, h.bits]
    tauto

end Until

end CollectionInspectionEngine

end DataInspection
