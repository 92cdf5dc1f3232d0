import FleetWiseEdge.Inspection.Lemmas.Configuration

namespace DataInspection

open Cpp DataManagement

inductive DTCEntry where
  | set (activeDTCs : DTCInfo)
  | sent (i : Nat) (mDTCInfo : DTCInfo)
  deriving DecidableEq, Repr

/--
What a reader of the entries remembers: the set of the last call and the conditions that have sent a
payload since then.
-/
structure DTCReader where
  activeDTCs : Option DTCInfo := none
  sent : Nat → Bool := fun _ => false

namespace DTCReader

def observe (r : DTCReader) (entry : DTCEntry) : DTCReader :=
  match entry with
  | .set activeDTCs => ⟨some activeDTCs, fun _ => false⟩
  | .sent i _ => { r with sent := fun other => if other = i then true else r.sent other }

def SentOnce (includesDTCs : Nat → Bool) (r : DTCReader) (entry : DTCEntry) : Prop :=
  match entry, r.activeDTCs with
  | .sent i mDTCInfo, some activeDTCs =>
    includesDTCs i = true → mDTCInfo = if r.sent i then {} else activeDTCs
  | _, _ => True

/--
No condition that includes DTCs sends a second payload after a call, unless the set is the empty one.
-/
def SentAtMostOnce (includesDTCs : Nat → Bool) (r : DTCReader) (entry : DTCEntry) : Prop :=
  match entry, r.activeDTCs with
  | .sent i _, some activeDTCs =>
    includesDTCs i = true → r.sent i = true → activeDTCs = {}
  | _, _ => True

def AlwaysSent (includesDTCs : Nat → Bool) (r : DTCReader) (entry : DTCEntry) : Prop :=
  match entry, r.activeDTCs with
  | .sent i mDTCInfo, some activeDTCs => includesDTCs i = true → mDTCInfo = activeDTCs
  | _, _ => True

instance (includesDTCs : Nat → Bool) (r : DTCReader) (entry : DTCEntry)
    : Decidable (SentOnce includesDTCs r entry) := by
  unfold SentOnce
  split
  . infer_instance
  . infer_instance

theorem sentOnce_iff {includesDTCs : Nat → Bool} {r : DTCReader} {entry : DTCEntry}
    (h : AlwaysSent includesDTCs r entry)
    : SentOnce includesDTCs r entry ↔ SentAtMostOnce includesDTCs r entry := by
  cases entry with
  | set activeDTCs => exact Iff.rfl
  | sent i mDTCInfo =>
    unfold SentOnce SentAtMostOnce
    unfold AlwaysSent at h
    cases hset : r.activeDTCs with
    | none => exact Iff.rfl
    | some activeDTCs =>
      rw [hset] at h
      dsimp only at h ⊢
      apply imp_congr_right
      intro hincludes
      rw [h hincludes]
      cases r.sent i <;> simp

end DTCReader

namespace CollectionInspectionEngine

variable {V : Type} [InspectionValue V] {s : CollectionInspectionEngine V}

def includesDTCs (s : CollectionInspectionEngine V) (i : Nat) : Bool :=
  s.mConditions[i]?.any fun condition => condition.mCondition.includeActiveDtcs

def dtcEntries (event : EngineEvent V) (log : List (Observation V)) : List DTCEntry :=
  match event with
  | .setActiveDTCs activeDTCs => [.set activeDTCs]
  | _ => (log.filterMap Observation.payload).map fun (i, data) => .sent i data.mDTCInfo

def dtcStep (s : CollectionInspectionEngine V) (event : EngineEvent V)
    : CollectionInspectionEngine V × List DTCEntry :=
  ((s.step event).1, dtcEntries event (s.step event).2)

omit [InspectionValue V] in
theorem SameConfiguration.includesDTCs {s' : CollectionInspectionEngine V} (h : SameConfiguration s s')
    : s'.includesDTCs = s.includesDTCs := by
  have hread : ∀ s : CollectionInspectionEngine V, s.includesDTCs = fun i =>
      (s.mConditions.map ActiveCondition.configuration)[i]?.any fun condition =>
        condition.mCondition.includeActiveDtcs := by
    intro s
    funext i
    rw [List.getElem?_map, Option.any_map]
    rfl
  rw [hread, hread, h.conditions]

omit [InspectionValue V] in
theorem collectData_mDTCInfo (condition : ActiveCondition V) (conditionId : Nat)
    (honce : s.mSendDataOnlyOncePerCondition = true)
    (hincludes : condition.mCondition.includeActiveDtcs = true)
    : (s.collectData condition conditionId).2.2.mDTCInfo = s.mActiveDTCs := by
  have ⟨_, _, hframe⟩ := collectSamples_frame s condition conditionId
  have hpacks : (condition.mCondition.includeActiveDtcs
      && (!(s.collectSamples condition conditionId).engine.isActiveDTCsConsumed conditionId
        || (s.collectSamples condition conditionId).engine.mSendDataOnlyOncePerCondition)) = true := by
    rw [hincludes, hframe]
    simp [honce]
  unfold collectData
  dsimp only
  rw [if_pos hpacks, hframe]

omit [InspectionValue V] in
theorem publish_mDTCInfo (s : CollectionInspectionEngine V) (condition : ActiveCondition V)
    (i currentTime : Nat) (honce : s.mSendDataOnlyOncePerCondition = true)
    (hincludes : condition.mCondition.includeActiveDtcs = true)
    : (s.publish condition i currentTime).2.1.mDTCInfo = s.mActiveDTCs :=
  collectData_mDTCInfo _ i honce hincludes

theorem evaluateConditions_mActiveDTCs (s : CollectionInspectionEngine V) (currentTime : Nat)
    : (s.evaluateConditions currentTime).1.mActiveDTCs = s.mActiveDTCs := by
  have hbefore : (s.beforeEvaluation currentTime).mActiveDTCs = s.mActiveDTCs := by
    unfold beforeEvaluation
    split <;> rfl
  rw [← hbefore]
  apply evaluateConditions_rel fun s s' => s'.mActiveDTCs = s.mActiveDTCs
  . intro s
    rfl
  . intro s s' s'' h h'
    exact h'.trans h
  . intro s condition i
    rfl

theorem dtcEntries_evaluateConditions (s : CollectionInspectionEngine V) (currentTime : Nat)
    : dtcEntries (.evaluateConditions currentTime) (s.step (.evaluateConditions currentTime)).2 = [] := by
  have hlog : (s.step (.evaluateConditions currentTime)).2.filterMap Observation.payload = [] := by
    unfold step
    dsimp only
    rw [List.filterMap_map, List.filterMap_eq_nil_iff]
    intro e _
    rfl
  unfold dtcEntries
  dsimp only
  rw [hlog, List.map_nil]

structure Knows (initial s : CollectionInspectionEngine V) (r : DTCReader) : Prop where
  configuration : SameConfiguration initial s
  activeDTCs : ∀ activeDTCs, r.activeDTCs = some activeDTCs → s.mActiveDTCs = activeDTCs

variable {initial : CollectionInspectionEngine V} {r : DTCReader}

theorem Knows.collectNextDataToSend (honce : initial.mSendDataOnlyOncePerCondition = true)
    (h : Knows initial s r) (currentTime : Nat)
    : let next := s.dtcStep (.collectNextDataToSend currentTime)
      Machine.Always (DTCReader.AlwaysSent initial.includesDTCs) DTCReader.observe r next.2
        ∧
      Knows initial next.1 (next.2.foldl DTCReader.observe r) := by
  have hconfiguration := h.configuration.trans (collectNextDataToSend_sameConfiguration s currentTime)
  have hincludes := SameConfiguration.includesDTCs h.configuration
  have ⟨s', ⟨_, _, _, hskimmed⟩, hcases⟩ := collectNextDataToSend_spec s currentTime
  have hactive : s'.mActiveDTCs = s.mActiveDTCs := by rw [hskimmed]
  have honce' : s'.mSendDataOnlyOncePerCondition = true := by
    rw [hskimmed]
    exact h.configuration.once.trans honce
  unfold dtcStep dtcEntries step
  dsimp only
  rw [Observation.filterMap_ofNextData]
  rcases hcases with ⟨hdata, hengine⟩ | ⟨i, condition, hcond, hdata, hengine⟩
  . rw [hdata]
    refine ⟨trivial, hconfiguration, ?_⟩
    intro activeDTCs hset
    rw [hengine, hactive]
    exact h.activeDTCs activeDTCs hset
  . rw [hdata]
    refine ⟨⟨?_, trivial⟩, hconfiguration, ?_⟩
    . unfold DTCReader.AlwaysSent
      cases hset : r.activeDTCs with
      | none => trivial
      | some activeDTCs =>
        intro hi
        rw [← hincludes] at hi
        unfold includesDTCs at hi
        rw [hcond, Option.any_some] at hi
        rw [publish_mDTCInfo s' condition i currentTime honce' hi, hactive]
        exact h.activeDTCs activeDTCs hset
    . intro activeDTCs hset
      have ⟨_, _, _, _, _, _, _, hframe⟩ := publish_frame s' condition i currentTime
      rw [hengine, hframe]
      dsimp only
      rw [hactive]
      exact h.activeDTCs activeDTCs hset

theorem Knows.dtcStep (honce : initial.mSendDataOnlyOncePerCondition = true)
    (h : Knows initial s r) (event : EngineEvent V)
    : Machine.Always (DTCReader.AlwaysSent initial.includesDTCs) DTCReader.observe r (s.dtcStep event).2
        ∧
      Knows initial (s.dtcStep event).1 ((s.dtcStep event).2.foldl DTCReader.observe r) := by
  have hconfiguration := h.configuration.trans (step_sameConfiguration s event)
  cases event with
  | addNewSignal id receiveTime value => exact ⟨trivial, hconfiguration, h.activeDTCs⟩
  | addNewRawCanFrame canID channelID receiveTime buffer size =>
    exact ⟨trivial, hconfiguration, h.activeDTCs⟩
  | setActiveDTCs activeDTCs =>
    refine ⟨⟨trivial, trivial⟩, hconfiguration, ?_⟩
    intro set hset
    exact Option.some_inj.mp hset
  | evaluateConditions currentTime =>
    unfold CollectionInspectionEngine.dtcStep
    rw [dtcEntries_evaluateConditions]
    refine ⟨trivial, hconfiguration, ?_⟩
    intro activeDTCs hset
    have hactive := evaluateConditions_mActiveDTCs s currentTime
    exact hactive.trans (h.activeDTCs activeDTCs hset)
  | collectNextDataToSend currentTime => exact h.collectNextDataToSend honce currentTime

def dtcTrace (s : CollectionInspectionEngine V) (events : List (EngineEvent V)) : List DTCEntry :=
  (Machine.run dtcStep s events).2

end CollectionInspectionEngine

open CollectionInspectionEngine

/--
The engine sends the set with every payload, so a condition gets it only once as long as it sends only one
payload.
-/
theorem active_dtcs_sent_once {V : Type} [InspectionValue V] (s : CollectionInspectionEngine V)
    (honce : s.mSendDataOnlyOncePerCondition = true) (events : List (EngineEvent V))
    : Machine.Always (DTCReader.SentOnce s.includesDTCs) DTCReader.observe {} (s.dtcTrace events)
        ↔
      Machine.Always (DTCReader.SentAtMostOnce s.includesDTCs) DTCReader.observe {}
        (s.dtcTrace events) := by
  have hinitial : Knows s s {} := ⟨SameConfiguration.refl s, nofun⟩
  have hsent := Machine.run_monitored_from (Knows s) (fun s r event h => Knows.dtcStep honce h event)
    hinitial events
  apply Machine.always_congr_of _ hsent
  intro r entry
  exact DTCReader.sentOnce_iff

def dtcEngine : CollectionInspectionEngine Rat :=
  emptyEngine.onChangeInspectionMatrix (.inserted Rat)
    ⟨[{ condition := some 0
        minimumPublishInterval := 0
        afterDuration := 0
        signals := []
        canFrames := []
        includeActiveDtcs := true
        triggerOnlyOnRisingEdge := false
        probabilityToSend := 1
        metaData := {}
        imageCollectionInfos := []
        includeImageCapture := false }],
      [{ nodeType := .BOOLEAN, booleanValue := true, floatingValue := 0 }]⟩

def dtcEvents : List (EngineEvent Rat) :=
  [.setActiveDTCs ⟨3, 1, ["B1217"]⟩, .evaluateConditions 2, .collectNextDataToSend 2]

theorem active_dtcs_sent_once_onePayload
    : dtcEngine.dtcTrace dtcEvents = [.set ⟨3, 1, ["B1217"]⟩, .sent 0 ⟨3, 1, ["B1217"]⟩]
        ∧
      Machine.Always (DTCReader.SentOnce dtcEngine.includesDTCs) DTCReader.observe {}
        (dtcEngine.dtcTrace dtcEvents) := by
  have htrace : dtcEngine.dtcTrace dtcEvents
      = [.set ⟨3, 1, ["B1217"]⟩, .sent 0 ⟨3, 1, ["B1217"]⟩] := by decide +kernel
  refine ⟨htrace, ?_⟩
  rw [active_dtcs_sent_once dtcEngine (by decide +kernel) dtcEvents, htrace]
  exact ⟨trivial, by simp [DTCReader.SentAtMostOnce, DTCReader.observe], trivial⟩

theorem active_dtcs_sent_twice
    : dtcEngine.dtcTrace (dtcEvents ++ [.evaluateConditions 3, .collectNextDataToSend 3])
          = [.set ⟨3, 1, ["B1217"]⟩, .sent 0 ⟨3, 1, ["B1217"]⟩, .sent 0 ⟨3, 1, ["B1217"]⟩]
        ∧
      ¬Machine.Always (DTCReader.SentOnce dtcEngine.includesDTCs) DTCReader.observe {}
          (dtcEngine.dtcTrace (dtcEvents ++ [.evaluateConditions 3, .collectNextDataToSend 3])) := by
  decide +kernel

end DataInspection
