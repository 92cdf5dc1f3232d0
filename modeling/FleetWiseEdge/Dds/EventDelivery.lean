import FleetWiseEdge.Dds.Impl.DataOverDDSModule

namespace DataInspection

open Machine

namespace DataOverDDSModule

def lastDelivery (last : Option (List EventMetadata × List (Nat × DDSDataRequest))) (entry : DDSEntry)
    : Option (List EventMetadata × List (Nat × DDSDataRequest)) :=
  match entry with
  | .delivered eventMetadata => some (eventMetadata, [])
  | .published sourceID request =>
    last.map fun delivery => (delivery.1, delivery.2 ++ [(sourceID, request)])

def LastEventPublished (mPublishers : List Nat) (log : List DDSEntry) : Prop :=
  ∀ delivery, log.foldl lastDelivery none = some delivery →
    ∀ eventItem ∈ delivery.1, eventItem.sourceID ∈ mPublishers →
      (eventItem.sourceID, request eventItem) ∈ delivery.2

/--
No call sets the flag that the worker is about to clear.
-/
def FlagSurvives (ddsModule : DataOverDDSModule) (action : DDSAction) : Prop :=
  action = .call → ddsModule.call = some .copied → ddsModule.worker ≠ .requested

instance (ddsModule : DataOverDDSModule) (action : DDSAction)
    : Decidable (FlagSurvives ddsModule action) :=
  inferInstanceAs (Decidable (_ → _ → _))

theorem mem_publishRequests {mPublishers : List Nat} {eventMetadata : List EventMetadata}
    {eventItem : EventMetadata} (hitem : eventItem ∈ eventMetadata)
    (hsource : eventItem.sourceID ∈ mPublishers)
    : (eventItem.sourceID, request eventItem) ∈ publishRequests mPublishers eventMetadata := by
  induction eventMetadata with
  | nil => simp at hitem
  | cons head rest ih =>
    unfold publishRequests
    rw [List.mem_cons] at hitem
    split
    . rw [List.mem_cons]
      cases hitem with
      | inl heq =>
        left
        rw [heq]
      | inr hrest =>
        right
        apply ih hrest
    . next hnot =>
      cases hitem with
      | inl heq =>
        rw [heq] at hsource
        contradiction
      | inr hrest => apply ih hrest

theorem lastDelivery_published {eventMetadata : List EventMetadata}
    {done : List (Nat × DDSDataRequest)} (requests : List (Nat × DDSDataRequest))
    : (requests.map fun published => DDSEntry.published published.1 published.2).foldl lastDelivery
        (some (eventMetadata, done))
        =
      some (eventMetadata, done ++ requests) := by
  induction requests generalizing done with
  | nil => simp
  | cons published rest ih =>
    rw [List.map_cons, List.foldl_cons]
    have hnext
        : lastDelivery (some (eventMetadata, done)) (.published published.1 published.2)
            =
          some (eventMetadata, done ++ [published]) := by
      simp [lastDelivery]
    rw [hnext, ih]
    simp

/--
Where the last event is on its way to the publishers, `published` are the requests sent since it came.
-/
inductive OnItsWay (ddsModule : DataOverDDSModule) : List (Nat × DDSDataRequest) → Prop where
  | copied (hcall : ddsModule.call = some .copied) : OnItsWay ddsModule []
  | raised (hcall : ddsModule.call ≠ some .copied) (hflag : ddsModule.mNewEventReceived = true)
      (hworker : ddsModule.worker ≠ .requested)
      (hwake : ddsModule.worker = .waiting →
        ddsModule.mWait.mNotify = true ∨ ddsModule.call = some .raised)
      : OnItsWay ddsModule []
  | requested (hcall : ddsModule.call ≠ some .copied)
      (hflag : ddsModule.worker = .requested
        ∨ ddsModule.mNewEventReceived = false ∧ ddsModule.worker ≠ .requesting)
      : OnItsWay ddsModule (publishRequests ddsModule.mPublishers ddsModule.mEventMetatdata)

def Tracks (mPublishers : List Nat) (ddsModule : DataOverDDSModule)
    (last : Option (List EventMetadata × List (Nat × DDSDataRequest)))
    : Prop :=
  ddsModule.mPublishers = mPublishers
    ∧
  match last with
  | none =>
    ddsModule.call = none ∧ ddsModule.mNewEventReceived = false
      ∧ (ddsModule.worker = .waiting ∨ ddsModule.worker = .awake)
  | some (eventMetadata, published) =>
    ddsModule.mEventMetatdata = eventMetadata ∧ OnItsWay ddsModule published

variable {mPublishers : List Nat} {ddsModule : DataOverDDSModule}
variable {last : Option (List EventMetadata × List (Nat × DDSDataRequest))}

theorem enter_tracks (eventMetadata : List EventMetadata) (h : Tracks mPublishers ddsModule last)
    : Tracks mPublishers (ddsModule.enter eventMetadata).1
        ((ddsModule.enter eventMetadata).2.foldl lastDelivery last) := by
  unfold enter
  split
  . exact h
  . constructor
    . exact h.1
    . constructor
      . rfl
      . apply OnItsWay.copied
        rfl

theorem callStep_tracks (hsurvives : FlagSurvives ddsModule .call) (h : Tracks mPublishers ddsModule last)
    : Tracks mPublishers ddsModule.callStep last := by
  have ⟨hpublishers, hlast⟩ := h
  unfold callStep
  split
  . exact h
  . next hcall =>
    have hworker := hsurvives rfl hcall
    match last with
    | none => simp [hlast.1] at hcall
    | some (_, _) =>
      have ⟨hmetadata, hway⟩ := hlast
      apply And.intro hpublishers
      apply And.intro hmetadata
      cases hway with
      | copied => apply OnItsWay.raised <;> simp [hworker]
      | raised hnot => contradiction
      | requested hnot => contradiction
  . next hcall =>
    match last with
    | none => simp [hlast.1] at hcall
    | some (_, _) =>
      have ⟨hmetadata, hway⟩ := hlast
      apply And.intro hpublishers
      apply And.intro hmetadata
      cases hway with
      | copied hcopied => simp [hcopied] at hcall
      | raised _ hflag hworker _ => apply OnItsWay.raised <;> simp [hflag, hworker]
      | requested _ hflag =>
        apply OnItsWay.requested
        . simp
        . exact hflag

theorem wake_tracks {mWait : Platform.Signal} (hwaiting : ddsModule.worker = .waiting)
    (h : Tracks mPublishers ddsModule last)
    : Tracks mPublishers { ddsModule with mWait, worker := .awake } last := by
  have ⟨hpublishers, hlast⟩ := h
  apply And.intro hpublishers
  match last with
  | none => exact ⟨hlast.1, hlast.2.1, Or.inr rfl⟩
  | some (_, _) =>
    have ⟨hmetadata, hway⟩ := hlast
    apply And.intro hmetadata
    cases hway with
    | copied hcall =>
      apply OnItsWay.copied
      exact hcall
    | raised hcall hflag _ _ => apply OnItsWay.raised <;> simp [hcall, hflag]
    | requested hcall hflag =>
      apply OnItsWay.requested
      . exact hcall
      . simp [hwaiting] at hflag
        simp [hflag]

theorem load_tracks (hawake : ddsModule.worker = .awake) (h : Tracks mPublishers ddsModule last)
    : Tracks mPublishers
        { ddsModule with worker := if ddsModule.mNewEventReceived then .requesting else .waiting } last := by
  have ⟨hpublishers, hlast⟩ := h
  apply And.intro hpublishers
  match last with
  | none => simp [hlast.1, hlast.2.1]
  | some (_, _) =>
    have ⟨hmetadata, hway⟩ := hlast
    apply And.intro hmetadata
    cases hway with
    | copied hcall =>
      apply OnItsWay.copied
      exact hcall
    | raised hcall hflag _ _ => apply OnItsWay.raised <;> simp [hcall, hflag]
    | requested hcall hflag =>
      apply OnItsWay.requested
      . exact hcall
      . simp [hawake] at hflag
        simp [hflag]

theorem publish_tracks (hrequesting : ddsModule.worker = .requesting) (hfree : ddsModule.call = none)
    (h : Tracks mPublishers ddsModule last)
    : Tracks mPublishers { ddsModule with worker := .requested }
        (((publishRequests ddsModule.mPublishers ddsModule.mEventMetatdata).map
          fun published => DDSEntry.published published.1 published.2).foldl lastDelivery last) := by
  have ⟨hpublishers, hlast⟩ := h
  match last with
  | none => simp [hrequesting] at hlast
  | some (eventMetadata, _) =>
    have ⟨hmetadata, hway⟩ := hlast
    rw [lastDelivery_published]
    apply And.intro hpublishers
    apply And.intro hmetadata
    cases hway with
    | copied hcall => simp [hfree] at hcall
    | raised =>
      rw [List.nil_append]
      apply @OnItsWay.requested { ddsModule with worker := .requested }
      . simp [hfree]
      . simp
    | requested _ hflag => simp [hrequesting] at hflag

theorem clear_tracks (hrequested : ddsModule.worker = .requested) (h : Tracks mPublishers ddsModule last)
    : Tracks mPublishers { ddsModule with mNewEventReceived := false, worker := .waiting } last := by
  have ⟨hpublishers, hlast⟩ := h
  apply And.intro hpublishers
  match last with
  | none => exact ⟨hlast.1, rfl, Or.inl rfl⟩
  | some (_, _) =>
    have ⟨hmetadata, hway⟩ := hlast
    apply And.intro hmetadata
    cases hway with
    | copied hcall =>
      apply OnItsWay.copied
      exact hcall
    | raised _ _ hnot _ => contradiction
    | requested hcall _ =>
      apply OnItsWay.requested
      . exact hcall
      . simp

theorem workerStep_tracks (h : Tracks mPublishers ddsModule last)
    : Tracks mPublishers ddsModule.workerStep.1 (ddsModule.workerStep.2.foldl lastDelivery last) := by
  unfold workerStep
  split
  . next hwaiting =>
    split
    . exact h
    . exact wake_tracks hwaiting h
  . next hawake =>
    have hload := load_tracks hawake h
    split
    . next hflag => simpa [hflag] using hload
    . next hflag => simpa [hflag] using hload
  . next hrequesting =>
    split
    . exact h
    . next hfree => exact publish_tracks hrequesting hfree h
  . next hrequested => exact clear_tracks hrequested h

theorem step_tracks {action : DDSAction} (hsurvives : FlagSurvives ddsModule action)
    (h : Tracks mPublishers ddsModule last)
    : Tracks mPublishers (ddsModule.step action).1 ((ddsModule.step action).2.foldl lastDelivery last) := by
  cases action with
  | onEventOfInterestDetected eventMetadata => exact enter_tracks eventMetadata h
  | call => exact callStep_tracks hsurvives h
  | worker => exact workerStep_tracks h

theorem published_of_idle {eventMetadata : List EventMetadata} {published : List (Nat × DDSDataRequest)}
    (hidle : ddsModule.Idle) (h : Tracks mPublishers ddsModule (some (eventMetadata, published)))
    : published = publishRequests mPublishers eventMetadata := by
  have ⟨hwaiting, hquiet, hfree⟩ := hidle
  have ⟨hpublishers, hmetadata, hway⟩ := h
  cases hway with
  | copied hcall => simp [hfree] at hcall
  | raised _ _ _ hwake => simp [hquiet, hfree, hwaiting] at hwake
  | requested => rw [hpublishers, hmetadata]

theorem run_tracks (mPublishers : List Nat) (actions : List DDSAction)
    (h : Always FlagSurvives (fun ddsModule action => (step ddsModule action).1) { mPublishers } actions)
    : Tracks mPublishers (run step { mPublishers } actions).1
        ((run step { mPublishers } actions).2.foldl lastDelivery none) := by
  have hinit : Tracks mPublishers { mPublishers } none := ⟨rfl, rfl, rfl, Or.inl rfl⟩
  apply run_observed (Tracks mPublishers) FlagSurvives _ hinit h
  intro ddsModule last action hsurvives htracks
  apply step_tracks hsurvives htracks

/--
In a run where no call sets the flag between the end of the critical section and the store that clears
the flag, an idle module has published the requests of the last event.
-/
theorem last_event_published (mPublishers : List Nat) (actions : List DDSAction)
    (h : Always FlagSurvives (fun ddsModule action => (step ddsModule action).1) { mPublishers } actions)
    (hidle : (run step { mPublishers } actions).1.Idle)
    : LastEventPublished mPublishers (run step { mPublishers } actions).2 := by
  have htracks := run_tracks mPublishers actions h
  intro delivery hdelivery eventItem hitem hsource
  rw [hdelivery] at htracks
  rw [published_of_idle hidle htracks]
  apply mem_publishRequests hitem hsource

def firstEvent : List EventMetadata :=
  [{ eventID := 1, sourceID := 1, negativeOffsetMs := 10, positiveOffsetMs := 20 }]

def secondEvent : List EventMetadata :=
  [{ eventID := 2, sourceID := 1, negativeOffsetMs := 10, positiveOffsetMs := 20 }]

theorem last_event_published_secondEvent
    : LastEventPublished [1]
        (run step { mPublishers := [1] }
          [.onEventOfInterestDetected firstEvent, .call, .call, .worker, .worker,
            .onEventOfInterestDetected secondEvent, .call, .call, .worker, .worker, .worker,
            .worker]).2 :=
  last_event_published [1] _ (by decide) (by decide)

/--
The second call falls between the end of the critical section and the store that clears the flag. The
worker goes back to waiting and never asks for the second event.
-/
theorem last_event_lost
    : ¬∀ mPublishers actions,
        (run step { mPublishers } actions).1.Idle →
          LastEventPublished mPublishers (run step { mPublishers } actions).2 := by
  intro h
  have hpublished := h [1]
    [.onEventOfInterestDetected firstEvent, .call, .call, .worker, .worker, .worker,
      .onEventOfInterestDetected secondEvent, .call, .call, .worker, .worker, .worker]
    (by decide) _ rfl _ List.mem_cons_self (by decide)
  revert hpublished
  decide

end DataOverDDSModule

end DataInspection
