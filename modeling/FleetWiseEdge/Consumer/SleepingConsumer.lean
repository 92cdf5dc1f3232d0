import FleetWiseEdge.Consumer.Impl.ConsumerThreads
import Mathlib.Logic.Function.Basic

namespace DataInspection

open Machine

variable {Dictionary Frame : Type}

def ConsumerWorker.popsNext (worker : ConsumerWorker Dictionary) : Bool :=
  match worker with
  | .pop _ => true
  | _ => false

namespace ConsumerThreads

/--
The workers whose pass has seen the sleep flag set, as long as no call of `resumeDataConsumption` has
come after the start or suspend that set it. One that comes before the pass clears the flag.
-/
def observe (waiting : Nat → Bool) (entry : ConsumerEntry Dictionary Frame) : Nat → Bool :=
  match entry with
  | .resumed => fun _ => false
  | .pass w shouldSleep => Function.update waiting w shouldSleep
  | .popped _ _ _ => waiting

def DecodesAwake (waiting : Nat → Bool) (entry : ConsumerEntry Dictionary Frame) : Prop :=
  match entry with
  | .popped w _ dictionary => waiting w = false ∧ dictionary.isSome = true
  | _ => True

instance (waiting : Nat → Bool) (entry : ConsumerEntry Dictionary Frame)
    : Decidable (DecodesAwake waiting entry) :=
  match entry with
  | .popped _ _ _ => inferInstanceAs (Decidable (_ ∧ _))
  | .resumed => isTrue trivial
  | .pass _ _ => isTrue trivial

def endsEarly (threads : ConsumerThreads Dictionary Frame) (early : Bool)
    (worker : ConsumerWorker Dictionary)
    : Bool :=
  match worker with
  | .checkSleep => false
  | .sleeping => if threads.mWait.mNotify then threads.mShouldSleep else early
  | _ => early

def letGo (threads : ConsumerThreads Dictionary Frame) (early : Nat → Bool)
    (action : ConsumerAction Dictionary Frame)
    : Nat → Bool :=
  match action with
  | .worker w =>
    match threads.workers[w]? with
    | none => early
    | some worker => Function.update early w (threads.endsEarly (early w) worker)
  | _ => early

def NothingToDecode (state : ConsumerThreads Dictionary Frame × (Nat → Bool))
    (action : ConsumerAction Dictionary Frame)
    : Prop :=
  match action with
  | .worker w =>
    state.2 w = true → state.1.workers[w]?.any ConsumerWorker.popsNext = true →
      state.1.mInputBuffer.isEmpty = true
  | _ => True

instance (state : ConsumerThreads Dictionary Frame × (Nat → Bool))
    (action : ConsumerAction Dictionary Frame)
    : Decidable (NothingToDecode state action) :=
  match action with
  | .worker _ => inferInstanceAs (Decidable (_ → _ → _))
  | .start => isTrue trivial
  | .stop => isTrue trivial
  | .suspendDataConsumption => isTrue trivial
  | .resumeDataConsumption _ => isTrue trivial
  | .call _ => isTrue trivial
  | .push _ => isTrue trivial

def Stands (threads : ConsumerThreads Dictionary Frame) (early waiting : Bool)
    (worker : ConsumerWorker Dictionary)
    : Prop :=
  match worker with
  | .sleeping => waiting = true → threads.mShouldSleep = true
  | .readDictionary =>
    early = true ∨ waiting = false ∧ threads.mDecoderDictionaryConstPtr.isSome = true
  | .pop dictionary => early = true ∨ waiting = false ∧ dictionary.isSome = true
  | _ => True

def Started (threads : ConsumerThreads Dictionary Frame) : Prop :=
  threads.workers ≠ [] ∨ .startDone ∈ threads.calls ∨ .startCreate ∈ threads.calls

structure Guarded (threads : ConsumerThreads Dictionary Frame) (early waiting : Nat → Bool) : Prop where
  awake : threads.Started → threads.mShouldSleep = false →
    threads.mDecoderDictionaryConstPtr.isSome = true
  workers : ∀ (w : Nat) worker, threads.workers[w]? = some worker →
    threads.Stands (early w) (waiting w) worker

structure Advanced (threads : ConsumerThreads Dictionary Frame) (call : ConsumerCall Dictionary)
    (threads' : ConsumerThreads Dictionary Frame) (rest : Option (ConsumerCall Dictionary))
    (log : List (ConsumerEntry Dictionary Frame)) : Prop where
  workers : threads'.workers = threads.workers
    ∨ threads'.workers = threads.workers ++ [.created] ∧ call = .startCreate
  dictionary : threads.mDecoderDictionaryConstPtr.isSome = true →
    threads'.mDecoderDictionaryConstPtr.isSome = true
  sleep : log = [] ∧ (threads'.mShouldSleep = false → threads.mShouldSleep = false)
    ∨ log = [.resumed] ∧ threads'.mDecoderDictionaryConstPtr.isSome = true
  startDone : rest = some .startDone → threads'.mShouldSleep = true
  startCreate : rest = some .startCreate → call = .startDone

variable {threads threads' : ConsumerThreads Dictionary Frame} {early waiting : Nat → Bool}
variable {call : ConsumerCall Dictionary} {rest : Option (ConsumerCall Dictionary)}
variable {log : List (ConsumerEntry Dictionary Frame)}

theorem advance_advanced (threads : ConsumerThreads Dictionary Frame) (call : ConsumerCall Dictionary)
    : Advanced threads call (threads.advance call).1 (threads.advance call).2.1
        (threads.advance call).2.2 := by
  unfold advance
  cases call with
  | startLock =>
    dsimp only
    split <;> constructor <;> simp
  | stopLock =>
    dsimp only
    split <;> constructor <;> simp
  | stopJoin =>
    dsimp only
    split
    . constructor <;> simp
    . split <;> constructor <;> simp
  | resumeSleep =>
    dsimp only
    split
    . constructor <;> simp
    . next hdictionary => constructor <;> simp [hdictionary]
  | startSleep => constructor <;> simp
  | startDone => constructor <;> simp
  | startCreate => constructor <;> simp
  | stopNotify => constructor <;> simp
  | stopDone => constructor <;> simp
  | stopUnlock => constructor <;> simp
  | suspendSleep => constructor <;> simp
  | resumeStore dictionary => constructor <;> simp
  | resumeNotify => constructor <;> simp

theorem Advanced.stands (h : Advanced threads call threads' rest log) {w : Nat}
    {worker : ConsumerWorker Dictionary} (hstands : threads.Stands (early w) (waiting w) worker)
    : threads'.Stands (early w) (log.foldl observe waiting w) worker := by
  cases h.sleep with
  | inl hkept =>
    rw [hkept.1]
    cases worker with
    | sleeping =>
      intro hwaiting
      have hset := hstands hwaiting
      cases hsleep : threads'.mShouldSleep with
      | false => simp [hkept.2 hsleep] at hset
      | true => rfl
    | readDictionary => exact hstands.imp id (And.imp id h.dictionary)
    | pop dictionary => exact hstands
    | _ => trivial
  | inr hresumed =>
    rw [hresumed.1]
    cases worker with
    | sleeping => exact nofun
    | readDictionary => exact Or.inr ⟨rfl, hresumed.2⟩
    | pop dictionary => exact hstands.imp id (And.imp (fun _ => rfl) id)
    | _ => trivial

theorem Advanced.awake (h : Advanced threads call threads' rest log)
    (hawake : threads.mShouldSleep = false → threads.mDecoderDictionaryConstPtr.isSome = true)
    : threads'.mShouldSleep = false → threads'.mDecoderDictionaryConstPtr.isSome = true := by
  intro hsleep
  cases h.sleep with
  | inl hkept => exact h.dictionary (hawake (hkept.2 hsleep))
  | inr hresumed => exact hresumed.2

theorem Advanced.started (h : Advanced threads call threads' rest log) {calls : List (ConsumerCall Dictionary)}
    (hcall : call ∈ threads.calls)
    (hcalls : ∀ c ∈ calls, c ∈ threads.calls ∨ rest = some c)
    (hstarted : Started { threads' with calls }) (hsleep : threads'.mShouldSleep = false)
    : threads.Started := by
  have hnew : ∀ c ∈ calls, c = .startDone ∨ c = .startCreate → threads.Started := by
    intro c hmem hc
    cases hcalls c hmem with
    | inl hold =>
      right
      cases hc with
      | inl heq =>
        left
        rw [← heq]
        exact hold
      | inr heq =>
        right
        rw [← heq]
        exact hold
    | inr hrest =>
      cases hc with
      | inl heq =>
        have hset := h.startDone (heq ▸ hrest)
        simp [hsleep] at hset
      | inr heq =>
        have hdone := h.startCreate (heq ▸ hrest)
        right
        left
        exact hdone ▸ hcall
  cases hstarted with
  | inl hworkers =>
    cases h.workers with
    | inl hsame =>
      left
      intro hnil
      apply hworkers
      dsimp only
      rw [hsame, hnil]
    | inr hcreated =>
      right
      right
      exact hcreated.2 ▸ hcall
  | inr hrunning =>
    cases hrunning with
    | inl hdone => exact hnew _ hdone (Or.inl rfl)
    | inr hcreate => exact hnew _ hcreate (Or.inr rfl)

theorem Guarded.advanced (hguarded : Guarded threads early waiting)
    (h : Advanced threads call threads' rest log) {calls : List (ConsumerCall Dictionary)}
    (hcall : call ∈ threads.calls) (hcalls : ∀ c ∈ calls, c ∈ threads.calls ∨ rest = some c)
    : Guarded { threads' with calls } early (log.foldl observe waiting) := by
  constructor
  . intro hstarted hsleep
    have hbefore := h.started hcall hcalls hstarted hsleep
    exact h.awake (hguarded.awake hbefore) hsleep
  . intro w worker hworker
    dsimp only at hworker
    have hkept : ∀ worker, threads.workers[w]? = some worker →
        threads'.Stands (early w) (log.foldl observe waiting w) worker := by
      intro worker hworker
      exact h.stands (hguarded.workers w worker hworker)
    cases h.workers with
    | inl hsame =>
      rw [hsame] at hworker
      have hstands := hkept worker hworker
      cases worker <;> exact hstands
    | inr hcreated =>
      rw [hcreated.1, List.getElem?_append] at hworker
      split at hworker
      . have hstands := hkept worker hworker
        cases worker <;> exact hstands
      . rw [List.getElem?_singleton] at hworker
        split at hworker
        . rw [Option.some.injEq] at hworker
          rw [← hworker]
          trivial
        . contradiction

theorem callStep_guarded (h : Guarded threads early waiting) (i : Nat)
    : Always DecodesAwake observe waiting (threads.callStep i).2
        ∧
      Guarded (threads.callStep i).1 early ((threads.callStep i).2.foldl observe waiting) := by
  unfold callStep
  split
  . exact ⟨trivial, h⟩
  . next call hcall =>
    have hmem := List.mem_of_getElem? hcall
    have hadvanced := advance_advanced threads call
    have hlog : Always DecodesAwake observe waiting (threads.advance call).2.2 := by
      cases hadvanced.sleep with
      | inl hkept =>
        rw [hkept.1]
        trivial
      | inr hresumed =>
        rw [hresumed.1]
        exact ⟨trivial, trivial⟩
    dsimp only
    split
    . next hreturned =>
      apply And.intro hlog
      apply h.advanced hadvanced hmem
      intro c hc
      left
      rw [advance_calls] at hc
      exact List.mem_of_mem_eraseIdx hc
    . next rest hrest =>
      apply And.intro hlog
      apply h.advanced hadvanced hmem
      intro c hc
      rw [advance_calls] at hc
      cases List.mem_or_eq_of_mem_set hc with
      | inl hold => exact Or.inl hold
      | inr hnew =>
        right
        rw [hnew, hrest]

theorem Guarded.worked (h : Guarded threads early waiting) {w : Nat}
    {worker worker' : ConsumerWorker Dictionary} {early' waiting' : Nat → Bool}
    (hworker : threads.workers[w]? = some worker)
    (hsleep : threads'.mShouldSleep = threads.mShouldSleep)
    (hdictionary : threads'.mDecoderDictionaryConstPtr = threads.mDecoderDictionaryConstPtr)
    (hworkers : threads'.workers = threads.workers)
    (hothers : ∀ w', w' ≠ w → early' w' = early w' ∧ waiting' w' = waiting w')
    (hstands : threads.Stands (early' w) (waiting' w) worker')
    : Guarded { threads' with workers := threads'.workers.set w worker' } early' waiting' := by
  have hbegun : threads.Started := by
    left
    intro hnil
    simp [hnil] at hworker
  have hsame : ∀ {early waiting : Bool} {worker : ConsumerWorker Dictionary},
      threads.Stands early waiting worker →
        Stands { threads' with workers := threads'.workers.set w worker' } early waiting worker := by
    intro early waiting worker hworker
    cases worker with
    | sleeping => exact hsleep ▸ hworker
    | readDictionary =>
      unfold Stands
      dsimp only
      rw [hdictionary]
      exact hworker
    | pop dictionary => exact hworker
    | _ => trivial
  constructor
  . intro _ hawake
    dsimp only at hawake ⊢
    rw [hdictionary]
    rw [hsleep] at hawake
    exact h.awake hbegun hawake
  . intro w' worker'' hworker''
    apply hsame
    dsimp only at hworker''
    rw [hworkers] at hworker''
    by_cases heq : w' = w
    . rw [heq] at hworker'' ⊢
      rw [List.getElem?_set_self (by grind)] at hworker''
      rw [Option.some.injEq] at hworker''
      rw [← hworker'']
      exact hstands
    . rw [List.getElem?_set_ne (Ne.symm heq)] at hworker''
      rw [(hothers w' heq).1, (hothers w' heq).2]
      exact h.workers w' worker'' hworker''

theorem work_kept (threads : ConsumerThreads Dictionary Frame) (w : Nat)
    (worker : ConsumerWorker Dictionary)
    : (threads.work w worker).1.mShouldSleep = threads.mShouldSleep
        ∧
      (threads.work w worker).1.mDecoderDictionaryConstPtr = threads.mDecoderDictionaryConstPtr
        ∧
      (threads.work w worker).1.workers = threads.workers := by
  cases worker with
  | sleeping =>
    unfold work
    dsimp only
    split <;> exact ⟨rfl, rfl, rfl⟩
  | pop dictionary =>
    unfold work
    dsimp only
    split <;> exact ⟨rfl, rfl, rfl⟩
  | _ => exact ⟨rfl, rfl, rfl⟩

theorem work_stands {w : Nat} {worker : ConsumerWorker Dictionary}
    (hok : early w = true → worker.popsNext = true → threads.mInputBuffer.isEmpty = true)
    (hawake : threads.mShouldSleep = false → threads.mDecoderDictionaryConstPtr.isSome = true)
    (hstands : threads.Stands (early w) (waiting w) worker)
    : Always DecodesAwake observe waiting (threads.work w worker).2.2
        ∧
      threads.Stands (threads.endsEarly (early w) worker)
        ((threads.work w worker).2.2.foldl observe waiting w) (threads.work w worker).2.1 := by
  cases worker with
  | created =>
    apply And.intro trivial
    unfold work
    dsimp only
    split <;> trivial
  | checkSleep =>
    apply And.intro ⟨trivial, trivial⟩
    unfold work
    dsimp only
    rw [List.foldl_cons, List.foldl_nil]
    unfold observe
    dsimp only
    rw [Function.update_self]
    cases hsleep : threads.mShouldSleep with
    | false => exact Or.inr ⟨rfl, hawake hsleep⟩
    | true => exact fun _ => hsleep
  | sleeping =>
    unfold work endsEarly
    dsimp only
    split
    . next hblocked =>
      rw [Platform.Signal.waitWithPredicate_eq_none] at hblocked
      exact ⟨trivial, hstands⟩
    . next mWait hreleased =>
      rw [Platform.Signal.waitWithPredicate_eq_some] at hreleased
      apply And.intro trivial
      rw [if_pos hreleased.1]
      cases hsleep : threads.mShouldSleep with
      | true => exact Or.inl rfl
      | false =>
        right
        constructor
        . cases hwaiting : waiting w with
          | false => exact hwaiting
          | true =>
            have hset := hstands hwaiting
            simp [hsleep] at hset
        . exact hawake hsleep
  | readDictionary => exact ⟨trivial, hstands⟩
  | pop dictionary =>
    unfold work
    dsimp only
    split
    . exact ⟨trivial, trivial⟩
    . next frame rest hframe =>
      cases hstands with
      | inl hearly =>
        have hempty := hok hearly rfl
        simp [hframe] at hempty
      | inr hready =>
        apply And.intro ⟨hready, trivial⟩
        rw [if_pos hready.2]
        trivial
  | checkStop =>
    apply And.intro trivial
    unfold work
    dsimp only
    split <;> trivial
  | _ => exact ⟨trivial, trivial⟩

theorem work_others (threads : ConsumerThreads Dictionary Frame) {w w' : Nat}
    (worker : ConsumerWorker Dictionary) (hne : w' ≠ w)
    : (threads.work w worker).2.2.foldl observe waiting w' = waiting w' := by
  cases worker with
  | checkSleep =>
    unfold work observe
    dsimp only
    rw [List.foldl_cons, List.foldl_nil]
    dsimp only
    rw [Function.update_of_ne hne]
  | sleeping =>
    unfold work
    dsimp only
    split <;> rfl
  | pop dictionary =>
    unfold work
    dsimp only
    split <;> rfl
  | _ => rfl

theorem workerStep_guarded (h : Guarded threads early waiting) (w : Nat)
    (hok : NothingToDecode (threads, early) (.worker w))
    : Always DecodesAwake observe waiting (threads.workerStep w).2
        ∧
      Guarded (threads.workerStep w).1 (letGo threads early (.worker w))
        ((threads.workerStep w).2.foldl observe waiting) := by
  unfold workerStep letGo
  dsimp only
  cases hworker : threads.workers[w]? with
  | none => exact ⟨trivial, h⟩
  | some worker =>
    have hbegun : threads.Started := by
      left
      intro hnil
      simp [hnil] at hworker
    have hempty : early w = true → worker.popsNext = true → threads.mInputBuffer.isEmpty = true := by
      intro hearly hpops
      apply hok hearly
      dsimp only
      rw [hworker]
      exact hpops
    have hwork := work_stands hempty (h.awake hbegun) (h.workers w worker hworker)
    have ⟨hsleep, hdictionary, hworkers⟩ := work_kept threads w worker
    apply And.intro hwork.1
    apply h.worked hworker hsleep hdictionary hworkers
    . intro w' hne
      exact ⟨Function.update_of_ne hne _ _, work_others threads worker hne⟩
    . dsimp only
      rw [Function.update_self]
      exact hwork.2

theorem invoke_guarded (h : Guarded threads early waiting) {call : ConsumerCall Dictionary}
    (hcall : call ≠ .startDone ∧ call ≠ .startCreate)
    : Guarded (threads.invoke call) early waiting := by
  constructor
  . intro hstarted
    apply h.awake
    unfold Started invoke at hstarted
    dsimp only at hstarted
    rw [List.mem_append, List.mem_append] at hstarted
    simp [hcall.1.symm, hcall.2.symm] at hstarted
    exact hstarted
  . intro w worker hworker
    have hstands := h.workers w worker hworker
    cases worker <;> exact hstands

theorem push_guarded (h : Guarded threads early waiting) (frame : Frame)
    : Guarded { threads with mInputBuffer := threads.mInputBuffer ++ [frame] } early waiting := by
  constructor
  . exact h.awake
  . intro w worker hworker
    have hstands := h.workers w worker hworker
    cases worker <;> exact hstands

theorem step_guarded (h : Guarded threads early waiting) (action : ConsumerAction Dictionary Frame)
    (hok : NothingToDecode (threads, early) action)
    : Always DecodesAwake observe waiting (threads.step action).2
        ∧
      Guarded (threads.step action).1 (letGo threads early action)
        ((threads.step action).2.foldl observe waiting) := by
  cases action with
  | start => exact ⟨trivial, invoke_guarded h ⟨nofun, nofun⟩⟩
  | stop => exact ⟨trivial, invoke_guarded h ⟨nofun, nofun⟩⟩
  | suspendDataConsumption => exact ⟨trivial, invoke_guarded h ⟨nofun, nofun⟩⟩
  | resumeDataConsumption dictionary => exact ⟨trivial, invoke_guarded h ⟨nofun, nofun⟩⟩
  | call i => exact callStep_guarded h i
  | worker w => exact workerStep_guarded h w hok
  | push frame => exact ⟨trivial, push_guarded h frame⟩

/--
In a run where a worker that is let go with the sleep flag set finds no frame, a pass that has seen the
flag set pops a frame only after a call of `resumeDataConsumption`, and each frame is popped with a
dictionary.
-/
theorem sleeping_consumer_decodes_nothing (mInputBuffer : List Frame)
    (actions : List (ConsumerAction Dictionary Frame))
    (h : Always NothingToDecode (withHistory step letGo) ({ mInputBuffer }, fun _ => false) actions)
    : Always DecodesAwake observe (fun _ => false)
        (run step ({ mInputBuffer } : ConsumerThreads Dictionary Frame) actions).2 := by
  apply run_monitored_history Guarded NothingToDecode _ _ h
  . intro threads early waiting action hok hguarded
    exact step_guarded hguarded action hok
  . constructor
    . intro hstarted
      simp [Started] at hstarted
    . intro w worker hworker
      simp at hworker

theorem sleeping_consumer_decodes_nothing_resumed
    : Always DecodesAwake observe (fun _ => false)
        (run step ({ mInputBuffer := [5] } : ConsumerThreads Nat Nat)
          [.start, .call 0, .call 0, .call 0, .call 0, .worker 0, .worker 0,
            .resumeDataConsumption 7, .call 0, .call 0, .call 0, .worker 0, .worker 0, .worker 0]).2 := by
  apply sleeping_consumer_decodes_nothing
  decide

theorem sleeping_consumer_decodes
    : ¬∀ (mInputBuffer : List Nat) (actions : List (ConsumerAction Nat Nat)),
        Always DecodesAwake observe (fun _ => false)
          (run step ({ mInputBuffer } : ConsumerThreads Nat Nat) actions).2 := by
  rw [not_forall]
  exists [5]
  rw [not_forall]
  refine ⟨[.start, .call 0, .call 0, .call 0, .call 0, .worker 0, .worker 0, .stop, .call 0, .call 0,
    .worker 0, .worker 0, .worker 0], ?_⟩
  decide

end ConsumerThreads

end DataInspection
