import FleetWiseEdge.Connectivity.Lemmas.Working

namespace OffboardConnectivityAwsIot

open Cpp
open OffboardConnectivity (ConnectivityError)

section Channels

variable {channels : List (String × Bool)}

def isAsynchronous (channels : List (String × Bool)) (i : Nat) : Bool :=
  (channels[i]?.map (·.2)).getD false

def asynchronousBefore (channels : List (String × Bool)) (i : Nat) : List Nat :=
  (List.range i).filter (isAsynchronous channels)

def asynchronousChannels (channels : List (String × Bool)) : List Nat :=
  asynchronousBefore channels channels.length

theorem asynchronousBefore_succ (i : Nat)
    : asynchronousBefore channels (i + 1)
        = asynchronousBefore channels i ++ if isAsynchronous channels i then [i] else [] := by
  unfold asynchronousBefore
  rw [List.range_succ, List.filter_append, List.filter_cons, List.filter_nil]

theorem asynchronousBefore_prefix {i j : Nat} (h : i ≤ j)
    : asynchronousBefore channels i <+: asynchronousBefore channels j := by
  induction h with
  | refl => exact List.prefix_rfl
  | step _ ih =>
    rw [asynchronousBefore_succ]
    exact ih.trans (List.prefix_append _ _)

def SubscribeStep.index (step : SubscribeStep) : Nat :=
  match step with
  | .check i | .request i | .wait i => i

def Result (channels : List (String × Bool)) (subscriptions : Subscriptions) (i : Nat) (result : ConnectivityError)
    : Prop :=
  ∃ topic, channels[i]? = some (topic, true) ∧ (result = .NotConfigured ↔ topic = "")
    ∧ (result = .Success ↔ subscriptions.isSubscribed i = true)

def Requested (channels : List (String × Bool)) (i : Nat) : Prop :=
  ∃ topic, channels[i]? = some (topic, true) ∧ topic ≠ ""

structure Subscribing (channels : List (String × Bool)) (step : SubscribeStep) (subscriptions : Subscriptions)
    : Prop where
  same
    : subscriptions.mChannels.map (fun channel => (channel.mTopicName, channel.mSubscribeAsynchronously))
        = channels
  bound : step.index ≤ channels.length
  done : subscriptions.results.map (·.1) = asynchronousBefore channels step.index
  results : ∀ result ∈ subscriptions.results, Result channels subscriptions result.1 result.2
  rest : ∀ i, step.index < i → subscriptions.isSubscribed i = false
  owed
    : ∀ i, subscriptions.subscribing = some i →
        step = .wait i ∧ subscriptions.subscribeFinishedPromise.value = none
  current
    : match step with
      | .check i => subscriptions.isSubscribed i = false
      | .request i => Requested channels i ∧ subscriptions.isSubscribed i = false
      | .wait i => Requested channels i

namespace Subscribing

variable {subscriptions : Subscriptions}

theorem new (channels : List (String × Bool))
    : Subscribing channels (.check 0) (AwsIotConnectivityModule.new channels).subscriptions := by
  have hnone (i : Nat) : (AwsIotConnectivityModule.new channels).subscriptions.isSubscribed i = false := by
    unfold Subscriptions.isSubscribed AwsIotConnectivityModule.new
    dsimp only
    rw [List.getElem?_map]
    cases channels[i]? with
    | none => rfl
    | some channel => rfl
  constructor
  . unfold AwsIotConnectivityModule.new
    dsimp only
    rw [List.map_map]
    exact List.map_id'' (fun channel => rfl) channels
  . exact Nat.zero_le _
  . rfl
  . exact fun result hmem => by cases hmem
  . exact fun i _ => hnone i
  . exact fun i howed => by cases howed
  . exact hnone 0

theorem acked {step : SubscribeStep} (h : Subscribing channels step subscriptions)
    : ∀ i, subscriptions.subscribing = some i → subscriptions.subscribeFinishedPromise.value = none :=
  fun i howed => (h.owed i howed).2

theorem channel_eq {step : SubscribeStep} (h : Subscribing channels step subscriptions) (i : Nat)
    : channels[i]?
        = subscriptions.mChannels[i]?.map fun channel =>
            (channel.mTopicName, channel.mSubscribeAsynchronously) := by
  rw [← h.same, List.getElem?_map]

theorem lt_of_channel {i : Nat} {channel : String × Bool} (h : channels[i]? = some channel) : i < channels.length :=
  (List.getElem?_eq_some_iff.mp h).1

theorem lt_of_result {step : SubscribeStep} (h : Subscribing channels step subscriptions)
    {result : Nat × ConnectivityError} (hmem : result ∈ subscriptions.results)
    : result.1 < step.index := by
  have hindex : result.1 ∈ subscriptions.results.map (·.1) := List.mem_map_of_mem hmem
  rw [h.done] at hindex
  exact List.mem_range.mp (List.mem_filter.mp hindex).1

theorem skip {i : Nat} (h : Subscribing channels (.check i) subscriptions)
    (hlt : i < channels.length) (hsync : isAsynchronous channels i = false)
    : Subscribing channels (.check (i + 1)) subscriptions where
  same := h.same
  bound := hlt
  done := by
    rw [h.done]
    unfold SubscribeStep.index
    rw [asynchronousBefore_succ, hsync]
    exact (List.append_nil _).symm
  results := h.results
  rest := fun j hlater => h.rest j (Nat.lt_of_succ_lt hlater)
  owed := fun j howed => by cases (h.owed j howed).1
  current := h.rest (i + 1) (Nat.lt_succ_self i)

theorem result {step : SubscribeStep} (h : Subscribing channels step subscriptions)
    (howed : subscriptions.subscribing = none) {result : ConnectivityError}
    (hresult : Result channels subscriptions step.index result)
    : Subscribing channels (.check (step.index + 1))
        { subscriptions with results := subscriptions.results ++ [(step.index, result)] } := by
  have ⟨topic, hchannel, _⟩ := hresult
  have hasync : isAsynchronous channels step.index = true := by
    unfold isAsynchronous
    rw [hchannel]
    rfl
  constructor
  . exact h.same
  . exact lt_of_channel hchannel
  . dsimp only
    rw [List.map_append, h.done]
    unfold SubscribeStep.index
    rw [asynchronousBefore_succ]
    unfold SubscribeStep.index at hasync
    rw [hasync]
    rfl
  . intro later hmem
    rw [List.mem_append, List.mem_singleton] at hmem
    cases hmem with
    | inl hold => exact h.results later hold
    | inr hnew =>
      rw [hnew]
      exact hresult
  . exact fun i hlater => h.rest i (Nat.lt_of_succ_lt hlater)
  . intro i hasked
    rw [show subscriptions.subscribing = some i from hasked] at howed
    cases howed
  . exact h.rest _ (Nat.lt_succ_self _)

theorem owed_of_check {i : Nat} (h : Subscribing channels (.check i) subscriptions)
    : subscriptions.subscribing = none := by
  cases hasked : subscriptions.subscribing with
  | none => rfl
  | some j => cases (h.owed j hasked).1

theorem onFinished {step : SubscribeStep} (h : Subscribing channels step subscriptions) (isAlive answer : Bool)
    : match (subscriptions.onFinished step isAlive answer).2 with
      | .running step' => Subscribing channels step' (subscriptions.onFinished step isAlive answer).1
      | .returned () =>
        Subscribing channels (.check channels.length) (subscriptions.onFinished step isAlive answer).1 := by
  unfold Subscriptions.onFinished
  cases step with
  | check i =>
    have heq := h.channel_eq i
    dsimp only
    cases hchannel : subscriptions.mChannels[i]? with
    | none =>
      rw [hchannel] at heq
      have hle := List.getElem?_eq_none_iff.mp heq
      have hbound : i ≤ channels.length := h.bound
      rw [Nat.le_antisymm hle hbound]
      exact h
    | some channel =>
      rw [hchannel] at heq
      have hlt := lt_of_channel heq
      dsimp only
      cases hasync : channel.mSubscribeAsynchronously with
      | false =>
        rw [if_pos (by rfl)]
        apply h.skip hlt
        unfold isAsynchronous
        rw [heq]
        exact hasync
      | true =>
        rw [if_neg (by simp)]
        have hat : channels[i]? = some (channel.mTopicName, true) := by
          rw [heq, ← hasync]
          rfl
        have hnot {P : Prop} (hsubscribed : subscriptions.isSubscribed i = true) : P := by
          rw [show subscriptions.isSubscribed i = false from h.current] at hsubscribed
          cases hsubscribed
        by_cases hempty : channel.mTopicName.isEmpty = true
        . rw [if_pos hempty]
          refine h.result h.owed_of_check ⟨_, hat, iff_of_true rfl ?_, iff_of_false ?_ hnot⟩
          . exact String.isEmpty_iff.mp hempty
          . exact ConnectivityError.noConfusion
        . rw [if_neg hempty]
          have htopic : channel.mTopicName ≠ "" := fun hnil => hempty (String.isEmpty_iff.mpr hnil)
          cases isAlive with
          | false =>
            rw [if_pos (by rfl)]
            refine h.result h.owed_of_check ⟨_, hat, iff_of_false ?_ htopic, iff_of_false ?_ hnot⟩
            . exact ConnectivityError.noConfusion
            . exact ConnectivityError.noConfusion
          | true =>
            rw [if_neg (by simp)]
            refine ⟨h.same, h.bound, h.done, h.results, h.rest, ?_, ⟨_, hat, htopic⟩, h.current⟩
            exact fun j howed => by cases (h.owed j howed).1
  | request i =>
    have ⟨hrequested, _⟩ := h.current
    refine ⟨h.same, h.bound, h.done, h.results, h.rest, ?_, hrequested⟩
    intro j howed
    cases answer with
    | true =>
      rw [← Option.some_inj.mp howed]
      exact ⟨rfl, rfl⟩
    | false => cases howed
  | wait i =>
    dsimp only
    by_cases hvalue : subscriptions.subscribeFinishedPromise.value.isSome = true
    . rw [if_pos hvalue]
      have howed : subscriptions.subscribing = none := by
        cases hasked : subscriptions.subscribing with
        | none => rfl
        | some j =>
          rw [(h.owed j hasked).2] at hvalue
          cases hvalue
      obtain ⟨topic, hat, htopic⟩ := h.current
      refine h.result howed ⟨topic, hat, iff_of_false ?_ htopic, ?_⟩
      . split
        . exact ConnectivityError.noConfusion
        . exact ConnectivityError.noConfusion
      . show _ ↔ subscriptions.isSubscribed i = true
        split
        . next hsubscribed => exact iff_of_true rfl hsubscribed
        . next hsubscribed => exact iff_of_false ConnectivityError.noConfusion hsubscribed
    . rw [if_neg hvalue]
      exact h

theorem onSubAck {step : SubscribeStep} (h : Subscribing channels step subscriptions) {i : Nat}
    (howed : subscriptions.subscribing = some i) {packetId qos errorCode : Nat} {next : Subscriptions}
    (heq : subscriptions.onSubAck i packetId qos errorCode = some next)
    : Subscribing channels step next := by
  obtain ⟨hstep, hvalue⟩ := h.owed i howed
  have hother (j : Nat) (hne : j ≠ i) (mSubscribed : Bool) (next : Subscriptions)
      (hnext : next.mChannels = subscriptions.mChannels.modify i fun channel => { channel with mSubscribed })
      : next.isSubscribed j = subscriptions.isSubscribed j := by
    unfold Subscriptions.isSubscribed
    rw [hnext, List.getElem?_modify]
    cases subscriptions.mChannels[j]? with
    | none => rfl
    | some channel =>
      dsimp only [Option.map_eq_map, Option.map_some]
      rw [if_neg hne.symm]
  have hcore (mSubscribed : Bool) (next : Subscriptions)
      (hnext : next.mChannels = subscriptions.mChannels.modify i fun channel => { channel with mSubscribed })
      (hresults : next.results = subscriptions.results) (hdone : next.subscribing = none)
      : Subscribing channels step next := by
    have hcurrent := h.current
    rw [hstep] at hcurrent
    constructor
    . rw [hnext, ← h.same]
      apply List.ext_getElem?
      intro j
      rw [List.getElem?_map, List.getElem?_modify, List.getElem?_map]
      cases subscriptions.mChannels[j]? with
      | none => rfl
      | some channel =>
        dsimp only [Option.map_eq_map, Option.map_some]
        split
        . rfl
        . rfl
    . exact h.bound
    . rw [hresults]
      exact h.done
    . intro result hmem
      rw [hresults] at hmem
      obtain ⟨topic, hat, hconfigured, hsuccess⟩ := h.results result hmem
      have hlt := h.lt_of_result hmem
      rw [hstep] at hlt
      refine ⟨topic, hat, hconfigured, ?_⟩
      rw [hother result.1 (Nat.ne_of_lt hlt) mSubscribed next hnext]
      exact hsuccess
    . intro j hlater
      have hbefore := h.rest j hlater
      rw [hstep] at hlater
      rw [hother j (Nat.ne_of_gt hlater) mSubscribed next hnext]
      exact hbefore
    . intro j howed'
      rw [hdone] at howed'
      cases howed'
    . rw [hstep]
      exact hcurrent
  unfold Subscriptions.onSubAck at heq
  dsimp only at heq
  split at heq
  . rw [← Option.some_inj.mp heq]
    exact hcore _ _ rfl rfl rfl
  . unfold Promise.setValue at heq
    rw [hvalue] at heq
    rw [← Option.some_inj.mp heq]
    exact hcore _ _ rfl rfl rfl

end Subscribing

end Channels

end OffboardConnectivityAwsIot
