import AlertDistributor.Analysis.Config
import AlertDistributor.Library.Backoff
import AlertDistributor.Model.SnsClient
import AlertDistributor.System.SnsPush
import Mathlib.Order.Lattice.Nat

/-!
# The policy of the publish retries

Which attempts a call of `publish_to_endpoint` makes is settled by the attempts alone: it
stops at the first one that succeeds, fails for good, or is the last one allowed (`Stops`),
sleeps before each of the others is followed by the next, and returns what the last one came
to (`publish_policy`).  What the caller counts and deactivates then depends on that answer
only.  The delays are the doublings of 100 ms for as long as a 64-bit word holds them.
-/

set_option autoImplicit false

namespace AlertDistributor.Analysis

open AlertDistributor.Model AlertDistributor.System

/-! ## What an observer of a call sees -/

/-- The publish calls of a trace: the endpoint and the message of each. -/
def sends (events : List PublishEvent) : List (String × String) :=
  events.filterMap fun
    | .send targetArn message => some (targetArn, message)
    | .sleep _ => none

/-- The delays that were slept, in order. -/
def sleeps (events : List PublishEvent) : List UInt64 :=
  events.filterMap fun
    | .send _ _ => none
    | .sleep delayMs => some delayMs

section Policy

variable {SdkErr Output : Type}

/-- What attempt `i` comes to, its error classified. -/
def attempt (classify : SdkErr → SnsError) (send : ℕ → Except SdkErr Output) (i : ℕ) :
    Except SnsError Output :=
  (send i).mapError classify

/-- Attempt `i` is not followed by another one: it succeeds, it fails for good, or the retries
are used up. -/
def Stops (maxRetries : UInt32) (outcome : ℕ → Except SnsError Output) (i : ℕ) : Prop :=
  (∃ output, outcome i = .ok output) ∨
    (∃ e, outcome i = .error e ∧ e.isRetryable = false) ∨ i = maxRetries.toNat

/-- Some attempt stops the loop, at the latest the last one that is allowed. -/
theorem exists_isLeast_stop (maxRetries : UInt32) (outcome : ℕ → Except SnsError Output) :
    ∃ k, IsLeast {i | Stops maxRetries outcome i} k ∧ k ≤ maxRetries.toNat := by
  have hlast : maxRetries.toNat ∈ {i | Stops maxRetries outcome i} := Or.inr (Or.inr rfl)
  have hne : {i | Stops maxRetries outcome i}.Nonempty := ⟨_, hlast⟩
  exact ⟨sInf {i | Stops maxRetries outcome i},
    ⟨Nat.sInf_mem hne, fun i hi => Nat.sInf_le hi⟩, Nat.sInf_le hlast⟩

/-- No attempt before the first one that stops the loop does. -/
theorem not_stops_of_lt {maxRetries : UInt32} {outcome : ℕ → Except SnsError Output} {k i : ℕ}
    (hk : IsLeast {i | Stops maxRetries outcome i} k) (hi : i < k) :
    ¬ Stops maxRetries outcome i := by
  intro hstops
  have hle := hk.2 hstops
  omega

/-- The trace of a call that makes `j` retries, the first one after `delay`. -/
def backoffEvents (endpointArn message : String) : ℕ → UInt64 → List PublishEvent
  | 0, _ => [.send endpointArn message]
  | j + 1, delay =>
    .send endpointArn message :: .sleep delay :: backoffEvents endpointArn message j (delay * 2)

/-! ## One turn of the loop -/

variable {classify : SdkErr → SnsError} {client : SnsClient} (endpointArn message : String)
  {send : ℕ → Except SdkErr Output} {sent : ℕ} {retries : UInt32}

/-- An attempt that stops is the last one. -/
theorem publishLoop_of_stops (hstops : Stops client.maxRetries (attempt classify send) sent)
    (hretries : retries.toNat = sent) (delay : UInt64) :
    publishLoop classify client endpointArn message send sent retries delay =
      ⟨[.send endpointArn message], attempt classify send sent⟩ := by
  unfold Stops attempt at hstops
  rw [publishLoop, attempt]
  cases hsend : send sent with
  | ok output => rfl
  | error sdkErr =>
    rw [hsend] at hstops
    have hstop : (!(classify sdkErr).isRetryable) = true ∨ retries ≥ client.maxRetries := by
      rcases hstops with ⟨output, hok⟩ | ⟨e, herror, hfinal⟩ | hlast
      · cases hok
      · obtain rfl : classify sdkErr = e := Except.error.inj herror
        exact Or.inl (by rw [hfinal]; rfl)
      · refine Or.inr (UInt32.le_iff_toNat_le.mpr ?_)
        omega
    dsimp only
    rw [if_pos hstop]
    rfl

/-- Any other turn sleeps and goes on with the doubled delay. -/
theorem publishLoop_of_not_stops
    (hgo : ¬ Stops client.maxRetries (attempt classify send) sent)
    (hretries : retries.toNat = sent) (hmore : sent < client.maxRetries.toNat)
    (delay : UInt64) :
    publishLoop classify client endpointArn message send sent retries delay =
      let rest := publishLoop classify client endpointArn message send (sent + 1) (retries + 1)
        (delay * 2)
      { rest with events := .send endpointArn message :: .sleep delay :: rest.events } := by
  unfold Stops attempt at hgo
  rw [publishLoop]
  cases hsend : send sent with
  | ok output => exact absurd (Or.inl ⟨output, by rw [hsend]; rfl⟩) hgo
  | error sdkErr =>
    have hretryable : (!(classify sdkErr).isRetryable) = false := by
      by_contra hfinal
      refine hgo (Or.inr (Or.inl ⟨classify sdkErr, by rw [hsend]; rfl, by simpa using hfinal⟩))
    have hbelow : ¬ retries ≥ client.maxRetries := retries_left_iff.mpr (by omega)
    have hcontinue : ¬ ((!(classify sdkErr).isRetryable) = true ∨
        retries ≥ client.maxRetries) := by
      rintro (hstop | hstop)
      · rw [hretryable] at hstop
        cases hstop
      · exact hbelow hstop
    dsimp only
    rw [if_neg hcontinue]

/-- **The loop retries until the first attempt that stops it.** -/
theorem publishLoop_eq {k : ℕ}
    (hk : IsLeast {i | Stops client.maxRetries (attempt classify send) i} k)
    (hlast : k ≤ client.maxRetries.toNat) (hretries : retries.toNat = sent) (hsent : sent ≤ k)
    (delay : UInt64) :
    publishLoop classify client endpointArn message send sent retries delay =
      ⟨backoffEvents endpointArn message (k - sent) delay, attempt classify send k⟩ := by
  -- the attempts that are left
  obtain ⟨j, hj⟩ := Nat.exists_eq_add_of_le hsent
  induction j generalizing sent retries delay with
  | zero =>
    obtain rfl : k = sent := hj
    rw [publishLoop_of_stops endpointArn message hk.1 hretries, Nat.sub_self, backoffEvents]
  | succ j ih =>
    have hgo : ¬ Stops client.maxRetries (attempt classify send) sent :=
      not_stops_of_lt hk (by omega)
    have hmore : ¬ retries ≥ client.maxRetries := retries_left_iff.mpr (by omega)
    have hnext : (retries + 1).toNat = sent + 1 := by
      rw [toNat_retries_succ hmore, hretries]
    have hleft : k - sent = (k - (sent + 1)) + 1 := by omega
    rw [publishLoop_of_not_stops endpointArn message hgo hretries (by omega),
      ih hnext (by omega) (delay * 2) (by omega), hleft, backoffEvents]

/-! ## The trace of a call -/

/-- Between the sleeps the same message is sent to the same endpoint. -/
theorem sends_backoffEvents (j : ℕ) (delay : UInt64) :
    sends (backoffEvents endpointArn message j delay) =
      List.replicate (j + 1) (endpointArn, message) := by
  induction j generalizing delay with
  | zero => rfl
  | succ j ih =>
    rw [List.replicate_succ, ← ih (delay * 2)]
    rfl

/-- The delays are the doublings of the first one in a 64-bit word. -/
theorem sleeps_backoffEvents (j : ℕ) (delay : UInt64) :
    (sleeps (backoffEvents endpointArn message j delay)).map UInt64.toNat =
      (List.range j).map (Backoff.delay (2 ^ 64) delay.toNat) := by
  induction j generalizing delay with
  | zero => rfl
  | succ j ih =>
    have hdouble : (delay * 2).toNat = Backoff.double (2 ^ 64) delay.toNat := UInt64.toNat_mul _ _
    have hshift : (Backoff.delay (2 ^ 64) delay.toNat) ∘ Nat.succ =
        Backoff.delay (2 ^ 64) (delay * 2).toNat := by
      funext i
      rw [hdouble]
      rfl
    rw [List.range_succ_eq_map, List.map_cons, List.map_map, hshift, ← ih (delay * 2)]
    rfl

/-! ## The policy -/

/-- What a call does whose first stopping attempt is number `k`. -/
structure FollowsPolicy (outcome : ℕ → Except SnsError Output) (endpointArn message : String)
    (k : ℕ) (published : Published Output) : Prop where
  sends_eq : sends published.events = List.replicate (k + 1) (endpointArn, message)
  sleeps_length : (sleeps published.events).length = k
  result_eq : published.result = outcome k
  /-- Only what is transient is retried. -/
  retried : ∀ i < k, outcome i = .error .throttled ∨
    ∃ detail, outcome i = .error (.networkError detail)

/-- An attempt that does not stop the loop failed for a transient reason. -/
theorem transient_of_not_stops {maxRetries : UInt32} {outcome : ℕ → Except SnsError Output}
    {i : ℕ} (h : ¬ Stops maxRetries outcome i) :
    outcome i = .error .throttled ∨ ∃ detail, outcome i = .error (.networkError detail) := by
  cases houtcome : outcome i with
  | ok output => exact absurd (Or.inl ⟨output, houtcome⟩) h
  | error e =>
    cases e with
    | throttled => exact Or.inl rfl
    | networkError detail => exact Or.inr ⟨detail, rfl⟩
    | invalidEndpoint detail => exact absurd (Or.inr (Or.inl ⟨_, houtcome, rfl⟩)) h
    | authError detail => exact absurd (Or.inr (Or.inl ⟨_, houtcome, rfl⟩)) h
    | platformDisabled detail => exact absurd (Or.inr (Or.inl ⟨_, houtcome, rfl⟩)) h
    | unknown detail => exact absurd (Or.inr (Or.inl ⟨_, houtcome, rfl⟩)) h

/-- What a call does, from the first attempt that stops it. -/
theorem publishToEndpoint_eq {k : ℕ}
    (hk : IsLeast {i | Stops client.maxRetries (attempt classify send) i} k)
    (hlast : k ≤ client.maxRetries.toNat) :
    publishToEndpoint classify client endpointArn message send =
      ⟨backoffEvents endpointArn message k 100, attempt classify send k⟩ := by
  have hstart : (0 : UInt32).toNat = 0 := rfl
  have hloop := publishLoop_eq endpointArn message hk hlast hstart (Nat.zero_le k) 100
  rwa [Nat.sub_zero] at hloop

/-- A call that stops within the limit follows the policy. -/
theorem followsPolicy {k : ℕ}
    (hk : IsLeast {i | Stops client.maxRetries (attempt classify send) i} k)
    (hlast : k ≤ client.maxRetries.toNat) :
    FollowsPolicy (attempt classify send) endpointArn message k
      (publishToEndpoint classify client endpointArn message send) := by
  rw [publishToEndpoint_eq endpointArn message hk hlast]
  have hsleeps := congrArg List.length (sleeps_backoffEvents endpointArn message k 100)
  refine ⟨sends_backoffEvents endpointArn message k 100, ?_, rfl, ?_⟩
  · simpa using hsleeps
  · intro i hi
    exact transient_of_not_stops (not_stops_of_lt hk hi)

end Policy

/-! ## The delivery -/

/-- What a delivery does whose publish came to `outcome`, when the update of the database
succeeds or not. -/
structure DeliversOnce {Output : Type} (outcome : Except SnsError Output) (updated : Bool)
    (cache : State) (metrics : SnsMetrics) (device : UserDevice) (d : Delivered) : Prop where
  /-- Exactly one of the two counters goes up, and no other one changes. -/
  counted :
    ((∃ output, outcome = .ok output) ∧
      d.metrics = { metrics with published := metrics.published + 1 }) ∨
    ((∃ e, outcome = .error e) ∧ d.metrics = { metrics with failed := metrics.failed + 1 })
  marked_iff : d.marked = true ↔ ∃ detail, outcome = .error (.invalidEndpoint detail)
  deactivated_iff : d.deactivated = true ↔
    (∃ detail, outcome = .error (.invalidEndpoint detail)) ∧ updated = true
  cache_eq : d.cache = if d.deactivated then (cache.deactivateDevice device.id).1 else cache

section Delivery

variable {SdkErr Output Json Time : Type} (classify : SdkErr → SnsError) (client : SnsClient)
  (payload : AlertEvent Json Time → String) (markDeviceInactive : DeviceId → Bool)
  (send : ℕ → Except SdkErr Output) (cache : State) (metrics : SnsMetrics)
  (device : UserDevice) (event : AlertEvent Json Time)

/-- The delivery goes by the answer of its publish. -/
theorem deliversOnce :
    DeliversOnce
      (publishToEndpoint classify client device.endpointArn (payload event) send).result
      (markDeviceInactive device.id) cache metrics device
      (processSnsDeliveryAlone classify client payload markDeviceInactive send cache metrics
        device event) := by
  unfold processSnsDeliveryAlone
  dsimp only
  cases (publishToEndpoint classify client device.endpointArn (payload event) send).result with
  | ok output => exact ⟨Or.inl ⟨⟨output, rfl⟩, rfl⟩, by simp, by simp, rfl⟩
  | error e =>
    cases e with
    | invalidEndpoint detail =>
      dsimp only
      cases hupdated : markDeviceInactive device.id with
      | true => exact ⟨Or.inr ⟨⟨_, rfl⟩, rfl⟩, by simp, by simp, rfl⟩
      | false => exact ⟨Or.inr ⟨⟨_, rfl⟩, rfl⟩, by simp, by simp, rfl⟩
    | _ => exact ⟨Or.inr ⟨⟨_, rfl⟩, rfl⟩, by simp, by simp, rfl⟩

end Delivery

/-- The actions that a delivery is in the service, when its publish comes to `outcome` and the
update of the database succeeds or not. -/
def deliveryActions {Payload Json Time : Type} (i : ℕ) (device : UserDevice)
    (outcome : Except SnsError Unit) (updated : Bool) : List (PushAction Payload Json Time) :=
  .deliver i outcome ::
    match outcome with
    | .error (.invalidEndpoint _) =>
      .markInactive device updated :: if updated then [.deactivate device] else []
    | _ => []

/-- **The steps of the service carry the delivery out**: run one after the other, they leave
the counters and the cache that the whole delivery leaves. -/
theorem exec_deliveryActions {SdkErr Output Payload Json Time : Type}
    (env : PushEnv Payload Json) (classify : SdkErr → SnsError) (client : SnsClient)
    (payload : AlertEvent Json Time → String) (markDeviceInactive : DeviceId → Bool)
    (send : ℕ → Except SdkErr Output) {s : PushState Json Time} {i : ℕ} {device : UserDevice}
    {event : AlertEvent Json Time} (hi : s.queued[i]? = some (device, event)) :
    ∃ s', Runs.exec (pushStep env) s (deliveryActions i device
        ((publishToEndpoint classify client device.endpointArn (payload event) send).result.map
          fun _ => ()) (markDeviceInactive device.id)) = some s' ∧
      s'.metrics = (processSnsDeliveryAlone classify client payload markDeviceInactive send
        s.cache s.metrics device event).metrics ∧
      s'.cache = (processSnsDeliveryAlone classify client payload markDeviceInactive send
        s.cache s.metrics device event).cache := by
  unfold processSnsDeliveryAlone deliveryActions
  dsimp only
  cases (publishToEndpoint classify client device.endpointArn (payload event) send).result with
  | ok output => simp [Except.map, Runs.exec, pushStep, processSnsDelivery, hi,
      SnsMetrics.incPublished]
  | error e =>
    cases e with
    | invalidEndpoint detail =>
      cases markDeviceInactive device.id <;>
        simp [Except.map, Runs.exec, pushStep, processSnsDelivery, hi, SnsMetrics.incFailed]
    | _ => simp [Except.map, Runs.exec, pushStep, processSnsDelivery, hi, SnsMetrics.incFailed]

/-- **The publish retry loop does what its policy says**, for every retry limit and every
sequence of answers, and the delivery goes by the answer that stops it: one of the two
counters goes up by one, and the device is deactivated exactly when that answer is
`InvalidEndpoint` and the update of the database succeeds.
SRC: sns/client.rs:32-79, sns/models.rs:152-157, main.rs:252-299 -/
theorem publish_policy {SdkErr Output Json Time : Type} (classify : SdkErr → SnsError)
    (client : SnsClient) (send : ℕ → Except SdkErr Output) :
    ∃ k, IsLeast {i | Stops client.maxRetries (attempt classify send) i} k ∧
      (∀ endpointArn message, FollowsPolicy (attempt classify send) endpointArn message k
        (publishToEndpoint classify client endpointArn message send)) ∧
      ∀ (payload : AlertEvent Json Time → String) markDeviceInactive cache metrics device event,
        DeliversOnce (attempt classify send k) (markDeviceInactive device.id) cache metrics
          device (processSnsDeliveryAlone classify client payload markDeviceInactive send cache
            metrics device event) := by
  obtain ⟨k, hk, hlast⟩ := exists_isLeast_stop client.maxRetries (attempt classify send)
  refine ⟨k, hk, fun endpointArn message => followsPolicy endpointArn message hk hlast, ?_⟩
  intro payload markDeviceInactive cache metrics device event
  have honce := deliversOnce classify client payload markDeviceInactive send cache metrics device
    event
  rwa [(followsPolicy _ _ hk hlast).result_eq] at honce

/-! ## The delays -/

/-- Whatever the sends of a call come to, each of its delays is the doubling of 100 ms that is
due, and doubling it once more does not overflow. -/
def BackoffExact (client : SnsClient) : Prop :=
  ∀ (SdkErr Output : Type) (classify : SdkErr → SnsError) (send : ℕ → Except SdkErr Output)
    (endpointArn message : String) (i : ℕ) (delay : UInt64),
    (sleeps (publishToEndpoint classify client endpointArn message send).events)[i]? =
        some delay →
      delay.toNat = 100 * 2 ^ i ∧ delay.toNat * 2 < 2 ^ 64

/-- The same for the client of an accepted environment. -/
def BackoffExactFor (env : Environment) : Prop :=
  ∀ config, fromEnv env = .ok config → BackoffExact (SnsClient.new config)

/-- The sleeps are the delays of the backoff, in 64 bits. -/
theorem getElem?_sleeps (endpointArn message : String) (k i : ℕ) :
    ((sleeps (backoffEvents endpointArn message k 100))[i]?).map UInt64.toNat =
      if i < k then some (Backoff.delay (2 ^ 64) 100 i) else none := by
  have hfirst : (100 : UInt64).toNat = 100 := rfl
  rw [← List.getElem?_map, sleeps_backoffEvents, hfirst, List.getElem?_map]
  split
  · rename_i hi
    rw [List.getElem?_range hi, Option.map_some]
  · rename_i hi
    rw [List.getElem?_eq_none (by simpa using hi), Option.map_none]

/-- With transient failures only, all the retries are used. -/
theorem isLeast_stop_of_transient {Output : Type} (maxRetries : UInt32)
    {outcome : ℕ → Except SnsError Output} {e : SnsError} (he : e.isRetryable = true)
    (h : ∀ i, outcome i = .error e) :
    IsLeast {i | Stops maxRetries outcome i} maxRetries.toNat := by
  refine ⟨Or.inr (Or.inr rfl), ?_⟩
  rintro i (⟨output, hok⟩ | ⟨e', herror, hfinal⟩ | hlast)
  · rw [h i] at hok
    cases hok
  · obtain rfl : e = e' := Except.error.inj ((h i).symm.trans herror)
    rw [he] at hfinal
    cases hfinal
  · exact le_of_eq hlast.symm

/-- The delays of a client are exact up to 57 retries: `100 * 2 ^ 57` fits 64 bits and
`100 * 2 ^ 58` does not. -/
theorem backoffExact_iff (client : SnsClient) :
    BackoffExact client ↔ client.maxRetries.toNat ≤ 57 := by
  have hfirst : 100 < 2 ^ 64 := by omega
  constructor
  · intro hexact
    have hk : IsLeast {i | Stops client.maxRetries
        (attempt id fun _ => (.error .throttled : Except SnsError Unit)) i} _ :=
      isLeast_stop_of_transient client.maxRetries (e := .throttled) rfl fun i => rfl
    have hfits := (Backoff.exact_iff hfirst client.maxRetries.toNat).mp fun i hi => by
      have hdelay := getElem?_sleeps "" "" client.maxRetries.toNat i
      rw [if_pos hi, Option.map_eq_some_iff] at hdelay
      obtain ⟨delay, hslept, hvalue⟩ := hdelay
      rw [← hvalue]
      refine hexact SnsError Unit id (fun _ => .error .throttled) "" "" i delay ?_
      rw [publishToEndpoint_eq "" "" hk le_rfl]
      exact hslept
    by_contra hmany
    have hpow : 2 ^ 58 ≤ 2 ^ client.maxRetries.toNat :=
      Nat.pow_le_pow_right (by omega) (by omega)
    omega
  · intro hfew SdkErr Output classify send endpointArn message i delay hslept
    obtain ⟨k, hk, hlast⟩ := exists_isLeast_stop client.maxRetries (attempt classify send)
    rw [publishToEndpoint_eq endpointArn message hk hlast] at hslept
    have hdelay := getElem?_sleeps endpointArn message k i
    rw [hslept, Option.map_some] at hdelay
    have hpow : 2 ^ k ≤ 2 ^ 57 := Nat.pow_le_pow_right (by omega) (by omega)
    split at hdelay
    · rename_i hi
      rw [Option.some.inj hdelay]
      exact (Backoff.exact_iff hfirst k).mpr (by omega) i hi
    · cases hdelay

/-- **The delays are exact for the accepted retry counts up to 57**, and for no other one:
nothing bounds the count, and from 58 on the doubling of the 64-bit delay overflows.
SRC: sns/client.rs:37-78, config/mod.rs:68-71 -/
theorem backoff_exact_iff {env : Environment} {config : AppConfig}
    (h : fromEnv env = .ok config) :
    BackoffExactFor env ↔ config.snsRetryCount.toNat ≤ 57 := by
  have hclient := backoffExact_iff (SnsClient.new config)
  constructor
  · intro hexact
    exact hclient.mp (hexact config h)
  · intro hfew config' h'
    obtain rfl : config = config' := Except.ok.inj (h.symm.trans h')
    exact hclient.mpr hfew

/-- The default count of three retries. -/
theorem backoff_exact_three : BackoffExactFor (exampleEnv 1024 30 60 3) :=
  (backoff_exact_iff (fromEnv_exampleEnv (by decide))).mpr (by decide)

/-- What SNS answers when it is asked too often. -/
def throttling : SdkError :=
  .service ⟨.other, some "Throttling", some "Rate exceeded", none⟩

/-- With 100 retries, all of them throttled, the delay before retry 62 is nothing. -/
theorem backoff_wraps :
    fromEnv (exampleEnv 1024 30 60 100) = .ok (exampleConfig 1024 30 60 100) ∧
      (sleeps (publishToEndpoint classifySdkError (SnsClient.new (exampleConfig 1024 30 60 100))
        "arn" "{}" fun _ => (.error throttling : Except SdkError Unit)).events)[62]? = some 0 ∧
      ¬ BackoffExactFor (exampleEnv 1024 30 60 100) := by
  have haccepted : fromEnv (exampleEnv 1024 30 60 100) = .ok (exampleConfig 1024 30 60 100) :=
    fromEnv_exampleEnv (by decide)
  have hthrottled : classifySdkError throttling = .throttled := by decide
  have hk : IsLeast {i | Stops (SnsClient.new (exampleConfig 1024 30 60 100)).maxRetries
      (attempt classifySdkError fun _ => (.error throttling : Except SdkError Unit)) i} _ :=
    isLeast_stop_of_transient _ (e := .throttled) rfl fun i => by
      show Except.error (classifySdkError throttling) = _
      rw [hthrottled]
  have hslept : (sleeps (publishToEndpoint classifySdkError
      (SnsClient.new (exampleConfig 1024 30 60 100)) "arn" "{}"
        fun _ => (.error throttling : Except SdkError Unit)).events)[62]? = some 0 := by
    rw [publishToEndpoint_eq "arn" "{}" hk le_rfl]
    have hretries : (SnsClient.new (exampleConfig 1024 30 60 100)).maxRetries.toNat = 100 := rfl
    have hdelay := getElem?_sleeps "arn" "{}" 100 62
    rw [if_pos (by omega), Backoff.delay_eq_mod (by omega), Option.map_eq_some_iff] at hdelay
    obtain ⟨delay, hslept, hvalue⟩ := hdelay
    have hzero : delay = 0 := by
      rw [← UInt64.toNat_inj, hvalue]
      decide
    rw [hretries, hslept, hzero]
  refine ⟨haccepted, hslept, fun hexact => ?_⟩
  have hdelay : (0 : UInt64).toNat = 100 * 2 ^ 62 :=
    (hexact _ haccepted _ _ _ _ _ _ 62 0 hslept).1
  exact absurd hdelay (by decide)

end AlertDistributor.Analysis
