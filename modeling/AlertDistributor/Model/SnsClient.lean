import AlertDistributor.Model.Config
import AlertDistributor.Model.SnsDispatcher
import Mathlib.Data.List.Infix

/-!
# Publishing to an endpoint

The retry loop of `sns/client.rs` and the classification of the errors it goes by.  The
SDK is outside: the `n`-th send of a call comes to `send n`, and a sleep ends.  A call
leaves a trace of its sends and sleeps (`Published`), with the delay as the 64-bit number
that it is; its doubling wraps, as in a release build.
-/

set_option autoImplicit false

namespace AlertDistributor.Model

/-! ## The errors of the SDK -/

/-- The variants of `aws_sdk_sns`'s `PublishError` that the classification tells apart. -/
inductive PublishErrorKind where
  | endpointDisabled
  | notFound
  | invalidParameter
  | platformApplicationDisabled
  | authorizationError
  | invalidSecurity
  | kmsAccessDenied
  | kmsThrottling
  | internalError
  | other
deriving DecidableEq, Repr

/-- An error of the service: its variant, the code and the message of the response's
metadata, and the message of the exception itself. -/
structure PublishError where
  kind : PublishErrorKind
  code : Option String
  message : Option String
  exceptionMessage : Option String
deriving DecidableEq, Repr

/-- `SdkError`: an answer of the service, or anything else with its text. -/
inductive SdkError where
  | service (err : PublishError)
  | other (display : String)
deriving DecidableEq, Repr

/-- `str::contains`. -/
def strContains (s part : List Char) : Bool :=
  decide (part <:+: s)

/-- SRC: sns/client.rs:100-130 -/
def classifyPublishError (err : PublishError) : SnsError :=
  let detail := err.code.getD "?" ++ ": " ++ err.message.getD ""
  let byCode : SnsError :=
    if err.code.any fun c => strContains c.toList "Throttl".toList then .throttled
    else .unknown detail
  match err.kind with
  | .endpointDisabled | .notFound => .invalidEndpoint detail
  | .invalidParameter =>
    if (err.exceptionMessage.or err.message).any fun m =>
        strContains (toAsciiLowercase m) "endpoint".toList then .invalidEndpoint detail
    else byCode
  | .platformApplicationDisabled => .platformDisabled detail
  | .authorizationError | .invalidSecurity | .kmsAccessDenied => .authError detail
  | .kmsThrottling => .throttled
  | .internalError => .networkError detail
  | .other => byCode

/-- SRC: sns/client.rs:88-98 -/
def classifySdkError : SdkError → SnsError
  | .service err => classifyPublishError err
  | .other display => .networkError display

/-! ## The retry loop -/

/-- SRC: sns/client.rs:10-14 -/
structure SnsClient where
  maxRetries : UInt32

/-- SRC: sns/client.rs:17-30 -/
def SnsClient.new (config : AppConfig) : SnsClient :=
  ⟨config.snsRetryCount⟩

/-- What a call of `publish_to_endpoint` does that takes time. -/
inductive PublishEvent where
  | send (targetArn message : String)
  | sleep (delayMs : UInt64)
deriving DecidableEq, Repr

/-- A call that has returned: its sends and sleeps in order, and its answer. -/
structure Published (Output : Type) where
  events : List PublishEvent
  result : Except SnsError Output

section Publish

variable {SdkErr Output : Type} (classify : SdkErr → SnsError) (client : SnsClient)
  (endpointArn message : String)

/-- The comparison of the loop, on numbers. -/
theorem retries_left_iff {retries maxRetries : UInt32} :
    ¬ retries ≥ maxRetries ↔ retries.toNat < maxRetries.toNat := by
  rw [← UInt32.lt_iff_toNat_lt]
  exact UInt32.not_le

/-- One more retry does not overflow the counter. -/
theorem toNat_retries_succ {retries maxRetries : UInt32} (h : ¬ retries ≥ maxRetries) :
    (retries + 1).toNat = retries.toNat + 1 := by
  have hlt : retries.toNat < maxRetries.toNat := retries_left_iff.mp h
  have hbound : maxRetries.toNat < 2 ^ 32 := maxRetries.toNat_lt
  have hone : (1 : UInt32).toNat = 1 := rfl
  rw [UInt32.toNat_add, hone]
  omega

/-- The loop, after `sent` sends: `retries` retries were made and the next delay is
`baseDelayMs`.
SRC: sns/client.rs:40-78 -/
def publishLoop (send : ℕ → Except SdkErr Output) (sent : ℕ) (retries : UInt32)
    (baseDelayMs : UInt64) : Published Output :=
  match send sent with
  | .ok output => ⟨[.send endpointArn message], .ok output⟩
  | .error sdkErr =>
    let snsError := classify sdkErr
    if !snsError.isRetryable ∨ retries ≥ client.maxRetries then
      ⟨[.send endpointArn message], .error snsError⟩
    else
      let rest := publishLoop send (sent + 1) (retries + 1) (baseDelayMs * 2)
      { rest with events := .send endpointArn message :: .sleep baseDelayMs :: rest.events }
termination_by client.maxRetries.toNat - retries.toNat
decreasing_by
  rename_i hgo
  have hmore : ¬ retries ≥ client.maxRetries := fun hge => hgo (Or.inr hge)
  have hlt : retries.toNat < client.maxRetries.toNat := retries_left_iff.mp hmore
  rw [toNat_retries_succ hmore]
  omega

/-- SRC: sns/client.rs:32-79 -/
def publishToEndpoint (send : ℕ → Except SdkErr Output) : Published Output :=
  publishLoop classify client endpointArn message send 0 0 100

end Publish

/-! ## A delivery that nothing else interrupts -/

/-- A delivery that has returned: what its publish did, the counters, the cache, and whether
`mark_device_inactive` and `deactivate_device` were called. -/
structure Delivered where
  events : List PublishEvent
  metrics : SnsMetrics
  cache : State
  marked : Bool
  deactivated : Bool

/-- The whole of `process_sns_delivery`: `payload` is the JSON text of the event's message,
and `markDeviceInactive` tells whether the update of the database succeeds.
SRC: main.rs:231-300 -/
def processSnsDeliveryAlone {SdkErr Output Json Time : Type} (classify : SdkErr → SnsError)
    (client : SnsClient) (payload : AlertEvent Json Time → String)
    (markDeviceInactive : DeviceId → Bool) (send : ℕ → Except SdkErr Output) (cache : State)
    (metrics : SnsMetrics) (device : UserDevice) (event : AlertEvent Json Time) : Delivered :=
  let published := publishToEndpoint classify client device.endpointArn (payload event) send
  match published.result with
  | .ok _ => ⟨published.events, metrics.incPublished, cache, false, false⟩
  | .error (.invalidEndpoint _) =>
    if markDeviceInactive device.id then
      ⟨published.events, metrics.incFailed, (cache.deactivateDevice device.id).1, true, true⟩
    else ⟨published.events, metrics.incFailed, cache, true, false⟩
  | .error _ => ⟨published.events, metrics.incFailed, cache, false, false⟩

end AlertDistributor.Model
