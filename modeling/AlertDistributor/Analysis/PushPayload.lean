import AlertDistributor.Analysis.EndpointArn
import AlertDistributor.Analysis.Publish
import AlertDistributor.Analysis.PushTargets
import AlertDistributor.Model.SnsMessage

/-!
# What a phone shows

The payload of a push is JSON in JSON: an object with one entry for each kind of endpoint,
whose value is itself the text of an object.  Read back twice, the entry for the endpoint of
any device that is pushed to shows the title and the body of the alert, whatever characters
they hold (`payload_shows_alert`).
-/

set_option autoImplicit false

namespace AlertDistributor.Analysis

open AlertDistributor.Model AlertDistributor.Interface AlertDistributor.System JsonText

/-! ## What is read back -/

/-- The message of a payload for one kind of endpoint: SNS takes the text under the name of
the kind, and the platform reads it. -/
def platformMessage (codec : JsonCodec) (payload kind : String) : Option Value :=
  (((codec.fromStr payload).bind fun v => v.get kind).bind Value.asString).bind codec.fromStr

/-- Where a message of some kind holds what is shown: under GCM once for Android and once for
an iPhone behind it. -/
def alertPaths : EndpointChannel → List (List String)
  | .gcm => [["fcmV1Message", "message", "notification"],
      ["fcmV1Message", "message", "apns", "payload", "aps", "alert"]]
  | .apns | .apnsSandbox => [["aps", "alert"]]
  | .unknown => []

/-- A message shows a title and a body wherever its platform looks. -/
def Shows (channel : EndpointChannel) (v : Value) (title body : String) : Prop :=
  ∀ keys ∈ alertPaths channel, v.path (keys ++ ["title"]) = some (.string title) ∧
    v.path (keys ++ ["body"]) = some (.string body)

section Payload

variable (codec : JsonCodec) (message : SnsMessage)

/-- The payload for APNS is canonical. -/
theorem canonical_apnsPayload : message.apnsPayload.Canonical := by
  unfold SnsMessage.apnsPayload
  repeat' first
    | exact .string _
    | exact .number _
    | apply Value.canonical_ofFields
    | refine List.forall_mem_cons.mpr ⟨?_, ?_⟩
    | exact List.forall_mem_nil _

/-- And so is the one for GCM. -/
theorem canonical_gcmPayload : message.gcmPayload.Canonical := by
  unfold SnsMessage.gcmPayload
  repeat' first
    | exact .string _
    | exact .number _
    | apply Value.canonical_ofFields
    | refine List.forall_mem_cons.mpr ⟨?_, ?_⟩
    | exact List.forall_mem_nil _

/-- And the one that has them all. -/
theorem canonical_snsPayload : (message.snsPayload codec).Canonical := by
  simp [SnsMessage.snsPayload, Value.canonical_ofFields, Value.Canonical.string]

/-- An entry of the payload is read back as the text that was put there. -/
theorem platformMessage_eq {kind text : String}
    (h : (message.snsPayload codec).get kind = some (.string text)) :
    platformMessage codec (message.toJsonPayload codec) kind = codec.fromStr text := by
  unfold platformMessage SnsMessage.toJsonPayload
  rw [codec.fromStr_toString _ (canonical_snsPayload codec message), Option.bind_some, h]
  rfl

/-- The payload for APNS shows the title and the body in its alert. -/
theorem shows_apnsPayload {channel : EndpointChannel}
    (h : channel = .apns ∨ channel = .apnsSandbox) :
    Shows channel message.apnsPayload message.title message.body := by
  intro keys hkeys
  obtain rfl | rfl := h
  · obtain rfl := List.mem_singleton.mp hkeys
    simp [SnsMessage.apnsPayload, Value.path, Value.get_ofFields, lookup_cons_ite]
  · obtain rfl := List.mem_singleton.mp hkeys
    simp [SnsMessage.apnsPayload, Value.path, Value.get_ofFields, lookup_cons_ite]

/-- That for GCM shows them in the notification and in the nested override. -/
theorem shows_gcmPayload : Shows .gcm message.gcmPayload message.title message.body := by
  intro keys hkeys
  obtain rfl | hkeys := List.mem_cons.mp hkeys
  · simp [SnsMessage.gcmPayload, Value.path, Value.get_ofFields, lookup_cons_ite]
  · obtain rfl := List.mem_singleton.mp hkeys
    simp [SnsMessage.gcmPayload, Value.path, Value.get_ofFields, lookup_cons_ite]

/-- **The payload shows its message under every known kind.** -/
theorem toJsonPayload_shows {channel : EndpointChannel} {kind : String}
    (hkind : kind? channel = some kind) :
    ∃ v, platformMessage codec (message.toJsonPayload codec) kind = some v ∧
      Shows channel v message.title message.body := by
  have hapns := codec.fromStr_toString _ (canonical_apnsPayload message)
  have hgcm := codec.fromStr_toString _ (canonical_gcmPayload message)
  cases channel with
  | gcm =>
    obtain rfl := Option.some.inj hkind
    refine ⟨message.gcmPayload, ?_, shows_gcmPayload message⟩
    rw [platformMessage_eq codec message, hgcm]
    simp [SnsMessage.snsPayload, Value.get_ofFields]
  | apns =>
    obtain rfl := Option.some.inj hkind
    refine ⟨message.apnsPayload, ?_, shows_apnsPayload message (Or.inl rfl)⟩
    rw [platformMessage_eq codec message, hapns]
    simp [SnsMessage.snsPayload, Value.get_ofFields, lookup_cons_ite]
  | apnsSandbox =>
    obtain rfl := Option.some.inj hkind
    refine ⟨message.apnsPayload, ?_, shows_apnsPayload message (Or.inr rfl)⟩
    rw [platformMessage_eq codec message, hapns]
    simp [SnsMessage.snsPayload, Value.get_ofFields, lookup_cons_ite]
  | unknown => cases hkind

end Payload

/-! ## What is queued -/

section Queue

variable {Payload Json Time : Type} {env : PushEnv Payload Json}

/-- A target has an endpoint of a known kind. -/
theorem exists_kind_of_isTarget {d : UserDevice} (h : d.isTarget = true) :
    ∃ kind, kind? d.endpointChannel = some kind := by
  have hsupported : d.endpointIsSupportedForPlatform = true := by
    unfold UserDevice.isTarget at h
    split at h
    · cases h
    · split at h
      · cases h
      · exact h
  cases hchannel : d.endpointChannel with
  | gcm => exact ⟨_, rfl⟩
  | apns => exact ⟨_, rfl⟩
  | apnsSandbox => exact ⟨_, rfl⟩
  | unknown =>
    -- the platform's name plays no part
    unfold UserDevice.endpointIsSupportedForPlatform at hsupported
    rw [hchannel] at hsupported
    split at hsupported
    · exact absurd hsupported (by decide)
    · split at hsupported
      · exact absurd hsupported (by decide)
      · cases hsupported

/-- Only targets are selected and queued. -/
structure OnlyTargets (s : PushState Json Time) : Prop where
  queued : ∀ p ∈ s.queued, p.1.isTarget = true
  selected : ∀ d, s.dispatch = some d → ∀ device ∈ d.snsTargets, device.isTarget = true

/-- Nothing is collected or queued at the start. -/
theorem onlyTargets_init (views : Views) :
    OnlyTargets (PushState.init views : PushState Json Time) where
  queued := by intro p hp; cases hp
  selected := by intro d hd; cases hd

/-- Every step collects and queues targets only. -/
theorem onlyTargets_pushStep {s s' : PushState Json Time} (h : OnlyTargets s)
    {a : PushAction Payload Json Time} (hstep : pushStep env s a = some s') :
    OnlyTargets s' := by
  cases a with
  | controlEvent payload =>
    obtain rfl := Option.some.inj hstep
    exact ⟨h.queued, h.selected⟩
  | dispatchEvent event =>
    rw [dispatchEvent_cases hstep]
    refine ⟨h.queued, fun d hd device hdevice => ?_⟩
    obtain ⟨U, -, rfl⟩ := Option.map_eq_some_iff.mp hd
    cases hdevice
  | readDevices =>
    obtain ⟨dispatch, p, rest, metrics, hdispatch, -, rfl⟩ := readDevices_cases hstep
    refine ⟨h.queued, fun d hd device hdevice => ?_⟩
    obtain rfl := Option.some.inj hd
    obtain hold | hnew := List.mem_append.mp hdevice
    · exact h.selected dispatch hdispatch device hold
    · exact (List.mem_filter.mp hnew).2
  | sendAlert =>
    obtain ⟨event, targets, metrics, hdispatch, rfl⟩ := sendAlert_cases hstep
    refine ⟨fun p hp => ?_, fun d hd => ?_⟩
    · obtain hold | hnew := List.mem_append.mp hp
      · exact h.queued p hold
      · obtain ⟨device, hdevice, rfl⟩ := List.mem_map.mp hnew
        exact h.selected _ hdispatch device hdevice
    · cases hd
  | deliver i outcome =>
    obtain ⟨_, _, -, -, hdispatch, hqueued, -⟩ := processSnsDelivery_cases hstep
    refine ⟨fun p hp => ?_, fun d hd => ?_⟩
    · rw [hqueued] at hp
      exact h.queued p (List.mem_of_mem_eraseIdx hp)
    · rw [hdispatch] at hd
      exact h.selected d hd
  | markInactive device ok =>
    obtain ⟨-, rfl⟩ := markRejected_cases hstep
    exact ⟨h.queued, h.selected⟩
  | deactivate device =>
    obtain ⟨-, rfl⟩ := removeMarked_cases hstep
    exact ⟨h.queued, h.selected⟩

/-- **Whatever is delivered shows its alert.**  In every run, the delivery of a queued pair
publishes one payload to the endpoint of the device, at each attempt the same; under the kind
of that endpoint the payload has a message, and the message shows the title and the body of
the alert wherever the platform looks for them.
SRC: sns/models.rs:24-136, models/alert_event.rs:21-73, main.rs:241-250 -/
theorem payload_shows_alert (codec : JsonCodec) (toLowercase : String → String)
    (env : PushEnv Payload Json) (views : Views) (actions : List (PushAction Payload Json Time))
    (s : PushState Json Time) (hrun : pushRun env views actions = some s) (device : UserDevice)
    (event : AlertEvent Json Time) (hqueued : (device, event) ∈ s.queued) :
    (∃ kind v, kind? device.endpointChannel = some kind ∧
      platformMessage codec (payloadOf codec toLowercase event) kind = some v ∧
        Shows device.endpointChannel v (event.snsNotificationTitle toLowercase)
          event.notificationBody) ∧
    ∀ (SdkErr Output : Type) (classify : SdkErr → SnsError) (client : SnsClient)
      (markDeviceInactive : DeviceId → Bool) (send : ℕ → Except SdkErr Output),
      ∃ k, sends (processSnsDeliveryAlone classify client (payloadOf codec toLowercase)
        markDeviceInactive send s.cache s.metrics device event).events =
          List.replicate (k + 1) (device.endpointArn, payloadOf codec toLowercase event) := by
  have h : OnlyTargets s := Runs.invariant_of_step (onlyTargets_init views)
    (fun _ _ _ h hstep => onlyTargets_pushStep h hstep) hrun
  constructor
  · obtain ⟨kind, hkind⟩ := exists_kind_of_isTarget (h.queued _ hqueued)
    obtain ⟨v, hv, hshows⟩ := toJsonPayload_shows codec
      (SnsMessage.new (event.snsNotificationTitle toLowercase) event.notificationBody) hkind
    exact ⟨kind, v, hkind, hv, hshows⟩
  · intro SdkErr Output classify client markDeviceInactive send
    obtain ⟨k, hk, hlast⟩ := exists_isLeast_stop client.maxRetries (attempt classify send)
    have hsends := (followsPolicy device.endpointArn (payloadOf codec toLowercase event) hk
      hlast).sends_eq
    refine ⟨k, ?_⟩
    rw [← hsends]
    unfold processSnsDeliveryAlone
    dsimp only
    split
    · rfl
    · split <;> rfl
    · rfl

end Queue

/-! ## The phone of the sample -/

/-- The codec of the library. -/
def textCodec : JsonCodec where
  toString v := String.ofList (print v)
  fromStr := parse
  fromStr_toString _ := parse_print

/-- The phone of the sample run is shown its alert. -/
theorem payload_shows_alert_phone :
    ∃ s, pushRun phoneEnv noViews (handedRun ++ [.sendAlert]) = some s ∧
      (phone "e/APNS/x", phoneAlert) ∈ s.queued ∧
      ∃ v, platformMessage textCodec (payloadOf textCodec String.toLower phoneAlert) "APNS" = some v ∧
        Shows .apns v (phoneAlert.snsNotificationTitle String.toLower) phoneAlert.notificationBody := by
  obtain ⟨s, hs, hdone⟩ := pushRun_handedRun
  obtain ⟨t, ht, hqueued⟩ : ∃ t, pushStep phoneEnv s .sendAlert = some t ∧
      (phone "e/APNS/x", phoneAlert) ∈ t.queued := by
    simp only [pushStep, sendAlert, hdone]
    exact ⟨_, rfl, List.mem_append_right _ (List.mem_cons_self)⟩
  have hrun : pushRun phoneEnv noViews (handedRun ++ [.sendAlert]) = some t :=
    Runs.exec_concat_eq_some.mpr ⟨s, hs, ht⟩
  have hchannel : (phone "e/APNS/x").endpointChannel = .apns := by decide
  obtain ⟨⟨kind, v, hkind, hv, hshows⟩, -⟩ := payload_shows_alert textCodec String.toLower phoneEnv noViews _
    t hrun _ _ hqueued
  rw [hchannel] at hkind hshows
  obtain rfl := Option.some.inj hkind
  exact ⟨t, hrun, hqueued, v, hv, hshows⟩

end AlertDistributor.Analysis
