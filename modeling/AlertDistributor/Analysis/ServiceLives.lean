import AlertDistributor.Analysis.Accounting
import AlertDistributor.Analysis.Commits
import AlertDistributor.Analysis.Delivery
import AlertDistributor.Analysis.ServiceSteps

/-!
# What the service did with an alert

Seen from the broker, a run of the service is a run of the consumer of alerts, so a committed
offset is covered: both calls of every alert below it have returned.  What a call did is
found in the life of the process it was made in.  `Kept` says what is known of a life and its
memory, `InHand` ties the two calls under way to the alert in the `join!`.
-/

set_option autoImplicit false

namespace AlertDistributor.Analysis

open AlertDistributor.Model AlertDistributor.Interface AlertDistributor.System

variable {Partition Payload Json Time : Type} {env : ServiceEnv Payload Json Time}

/-! ## The service as the broker sees it -/

section Broker

variable {l : ServiceLedger Partition Json Time} {s s' : Service Partition Payload Json Time}

/-- The calls of a life that a crash ends are kept. -/
theorem dispatches_crash :
    (l.note env s .crash).dispatches = l.dispatches := by
  simp [ServiceLedger.note, ServiceLedger.dispatches, Life.empty]

variable [DecidableEq Partition]

/-- Each action of the service is one of the consumer or leaves it alone. -/
theorem kafka_serviceStep {a : ServiceAction Partition Payload Json Time}
    (hstep : serviceStep env s a = some s') :
    (kafkaAction? a = none ∧ s'.kafka = s.kafka ∧
        (l.note env s a).dispatches = l.dispatches) ∨
      ∃ b, kafkaAction? a = some b ∧
        kafkaStep AlertsConsumer.config env.fromSlice s.kafka b = some s'.kafka ∧
          (l.note env s a).dispatches = l.dispatches.note s.kafka b := by
  cases a with
  | kafka a =>
    obtain ⟨hfree, kafka, hkafka, rfl⟩ := kafka_cases hstep
    refine .inr ⟨a, rfl, hkafka, ?_⟩
    cases a with
    | wsReturns | snsReturns | commitMessage | crash | restart => cases hfree
    | produce | receive | receiveError | autoCommit | committed | commitLost => rfl
  | ws a =>
    obtain ⟨-, -, ws, -, rfl⟩ := ws_cases hstep
    exact .inl ⟨rfl, rfl, rfl⟩
  | sns a =>
    obtain ⟨-, -, sns, -, rfl⟩ := sns_cases hstep
    exact .inl ⟨rfl, rfl, rfl⟩
  | callWs =>
    obtain ⟨partition, message, event, sns, ws, hconsumer, -, -, rfl⟩ := callWs_cases hstep
    refine .inl ⟨rfl, rfl, ?_⟩
    simp only [ServiceLedger.note, Life.note, hconsumer, ServiceLedger.dispatches]
  | wsReturns =>
    obtain ⟨partition, message, event, sns, ws, hconsumer, -, -, hkafka, -⟩ :=
      wsReturns_cases hstep
    refine .inr ⟨.wsReturns, rfl, hkafka, ?_⟩
    simp only [ServiceLedger.note, Life.note, hconsumer, ServiceLedger.dispatches,
      DispatchLedger.note, List.map_append, List.append_assoc, List.map_singleton, Handled.key]
  | callSns =>
    obtain ⟨partition, message, event, ws, hconsumer, -, rfl⟩ := callSns_cases hstep
    refine .inl ⟨rfl, rfl, ?_⟩
    simp only [ServiceLedger.note, Life.note, hconsumer, ServiceLedger.dispatches]
  | readDevices =>
    obtain ⟨event, person, rest, targets, metrics, -, -, rfl⟩ :=
      serviceReadDevices_cases hstep
    exact .inl ⟨rfl, rfl, rfl⟩
  | sendAlert =>
    obtain ⟨event, targets, -, ⟨-, rfl⟩ | ⟨-, rfl⟩⟩ := serviceSendAlert_cases hstep
    · exact .inl ⟨rfl, rfl, rfl⟩
    · exact .inl ⟨rfl, rfl, rfl⟩
  | snsReturns =>
    obtain ⟨partition, message, event, ws, hconsumer, -, -, hkafka, -⟩ := snsReturns_cases hstep
    refine .inr ⟨.snsReturns, rfl, hkafka, ?_⟩
    simp only [ServiceLedger.note, Life.note, hconsumer, ServiceLedger.dispatches,
      DispatchLedger.note, List.map_append, List.append_assoc, List.map_singleton, Handled.key]
  | cleanedUp i ok =>
    obtain ⟨size, pending, cleaning, cache, -, -, rfl⟩ := serviceCleanedUp_cases hstep
    exact .inl ⟨rfl, rfl, rfl⟩
  | commitMessage ok =>
    obtain ⟨partition, message, event, -, hkafka, -⟩ := commitMessage_cases hstep
    exact .inr ⟨.commitMessage ok, rfl, hkafka, rfl⟩
  | crash =>
    obtain ⟨hkafka, -⟩ := serviceCrash_cases hstep
    exact .inr ⟨.crash, rfl, hkafka, dispatches_crash⟩
  | restart views =>
    obtain ⟨-, hkafka, -⟩ := serviceRestart_cases hstep
    exact .inr ⟨.restart, rfl, hkafka, rfl⟩

/-- **Seen from the broker the service is the consumer of alerts**, with the same ledger. -/
theorem dispatchLedgerRun_of_serviceLedgerRun
    {actions : List (ServiceAction Partition Payload Json Time)}
    (hrun : serviceLedgerRun env actions = some (l, s)) :
    dispatchLedgerRun AlertsConsumer.config env.fromSlice (actions.filterMap kafkaAction?) =
      some (l.dispatches, s.kafka) := by
  refine Runs.exec_project
    (Runs.observed (kafkaStep AlertsConsumer.config env.fromSlice) DispatchLedger.note)
    (fun p : ServiceLedger Partition Json Time × Service Partition Payload Json Time =>
      (p.1.dispatches, p.2.kafka)) kafkaAction? ?_ hrun
  rintro ⟨l, s⟩ a ⟨l', s'⟩ hobserved
  obtain ⟨hstep, hl⟩ := Runs.observed_eq_some.mp hobserved
  obtain rfl : l' = l.note env s a := hl
  obtain ⟨hnone, hkafka, hnote⟩ | ⟨b, hb, hkafka, hnote⟩ := kafka_serviceStep (l := l) hstep
  · exact .inl ⟨hnone, Prod.ext hnote hkafka⟩
  · exact .inr ⟨b, hb, Runs.observed_eq_some.mpr ⟨hkafka, hnote⟩⟩

end Broker

/-! ## A life of the process -/

section Lives

variable (env) (l : Life Partition Json Time)

/-- A call of the WebSocket dispatcher that has returned: the alert has no unit, or the call
is one of the dispatches of this life. -/
structure WsHandled (h : Handled Partition Json Time (DispatchRecord Json Time)) : Prop where
  skipped : h.record = none → env.ws.parseUuid h.event.unitId = none
  served : ∀ r, h.record = some r → env.ws.parseUuid h.event.unitId = some r.unitId ∧
    r.message = .ofEvent h.event ∧ r ∈ l.deliveries.finished

/-- A call of the dispatcher of pushes that has returned: the alert has no unit, or everyone
who sees the unit was read and every device that can be reached was put on the channel. -/
structure SnsHandled (h : Handled Partition Json Time (PushRecord Json Time)) : Prop where
  skipped : h.record = none → env.ws.parseUuid h.event.unitId = none
  served : ∀ r, h.record = some r → env.ws.parseUuid h.event.unitId = some r.unitId ∧
    r.event = h.event ∧ r.reads.length = r.people.length ∧
      (env.snsEnabled = true → r.pushes <:+: l.pushes.sent)

/-- What is known of a life and the memory of its process. -/
structure Kept (p : Process Json Time) : Prop where
  registry : RegistryExact p.ws
  recorded : Recorded env.ws (l.deliveries, p.ws)
  booked : Booked (l.pushes, p.sns)
  ws : ∀ h ∈ l.ws, WsHandled env l h
  sns : ∀ h ∈ l.sns, SnsHandled env l h

/-- The call of the WebSocket dispatcher, for an alert in the `join!`. -/
structure WsInHand (p : Process Json Time) (event : AlertEvent Json Time) (returned : Bool) :
    Prop where
  idle : returned = true ∨ p.wsCalled = false → p.ws.dispatch = none
  skipped : returned = false → p.wsCalled = true → p.ws.dispatch = none →
    env.ws.parseUuid event.unitId = none
  running : ∀ d, p.ws.dispatch = some d →
    env.ws.parseUuid event.unitId = some d.unitId ∧ d.message = .ofEvent event

/-- The devices of the first people were read. -/
structure Reading (event : AlertEvent Json Time) (r : PushRecord Json Time)
    (d : PushDispatch Json Time) : Prop where
  unitId : env.ws.parseUuid event.unitId = some r.unitId
  recorded : r.event = event
  event : d.event = event
  users : d.users = r.people.drop r.reads.length
  reads : r.reads.length ≤ r.people.length
  targets : d.snsTargets = r.targets

/-- The devices of everyone were read, and the first targets were put on the channel. -/
structure Sending (pushed : List (Push Json Time)) (sends : List (SendAlert Json Time))
    (event : AlertEvent Json Time) (r : PushRecord Json Time) : Prop where
  unitId : env.ws.parseUuid event.unitId = some r.unitId
  recorded : r.event = event
  reads : r.reads.length = r.people.length
  disabled : env.snsEnabled = false → sends = []
  enabled : env.snsEnabled = true → ∃ before sent rest,
    pushed = before ++ sent.map (fun device => (device, event)) ∧
      r.targets = sent ++ rest ∧
        (sends = [] ∧ rest = [] ∨ ∃ uncounted, sends = [⟨event, rest, uncounted⟩])

/-- The call of the dispatcher of pushes, for an alert in the `join!`. -/
def SnsInHand (p : Process Json Time) (event : AlertEvent Json Time) (returned : Bool) :
    Prop :=
  match p.push with
  | .waiting => returned = false ∧ l.call = none ∧ p.sns.sends = []
  | .reading d =>
    returned = false ∧ p.sns.sends = [] ∧ ∃ r, l.call = some r ∧ Reading env event r d
  | .sending =>
    (l.call = none ∧ p.sns.sends = [] ∧
        (returned = false → env.ws.parseUuid event.unitId = none)) ∨
      returned = false ∧ ∃ r, l.call = some r ∧
        Sending env l.pushes.sent p.sns.sends event r

/-- No call is under way. -/
structure NoCall (p : Process Json Time) : Prop where
  wsCalled : p.wsCalled = false
  dispatch : p.ws.dispatch = none
  push : p.push = .waiting
  sends : p.sns.sends = []
  call : l.call = none

/-- The calls under way are those of the alert in hand. -/
def CallsInHand (p : Process Json Time) : Consumer Partition Payload Json Time → Prop
  | .down => l = Life.empty ∧ p = Process.gone
  | .polling => NoCall l p
  | .dispatching _ _ event ws sns => WsInHand env p event ws ∧ SnsInHand env l p event sns

end Lives

/-- All lives are kept, and the calls of the present one are tied to the alert in hand. -/
structure Lived (env : ServiceEnv Payload Json Time) (l : ServiceLedger Partition Json Time)
    (s : Service Partition Payload Json Time) : Prop where
  past : ∀ life ∈ l.past, Kept env life.1 life.2
  current : Kept env l.current s.process
  calls : CallsInHand env l.current s.process s.kafka.consumer

section Rules

variable {l l' : Life Partition Json Time} {p : Process Json Time}

/-- A finished dispatch stays finished. -/
theorem WsHandled.mono {h : Handled Partition Json Time (DispatchRecord Json Time)}
    (hhandled : WsHandled env l h)
    (hgrown : l.deliveries.finished ⊆ l'.deliveries.finished) : WsHandled env l' h where
  skipped := hhandled.skipped
  served := by
    intro r hr
    obtain ⟨hunit, hmessage, hmem⟩ := hhandled.served r hr
    exact ⟨hunit, hmessage, hgrown hmem⟩

/-- What was sent stays sent. -/
theorem SnsHandled.mono {h : Handled Partition Json Time (PushRecord Json Time)}
    (hhandled : SnsHandled env l h) (hgrown : l.pushes.sent <+: l'.pushes.sent) :
    SnsHandled env l' h where
  skipped := hhandled.skipped
  served := by
    intro r hr
    obtain ⟨hunit, hevent, hreads, hsent⟩ := hhandled.served r hr
    exact ⟨hunit, hevent, hreads, fun henabled => (hsent henabled).trans hgrown.isInfix⟩

/-- Whatever is noted, the finished dispatches stay. -/
theorem finished_subset_note (d : Ledger Json Time) (ws : WsState Json Time)
    (a : WsAction Payload Json Time) : d.finished ⊆ (d.note env.ws ws a).finished := by
  intro r hr
  cases a with
  | dispatchDone => exact List.mem_append_left _ hr
  | dispatchEvent | trySend | removeClosed | receive =>
    simp only [Ledger.note]
    repeat' split
    all_goals exact hr
  | controlEvent | handshake | openSocket | leave | dropReceiver => exact hr

/-- And so do the pushes that were sent. -/
theorem sent_prefix_note (d : PushLedger Json Time) (sns : SnsState Json Time)
    (a : SnsAction Json Time) : d.sent <+: (d.note sns a).sent := by
  cases a with
  | send i =>
    simp only [PushLedger.note]
    split
    · exact List.prefix_append _ _
    · exact List.prefix_refl _
  | recv | deliver | swap =>
    simp only [PushLedger.note]
    repeat' split
    all_goals exact List.prefix_refl _
  | incResolved | sendAlert | incEnqueued | sendAlertDone | addLagged | deadline | cleanedUp |
      batchDone | tick => exact List.prefix_refl _

/-- The steps of the WebSocket side keep the life. -/
theorem kept_ws (h : Kept env l p) {a : WsAction Payload Json Time} {ws : WsState Json Time}
    (hstep : wsStep env.ws p.ws a = some ws) :
    Kept env { l with deliveries := l.deliveries.note env.ws p.ws a } { p with ws := ws } where
  registry := registryExact_wsStep h.registry hstep
  recorded := recorded_wsStep h.recorded h.registry hstep
  booked := h.booked
  ws := fun handled hmem => (h.ws handled hmem).mono (finished_subset_note _ _ a)
  sns := fun handled hmem => (h.sns handled hmem).mono (List.prefix_refl _)

/-- So do those of the pushes. -/
theorem kept_sns (h : Kept env l p) {a : SnsAction Json Time} {sns : SnsState Json Time}
    (hstep : snsStep p.sns a = some sns) :
    Kept env { l with pushes := l.pushes.note p.sns a } { p with sns := sns } where
  registry := h.registry
  recorded := h.recorded
  booked := ⟨balanced_snsStep h.booked.1 hstep, batched_snsStep h.booked.2 hstep⟩
  ws := fun handled hmem => (h.ws handled hmem).mono (List.Subset.refl _)
  sns := fun handled hmem => (h.sns handled hmem).mono (sent_prefix_note _ _ a)

/-- The stages of the calls are not looked at. -/
theorem Kept.stage (h : Kept env l p) (call : Option (PushRecord Json Time)) (wsCalled : Bool)
    (push : PushCall Json Time) :
    Kept env { l with call := call } { p with wsCalled := wsCalled, push := push } where
  registry := h.registry
  recorded := h.recorded
  booked := h.booked
  ws := fun handled hmem => (h.ws handled hmem).mono (List.Subset.refl _)
  sns := fun handled hmem => (h.sns handled hmem).mono (List.prefix_refl _)

/-- Nor is the cache. -/
theorem Kept.with_cache (h : Kept env l p) (cache : State) :
    Kept env l { p with ws := { p.ws with cache := cache } } where
  registry := ⟨{ h.registry.subscribed with }, h.registry.exact, h.registry.unitIds⟩
  recorded := h.recorded.of_frame rfl rfl rfl
  booked := h.booked
  ws := h.ws
  sns := h.sns

/-- A new process has an empty life. -/
theorem kept_gone : Kept env (Life.empty : Life Partition Json Time) Process.gone where
  registry := registryExact_init
  recorded := recorded_empty
  booked := ⟨balanced_init _, trivial⟩
  ws := fun _ hmem => (List.not_mem_nil hmem).elim
  sns := fun _ hmem => (List.not_mem_nil hmem).elim

/-- A process that starts has handed nothing over. -/
theorem kept_start (views : Views) :
    Kept env (Life.empty : Life Partition Json Time) (Process.start views) :=
  kept_gone.with_cache (loadControlPlaneSnapshot views)

/-- One more dispatch that was carried out. -/
theorem Kept.append_ws (h : Kept env l p)
    {handled : Handled Partition Json Time (DispatchRecord Json Time)}
    (hnew : WsHandled env l handled) : Kept env { l with ws := l.ws ++ [handled] } p := by
  refine { h with ws := ?_, sns := ?_ }
  · intro handled' hmem
    obtain hmem | hmem := List.mem_append.mp hmem
    · exact (h.ws handled' hmem).mono (List.Subset.refl _)
    · rw [List.mem_singleton.mp hmem]
      exact hnew.mono (List.Subset.refl _)
  · exact fun handled' hmem => (h.sns handled' hmem).mono (List.prefix_refl _)

/-- One more call whose pushes were sent. -/
theorem Kept.append_sns (h : Kept env l p)
    {handled : Handled Partition Json Time (PushRecord Json Time)}
    (hnew : SnsHandled env l handled) : Kept env { l with sns := l.sns ++ [handled] } p := by
  refine { h with ws := ?_, sns := ?_ }
  · exact fun handled' hmem => (h.ws handled' hmem).mono (List.Subset.refl _)
  · intro handled' hmem
    obtain hmem | hmem := List.mem_append.mp hmem
    · exact (h.sns handled' hmem).mono (List.prefix_refl _)
    · rw [List.mem_singleton.mp hmem]
      exact hnew.mono (List.prefix_refl _)

end Rules

/-! ## What the parts do to the calls under way -/

section Parts

/-- The consumer by itself keeps what it has in hand, or takes up an alert. -/
theorem consumer_of_free [DecidableEq Partition]
    {k k' : KafkaState Partition Payload Json Time} {a : KafkaAction Partition Payload}
    (hfree : a.isFree = true)
    (hstep : kafkaStep AlertsConsumer.config env.fromSlice k a = some k') :
    k'.consumer = k.consumer ∨ k.consumer = .polling ∧ ∃ partition message event,
      k'.consumer = .dispatching partition message event false false := by
  cases a with
  | wsReturns | snsReturns | commitMessage | crash | restart => cases hfree
  | produce partition gap payload =>
    obtain rfl := Option.some.inj hstep
    exact .inl rfl
  | receive partition =>
    obtain ⟨message, hpolling, -, rfl⟩ := kafkaReceive_cases hstep
    obtain ⟨-, hsame⟩ | ⟨event, -, hevent⟩ :=
      processMessage_cases env.fromSlice partition message
    · exact .inl (hsame.trans hpolling.symm)
    · exact .inr ⟨hpolling, partition, message, event, hevent⟩
  | receiveError =>
    obtain rfl := kafkaReceiveError_cases hstep
    exact .inl rfl
  | autoCommit partition =>
    rw [kafkaStep_autoCommit] at hstep
    cases hstep
  | committed i =>
    obtain ⟨partition, offset, -, rfl⟩ := kafkaCommitted_cases hstep
    exact .inl rfl
  | commitLost i =>
    obtain rfl := kafkaCommitLost_cases hstep
    exact .inl rfl

/-- The dispatch under way keeps its unit and its message. -/
structure SameDispatch (ws ws' : WsState Json Time) : Prop where
  none_iff : ws'.dispatch = none ↔ ws.dispatch = none
  same : ∀ d', ws'.dispatch = some d' →
    ∃ d, ws.dispatch = some d ∧ d.unitId = d'.unitId ∧ d.message = d'.message

/-- A step that leaves the dispatch alone keeps it. -/
theorem SameDispatch.of_eq {ws ws' : WsState Json Time} (h : ws'.dispatch = ws.dispatch) :
    SameDispatch ws ws' where
  none_iff := by rw [h]
  same := fun d' hd' => ⟨d', h ▸ hd', rfl, rfl⟩

/-- So does a step to a dispatch with the same unit and message. -/
theorem SameDispatch.of_some {ws ws' : WsState Json Time} {d d' : Dispatch Json Time}
    (hd : ws.dispatch = some d) (hd' : ws'.dispatch = some d') (hunit : d.unitId = d'.unitId)
    (hmessage : d.message = d'.message) : SameDispatch ws ws' where
  none_iff := by simp [hd, hd']
  same := by
    intro d'' hd''
    obtain rfl := Option.some.inj (hd'.symm.trans hd'')
    exact ⟨d, hd, hunit, hmessage⟩

/-- The WebSocket side by itself goes on with the dispatch it has. -/
theorem sameDispatch_of_free {ws ws' : WsState Json Time} {a : WsAction Payload Json Time}
    (hfree : a.isFree = true) (hstep : wsStep env.ws ws a = some ws') :
    SameDispatch ws ws' := by
  cases a with
  | dispatchEvent | dispatchDone => cases hfree
  | controlEvent | leave =>
    obtain rfl := Option.some.inj hstep
    exact .of_eq rfl
  | handshake O u =>
    obtain rfl := Option.some.inj hstep
    obtain ⟨-, heq⟩ | ⟨-, heq⟩ := wsHandler_cases ws O u
    · rw [heq]
      exact .of_eq rfl
    · rw [heq]
      exact .of_eq rfl
  | openSocket i id =>
    obtain ⟨up, context, -, -, -, rfl⟩ := handleSocket_cases hstep
    exact .of_eq rfl
  | receive channel =>
    obtain ⟨c, message, rest, -, -, rfl⟩ := receive_cases hstep
    exact .of_eq rfl
  | dropReceiver channel =>
    obtain ⟨c, -, rfl⟩ := dropReceiver_cases hstep
    exact .of_eq rfl
  | trySend =>
    obtain ⟨U, message, id, sender, rest, c, hdispatch, -, hsent⟩ := trySendNext_cases hstep
    obtain ⟨c', -, rfl⟩ | ⟨-, rfl⟩ | ⟨-, rfl⟩ := hsent
    · exact .of_some hdispatch rfl rfl rfl
    · exact .of_some hdispatch rfl rfl rfl
    · exact .of_some hdispatch rfl rfl rfl
  | removeClosed =>
    obtain ⟨U, message, rest, id, hdispatch, rfl⟩ := removeClosedTarget_cases hstep
    exact .of_some hdispatch rfl rfl rfl

/-- What an action of the pushes does to the calls of `send_alert`, and what the ledger says
of it. -/
theorem sends_of_free {sns sns' : SnsState Json Time} {a : SnsAction Json Time}
    (hfree : a.isFree = true) (hstep : snsStep sns a = some sns') (pushes : PushLedger Json Time) :
    (sns'.sends = sns.sends ∧ (pushes.note sns a).sent = pushes.sent) ∨
      (∃ i event device rest, sns.sends[i]? = some ⟨event, device :: rest, false⟩ ∧
        sns'.sends = sns.sends.set i ⟨event, rest, true⟩ ∧
          (pushes.note sns a).sent = pushes.sent ++ [(device, event)]) ∨
      (∃ i event rest, sns.sends[i]? = some ⟨event, rest, true⟩ ∧
        sns'.sends = sns.sends.set i ⟨event, rest, false⟩ ∧
          (pushes.note sns a).sent = pushes.sent) ∨
      ∃ i event, sns.sends[i]? = some ⟨event, [], false⟩ ∧
        sns'.sends = sns.sends.eraseIdx i ∧ (pushes.note sns a).sent = pushes.sent := by
  cases a with
  | incResolved | sendAlert | cleanedUp => cases hfree
  | send i =>
    obtain ⟨event, device, rest, hcall, rfl⟩ := sendNext_cases hstep
    refine .inr (.inl ⟨i, event, device, rest, hcall, rfl, ?_⟩)
    simp only [PushLedger.note, hcall]
  | incEnqueued i =>
    obtain ⟨event, rest, hcall, rfl⟩ := countSent_cases hstep
    exact .inr (.inr (.inl ⟨i, event, rest, hcall, rfl, rfl⟩))
  | sendAlertDone i =>
    obtain ⟨event, hcall, rfl⟩ := sendAlertDone_cases hstep
    exact .inr (.inr (.inr ⟨i, event, hcall, rfl, rfl⟩))
  | recv =>
    obtain ⟨-, ⟨push, channel, worker, hrecv, rfl, -, -⟩ |
      ⟨skipped, channel, worker, hrecv, rfl, -, -⟩⟩ := workerRecv_cases hstep
    · exact .inl ⟨rfl, by simp only [PushLedger.note, hrecv]⟩
    · exact .inl ⟨rfl, by simp only [PushLedger.note, hrecv]⟩
  | addLagged =>
    obtain ⟨worker, rfl, -, -⟩ := workerAddLagged_cases hstep
    exact .inl ⟨rfl, rfl⟩
  | deadline =>
    obtain ⟨batch, -, rfl⟩ := deadline_cases hstep
    exact .inl ⟨rfl, rfl⟩
  | deliver i outcome =>
    obtain ⟨size, pending, cleaning, cleaning', push, hworker, hpush, rfl⟩ :=
      workerDeliver_cases hstep
    exact .inl ⟨rfl, by simp only [PushLedger.note, hworker, hpush]⟩
  | batchDone =>
    obtain ⟨size, -, rfl⟩ := batchDone_cases hstep
    exact .inl ⟨rfl, rfl⟩
  | tick =>
    obtain rfl := tick_cases hstep
    exact .inl ⟨rfl, rfl⟩
  | swap =>
    obtain ⟨counter, rest, hreporter, rfl⟩ := swap_cases hstep
    exact .inl ⟨rfl, by simp only [PushLedger.note, hreporter]⟩

end Parts

/-! ## The calls under way -/

section Calls

variable {l : Life Partition Json Time} {p : Process Json Time}
  {event : AlertEvent Json Time}

/-- An alert that is taken up has no call yet. -/
theorem callsInHand_new (h : NoCall l p) (partition : Partition)
    (message : LogRecord (Option Payload)) (event : AlertEvent Json Time) :
    CallsInHand env l p (.dispatching partition message event false false) := by
  have hws : WsInHand env p event false := by
    refine ⟨fun _ => h.dispatch, fun _ hcalled => ?_, fun d hd => ?_⟩
    · rw [h.wsCalled] at hcalled
      cases hcalled
    · rw [h.dispatch] at hd
      cases hd
  refine ⟨hws, ?_⟩
  rw [SnsInHand, h.push]
  exact ⟨rfl, h.call, h.sends⟩

/-- A step of the WebSocket side. -/
theorem WsInHand.of_same {ws : WsState Json Time} {returned : Bool}
    (h : WsInHand env p event returned) (hsame : SameDispatch p.ws ws) :
    WsInHand env { p with ws := ws } event returned where
  idle := fun hidle => hsame.none_iff.mpr (h.idle hidle)
  skipped := fun hreturned hcalled hnone =>
    h.skipped hreturned hcalled (hsame.none_iff.mp hnone)
  running := by
    intro d' hd'
    obtain ⟨d, hd, hunit, hmessage⟩ := hsame.same d' hd'
    rw [← hunit, ← hmessage]
    exact h.running d hd

/-- A step of the WebSocket side keeps the calls in hand. -/
theorem callsInHand_ws {consumer : Consumer Partition Payload Json Time}
    (hrunning : consumer ≠ .down) (h : CallsInHand env l p consumer) {ws : WsState Json Time}
    (hsame : SameDispatch p.ws ws) (deliveries : Ledger Json Time) :
    CallsInHand env { l with deliveries := deliveries } { p with ws := ws } consumer := by
  cases consumer with
  | down => exact absurd rfl hrunning
  | polling =>
    have hcalls : NoCall l p := h
    exact { hcalls with dispatch := hsame.none_iff.mpr hcalls.dispatch }
  | dispatching partition message event ws sns => exact ⟨h.1.of_same hsame, h.2⟩

/-- What is left to be sent, after a step of the pushes. -/
theorem Sending.of_free {pushes : PushLedger Json Time} {sns sns' : SnsState Json Time}
    {r : PushRecord Json Time} (h : Sending env pushes.sent sns.sends event r)
    {a : SnsAction Json Time} (hfree : a.isFree = true) (hstep : snsStep sns a = some sns') :
    Sending env (pushes.note sns a).sent sns'.sends event r := by
  have hcases := sends_of_free hfree hstep pushes
  refine { h with disabled := ?_, enabled := ?_ }
  · intro hdisabled
    have hnone := h.disabled hdisabled
    rw [hnone] at hcases
    obtain ⟨hsends, -⟩ | ⟨i, _, _, _, hi, -⟩ | ⟨i, _, _, hi, -⟩ | ⟨i, _, hi, -⟩ := hcases
    · exact hsends
    · cases hi
    · cases hi
    · cases hi
  · intro henabled
    obtain ⟨before, sent, rest, hsent, htargets, hsends⟩ := h.enabled henabled
    obtain ⟨hnone, hrest⟩ | ⟨uncounted, hone⟩ := hsends
    · rw [hnone] at hcases
      obtain ⟨hsends, hkept⟩ | ⟨i, _, _, _, hi, -⟩ | ⟨i, _, _, hi, -⟩ | ⟨i, _, hi, -⟩ := hcases
      · exact ⟨before, sent, rest, hkept.trans hsent, htargets, .inl ⟨hsends, hrest⟩⟩
      · cases hi
      · cases hi
      · cases hi
    · -- the one call of `send_alert` is the one of this alert
      rw [hone] at hcases
      simp only [List.getElem?_singleton, Option.ite_none_right_eq_some, Option.some.injEq]
        at hcases
      obtain ⟨hsends, hkept⟩ | ⟨i, event', device, rest', ⟨rfl, hi⟩, hsends, hkept⟩ |
        ⟨i, event', rest', ⟨rfl, hi⟩, hsends, hkept⟩ | ⟨i, event', ⟨rfl, hi⟩, hsends, hkept⟩ :=
        hcases
      · exact ⟨before, sent, rest, hkept.trans hsent, htargets, .inr ⟨uncounted, hsends⟩⟩
      · obtain ⟨rfl, rfl, rfl⟩ := SendAlert.mk.inj hi
        refine ⟨before, sent ++ [device], rest', ?_, ?_, .inr ⟨true, hsends⟩⟩
        · rw [hkept, hsent, List.map_append, List.append_assoc]
          rfl
        · rw [htargets, List.append_assoc]
          rfl
      · obtain ⟨rfl, rfl, rfl⟩ := SendAlert.mk.inj hi
        exact ⟨before, sent, rest, hkept.trans hsent, htargets, .inr ⟨false, hsends⟩⟩
      · obtain ⟨rfl, rfl, rfl⟩ := SendAlert.mk.inj hi
        exact ⟨before, sent, [], hkept.trans hsent, htargets, .inl ⟨hsends, rfl⟩⟩

/-- Without a call of `send_alert` no step of the pushes makes one. -/
theorem sends_nil_of_free {sns sns' : SnsState Json Time} {a : SnsAction Json Time}
    (hfree : a.isFree = true) (hstep : snsStep sns a = some sns') (hnone : sns.sends = []) :
    sns'.sends = [] := by
  have hcases := sends_of_free hfree hstep PushLedger.empty
  rw [hnone] at hcases
  obtain ⟨hsends, -⟩ | ⟨i, _, _, _, hi, -⟩ | ⟨i, _, _, hi, -⟩ | ⟨i, _, hi, -⟩ := hcases
  · exact hsends
  · cases hi
  · cases hi
  · cases hi

/-- So does a step of the publisher, the worker or the reporter. -/
theorem callsInHand_sns {consumer : Consumer Partition Payload Json Time}
    (hrunning : consumer ≠ .down) (h : CallsInHand env l p consumer)
    {sns : SnsState Json Time} {a : SnsAction Json Time} (hfree : a.isFree = true)
    (hstep : snsStep p.sns a = some sns) :
    CallsInHand env { l with pushes := l.pushes.note p.sns a } { p with sns := sns }
      consumer := by
  have hnil := sends_nil_of_free hfree hstep
  cases consumer with
  | down => exact absurd rfl hrunning
  | polling =>
    have hcalls : NoCall l p := h
    exact { hcalls with sends := hnil hcalls.sends }
  | dispatching partition message event ws returned =>
    obtain ⟨hws, hsns⟩ := h
    refine ⟨{ hws with }, ?_⟩
    unfold SnsInHand at hsns ⊢
    cases hpush : p.push with
    | waiting =>
      simp only [hpush] at hsns ⊢
      exact ⟨hsns.1, hsns.2.1, hnil hsns.2.2⟩
    | reading d =>
      simp only [hpush] at hsns ⊢
      exact ⟨hsns.1, hnil hsns.2.1, hsns.2.2⟩
    | sending =>
      simp only [hpush] at hsns ⊢
      obtain ⟨hcall, hsends, hskipped⟩ | ⟨hreturned, r, hcall, hsending⟩ := hsns
      · exact .inl ⟨hcall, hnil hsends, hskipped⟩
      · exact .inr ⟨hreturned, r, hcall, hsending.of_free hfree hstep⟩

end Calls

end AlertDistributor.Analysis
