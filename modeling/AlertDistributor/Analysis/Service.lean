import AlertDistributor.Analysis.ServiceLives

/-!
# The service keeps its promises over crashes

`Lived` holds in every run of the service, so below a committed offset every alert was
handed to both sides by calls whose effect is known: the dispatch tried every connection of
the unit and, where `SNS_ENABLED` is set, the devices of everyone who sees the unit went to
the channel of the pushes.
-/

set_option autoImplicit false

namespace AlertDistributor.Analysis

open AlertDistributor.Model AlertDistributor.Interface AlertDistributor.System

variable {Partition Payload Json Time : Type}
  {env : ServiceEnv Payload Json Time} {l : ServiceLedger Partition Json Time}
  {s s' : Service Partition Payload Json Time}

/-! ## Every action keeps the lives -/

section Steps

/-- Before the first start no life has begun. -/
theorem lived_init : Lived env (ServiceLedger.empty : ServiceLedger Partition Json Time)
    (Service.init : Service Partition Payload Json Time) where
  past := fun _ hmem => (List.not_mem_nil hmem).elim
  current := kept_gone
  calls := ⟨rfl, rfl⟩

/-- What is in hand, for a consumer that is not down. -/
theorem ne_down_of_running {kafka : KafkaState Partition Payload Json Time}
    (h : kafka.running = true) : kafka.consumer ≠ .down := by
  intro hdown
  rw [KafkaState.running, hdown] at h
  cases h

/-- The calls, when an alert is in the `join!`. -/
theorem Lived.dispatching (h : Lived env l s) {partition : Partition}
    {message : LogRecord (Option Payload)} {event : AlertEvent Json Time} {ws sns : Bool}
    (hconsumer : s.kafka.consumer = .dispatching partition message event ws sns) :
    WsInHand env s.process event ws ∧ SnsInHand env l.current s.process event sns := by
  have hcalls := h.calls
  rwa [hconsumer] at hcalls

/-- A call of the pushes that has begun is for an alert in the `join!`. -/
theorem Lived.of_push (h : Lived env l s) (hpush : s.process.push ≠ .waiting) :
    ∃ partition message event ws sns,
      s.kafka.consumer = .dispatching partition message event ws sns ∧
        WsInHand env s.process event ws ∧ SnsInHand env l.current s.process event sns := by
  have hcalls := h.calls
  cases hconsumer : s.kafka.consumer with
  | down =>
    rw [hconsumer] at hcalls
    obtain ⟨-, hgone⟩ := hcalls
    rw [hgone] at hpush
    exact absurd rfl hpush
  | polling =>
    rw [hconsumer] at hcalls
    exact absurd hcalls.push hpush
  | dispatching partition message event ws sns =>
    rw [hconsumer] at hcalls
    exact ⟨partition, message, event, ws, sns, rfl, hcalls⟩

/-- The dispatcher returns: its record is one of the finished dispatches, or the alert was
skipped. -/
theorem wsHandled_of_finishWs {life : Life Partition Json Time} {p : Process Json Time}
    {event : AlertEvent Json Time} (hkept : Kept env life p) (h : WsInHand env p event false)
    (hcalled : p.wsCalled = true) {ws : WsState Json Time}
    (hfinish : finishWs env p.ws = some ws) :
    ws.dispatch = none ∧
      ∃ deliveries, life.deliveries.note env.ws p.ws
          (.dispatchDone : WsAction Payload Json Time) = deliveries ∧
        Kept env { life with deliveries := deliveries } { p with ws := ws } ∧
          ∀ partition offset, WsHandled env { life with deliveries := deliveries }
            (⟨partition, offset, event, life.deliveries.current⟩ :
              Handled Partition Json Time (DispatchRecord Json Time)) := by
  obtain ⟨hnone, rfl⟩ | ⟨hdone, ⟨U, message, hdispatch⟩, hnone⟩ := finishWs_cases hfinish
  · have hcurrent : life.deliveries.current = none := hkept.recorded.idle hnone
    have hsame : life.deliveries.note env.ws p.ws
        (.dispatchDone : WsAction Payload Json Time) = life.deliveries := by
      obtain ⟨⟨finished, current, received⟩, pushes, call, ws, sns⟩ := life
      obtain rfl : current = none := hcurrent
      simp [Ledger.note, Ledger.dispatches]
    refine ⟨hnone, life.deliveries, hsame, hkept, fun partition offset => ⟨fun _ => ?_, ?_⟩⟩
    · exact h.skipped rfl hcalled hnone
    · intro r hr
      rw [hcurrent] at hr
      cases hr
  · obtain ⟨r, hr, hhand⟩ := hkept.recorded.current _ hdispatch
    have hcurrent : life.deliveries.current = some r := hr
    obtain ⟨hunit, hmessage⟩ := h.running _ hdispatch
    refine ⟨hnone, _, rfl, kept_ws hkept hdone, fun partition offset => ⟨fun hskipped => ?_, ?_⟩⟩
    · cases hcurrent.symm.trans hskipped
    · intro r' hr'
      obtain rfl := Option.some.inj (hcurrent.symm.trans hr')
      exact ⟨hhand.unitId ▸ hunit, hhand.message.symm.trans hmessage,
        mem_dispatches.mpr (.inr hcurrent)⟩

variable [DecidableEq Partition]

/-- What the consumer and the broker do by themselves leaves the calls alone. -/
theorem lived_kafka (h : Lived env l s) {a : KafkaAction Partition Payload}
    (hstep : serviceStep env s (.kafka a) = some s') : Lived env (l.note env s (.kafka a)) s' := by
  obtain ⟨hfree, kafka, hkafka, rfl⟩ := kafka_cases hstep
  refine ⟨h.past, h.current, ?_⟩
  show CallsInHand env l.current s.process kafka.consumer
  have hcalls := h.calls
  obtain hsame | ⟨hpolling, partition, message, event, hnew⟩ := consumer_of_free hfree hkafka
  · rw [hsame]
    exact hcalls
  · rw [hpolling] at hcalls
    rw [hnew]
    exact callsInHand_new hcalls partition message event

/-- The WebSocket side goes on under its own invariant. -/
theorem lived_ws (h : Lived env l s) {a : WsAction Payload Json Time}
    (hstep : serviceStep env s (.ws a) = some s') : Lived env (l.note env s (.ws a)) s' := by
  obtain ⟨hrunning, hfree, ws, hws, rfl⟩ := ws_cases hstep
  exact ⟨h.past, kept_ws h.current hws, callsInHand_ws (ne_down_of_running hrunning) h.calls
    (sameDispatch_of_free hfree hws) _⟩

/-- So do the publisher, the worker and the reporter. -/
theorem lived_sns (h : Lived env l s) {a : SnsAction Json Time}
    (hstep : serviceStep env s (.sns a) = some s') : Lived env (l.note env s (.sns a)) s' := by
  obtain ⟨hrunning, hfree, sns, hsns, rfl⟩ := sns_cases hstep
  exact ⟨h.past, kept_sns h.current hsns,
    callsInHand_sns (ne_down_of_running hrunning) h.calls hfree hsns⟩

/-- A call of the WebSocket dispatcher begins with the senders of the unit. -/
theorem lived_callWs (h : Lived env l s) (hstep : serviceStep env s .callWs = some s') :
    Lived env (l.note env s .callWs) s' := by
  obtain ⟨partition, message, event, sns, ws, hconsumer, hcalled, hws, rfl⟩ := callWs_cases hstep
  obtain ⟨hwsInHand, hsnsInHand⟩ := h.dispatching hconsumer
  have hkept := kept_ws h.current
    (show wsStep env.ws s.process.ws (.dispatchEvent event : WsAction Payload Json Time) =
      some ws from hws)
  have hnote : l.note env s .callWs = { l with current := { l.current with
      deliveries := l.current.deliveries.note env.ws s.process.ws
        (.dispatchEvent event : WsAction Payload Json Time) } } := by
    simp only [ServiceLedger.note, Life.note, hconsumer]
  rw [hnote]
  refine ⟨h.past, { hkept with }, ?_⟩
  show CallsInHand env _ _ s.kafka.consumer
  rw [hconsumer]
  refine ⟨?_, hsnsInHand⟩
  obtain ⟨-, ⟨hunit, rfl⟩ | ⟨U, hunit, rfl⟩⟩ := startDispatch_cases hws
  · exact { hwsInHand with
      idle := fun _ => hwsInHand.idle (.inr hcalled)
      skipped := fun _ _ _ => hunit }
  · refine ⟨?_, ?_, ?_⟩
    · rintro (hreturned | hcalled')
      · cases hreturned
      · cases hcalled'
    · intro _ _ hnone
      cases hnone
    · intro d hd
      obtain rfl := Option.some.inj hd
      exact ⟨hunit, rfl⟩

/-- A call that returns has tried every target. -/
theorem lived_wsReturns (h : Lived env l s) (hstep : serviceStep env s .wsReturns = some s') :
    Lived env (l.note env s .wsReturns) s' := by
  obtain ⟨partition, message, event, sns, ws, hconsumer, hcalled, hfinish, -, rfl⟩ :=
    wsReturns_cases hstep
  obtain ⟨hwsInHand, hsnsInHand⟩ := h.dispatching hconsumer
  obtain ⟨hnone, deliveries, hdeliveries, hkept, hhandled⟩ :=
    wsHandled_of_finishWs h.current hwsInHand hcalled hfinish
  have hnote : l.note env s .wsReturns = { l with current := { l.current with
      ws := l.current.ws ++
        [⟨partition, message.offset, event, l.current.deliveries.current⟩]
      deliveries := deliveries } } := by
    simp only [ServiceLedger.note, Life.note, hconsumer, hdeliveries]
  rw [hnote]
  refine ⟨h.past, hkept.append_ws (hhandled partition message.offset), ?_, hsnsInHand⟩
  refine ⟨fun _ => hnone, fun hreturned => ?_, fun d hd => ?_⟩
  · cases hreturned
  · cases hnone.symm.trans hd

/-- A call of the dispatcher of pushes begins with the people who see the unit. -/
theorem lived_callSns (h : Lived env l s) (hstep : serviceStep env s .callSns = some s') :
    Lived env (l.note env s .callSns) s' := by
  obtain ⟨partition, message, event, ws, hconsumer, hwaiting, rfl⟩ := callSns_cases hstep
  obtain ⟨hwsInHand, hsnsInHand⟩ := h.dispatching hconsumer
  have hnote : l.note env s .callSns = { l with current := { l.current with
      call := (env.ws.parseUuid event.unitId).map fun unitId =>
        ⟨event, unitId, s.process.ws.cache, []⟩ } } := by
    simp only [ServiceLedger.note, Life.note, hconsumer]
  rw [SnsInHand, hwaiting] at hsnsInHand
  obtain ⟨-, -, hsends⟩ := hsnsInHand
  rw [hnote]
  cases hunit : env.ws.parseUuid event.unitId with
  | none =>
    have hcall : s.process.callSns env.ws.parseUuid event = { s.process with push := .sending } := by
      simp only [Process.callSns, PushDispatch.start, hunit, Option.map_none]
    rw [hcall]
    refine ⟨h.past, h.current.stage none s.process.wsCalled .sending, ?_⟩
    show CallsInHand env _ _ s.kafka.consumer
    rw [hconsumer]
    exact ⟨{ hwsInHand with }, .inl ⟨rfl, hsends, fun _ => hunit⟩⟩
  | some U =>
    have hcall : s.process.callSns env.ws.parseUuid event = { s.process with
        push := .reading ⟨event, s.process.ws.cache.usersForUnit U, []⟩ } := by
      simp only [Process.callSns, PushDispatch.start, hunit, Option.map_some]
    have htargets : ([] : List UserDevice) =
        (⟨event, U, s.process.ws.cache, []⟩ : PushRecord Json Time).targets := by
      rw [PushRecord.targets, List.zipWith_nil_right]
      rfl
    rw [hcall]
    refine ⟨h.past, h.current.stage _ s.process.wsCalled _, ?_⟩
    show CallsInHand env _ _ s.kafka.consumer
    rw [hconsumer]
    exact ⟨{ hwsInHand with }, rfl, hsends, _, rfl, hunit, rfl, rfl, rfl, Nat.zero_le _, htargets⟩

/-- A longer second list meets the next element of the first. -/
theorem zipWith_concat {α β γ : Type} {f : α → β → γ} {as rest : List α} {bs : List β} {a : α}
    (h : as.drop bs.length = a :: rest) (b : β) :
    List.zipWith f as (bs ++ [b]) = List.zipWith f as bs ++ [f a b] := by
  induction bs generalizing as with
  | nil =>
    obtain rfl : as = a :: rest := h
    simp
  | cons b' bs ih =>
    cases as with
    | nil => cases h
    | cons a' as =>
      rw [List.cons_append, List.zipWith_cons_cons, List.zipWith_cons_cons, List.cons_append,
        ih h]

omit [DecidableEq Partition] in
/-- One more person is read. -/
theorem Reading.read {event event' : AlertEvent Json Time} {r : PushRecord Json Time}
    {person : OrganizationId ×ₗ UserId} {rest : List (OrganizationId ×ₗ UserId)}
    {targets : List UserDevice} (h : Reading env event r ⟨event', person :: rest, targets⟩)
    (cache : State) :
    Reading env event (r.read cache)
      ⟨event', rest, targets ++ PushRecord.reachable person cache⟩ := by
  have husers : r.people.drop r.reads.length = person :: rest := h.users.symm
  have hlt : r.reads.length < r.people.length := by
    have hlength := congrArg List.length husers
    rw [List.length_drop, List.length_cons] at hlength
    omega
  have hlength : (r.read cache).reads.length = r.reads.length + 1 := by
    rw [PushRecord.read, List.length_append, List.length_singleton]
  refine ⟨h.unitId, h.recorded, h.event, ?_, ?_, ?_⟩
  · show rest = r.people.drop (r.read cache).reads.length
    rw [hlength, ← List.drop_drop, husers]
    rfl
  · show (r.read cache).reads.length ≤ r.people.length
    omega
  · have hold : targets = r.targets := h.targets
    show targets ++ _ = (List.zipWith PushRecord.reachable r.people (r.reads ++ [cache])).flatten
    rw [hold, zipWith_concat husers, List.flatten_concat]
    rfl

/-- Reading the devices of a person collects those that can be reached. -/
theorem lived_readDevices (h : Lived env l s)
    (hstep : serviceStep env s .readDevices = some s') :
    Lived env (l.note env s .readDevices) s' := by
  obtain ⟨event', person, rest, targets, metrics, hpush, hmetrics, rfl⟩ :=
    serviceReadDevices_cases hstep
  obtain ⟨partition, message, event, ws, sns, hconsumer, hwsInHand, hsnsInHand⟩ :=
    h.of_push (by rw [hpush]; nofun)
  rw [SnsInHand, hpush] at hsnsInHand
  obtain ⟨hreturned, hsends, r, hcall, hreading⟩ := hsnsInHand
  have hbooked : Booked (l.current.pushes,
      { s.process.sns with metrics := metrics }) := by
    rw [hmetrics]
    exact ⟨{ h.current.booked.1 with }, h.current.booked.2⟩
  have hkept := h.current.stage (l.current.call.map fun r => r.read s.process.ws.cache)
    s.process.wsCalled (.reading
      ⟨event', rest, targets ++ PushRecord.reachable person s.process.ws.cache⟩)
  refine ⟨h.past, { hkept with booked := hbooked }, ?_⟩
  show CallsInHand env _ _ s.kafka.consumer
  rw [hconsumer]
  refine ⟨{ hwsInHand with }, hreturned, hsends, r.read s.process.ws.cache, ?_,
    hreading.read s.process.ws.cache⟩
  show l.current.call.map _ = _
  rw [hcall]
  rfl

/-- The collected devices go to the publisher. -/
theorem lived_sendAlert (h : Lived env l s) (hstep : serviceStep env s .sendAlert = some s') :
    Lived env (l.note env s .sendAlert) s' := by
  obtain ⟨event', targets, hpush, hsent⟩ := serviceSendAlert_cases hstep
  obtain ⟨partition, message, event, ws, sns, hconsumer, hwsInHand, hsnsInHand⟩ :=
    h.of_push (by rw [hpush]; nofun)
  rw [SnsInHand, hpush] at hsnsInHand
  obtain ⟨hreturned, hsends, r, hcall, hreading⟩ := hsnsInHand
  have hreads : r.reads.length = r.people.length := by
    have hdrop : r.people.drop r.reads.length = [] := hreading.users.symm
    have hle := List.drop_eq_nil_iff.mp hdrop
    exact Nat.le_antisymm hreading.reads hle
  have htargets : r.targets = targets := hreading.targets.symm
  obtain rfl : event' = event := hreading.event
  obtain ⟨hnone, rfl⟩ | ⟨henabled, rfl⟩ := hsent
  · refine ⟨h.past, { h.current.stage l.current.call s.process.wsCalled .sending with }, ?_⟩
    show CallsInHand env _ _ s.kafka.consumer
    rw [hconsumer]
    refine ⟨{ hwsInHand with }, .inr ⟨hreturned, r, hcall, hreading.unitId, hreading.recorded,
      hreads, fun _ => hsends, fun henabled => ?_⟩⟩
    obtain hempty | hdisabled := hnone
    · refine ⟨l.current.pushes.sent, [], [], (List.append_nil _).symm, ?_, .inl ⟨hsends, rfl⟩⟩
      rw [htargets, hempty]
      rfl
    · rw [hdisabled] at henabled
      cases henabled
  · have hbooked : Booked (l.current.pushes, { s.process.sns with
        sends := s.process.sns.sends ++ [⟨event', targets, false⟩] }) := by
      have hsendAlert : snsStep s.process.sns (.sendAlert event' targets) =
          some { s.process.sns with
            sends := s.process.sns.sends ++ [⟨event', targets, false⟩] } := rfl
      exact ⟨balanced_snsStep h.current.booked.1 hsendAlert,
        batched_snsStep h.current.booked.2 hsendAlert⟩
    refine ⟨h.past, { h.current.stage l.current.call s.process.wsCalled .sending with
      booked := hbooked }, ?_⟩
    show CallsInHand env _ _ s.kafka.consumer
    rw [hconsumer]
    refine ⟨{ hwsInHand with }, .inr ⟨hreturned, r, hcall, hreading.unitId, hreading.recorded,
      hreads, fun hdisabled => ?_, fun _ => ?_⟩⟩
    · rw [hdisabled] at henabled
      cases henabled
    · refine ⟨l.current.pushes.sent, [], targets, (List.append_nil _).symm, htargets,
        .inr ⟨false, ?_⟩⟩
      show s.process.sns.sends ++ _ = _
      rw [hsends]
      rfl

omit [DecidableEq Partition] in
/-- A call with nothing left to send has put everything on the channel. -/
theorem Sending.pushed {event : AlertEvent Json Time} {r : PushRecord Json Time}
    {pushed : List (Push Json Time)} (h : Sending env pushed [] event r)
    (henabled : env.snsEnabled = true) : r.pushes <:+: pushed := by
  obtain ⟨before, sent, rest, hpushed, htargets, hsends⟩ := h.enabled henabled
  obtain ⟨-, rfl⟩ | ⟨uncounted, hone⟩ := hsends
  · refine ⟨before, [], ?_⟩
    rw [hpushed, PushRecord.pushes, htargets, h.recorded, List.append_nil, List.append_nil]
  · cases hone

/-- The call returns when the publisher has sent them all. -/
theorem lived_snsReturns (h : Lived env l s)
    (hstep : serviceStep env s .snsReturns = some s') :
    Lived env (l.note env s .snsReturns) s' := by
  obtain ⟨partition, message, event, ws, hconsumer, hsending, hsends, -, rfl⟩ :=
    snsReturns_cases hstep
  obtain ⟨hwsInHand, hsnsInHand⟩ := h.dispatching hconsumer
  have hnote : l.note env s .snsReturns = { l with current := { l.current with
      sns := l.current.sns ++ [⟨partition, message.offset, event, l.current.call⟩]
      call := none } } := by
    simp only [ServiceLedger.note, Life.note, hconsumer]
  rw [SnsInHand, hsending] at hsnsInHand
  simp only [hsends] at hsnsInHand
  have hhandled : SnsHandled env l.current
      (⟨partition, message.offset, event, l.current.call⟩ :
        Handled Partition Json Time (PushRecord Json Time)) := by
    obtain ⟨hcall, -, hskipped⟩ | ⟨-, r, hcall, hr⟩ := hsnsInHand
    · refine ⟨fun _ => hskipped trivial, fun r hr => ?_⟩
      cases hcall.symm.trans hr
    · refine ⟨fun hnone => ?_, fun r' hr' => ?_⟩
      · cases hcall.symm.trans hnone
      · obtain rfl := Option.some.inj (hcall.symm.trans hr')
        exact ⟨hr.unitId, hr.recorded, hr.reads, hr.pushed⟩
  have hkept := (h.current.append_sns hhandled).stage none s.process.wsCalled s.process.push
  rw [hnote]
  refine ⟨h.past, hkept, { hwsInHand with }, ?_⟩
  rw [SnsInHand, hsending]
  exact .inl ⟨rfl, hsends, fun hfalse => Bool.noConfusion hfalse⟩

/-- A removal changes the cache and no call under way. -/
theorem lived_cleanedUp (h : Lived env l s) {i : ℕ} {ok : Bool}
    (hstep : serviceStep env s (.cleanedUp i ok) = some s') :
    Lived env (l.note env s (.cleanedUp i ok)) s' := by
  obtain ⟨size, pending, cleaning, cache, hworker, hi, rfl⟩ := serviceCleanedUp_cases hstep
  have hclean : snsStep s.process.sns (.cleanedUp i) = some { s.process.sns with
      worker := .delivering size pending (cleaning.eraseIdx i) } := by
    simp only [snsStep, hworker, if_pos hi]
  refine ⟨h.past, (kept_sns h.current hclean).with_cache cache, ?_⟩
  have hcalls := h.calls
  show CallsInHand env l.current _ s.kafka.consumer
  cases hconsumer : s.kafka.consumer with
  | down =>
    rw [hconsumer] at hcalls
    obtain ⟨-, hgone⟩ := hcalls
    rw [hgone] at hworker
    cases hworker
  | polling =>
    rw [hconsumer] at hcalls
    exact { hcalls with }
  | dispatching partition message event ws sns =>
    rw [hconsumer] at hcalls
    exact ⟨{ hcalls.1 with }, hcalls.2⟩

/-- The commit ends both calls. -/
theorem lived_commitMessage (h : Lived env l s) {ok : Bool}
    (hstep : serviceStep env s (.commitMessage ok) = some s') :
    Lived env (l.note env s (.commitMessage ok)) s' := by
  obtain ⟨partition, message, event, hconsumer, -, rfl⟩ := commitMessage_cases hstep
  obtain ⟨hwsInHand, hsnsInHand⟩ := h.dispatching hconsumer
  have hover : l.current.call = none ∧ s.process.sns.sends = [] := by
    unfold SnsInHand at hsnsInHand
    split at hsnsInHand
    · exact ⟨hsnsInHand.2.1, hsnsInHand.2.2⟩
    · cases hsnsInHand.1
    · obtain ⟨hcall, hsends, -⟩ | ⟨hfalse, -⟩ := hsnsInHand
      · exact ⟨hcall, hsends⟩
      · cases hfalse
  exact ⟨h.past, { h.current.stage l.current.call false .waiting with },
    rfl, hwsInHand.idle (.inl rfl), rfl, hover.2, hover.1⟩

/-- A crash ends the life, and leaves an empty one. -/
theorem lived_crash (h : Lived env l s) (hstep : serviceStep env s .crash = some s') :
    Lived env (l.note env s .crash) s' := by
  obtain ⟨-, rfl⟩ := serviceCrash_cases hstep
  refine ⟨?_, kept_gone, rfl, rfl⟩
  intro life hlife
  obtain hlife | hlife := List.mem_append.mp hlife
  · exact h.past life hlife
  · rw [List.mem_singleton.mp hlife]
    exact h.current

/-- A restart begins a life with nothing handed over. -/
theorem lived_restart (h : Lived env l s) {views : Views}
    (hstep : serviceStep env s (.restart views) = some s') :
    Lived env (l.note env s (.restart views)) s' := by
  obtain ⟨hdown, -, rfl⟩ := serviceRestart_cases hstep
  have hcalls := h.calls
  rw [hdown] at hcalls
  obtain ⟨hempty, -⟩ := hcalls
  refine ⟨h.past, ?_, ?_⟩
  · show Kept env l.current _
    rw [hempty]
    exact kept_start views
  · show NoCall l.current _
    rw [hempty]
    exact ⟨rfl, rfl, rfl, rfl, rfl⟩

/-- **Every action of the service keeps the lives.** -/
theorem lived_serviceStep (h : Lived env l s)
    {a : ServiceAction Partition Payload Json Time} (hstep : serviceStep env s a = some s') :
    Lived env (l.note env s a) s' := by
  cases a with
  | kafka a => exact lived_kafka h hstep
  | ws a => exact lived_ws h hstep
  | sns a => exact lived_sns h hstep
  | callWs => exact lived_callWs h hstep
  | wsReturns => exact lived_wsReturns h hstep
  | callSns => exact lived_callSns h hstep
  | readDevices => exact lived_readDevices h hstep
  | sendAlert => exact lived_sendAlert h hstep
  | snsReturns => exact lived_snsReturns h hstep
  | cleanedUp i ok => exact lived_cleanedUp h hstep
  | commitMessage ok => exact lived_commitMessage h hstep
  | crash => exact lived_crash h hstep
  | restart views => exact lived_restart h hstep

end Steps

/-! ## What became of an alert -/

section Alerts

/-- A dispatch that has returned tried every connection that was registered, once. -/
theorem tried_of_finished {wsEnv : WsEnv Payload Json} {d : Ledger Json Time}
    {ws : WsState Json Time} (hsub : Subscribed ws) (h : Recorded wsEnv (d, ws))
    {r : DispatchRecord Json Time} (hr : r ∈ d.finished) {c : ConnectionContext ChannelId}
    (hregistered : r.Registered c) :
    ∃ a, r.attempts.filter (fun a => a.channel = c.sender) = [a] ∧
      (r.AcceptedOn c.sender ∨ a.found.receiver = false ∨
        wsEnv.channelCapacity ≤ a.found.queue.length) := by
  have hmem : r ∈ d.dispatches := mem_dispatches.mpr (.inl hr)
  have hread := h.read r hmem
  have hopened : c ∈ ws.opened := hread.opened _ c hregistered.1
  have htarget : (c.connectionId, c.sender) ∈ r.targets :=
    (mem_targets_iff hsub hread hopened _).mpr ⟨rfl, hregistered⟩
  obtain ⟨htargets, -⟩ := h.finished r hr
  rw [← htargets] at htarget
  obtain ⟨a, ha, heq⟩ := List.mem_map.mp htarget
  have hsame : a.channel = c.sender := congrArg Prod.snd heq
  have hnodup : (r.attempts.map Attempt.channel).Nodup := by
    have hall := nodup_channels hsub hread
    rwa [← htargets, List.map_map] at hall
  refine ⟨a, ?_, ?_⟩
  · rw [← hsame]
    exact filter_key_eq hnodup ha
  · rw [← hsame]
    exact attempt_outcome h hmem ha

variable (env) (life : Life Partition Json Time) (event : AlertEvent Json Time)

/-- What the call of the WebSocket dispatcher did: the dispatch of its record has returned,
and every connection that was registered for the unit was tried once, so that the alert is on
its channel unless the receiver was gone or the queue full. -/
structure WsServed (r : DispatchRecord Json Time) : Prop where
  unitId : env.ws.parseUuid event.unitId = some r.unitId
  message : r.message = .ofEvent event
  finished : r ∈ life.deliveries.finished
  tried : ∀ c, r.Registered c →
    ∃ a, r.attempts.filter (fun a => a.channel = c.sender) = [a] ∧
      (r.AcceptedOn c.sender ∨ a.found.receiver = false ∨
        env.ws.channelCapacity ≤ a.found.queue.length)

/-- What the call of the dispatcher of pushes did: the devices of everyone who sees the unit
were read, and each one that can be reached was put on the channel, in their order. -/
structure SnsServed (r : PushRecord Json Time) : Prop where
  unitId : env.ws.parseUuid event.unitId = some r.unitId
  event : r.event = event
  reads : r.reads.length = r.people.length
  pushed : env.snsEnabled = true → r.pushes <:+: life.pushes.sent

/-- Both calls for the alert at an offset have returned, each in a life of the process; an
alert whose unit id is no UUID was skipped. -/
structure Served (lives : List (Life Partition Json Time × Process Json Time))
    (partition : Partition) (offset : ℕ) : Prop where
  ws : ∃ life ∈ lives, ∃ h ∈ life.1.ws, h.key = (partition, offset, event) ∧
    (h.record = none → env.ws.parseUuid event.unitId = none) ∧
      ∀ r, h.record = some r → WsServed env life.1 event r
  sns : ∃ life ∈ lives, ∃ h ∈ life.1.sns, h.key = (partition, offset, event) ∧
    (h.record = none → env.ws.parseUuid event.unitId = none) ∧
      ∀ r, h.record = some r → SnsServed env life.1 event r

variable {env}

/-- A returned call is found in the life it was made in. -/
theorem exists_life_of_mem {Record : Type}
    (calls : Life Partition Json Time → List (Handled Partition Json Time Record))
    (p : Process Json Time) {key : Partition × ℕ × AlertEvent Json Time}
    (h : key ∈ (l.past.flatMap fun life => (calls life.1).map Handled.key) ++
      (calls l.current).map Handled.key) :
    ∃ life ∈ l.lives p, ∃ h ∈ calls life.1, h.key = key := by
  obtain hpast | hcurrent := List.mem_append.mp h
  · obtain ⟨life, hlife, hmem⟩ := List.mem_flatMap.mp hpast
    obtain ⟨handled, hhandled, hkey⟩ := List.mem_map.mp hmem
    exact ⟨life, List.mem_append_left _ hlife, handled, hhandled, hkey⟩
  · obtain ⟨handled, hhandled, hkey⟩ := List.mem_map.mp hcurrent
    exact ⟨(l.current, p), List.mem_append_right _ (List.mem_singleton_self _), handled,
      hhandled, hkey⟩

/-- Every life, the present one included, is accounted for. -/
theorem Lived.kept (h : Lived env l s) {life : Life Partition Json Time × Process Json Time}
    (hlife : life ∈ l.lives s.process) : Kept env life.1 life.2 := by
  obtain hpast | hcurrent := List.mem_append.mp hlife
  · exact h.past life hpast
  · rw [List.mem_singleton.mp hcurrent]
    exact h.current

/-- An alert whose two calls have returned was served. -/
theorem served_of_dispatched (h : Lived env l s) {partition : Partition} {offset : ℕ}
    {event : AlertEvent Json Time} (hdispatched : l.dispatches.Dispatched partition offset event) :
    Served env event (l.lives s.process) partition offset := by
  obtain ⟨hws, hsns⟩ := hdispatched
  refine ⟨?_, ?_⟩
  · obtain ⟨life, hlife, handled, hmem, hkey⟩ :=
      exists_life_of_mem Life.ws s.process hws
    have hkept := h.kept hlife
    have hhandled := hkept.ws handled hmem
    have hevent : handled.event = event := congrArg (fun key => key.2.2) hkey
    refine ⟨life, hlife, handled, hmem, hkey, hevent ▸ hhandled.skipped, fun r hr => ?_⟩
    obtain ⟨hunit, hmessage, hfinished⟩ := hhandled.served r hr
    rw [hevent] at hunit hmessage
    exact ⟨hunit, hmessage, hfinished, fun c hc =>
      tried_of_finished hkept.registry.subscribed hkept.recorded hfinished hc⟩
  · obtain ⟨life, hlife, handled, hmem, hkey⟩ :=
      exists_life_of_mem Life.sns s.process hsns
    have hhandled := (h.kept hlife).sns handled hmem
    have hevent : handled.event = event := congrArg (fun key => key.2.2) hkey
    refine ⟨life, hlife, handled, hmem, hkey, hevent ▸ hhandled.skipped, fun r hr => ?_⟩
    obtain ⟨hunit, hsame, hreads, hpushed⟩ := hhandled.served r hr
    rw [hevent] at hunit hsame
    exact ⟨hunit, hsame, hreads, hpushed⟩

end Alerts

/-! ## Every run -/

section Runs

variable [DecidableEq Partition]

/-- The lives are accounted for in every run. -/
theorem lived_serviceLedgerRun {actions : List (ServiceAction Partition Payload Json Time)}
    (hrun : serviceLedgerRun env actions = some (l, s)) : Lived env l s := by
  refine Runs.invariant_of_observed lived_init ?_ hrun
  intro l s a s' h hstep
  exact lived_serviceStep h hstep

/-- **An alert below a committed offset was served**, over any crashes and restarts.  Every
run has its ledger; in every life of the process the deliveries and the pushes are accounted
for, and for every well-formed alert below a committed offset both dispatchers have done
their part in one of the lives: each connection of the unit was tried once and, where the
pushes are enabled, each device that can be reached was put on their channel.
SRC: main.rs:24-157, kafka/consumer.rs:44-121, websocket/dispatcher.rs:35-80,
sns/dispatcher.rs:31-140, sns/publisher.rs:24-42 -/
theorem served_serviceRun (env : ServiceEnv Payload Json Time)
    (actions : List (ServiceAction Partition Payload Json Time))
    (s : Service Partition Payload Json Time) (hrun : serviceRun env actions = some s) :
    ∃ l, serviceLedgerRun env actions = some (l, s) ∧
      (∀ life ∈ l.lives s.process, Delivered env.ws life.1.deliveries life.2.ws ∧
        Accounted life.1.pushes life.2.sns) ∧
      ∀ partition offset, s.kafka.committed partition = some offset →
        ∀ message ∈ (s.kafka.topic partition).records, ∀ event,
          alertOf env.fromSlice message = some event → message.offset < offset →
            Served env event (l.lives s.process) partition message.offset := by
  obtain ⟨l, hledger⟩ := Runs.exists_exec_observed hrun (ServiceLedger.note env)
    ServiceLedger.empty
  have hlived : Lived env l s := lived_serviceLedgerRun hledger
  have hcovered : Covered env.fromSlice l.dispatches s.kafka :=
    covered_dispatchLedgerRun (dispatchLedgerRun_of_serviceLedgerRun hledger)
  refine ⟨l, hledger, ?_, ?_⟩
  · intro life hlife
    have hkept := hlived.kept hlife
    exact ⟨delivered_of_recorded hkept.registry.subscribed hkept.recorded,
      accounted_of_booked hkept.booked⟩
  · intro partition offset hcommitted message hmessage event hevent hbelow
    have hsettled := (hcovered.committed partition offset hcommitted).settled
    exact served_of_dispatched hlived (hsettled message hmessage hbelow event hevent)

end Runs

/-! ## An alert over a crash -/

/-- A message is a control-plane event, and one of them stands for an alert. -/
def serviceEnv : ServiceEnv Event Event ℕ where
  ws := ⟨typedDecoder, phoneEnv.parseUuid, 8⟩
  fromSlice := fun payload =>
    match payload with
    | .userDelete _ => some phoneAlert
    | _ => none
  snsEnabled := true

/-- The process stops in the call of the first life; the second one learns of the phone, takes
the alert up again and puts the push on the channel. -/
def resumedRun : List (ServiceAction ℕ Event Event ℕ) :=
  [.restart noViews, .kafka (.produce 0 0 (some (.userDelete 0))), .kafka (.receive 0), .callWs,
    .crash, .restart noViews] ++ (phoneEvents.map fun e => .ws (.controlEvent e)) ++
    [.kafka (.receive 0), .callWs, .wsReturns]

def pushedRun : List (ServiceAction ℕ Event Event ℕ) :=
  [.readDevices, .sendAlert, .sns (.send 0), .sns (.incEnqueued 0), .sns (.sendAlertDone 0),
    .snsReturns, .commitMessage true, .kafka (.committed 0)]

/-- The service when the dispatcher of pushes is called. -/
def resumed : Service ℕ Event Event ℕ :=
  (serviceRun serviceEnv resumedRun).getD Service.init

/-- The resumed service can call the dispatcher of pushes. -/
theorem serviceStep_resumed :
    serviceStep serviceEnv resumed .callSns = some { resumed with process := { resumed.process with
      push := .reading ⟨phoneAlert, [toLex (10, 5)], []⟩ } } := by
  have hcall : serviceStep serviceEnv resumed .callSns = some { resumed with
      process := resumed.process.callSns phoneEnv.parseUuid phoneAlert } := rfl
  have hstart : PushDispatch.start phoneEnv.parseUuid resumed.process.ws.cache phoneAlert =
      some ⟨phoneAlert, [toLex (10, 5)], []⟩ := by
    rw [← usersForUnit_phoneEvents]
    rfl
  rw [hcall, Process.callSns, hstart]

/-- The alert that a crash interrupted is served by the second life. -/
theorem served_serviceRun_resumed :
    ∃ s l, serviceRun serviceEnv (resumedRun ++ .callSns :: pushedRun) = some s ∧
      serviceLedgerRun serviceEnv (resumedRun ++ .callSns :: pushedRun) = some (l, s) ∧
        s.kafka.committed 0 = some 1 ∧
          Served serviceEnv phoneAlert (l.lives s.process) 0 0 := by
  have hresumed : Runs.exec (serviceStep serviceEnv) Service.init resumedRun = some resumed := rfl
  have hrun : ∃ s, serviceRun serviceEnv (resumedRun ++ .callSns :: pushedRun) = some s ∧
      s.kafka.committed 0 = some 1 ∧
        ⟨0, some (.userDelete 0)⟩ ∈ (s.kafka.topic 0).records := by
    rw [serviceRun, Runs.exec_append, hresumed, Option.bind_some, Runs.exec_cons,
      serviceStep_resumed, Option.bind_some]
    exact ⟨_, rfl, rfl, List.mem_singleton_self _⟩
  obtain ⟨s, hs, hcommitted, hmessage⟩ := hrun
  obtain ⟨l, hledger, -, hserved⟩ := served_serviceRun serviceEnv _ s hs
  exact ⟨s, l, hs, hledger, hcommitted,
    hserved 0 1 hcommitted _ hmessage phoneAlert rfl (by decide)⟩

end AlertDistributor.Analysis
