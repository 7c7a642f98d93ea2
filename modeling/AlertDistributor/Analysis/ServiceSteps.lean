import AlertDistributor.Analysis.AlertsConsumerSteps
import AlertDistributor.Analysis.WebSocketSteps
import AlertDistributor.Interface.ServiceLedger

/-!
# What each action of the service does

One inversion lemma for every action of `serviceStep`: when it is enabled, and the state it
leaves.
-/

set_option autoImplicit false

namespace AlertDistributor.Analysis

open AlertDistributor.Model AlertDistributor.Interface AlertDistributor.System

variable {Partition Payload Json Time : Type} [DecidableEq Partition]
  {env : ServiceEnv Payload Json Time} {s s' : Service Partition Payload Json Time}

/-! ## The parts -/

/-- The consumer and the broker by themselves, with an action that is no call. -/
theorem kafka_cases {a : KafkaAction Partition Payload}
    (hstep : serviceStep env s (.kafka a) = some s') :
    a.isFree = true ∧ ∃ kafka,
      kafkaStep AlertsConsumer.config env.fromSlice s.kafka a = some kafka ∧
        s' = { s with kafka := kafka } := by
  simp only [serviceStep] at hstep
  split at hstep
  · rename_i hfree
    obtain ⟨kafka, hkafka, rfl⟩ := Option.map_eq_some_iff.mp hstep
    exact ⟨hfree, kafka, hkafka, rfl⟩
  · cases hstep

/-- The WebSocket side by itself, in a process that is running. -/
theorem ws_cases {a : WsAction Payload Json Time}
    (hstep : serviceStep env s (.ws a) = some s') :
    s.kafka.running = true ∧ a.isFree = true ∧ ∃ ws, wsStep env.ws s.process.ws a = some ws ∧
      s' = { s with process := { s.process with ws := ws } } := by
  simp only [serviceStep] at hstep
  split at hstep
  · rename_i hfree
    obtain ⟨ws, hws, rfl⟩ := Option.map_eq_some_iff.mp hstep
    obtain ⟨hrunning, hfree⟩ := Bool.and_eq_true_iff.mp hfree
    exact ⟨hrunning, hfree, ws, hws, rfl⟩
  · cases hstep

/-- The publisher, the worker and the reporter by themselves. -/
theorem sns_cases {a : SnsAction Json Time}
    (hstep : serviceStep env s (.sns a) = some s') :
    s.kafka.running = true ∧ a.isFree = true ∧ ∃ sns, snsStep s.process.sns a = some sns ∧
      s' = { s with process := { s.process with sns := sns } } := by
  simp only [serviceStep] at hstep
  split at hstep
  · rename_i hfree
    obtain ⟨sns, hsns, rfl⟩ := Option.map_eq_some_iff.mp hstep
    obtain ⟨hrunning, hfree⟩ := Bool.and_eq_true_iff.mp hfree
    exact ⟨hrunning, hfree, sns, hsns, rfl⟩
  · cases hstep

/-- A crash leaves nothing in memory. -/
theorem serviceCrash_cases (hstep : serviceStep env s .crash = some s') :
    kafkaStep AlertsConsumer.config env.fromSlice s.kafka .crash = some s'.kafka ∧
      s' = ⟨{ s.kafka with consumer := .down }, Process.gone⟩ := by
  simp only [serviceStep] at hstep
  obtain ⟨kafka, hkafka, rfl⟩ := Option.map_eq_some_iff.mp hstep
  refine ⟨hkafka, ?_⟩
  rw [kafkaCrash_cases hkafka]

/-- A restart finds the process down. -/
theorem serviceRestart_cases {views : Views} (hstep : serviceStep env s (.restart views) = some s') :
    s.kafka.consumer = .down ∧
      kafkaStep AlertsConsumer.config env.fromSlice s.kafka .restart = some s'.kafka ∧
        s' = ⟨{ s.kafka with
          position := startPosition AlertsConsumer.config s.kafka, consumer := .polling },
          Process.start views⟩ := by
  simp only [serviceStep] at hstep
  obtain ⟨kafka, hkafka, rfl⟩ := Option.map_eq_some_iff.mp hstep
  obtain ⟨hdown, hrestart⟩ := kafkaRestart_cases hkafka
  refine ⟨hdown, hkafka, ?_⟩
  rw [hrestart]

/-! ## The call of the WebSocket dispatcher -/

/-- The WebSocket dispatcher is called once for the alert in hand. -/
theorem callWs_cases (hstep : serviceStep env s .callWs = some s') :
    ∃ partition message event sns ws,
      s.kafka.consumer = .dispatching partition message event false sns ∧
        s.process.wsCalled = false ∧ dispatchEvent env.ws s.process.ws event = some ws ∧
          s' = { s with process := { s.process with ws := ws, wsCalled := true } } := by
  simp only [serviceStep, Service.callWs] at hstep
  split at hstep
  · rename_i partition message event sns hconsumer
    split at hstep
    · cases hstep
    · rename_i hcalled
      obtain ⟨ws, hws, rfl⟩ := Option.map_eq_some_iff.mp hstep
      exact ⟨partition, message, event, sns, ws, hconsumer, Bool.not_eq_true _ ▸ hcalled, hws,
        rfl⟩
  · cases hstep

/-- The dispatcher returns with nothing in hand. -/
theorem finishWs_cases {ws ws' : WsState Json Time} (h : finishWs env ws = some ws') :
    (ws.dispatch = none ∧ ws' = ws) ∨
      wsStep env.ws ws (.dispatchDone : WsAction Payload Json Time) = some ws' ∧
        (∃ U message, ws.dispatch = some ⟨U, message, [], none⟩) ∧ ws'.dispatch = none := by
  rw [finishWs] at h
  split at h
  · rename_i hnone
    exact .inl ⟨hnone, (Option.some.inj h).symm⟩
  · obtain ⟨U, message, hdispatch, hstate⟩ := dispatchDone_cases h
    exact .inr ⟨h, ⟨U, message, hdispatch⟩, by rw [hstate]⟩

/-- It returns when it was called and its dispatch is done. -/
theorem wsReturns_cases (hstep : serviceStep env s .wsReturns = some s') :
    ∃ partition message event sns ws,
      s.kafka.consumer = .dispatching partition message event false sns ∧
        s.process.wsCalled = true ∧ finishWs env s.process.ws = some ws ∧
          kafkaStep AlertsConsumer.config env.fromSlice s.kafka .wsReturns = some s'.kafka ∧
            s' = ⟨{ s.kafka with consumer := .dispatching partition message event true sns },
              { s.process with ws := ws }⟩ := by
  simp only [serviceStep] at hstep
  split at hstep
  · rename_i hcalled
    obtain ⟨ws, hws, hrest⟩ := Option.bind_eq_some_iff.mp hstep
    obtain ⟨kafka, hkafka, rfl⟩ := Option.map_eq_some_iff.mp hrest
    obtain ⟨partition, message, event, sns, hconsumer, hreturns⟩ := kafkaWsReturns_cases hkafka
    refine ⟨partition, message, event, sns, ws, hconsumer, hcalled, hws, hkafka, ?_⟩
    rw [hreturns]
  · cases hstep

/-! ## The call of the dispatcher of pushes -/

/-- The dispatcher of pushes is called once for the alert in hand. -/
theorem callSns_cases (hstep : serviceStep env s .callSns = some s') :
    ∃ partition message event ws,
      s.kafka.consumer = .dispatching partition message event ws false ∧
        s.process.push = .waiting ∧
          s' = { s with process := s.process.callSns env.ws.parseUuid event } := by
  simp only [serviceStep, Service.callSns] at hstep
  split at hstep
  · rename_i partition message event ws hconsumer
    split at hstep
    · rename_i hwaiting
      exact ⟨partition, message, event, ws, hconsumer, hwaiting, (Option.some.inj hstep).symm⟩
    · cases hstep
  · cases hstep

/-- The next person's devices are read, and those that can be reached are targets. -/
theorem serviceReadDevices_cases (hstep : serviceStep env s .readDevices = some s') :
    ∃ event person rest targets metrics,
      s.process.push = .reading ⟨event, person :: rest, targets⟩ ∧
        metrics = { s.process.sns.metrics with
          resolved := s.process.sns.metrics.resolved +
            (PushRecord.reachable person s.process.ws.cache).length } ∧
        s' = { s with process := { s.process with
          push := .reading
            ⟨event, rest, targets ++ PushRecord.reachable person s.process.ws.cache⟩
          sns := { s.process.sns with metrics := metrics } } } := by
  simp only [serviceStep, Process.readDevices] at hstep
  obtain ⟨process, hprocess, rfl⟩ := Option.map_eq_some_iff.mp hstep
  split at hprocess
  · rename_i dispatch hpush
    split at hprocess
    · rename_i next metrics hread
      obtain ⟨event, users, targets⟩ := dispatch
      cases users with
      | nil => cases hread
      | cons person rest =>
        cases hread
        exact ⟨event, person, rest, targets, _, hpush, rfl, by rw [← Option.some.inj hprocess]; rfl⟩
    · cases hprocess
  · cases hprocess

/-- `send_alert` is called with all the targets, or not at all. -/
theorem serviceSendAlert_cases (hstep : serviceStep env s .sendAlert = some s') :
    ∃ event targets, s.process.push = .reading ⟨event, [], targets⟩ ∧
      ((targets = [] ∨ env.snsEnabled = false) ∧
          s' = { s with process := { s.process with push := .sending } } ∨
        env.snsEnabled = true ∧ s' = { s with process := { s.process with
          push := .sending
          sns := { s.process.sns with
            sends := s.process.sns.sends ++ [⟨event, targets, false⟩] } } }) := by
  simp only [serviceStep, Process.sendAlert] at hstep
  obtain ⟨process, hprocess, rfl⟩ := Option.map_eq_some_iff.mp hstep
  split at hprocess
  · rename_i event targets hpush
    refine ⟨event, targets, hpush, ?_⟩
    split at hprocess
    · rename_i hnone
      rw [Bool.or_eq_true_iff, List.isEmpty_iff, Bool.not_eq_true'] at hnone
      exact .inl ⟨hnone, by rw [← Option.some.inj hprocess]⟩
    · rename_i hsome
      rw [Bool.or_eq_true_iff, not_or, Bool.not_eq_true', Bool.not_eq_false] at hsome
      exact .inr ⟨hsome.2, by rw [← Option.some.inj hprocess]⟩
  · cases hprocess

/-- It returns when the publisher has sent everything. -/
theorem snsReturns_cases (hstep : serviceStep env s .snsReturns = some s') :
    ∃ partition message event ws,
      s.kafka.consumer = .dispatching partition message event ws false ∧
        s.process.push = .sending ∧ s.process.sns.sends = [] ∧
          kafkaStep AlertsConsumer.config env.fromSlice s.kafka .snsReturns = some s'.kafka ∧
            s' = { s with kafka := { s.kafka with
              consumer := .dispatching partition message event ws true } } := by
  simp only [serviceStep] at hstep
  split at hstep
  · rename_i hdone
    obtain ⟨kafka, hkafka, rfl⟩ := Option.map_eq_some_iff.mp hstep
    obtain ⟨partition, message, event, ws, hconsumer, hreturns⟩ := kafkaSnsReturns_cases hkafka
    simp only [Process.snsDone] at hdone
    split at hdone
    · rename_i hsending
      refine ⟨partition, message, event, ws, hconsumer, hsending, List.isEmpty_iff.mp hdone,
        hkafka, ?_⟩
      rw [hreturns]
    · cases hdone
  · cases hstep

/-- The commit is requested, or fails, and the calls are over. -/
theorem commitMessage_cases {ok : Bool}
    (hstep : serviceStep env s (.commitMessage ok) = some s') :
    ∃ partition message event,
      s.kafka.consumer = .dispatching partition message event true true ∧
        kafkaStep AlertsConsumer.config env.fromSlice s.kafka (.commitMessage ok) =
            some s'.kafka ∧
          s' = ⟨{ s.kafka with
            commits := if ok then s.kafka.commits ++ [(partition, message.offset + 1)]
              else s.kafka.commits
            consumer := .polling }, { s.process with wsCalled := false, push := .waiting }⟩ := by
  simp only [serviceStep] at hstep
  obtain ⟨kafka, hkafka, rfl⟩ := Option.map_eq_some_iff.mp hstep
  obtain ⟨partition, message, event, hconsumer, hcommit⟩ := kafkaCommitMessage_cases hkafka
  refine ⟨partition, message, event, hconsumer, hkafka, ?_⟩
  rw [hcommit]

/-- The worker forgets a device that it has marked; the cache may forget it as well. -/
theorem serviceCleanedUp_cases {i : ℕ} {ok : Bool}
    (hstep : serviceStep env s (.cleanedUp i ok) = some s') :
    ∃ size pending cleaning cache,
      s.process.sns.worker = .delivering size pending cleaning ∧ i < cleaning.length ∧
        s' = { s with process := { s.process with
          sns := { s.process.sns with
            worker := .delivering size pending (cleaning.eraseIdx i) }
          ws := { s.process.ws with cache := cache } } } := by
  simp only [serviceStep, Process.cleanUp] at hstep
  obtain ⟨process, hprocess, rfl⟩ := Option.map_eq_some_iff.mp hstep
  split at hprocess
  · rename_i size pending cleaning hworker
    split at hprocess
    · cases hprocess
    · rename_i device hdevice
      obtain ⟨hi, -⟩ := List.getElem?_eq_some_iff.mp hdevice
      exact ⟨size, pending, cleaning, _, hworker, hi, by rw [← Option.some.inj hprocess]⟩
  · cases hprocess

end AlertDistributor.Analysis
