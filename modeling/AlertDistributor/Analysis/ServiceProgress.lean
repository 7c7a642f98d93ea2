import AlertDistributor.Analysis.Service
import Mathlib.Data.Prod.Lex

/-!
# The consumer of alerts is never stuck

An alert in the `join!` is handed over by the steps of the consumer's own task: the two calls,
the sends to the connections and to the channel of the pushes, and the commit.  One of these
steps is always enabled, and each one lowers a rank that no other task touches.  So slow
clients, a slow worker or a busy control plane delay the commit of an alert, but cannot
prevent it.
-/

set_option autoImplicit false

namespace AlertDistributor.Analysis

open AlertDistributor.Model AlertDistributor.Interface AlertDistributor.System

variable {Partition Payload Json Time : Type}

/-! ## What is left to do for the alert in hand -/

/-- A step of the task that works on the alert in hand. -/
def isHandover : ServiceAction Partition Payload Json Time → Bool
  | .ws .trySend | .ws .removeClosed => true
  | .sns (.send _) | .sns (.incEnqueued _) | .sns (.sendAlertDone _) => true
  | .callWs | .wsReturns | .callSns | .readDevices | .sendAlert | .snsReturns => true
  | .commitMessage _ => true
  | _ => false

/-- The calls that have not come to their sends yet. -/
def stage (p : Process Json Time) : ℕ :=
  (if p.wsCalled then 0 else 1) +
    match p.push with
    | .waiting => 2
    | .reading _ => 1
    | .sending => 0

/-- The people whose devices are not read yet. -/
def unread (p : Process Json Time) : ℕ :=
  match p.push with
  | .reading d => d.users.length
  | _ => 0

/-- What a dispatch has still to do: a target may take a send and a removal. -/
def dispatchWork (d : Dispatch Json Time) : ℕ :=
  2 * d.targets.length + d.closed.toList.length

/-- What a call of `send_alert` has still to do: a device takes a send and a count. -/
def sendWork (call : SendAlert Json Time) : ℕ :=
  2 * call.devices.length + call.uncounted.toNat + 1

/-- The sends that are left. -/
def work (p : Process Json Time) : ℕ :=
  (p.ws.dispatch.elim 0 dispatchWork) + (p.sns.sends.map sendWork).sum

/-- The rank of a state, for an alert in hand; the flags tell which calls have returned. -/
def rankOf (p : Process Json Time) (ws sns : Bool) : ℕ × ℕ × ℕ :=
  (stage p, unread p, work p + (if ws then 0 else 1) + if sns then 0 else 1)

/-- What is left to do for the alert in hand. -/
def rank (s : Service Partition Payload Json Time) : ℕ × ℕ × ℕ :=
  match s.kafka.consumer with
  | .dispatching _ _ _ ws sns => rankOf s.process ws sns
  | _ => (0, 0, 0)

/-- First the stages, then the people, then the sends. -/
def Lower : ℕ × ℕ × ℕ → ℕ × ℕ × ℕ → Prop :=
  Prod.Lex (· < ·) (Prod.Lex (· < ·) (· < ·))

/-- The rank cannot fall forever. -/
theorem wellFounded_lower : WellFounded Lower :=
  WellFounded.prod_lex Nat.lt_wfRel.wf (WellFounded.prod_lex Nat.lt_wfRel.wf Nat.lt_wfRel.wf)

/-- A later stage is lower, whatever the rest. -/
theorem lower_of_stage {a a' b b' c c' : ℕ} (h : a < a') : Lower (a, b, c) (a', b', c') :=
  Prod.Lex.left _ _ h

/-- In one stage, more people read are lower. -/
theorem lower_of_unread {a a' b b' c c' : ℕ} (hstage : a = a') (h : b < b') :
    Lower (a, b, c) (a', b', c') :=
  hstage ▸ Prod.Lex.right _ (Prod.Lex.left _ _ h)

/-- With the same people read, less left to send is lower. -/
theorem lower_of_work {a a' b b' c c' : ℕ} (hstage : a = a') (hunread : b = b') (h : c < c') :
    Lower (a, b, c) (a', b', c') :=
  hstage ▸ hunread ▸ Prod.Lex.right _ (Prod.Lex.right _ h)

/-! ## The sends -/

section Sends

variable {s s' : SnsState Json Time}

/-- The work of the calls, after one of them has changed. -/
theorem sum_sendWork_set {sends : List (SendAlert Json Time)} {i : ℕ}
    {call : SendAlert Json Time} (hcall : sends[i]? = some call)
    (call' : SendAlert Json Time) :
    ((sends.set i call').map sendWork).sum + sendWork call =
      (sends.map sendWork).sum + sendWork call' := by
  obtain ⟨hi, -⟩ := List.getElem?_eq_some_iff.mp hcall
  have hold := ((perm_cons_eraseIdx hcall).map sendWork).sum_eq
  have hnew := ((List.set_perm_cons_eraseIdx hi call').map sendWork).sum_eq
  rw [hold, hnew, List.map_cons, List.map_cons, List.sum_cons, List.sum_cons]
  omega

/-- What is left to send, without one of the calls. -/
theorem sum_sendWork_eraseIdx {sends : List (SendAlert Json Time)} {i : ℕ}
    {call : SendAlert Json Time} (hcall : sends[i]? = some call) :
    (sends.map sendWork).sum = ((sends.eraseIdx i).map sendWork).sum + sendWork call := by
  have hperm := ((perm_cons_eraseIdx hcall).map sendWork).sum_eq
  rw [hperm, List.map_cons, List.sum_cons]
  omega

/-- Each step of the publisher does one piece of the work. -/
theorem sends_lower {a : SnsAction Json Time}
    (hhandover : isHandover (.sns a : ServiceAction Partition Payload Json Time) = true)
    (hstep : snsStep s a = some s') :
    (s'.sends.map sendWork).sum < (s.sends.map sendWork).sum := by
  cases a with
  | send i =>
    obtain ⟨event, device, rest, hcall, rfl⟩ := sendNext_cases hstep
    have hsum := sum_sendWork_set hcall ⟨event, rest, true⟩
    simp only [sendWork, List.length_cons, Bool.toNat_false, Bool.toNat_true] at hsum ⊢
    omega
  | incEnqueued i =>
    obtain ⟨event, rest, hcall, rfl⟩ := countSent_cases hstep
    have hsum := sum_sendWork_set hcall ⟨event, rest, false⟩
    simp only [sendWork, Bool.toNat_false, Bool.toNat_true] at hsum ⊢
    omega
  | sendAlertDone i =>
    obtain ⟨event, hcall, rfl⟩ := sendAlertDone_cases hstep
    have hsum := sum_sendWork_eraseIdx hcall
    simp only [sendWork, List.length_nil, Bool.toNat_false] at hsum ⊢
    omega
  | incResolved | sendAlert | recv | addLagged | deadline | deliver | cleanedUp | batchDone |
      tick | swap => cases hhandover

/-- The worker and the reporter leave it alone. -/
theorem sends_kept {a : SnsAction Json Time} (hfree : a.isFree = true)
    (hother : isHandover (.sns a : ServiceAction Partition Payload Json Time) = false)
    (hstep : snsStep s a = some s') : s'.sends = s.sends := by
  cases a with
  | incResolved | sendAlert | cleanedUp => cases hfree
  | send | incEnqueued | sendAlertDone => cases hother
  | recv =>
    obtain ⟨-, ⟨push, channel, worker, -, rfl, -, -⟩ | ⟨skipped, channel, worker, -, rfl, -, -⟩⟩ :=
      workerRecv_cases hstep
    · rfl
    · rfl
  | addLagged =>
    obtain ⟨worker, rfl, -, -⟩ := workerAddLagged_cases hstep
    rfl
  | deadline =>
    obtain ⟨batch, -, rfl⟩ := deadline_cases hstep
    rfl
  | deliver i outcome =>
    obtain ⟨size, pending, cleaning, cleaning', push, -, -, rfl⟩ := workerDeliver_cases hstep
    rfl
  | batchDone =>
    obtain ⟨size, -, rfl⟩ := batchDone_cases hstep
    rfl
  | tick =>
    obtain rfl := tick_cases hstep
    rfl
  | swap =>
    obtain ⟨counter, rest, -, rfl⟩ := swap_cases hstep
    rfl

end Sends

/-! ## The targets -/

section Targets

variable {wsEnv : WsEnv Payload Json} {ws ws' : WsState Json Time}

/-- Each step of the dispatcher does one piece of the work. -/
theorem dispatchWork_lower {a : WsAction Payload Json Time}
    (hhandover : isHandover (.ws a : ServiceAction Partition Payload Json Time) = true)
    (hstep : wsStep wsEnv ws a = some ws') :
    ws'.dispatch.elim 0 dispatchWork < ws.dispatch.elim 0 dispatchWork := by
  cases a with
  | trySend =>
    obtain ⟨U, message, id, sender, rest, c, hdispatch, -, hsent⟩ := trySendNext_cases hstep
    obtain ⟨c', -, rfl⟩ | ⟨-, rfl⟩ | ⟨-, rfl⟩ := hsent
    all_goals
      simp only [hdispatch, Option.elim_some, dispatchWork, List.length_cons, Option.toList_none,
        Option.toList_some, List.length_nil]
      omega
  | removeClosed =>
    obtain ⟨U, message, rest, id, hdispatch, rfl⟩ := removeClosedTarget_cases hstep
    simp only [hdispatch, Option.elim_some, dispatchWork, Option.toList_none,
      Option.toList_some, List.length_cons, List.length_nil]
    omega
  | controlEvent | handshake | openSocket | receive | leave | dropReceiver | dispatchEvent |
      dispatchDone => cases hhandover

/-- The clients and the control-plane consumer leave it alone. -/
theorem dispatch_kept {a : WsAction Payload Json Time} (hfree : a.isFree = true)
    (hother : isHandover (.ws a : ServiceAction Partition Payload Json Time) = false)
    (hstep : wsStep wsEnv ws a = some ws') : ws'.dispatch = ws.dispatch := by
  cases a with
  | dispatchEvent | dispatchDone => cases hfree
  | trySend | removeClosed => cases hother
  | controlEvent | leave =>
    obtain rfl := Option.some.inj hstep
    rfl
  | handshake O u =>
    obtain rfl := Option.some.inj hstep
    obtain ⟨-, heq⟩ | ⟨-, heq⟩ := wsHandler_cases ws O u
    · rw [heq]
    · rw [heq]
  | openSocket i id =>
    obtain ⟨up, context, -, -, -, rfl⟩ := handleSocket_cases hstep
    rfl
  | receive channel =>
    obtain ⟨c, message, rest, -, -, rfl⟩ := receive_cases hstep
    rfl
  | dropReceiver channel =>
    obtain ⟨c, -, rfl⟩ := dropReceiver_cases hstep
    rfl

end Targets

/-! ## Every step of the task lowers the rank -/

section Rank

variable [DecidableEq Partition] {env : ServiceEnv Payload Json Time}
  {s s' : Service Partition Payload Json Time}

/-- An alert is in the `join!`. -/
def Busy (s : Service Partition Payload Json Time) : Prop :=
  ∃ partition message event ws sns,
    s.kafka.consumer = .dispatching partition message event ws sns

omit [DecidableEq Partition] in
/-- The rank of a service with an alert in hand. -/
theorem rank_eq {partition : Partition} {message : LogRecord (Option Payload)}
    {event : AlertEvent Json Time} {ws sns : Bool}
    (hconsumer : s.kafka.consumer = .dispatching partition message event ws sns) :
    rank s = rankOf s.process ws sns := by
  rw [rank, hconsumer]

/-- **A step of the task itself lowers the rank.** -/
theorem lower_of_handover (hbusy : Busy s) (hbusy' : Busy s')
    {a : ServiceAction Partition Payload Json Time} (hstep : serviceStep env s a = some s')
    (hhandover : isHandover a = true) : Lower (rank s') (rank s) := by
  obtain ⟨partition, message, event, ws, sns, hconsumer⟩ := hbusy
  cases a with
  | kafka | cleanedUp | crash | restart => cases hhandover
  | ws a =>
    obtain ⟨-, -, wsState, hws, rfl⟩ := ws_cases hstep
    have hwork := dispatchWork_lower hhandover hws
    rw [rank_eq hconsumer, rank, hconsumer]
    refine lower_of_work rfl rfl ?_
    simp only [work]
    omega
  | sns a =>
    obtain ⟨-, -, snsState, hsns, rfl⟩ := sns_cases hstep
    have hwork := sends_lower hhandover hsns
    rw [rank_eq hconsumer, rank, hconsumer]
    refine lower_of_work rfl rfl ?_
    simp only [work]
    omega
  | callWs =>
    obtain ⟨_, _, _, _, wsState, hcalling, hcalled, -, rfl⟩ := callWs_cases hstep
    rw [rank_eq hconsumer, rank, hconsumer]
    refine lower_of_stage ?_
    simp [stage, hcalled]
  | wsReturns =>
    obtain ⟨_, _, _, _, wsState, hcalling, -, hfinish, -, rfl⟩ := wsReturns_cases hstep
    rw [rank_eq hcalling, rank]
    refine lower_of_work rfl rfl ?_
    obtain ⟨-, rfl⟩ | ⟨-, ⟨U, message', hdispatch⟩, hnone⟩ := finishWs_cases hfinish
    · simp only [work, if_true, Bool.false_eq_true, if_false]
      omega
    · simp only [work, hdispatch, hnone, Option.elim_some, Option.elim_none, if_true,
        Bool.false_eq_true, if_false]
      omega
  | callSns =>
    obtain ⟨_, _, event', _, hcalling, hwaiting, rfl⟩ := callSns_cases hstep
    rw [rank_eq hcalling, rank, hcalling]
    refine lower_of_stage ?_
    unfold Process.callSns
    split
    · simp [stage, hwaiting]
    · simp [stage, hwaiting]
  | readDevices =>
    obtain ⟨event', person, rest, targets, metrics, hpush, -, rfl⟩ :=
      serviceReadDevices_cases hstep
    rw [rank_eq hconsumer, rank, hconsumer]
    refine lower_of_unread ?_ ?_
    · simp only [stage, hpush]
    · simp only [unread, hpush, List.length_cons]
      omega
  | sendAlert =>
    obtain ⟨event', targets, hpush, ⟨-, rfl⟩ | ⟨-, rfl⟩⟩ := serviceSendAlert_cases hstep
    all_goals
      rw [rank_eq hconsumer, rank, hconsumer]
      refine lower_of_stage ?_
      simp only [stage, hpush]
      omega
  | snsReturns =>
    obtain ⟨_, _, _, _, hcalling, -, -, -, rfl⟩ := snsReturns_cases hstep
    rw [rank_eq hcalling, rank]
    refine lower_of_work rfl rfl ?_
    simp only [if_true, Bool.false_eq_true, if_false]
    omega
  | commitMessage ok =>
    obtain ⟨_, _, _, -, -, rfl⟩ := commitMessage_cases hstep
    obtain ⟨_, _, _, _, _, hpolling⟩ := hbusy'
    cases hpolling

/-- The other tasks do not touch what is left to do. -/
theorem rank_kept (hbusy : Busy s) (hbusy' : Busy s')
    {a : ServiceAction Partition Payload Json Time} (hstep : serviceStep env s a = some s')
    (hother : isHandover a = false) : rank s' = rank s := by
  obtain ⟨partition, message, event, ws, sns, hconsumer⟩ := hbusy
  cases a with
  | callWs | wsReturns | callSns | readDevices | sendAlert | snsReturns | commitMessage =>
    cases hother
  | kafka a =>
    obtain ⟨hfree, kafka, hkafka, rfl⟩ := kafka_cases hstep
    obtain hsame | ⟨hpolling, -⟩ := consumer_of_free hfree hkafka
    · rw [rank, rank, hsame]
    · cases hconsumer.symm.trans hpolling
  | ws a =>
    obtain ⟨-, hfree, wsState, hws, rfl⟩ := ws_cases hstep
    rw [rank_eq hconsumer, rank, hconsumer]
    simp only [rankOf, stage, unread, work, dispatch_kept hfree hother hws]
  | sns a =>
    obtain ⟨-, hfree, snsState, hsns, rfl⟩ := sns_cases hstep
    rw [rank_eq hconsumer, rank, hconsumer]
    simp only [rankOf, stage, unread, work, sends_kept hfree hother hsns]
  | cleanedUp i ok =>
    obtain ⟨size, pending, cleaning, cache, -, -, rfl⟩ := serviceCleanedUp_cases hstep
    rfl
  | crash =>
    obtain ⟨-, rfl⟩ := serviceCrash_cases hstep
    obtain ⟨_, _, _, _, _, hdown⟩ := hbusy'
    cases hdown
  | restart views =>
    obtain ⟨hdown, -, -⟩ := serviceRestart_cases hstep
    cases hconsumer.symm.trans hdown

end Rank

/-! ## One of the steps is always enabled -/

section Enabled

variable [DecidableEq Partition] {env : ServiceEnv Payload Json Time}
  {l : ServiceLedger Partition Json Time} {s : Service Partition Payload Json Time}
  {partition : Partition} {message : LogRecord (Option Payload)}
  {event : AlertEvent Json Time}

/-- The task that works on the alert in hand can go on. -/
def CanGoOn (env : ServiceEnv Payload Json Time) (s : Service Partition Payload Json Time) :
    Prop :=
  ∃ a, isHandover a = true ∧ (serviceStep env s a).isSome = true

omit [DecidableEq Partition] in
/-- A process with an alert in hand is running. -/
theorem running_of_dispatching {ws sns : Bool}
    (hconsumer : s.kafka.consumer = .dispatching partition message event ws sns) :
    s.kafka.running = true := by
  rw [KafkaState.running, hconsumer]

/-- The dispatcher of the WebSocket side has called, tries its targets, and returns. -/
theorem canGoOn_ws (h : Lived env l s) {sns : Bool}
    (hconsumer : s.kafka.consumer = .dispatching partition message event false sns) :
    CanGoOn env s := by
  obtain ⟨hwsInHand, -⟩ := h.dispatching hconsumer
  have hrunning := running_of_dispatching hconsumer
  have hsteps := dispatchSteps_of_recorded h.current.registry.subscribed h.current.recorded
  have hreturns : ∀ ws, finishWs env s.process.ws = some ws → s.process.wsCalled = true →
      CanGoOn env s := by
    intro ws hfinish hcalled
    refine ⟨.wsReturns, rfl, ?_⟩
    simp only [serviceStep, hcalled, if_true, hfinish, Option.bind_some, kafkaStep, hconsumer,
      Option.map_some, Option.isSome_some]
  cases hcalled : s.process.wsCalled with
  | false =>
    have hidle : s.process.ws.dispatch = none := hwsInHand.idle (.inr hcalled)
    have hdispatch : ∃ ws, dispatchEvent env.ws s.process.ws event = some ws := by
      simp only [dispatchEvent, hidle]
      cases env.ws.parseUuid event.unitId with
      | none => exact ⟨_, rfl⟩
      | some U => exact ⟨_, rfl⟩
    obtain ⟨ws, hws⟩ := hdispatch
    refine ⟨.callWs, rfl, ?_⟩
    simp only [serviceStep, Service.callWs, hconsumer, hcalled, Bool.false_eq_true, if_false,
      hws, Option.map_some, Option.isSome_some]
  | true =>
    cases hdispatch : s.process.ws.dispatch with
    | none => exact hreturns s.process.ws (by simp only [finishWs, hdispatch]) hcalled
    | some d =>
      obtain ⟨U, alert, targets, closed⟩ := d
      cases closed with
      | some id =>
        obtain ⟨ws, hws, -⟩ := hsteps.removeClosed U alert targets id hdispatch
        refine ⟨.ws .removeClosed, rfl, ?_⟩
        simp only [serviceStep, hrunning, WsAction.isFree, Bool.and_self, if_true, hws,
          Option.map_some, Option.isSome_some]
      | none =>
        cases targets with
        | nil =>
          have hdone := hsteps.dispatchDone U alert hdispatch
          refine hreturns { s.process.ws with dispatch := none } ?_ hcalled
          simp only [finishWs, hdispatch, hdone]
        | cons target rest =>
          obtain ⟨id, channel⟩ := target
          obtain ⟨ws, closed, hws, -⟩ := hsteps.trySend U alert id channel rest hdispatch
          refine ⟨.ws .trySend, rfl, ?_⟩
          simp only [serviceStep, hrunning, WsAction.isFree, Bool.and_self, if_true, hws,
            Option.map_some, Option.isSome_some]

/-- `send_alert` sends and counts its devices one by one, and returns. -/
theorem canGoOn_sends {sns : Bool} {ws : Bool}
    (hconsumer : s.kafka.consumer = .dispatching partition message event ws sns)
    {rest : List UserDevice} {uncounted : Bool}
    (hsends : s.process.sns.sends = [⟨event, rest, uncounted⟩]) : CanGoOn env s := by
  have hrunning := running_of_dispatching hconsumer
  cases uncounted with
  | true =>
    refine ⟨.sns (.incEnqueued 0), rfl, ?_⟩
    simp only [serviceStep, hrunning, SnsAction.isFree, Bool.and_self, if_true, snsStep,
      countSent, hsends, List.getElem?_cons_zero, Option.map_some, Option.isSome_some]
  | false =>
    cases rest with
    | nil =>
      refine ⟨.sns (.sendAlertDone 0), rfl, ?_⟩
      simp only [serviceStep, hrunning, SnsAction.isFree, Bool.and_self, if_true, snsStep,
        sendAlertDone, hsends, List.getElem?_cons_zero, Option.map_some, Option.isSome_some]
    | cons device rest =>
      refine ⟨.sns (.send 0), rfl, ?_⟩
      simp only [serviceStep, hrunning, SnsAction.isFree, Bool.and_self, if_true, snsStep,
        sendNext, hsends, List.getElem?_cons_zero, Option.map_some, Option.isSome_some]

/-- As long as the dispatcher of pushes has not returned, its next step is enabled. -/
theorem canGoOn_sns (h : Lived env l s) {ws : Bool}
    (hconsumer : s.kafka.consumer = .dispatching partition message event ws false) :
    CanGoOn env s := by
  obtain ⟨-, hsnsInHand⟩ := h.dispatching hconsumer
  unfold SnsInHand at hsnsInHand
  have hreturns : s.process.push = .sending → s.process.sns.sends = [] → CanGoOn env s := by
    intro hsending hsends
    refine ⟨.snsReturns, rfl, ?_⟩
    simp only [serviceStep, Process.snsDone, hsending, hsends, List.isEmpty_nil, if_true,
      kafkaStep, hconsumer, Option.map_some, Option.isSome_some]
  cases hpush : s.process.push with
  | waiting =>
    refine ⟨.callSns, rfl, ?_⟩
    simp only [serviceStep, Service.callSns, hconsumer, hpush, Option.isSome_some]
  | reading d =>
    obtain ⟨event', users, targets⟩ := d
    cases users with
    | nil =>
      have hsend : ∃ process, s.process.sendAlert env.snsEnabled = some process := by
        simp only [Process.sendAlert, hpush]
        split
        · exact ⟨_, rfl⟩
        · exact ⟨_, rfl⟩
      obtain ⟨process, hprocess⟩ := hsend
      refine ⟨.sendAlert, rfl, ?_⟩
      simp only [serviceStep, hprocess, Option.map_some, Option.isSome_some]
    | cons person rest =>
      refine ⟨.readDevices, rfl, ?_⟩
      simp only [serviceStep, Process.readDevices, hpush, PushDispatch.readDevices,
        Option.map_some, Option.isSome_some]
  | sending =>
    simp only [hpush] at hsnsInHand
    obtain ⟨-, hsends, -⟩ | ⟨-, r, -, hsending⟩ := hsnsInHand
    · exact hreturns hpush hsends
    · cases henabled : env.snsEnabled with
      | false => exact hreturns hpush (hsending.disabled henabled)
      | true =>
        obtain ⟨before, sent, rest, -, -, ⟨hsends, -⟩ | ⟨uncounted, hsends⟩⟩ :=
          hsending.enabled henabled
        · exact hreturns hpush hsends
        · exact canGoOn_sends hconsumer hsends

/-- **An alert in hand never waits for anyone else.** -/
theorem canGoOn (h : Lived env l s) {ws sns : Bool}
    (hconsumer : s.kafka.consumer = .dispatching partition message event ws sns) :
    CanGoOn env s := by
  cases ws with
  | false => exact canGoOn_ws h hconsumer
  | true =>
    cases sns with
    | false => exact canGoOn_sns h hconsumer
    | true =>
      refine ⟨.commitMessage true, rfl, ?_⟩
      simp only [serviceStep, kafkaStep, hconsumer, Option.map_some, Option.isSome_some]

end Enabled

/-! ## The commit of an alert -/

section Commit

variable [DecidableEq Partition] {env : ServiceEnv Payload Json Time}
  {s s' : Service Partition Payload Json Time}

/-- The alert that is in the `join!`, with its message. -/
def inHand? (s : Service Partition Payload Json Time) :
    Option (Partition × LogRecord (Option Payload) × AlertEvent Json Time) :=
  match s.kafka.consumer with
  | .dispatching partition message event _ _ => some (partition, message, event)
  | _ => none

omit [DecidableEq Partition] in
/-- Busy is to have an alert in hand. -/
theorem busy_iff : Busy s ↔ ∃ alert, inHand? s = some alert := by
  unfold Busy inHand?
  cases s.kafka.consumer with
  | down => simp
  | polling => simp
  | dispatching partition message event ws sns => simp

/-- An alert leaves the hand of the consumer by its commit, or in a crash. -/
theorem inHand?_step (hbusy : Busy s) {a : ServiceAction Partition Payload Json Time}
    (hstep : serviceStep env s a = some s') (hcrash : a ≠ .crash) :
    inHand? s' = inHand? s ∨ ∃ ok, a = .commitMessage ok := by
  obtain ⟨partition, message, event, ws, sns, hconsumer⟩ := hbusy
  cases a with
  | kafka a =>
    obtain ⟨hfree, kafka, hkafka, rfl⟩ := kafka_cases hstep
    obtain hsame | ⟨hpolling, -⟩ := consumer_of_free hfree hkafka
    · exact .inl (by rw [inHand?, inHand?, hsame])
    · cases hconsumer.symm.trans hpolling
  | ws a =>
    obtain ⟨-, -, wsState, -, rfl⟩ := ws_cases hstep
    exact .inl rfl
  | sns a =>
    obtain ⟨-, -, snsState, -, rfl⟩ := sns_cases hstep
    exact .inl rfl
  | callWs =>
    obtain ⟨_, _, _, _, wsState, -, -, -, rfl⟩ := callWs_cases hstep
    exact .inl rfl
  | wsReturns =>
    obtain ⟨_, _, _, _, wsState, hcalling, -, -, -, rfl⟩ := wsReturns_cases hstep
    exact .inl (by rw [inHand?, inHand?, hcalling])
  | callSns =>
    obtain ⟨_, _, event', _, -, -, rfl⟩ := callSns_cases hstep
    exact .inl rfl
  | readDevices =>
    obtain ⟨_, _, _, _, metrics, -, -, rfl⟩ := serviceReadDevices_cases hstep
    exact .inl rfl
  | sendAlert =>
    obtain ⟨_, targets, -, ⟨-, rfl⟩ | ⟨-, rfl⟩⟩ := serviceSendAlert_cases hstep
    · exact .inl rfl
    · exact .inl rfl
  | snsReturns =>
    obtain ⟨_, _, _, _, hcalling, -, -, -, rfl⟩ := snsReturns_cases hstep
    exact .inl (by rw [inHand?, inHand?, hcalling])
  | cleanedUp i ok =>
    obtain ⟨_, _, _, cache, -, -, rfl⟩ := serviceCleanedUp_cases hstep
    exact .inl rfl
  | commitMessage ok => exact .inr ⟨ok, rfl⟩
  | crash => exact absurd rfl hcrash
  | restart views =>
    obtain ⟨hdown, -, -⟩ := serviceRestart_cases hstep
    cases hconsumer.symm.trans hdown

omit [DecidableEq Partition] in
/-- So with the same alert in hand the service stays busy. -/
theorem busy_of_inHand?_eq (hbusy : Busy s) (h : inHand? s' = inHand? s) : Busy s' := by
  rw [busy_iff] at hbusy ⊢
  rwa [h]

section Forever

variable {states : ℕ → Service Partition Payload Json Time}
  {later : ℕ → ServiceAction Partition Payload Json Time}

/-- An alert stays in hand up to its commit. -/
theorem inHand?_of_no_commit (hbusy : Busy (states 0))
    (hsteps : ∀ n, serviceStep env (states n) (later n) = some (states (n + 1)))
    (hcrash : ∀ n, later n ≠ .crash) {n : ℕ}
    (hnone : ∀ m < n, ∀ ok, later m ≠ .commitMessage ok) :
    inHand? (states n) = inHand? (states 0) := by
  induction n with
  | zero => rfl
  | succ n ih =>
    have hsame := ih fun m hm => hnone m (Nat.lt_succ_of_lt hm)
    obtain hkept | ⟨ok, hcommit⟩ :=
      inHand?_step (busy_of_inHand?_eq hbusy hsame) (hsteps n) (hcrash n)
    · exact hkept.trans hsame
    · exact absurd hcommit (hnone n (Nat.lt_succ_self n) ok)

/-- A task that keeps working as long as it is busy is not busy forever. -/
theorem exists_not_busy_of_fair
    (hsteps : ∀ n, serviceStep env (states n) (later n) = some (states (n + 1)))
    (hfair : ∀ n, Busy (states n) → ∃ m, n ≤ m ∧ isHandover (later m) = true) :
    ∃ n, ¬ Busy (states n) := by
  by_contra hnever
  have hbusy : ∀ n, Busy (states n) := fun n => not_not.mp fun h => hnever ⟨n, h⟩
  have hhelpful : ∀ (s : Service Partition Payload Json Time) a s', Busy s → Busy s' →
      serviceStep env s a = some s' → isHandover a = true → Lower (rank s') (rank s) :=
    fun s a s' hbusy hbusy' hstep hhandover => lower_of_handover hbusy hbusy' hstep hhandover
  have hother : ∀ (s : Service Partition Payload Json Time) a s', Busy s → Busy s' →
      serviceStep env s a = some s' → ¬ isHandover a = true → rank s' = rank s :=
    fun s a s' hbusy hbusy' hstep hother =>
      rank_kept hbusy hbusy' hstep (Bool.not_eq_true _ ▸ hother)
  exact hnever (Runs.exists_not_busy wellFounded_lower rank hhelpful hother hsteps
    fun n => hfair n (hbusy n))

end Forever

/-- **An alert in hand comes to its commit**, unless the process crashes.  In every state of
every run the task that works on the alert can go on; and if it does go on, between whatever
steps of the clients, the worker, the reporter, the control plane and the broker, it comes to
`commit_message` for this alert, which may succeed or fail.
SRC: kafka/consumer.rs:87-106, websocket/dispatcher.rs:35-80, sns/dispatcher.rs:31-140,
sns/publisher.rs:24-42 -/
theorem commits_of_fair (env : ServiceEnv Payload Json Time)
    (actions : List (ServiceAction Partition Payload Json Time))
    (s : Service Partition Payload Json Time) (hrun : serviceRun env actions = some s)
    (hbusy : Busy s) :
    CanGoOn env s ∧
      ∀ (states : ℕ → Service Partition Payload Json Time)
        (later : ℕ → ServiceAction Partition Payload Json Time), states 0 = s →
        (∀ n, serviceStep env (states n) (later n) = some (states (n + 1))) →
        (∀ n, later n ≠ .crash) →
        (∀ n, Busy (states n) → ∃ m, n ≤ m ∧ isHandover (later m) = true) →
          ∃ n ok, later n = .commitMessage ok ∧ ∀ m ≤ n, inHand? (states m) = inHand? s := by
  obtain ⟨l, hledger⟩ := Runs.exists_exec_observed hrun (ServiceLedger.note env)
    ServiceLedger.empty
  have hlived : Lived env l s := lived_serviceLedgerRun hledger
  obtain ⟨partition, message, event, ws, sns, hconsumer⟩ := hbusy
  refine ⟨canGoOn hlived hconsumer, ?_⟩
  intro states later hstart hsteps hcrash hfair
  obtain rfl := hstart
  have hbusy : Busy (states 0) := ⟨partition, message, event, ws, sns, hconsumer⟩
  -- without a commit the alert would be in hand forever
  have hcommits : ∃ n ok, later n = .commitMessage ok := by
    by_contra hnever
    obtain ⟨n, hleft⟩ := exists_not_busy_of_fair hsteps hfair
    refine hleft (busy_of_inHand?_eq hbusy (inHand?_of_no_commit hbusy hsteps hcrash ?_))
    intro m _ ok heq
    exact hnever ⟨m, ok, heq⟩
  classical
  obtain ⟨ok, hcommit⟩ := Nat.find_spec hcommits
  refine ⟨Nat.find hcommits, ok, hcommit, fun m hm => ?_⟩
  refine inHand?_of_no_commit hbusy hsteps hcrash fun k hk ok' heq => ?_
  exact Nat.find_min hcommits (Nat.lt_of_lt_of_le hk hm) ⟨ok', heq⟩

end Commit

/-- What the task still does for the alert of the resumed run. -/
def restOfResumed : List (ServiceAction ℕ Event Event ℕ) :=
  [.callSns, .readDevices, .sendAlert, .sns (.send 0), .sns (.incEnqueued 0),
    .sns (.sendAlertDone 0), .snsReturns, .commitMessage true]

/-- What is left to do can be done, and then the consumer polls again. -/
theorem exec_restOfResumed :
    ∃ s, Runs.exec (serviceStep serviceEnv) resumed restOfResumed = some s ∧
      s.kafka.consumer = .polling := by
  rw [restOfResumed, Runs.exec_cons, serviceStep_resumed, Option.bind_some]
  exact ⟨_, rfl, rfl⟩

/-- The consumer of the resumed run finishes the second call, commits the alert, and gets
nothing but errors from then on. -/
theorem commits_of_fair_resumed :
    ∃ states : ℕ → Service ℕ Event Event ℕ, states 0 = resumed ∧
      (∀ n, serviceStep serviceEnv (states n)
        ((restOfResumed[n]?).getD (.kafka .receiveError)) = some (states (n + 1))) ∧
      ∃ n ok, (restOfResumed[n]?).getD (.kafka .receiveError) = .commitMessage ok ∧
        ∀ m ≤ n, inHand? (states m) = some (0, ⟨0, some (.userDelete 0)⟩, phoneAlert) := by
  have hresumed : serviceRun serviceEnv resumedRun = some resumed := rfl
  have hbusy : Busy resumed := ⟨0, ⟨0, some (.userDelete 0)⟩, phoneAlert, true, false, rfl⟩
  obtain ⟨s, hs, hpolling⟩ := exec_restOfResumed
  have hidle : serviceStep serviceEnv s (.kafka .receiveError) = some s := by
    simp only [serviceStep, KafkaAction.isFree, kafkaStep, hpolling, if_true, Option.map_some]
  obtain ⟨states, hstart, hsteps, hend⟩ := Runs.exists_forever hs hidle
  refine ⟨states, hstart, hsteps, ?_⟩
  refine (commits_of_fair serviceEnv resumedRun resumed hresumed hbusy).2 states _ hstart hsteps
    ?_ ?_
  · intro n hcrash
    have hmem : .crash ∈ restOfResumed := by
      cases hn : restOfResumed[n]? with
      | none => rw [hn] at hcrash; cases hcrash
      | some action =>
        rw [hn, Option.getD_some] at hcrash
        exact hcrash ▸ List.mem_of_getElem? hn
    simp [restOfResumed] at hmem
  · intro n hn
    refine ⟨7, ?_, rfl⟩
    by_contra hlate
    obtain ⟨partition, message, event, ws, sns, hconsumer⟩ := hn
    rw [hend n (by show 8 ≤ n; omega), hpolling] at hconsumer
    cases hconsumer

end AlertDistributor.Analysis
