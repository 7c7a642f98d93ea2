import AlertDistributor.Analysis.StaleCopies
import AlertDistributor.Interface.PushLedger
import Mathlib.Data.List.Perm.Basic

/-!
# The books of the mobile pushes

No push gets lost without being counted: what was enqueued is what the worker missed, what
was published or refused, and what is still on its way.  `Balanced` is the invariant, an
equation for each counter against the ledger of the run; the law of conservation is their
sum.  It holds for any order of the steps of the publishers, the worker and the reporter.
-/

set_option autoImplicit false

namespace AlertDistributor.Analysis

open AlertDistributor.Model AlertDistributor.Interface AlertDistributor.System

variable {Json Time : Type}

/-! ## The counters -/

section Counters

variable (m : SnsMetrics) (c : Counter)

/-- `inc_enqueued` adds one to its counter and to no other. -/
theorem get_incEnqueued : m.incEnqueued.get c = m.get c + if c = .enqueued then 1 else 0 := by
  cases c <;> rfl

/-- `add_lagged` adds its argument to its counter and to no other. -/
theorem get_addLagged (n : ℕ) : (m.addLagged n).get c = m.get c + if c = .lagged then n else 0 := by
  cases c <;> rfl

/-- `inc_published` adds one to its counter and to no other. -/
theorem get_incPublished : m.incPublished.get c = m.get c + if c = .published then 1 else 0 := by
  cases c <;> rfl

/-- `inc_failed` adds one to its counter and to no other. -/
theorem get_incFailed : m.incFailed.get c = m.get c + if c = .failed then 1 else 0 := by
  cases c <;> rfl

/-- A swap leaves zero in its counter and every other counter as it is. -/
theorem get_swapOut (counter : Counter) :
    (m.swapOut counter).get c = if c = counter then 0 else m.get c := by
  cases counter <;> cases c <;> rfl

/-- A swap moves an amount out of a counter and leaves the total as it is. -/
theorem total_swapOut (l : PushLedger Json Time) (counter : Counter) :
    PushLedger.total { l with
      swapped := Function.update l.swapped counter (l.swapped counter + m.get counter) }
      (m.swapOut counter) c = l.total m c := by
  simp only [PushLedger.total, get_swapOut, Function.update_apply]
  by_cases hsame : c = counter
  · simp [hsame]
  · simp [hsame]

end Counters

/-! ## What a step can do -/

section Cases

variable {s s' : SnsState Json Time}

/-- A send takes the first device of a call, which is then uncounted. -/
theorem sendNext_cases {i : ℕ} (hstep : sendNext s i = some s') :
    ∃ event device rest, s.sends[i]? = some ⟨event, device :: rest, false⟩ ∧ s' = { s with
      channel := s.channel.send (device, event)
      sends := s.sends.set i ⟨event, rest, true⟩ } := by
  rw [sendNext] at hstep
  split at hstep
  · rename_i event device rest hcall
    exact ⟨event, device, rest, hcall, (Option.some.inj hstep).symm⟩
  · cases hstep

/-- The count is that of a call that has sent a device and not counted it. -/
theorem countSent_cases {i : ℕ} (hstep : countSent s i = some s') :
    ∃ event rest, s.sends[i]? = some ⟨event, rest, true⟩ ∧ s' = { s with
      metrics := s.metrics.incEnqueued
      sends := s.sends.set i ⟨event, rest, false⟩ } := by
  rw [countSent] at hstep
  split at hstep
  · rename_i event rest hcall
    exact ⟨event, rest, hcall, (Option.some.inj hstep).symm⟩
  · cases hstep

/-- A call returns when it has sent and counted every device. -/
theorem sendAlertDone_cases {i : ℕ} (hstep : sendAlertDone s i = some s') :
    ∃ event, s.sends[i]? = some ⟨event, [], false⟩ ∧
      s' = { s with sends := s.sends.eraseIdx i } := by
  rw [sendAlertDone] at hstep
  split at hstep
  · rename_i event hcall
    exact ⟨event, hcall, (Option.some.inj hstep).symm⟩
  · cases hstep

/-- The pushes that the check at the end of the inner loop leaves in hand. -/
@[simp] theorem unfinished_checkBatch (batch : List (Push Json Time)) :
    (Worker.checkBatch batch).unfinished = batch := by
  unfold Worker.checkBatch
  split <;> rfl

/-- Nothing that was missed is left uncounted after the check. -/
@[simp] theorem skipped_checkBatch (batch : List (Push Json Time)) :
    (Worker.checkBatch batch).skipped = 0 := by
  unfold Worker.checkBatch
  split <;> rfl

/-- A receive takes a push in hand, or is told of missed ones. -/
theorem workerRecv_cases (hstep : workerRecv s = some s') :
    s.worker.skipped = 0 ∧
      ((∃ push channel worker, s.channel.recv = .item push channel ∧
          s' = { s with channel := channel, worker := worker } ∧
          worker.unfinished = s.worker.unfinished ++ [push] ∧ worker.skipped = 0) ∨
        ∃ skipped channel worker, s.channel.recv = .lagged skipped channel ∧
          s' = { s with channel := channel, worker := worker } ∧
          worker.unfinished = s.worker.unfinished ∧ worker.skipped = skipped) := by
  rw [workerRecv] at hstep
  split at hstep
  · rename_i hworker
    split at hstep
    · rename_i push channel hrecv
      refine ⟨by rw [hworker]; rfl, Or.inl ⟨push, channel, _, hrecv,
        (Option.some.inj hstep).symm, ?_, rfl⟩⟩
      rw [hworker]
      rfl
    · rename_i skipped channel hrecv
      refine ⟨by rw [hworker]; rfl, Or.inr ⟨skipped, channel, _, hrecv,
        (Option.some.inj hstep).symm, ?_, rfl⟩⟩
      rw [hworker]
      rfl
    · cases hstep
  · rename_i batch hworker
    split at hstep
    · rename_i push channel hrecv
      refine ⟨by rw [hworker]; rfl, Or.inl ⟨push, channel, _, hrecv,
        (Option.some.inj hstep).symm, ?_, skipped_checkBatch _⟩⟩
      rw [hworker, unfinished_checkBatch]
      rfl
    · rename_i skipped channel hrecv
      refine ⟨by rw [hworker]; rfl, Or.inr ⟨skipped, channel, _, hrecv,
        (Option.some.inj hstep).symm, ?_, rfl⟩⟩
      rw [hworker]
      rfl
    · cases hstep
  · cases hstep

/-- The missed pushes that the worker was told of go into the counter. -/
theorem workerAddLagged_cases (hstep : workerAddLagged s = some s') :
    ∃ worker : Worker Json Time, s' = { s with
        metrics := s.metrics.addLagged s.worker.skipped, worker := worker } ∧
      worker.unfinished = s.worker.unfinished ∧ worker.skipped = 0 := by
  rw [workerAddLagged] at hstep
  split at hstep
  · rename_i skipped hworker
    refine ⟨.first, ?_, ?_, rfl⟩
    · rw [hworker]
      exact (Option.some.inj hstep).symm
    · rw [hworker]
      rfl
  · rename_i batch skipped hworker
    refine ⟨Worker.checkBatch batch, ?_, ?_, skipped_checkBatch batch⟩
    · rw [hworker]
      exact (Option.some.inj hstep).symm
    · rw [hworker, unfinished_checkBatch]
      rfl
  · cases hstep

/-- A delivery ends one pending push and counts it once, by how it ended. -/
theorem workerDeliver_cases {i : ℕ} {outcome : Except SnsError Unit}
    (hstep : workerDeliver s i outcome = some s') :
    ∃ size pending cleaning cleaning' push, s.worker = .delivering size pending cleaning ∧
      pending[i]? = some push ∧ s' = { s with
        metrics := if outcome.isOk then s.metrics.incPublished else s.metrics.incFailed
        worker := .delivering size (pending.eraseIdx i) cleaning' } := by
  rw [workerDeliver] at hstep
  split at hstep
  · rename_i size pending cleaning hworker
    split at hstep
    · cases hstep
    · rename_i device event hpush
      refine ⟨size, pending, cleaning, ?_⟩
      split at hstep
      · exact ⟨cleaning, (device, event), hworker, hpush, (Option.some.inj hstep).symm⟩
      · exact ⟨cleaning ++ [device], (device, event), hworker, hpush,
          (Option.some.inj hstep).symm⟩
      · exact ⟨cleaning, (device, event), hworker, hpush, (Option.some.inj hstep).symm⟩
  · cases hstep

/-- The deadline ends a batch that is being collected, and its delivery starts. -/
theorem deadline_cases (hstep : snsStep s .deadline = some s') :
    ∃ batch, s.worker = .further batch ∧ s' = { s with worker := Worker.deliver batch } := by
  simp only [snsStep] at hstep
  split at hstep
  · rename_i batch hworker
    exact ⟨batch, hworker, (Option.some.inj hstep).symm⟩
  · cases hstep

/-- A delivery that was marking its device is over. -/
theorem cleanedUp_cases {i : ℕ} (hstep : snsStep s (.cleanedUp i) = some s') :
    ∃ size pending cleaning, s.worker = .delivering size pending cleaning ∧
      s' = { s with worker := .delivering size pending (cleaning.eraseIdx i) } := by
  simp only [snsStep] at hstep
  split at hstep
  · rename_i size pending cleaning hworker
    split at hstep
    · exact ⟨size, pending, cleaning, hworker, (Option.some.inj hstep).symm⟩
    · cases hstep
  · cases hstep

/-- The worker is back at the first `recv` when every delivery is over. -/
theorem batchDone_cases (hstep : snsStep s .batchDone = some s') :
    ∃ size, s.worker = .delivering size [] [] ∧ s' = { s with worker := .first } := by
  simp only [snsStep] at hstep
  split at hstep
  · rename_i size hworker
    exact ⟨size, hworker, (Option.some.inj hstep).symm⟩
  · cases hstep

/-- A window begins with all five counters to swap. -/
theorem tick_cases (hstep : snsStep s .tick = some s') :
    s' = { s with reporter := [.resolved, .enqueued, .lagged, .published, .failed] } := by
  simp only [snsStep] at hstep
  split at hstep
  · exact (Option.some.inj hstep).symm
  · cases hstep

/-- The reporter swaps out the next counter of its window. -/
theorem swap_cases (hstep : snsStep s .swap = some s') :
    ∃ counter rest, s.reporter = counter :: rest ∧
      s' = { s with metrics := s.metrics.swapOut counter, reporter := rest } := by
  simp only [snsStep] at hstep
  split at hstep
  · rename_i counter rest hreporter
    exact ⟨counter, rest, hreporter, (Option.some.inj hstep).symm⟩
  · cases hstep

end Cases

/-! ## The books balance -/

/-- Each counter, against what the ledger says of it. -/
structure Balanced (l : PushLedger Json Time) (s : SnsState Json Time) : Prop where
  enqueued : l.total s.metrics .enqueued + s.uncounted = l.sent.length
  lagged : l.total s.metrics .lagged + s.worker.skipped + s.channel.backlog +
    l.received.length = l.sent.length
  published : l.total s.metrics .published = l.succeeded
  failed : l.total s.metrics .failed = l.refused
  fifo : (l.received ++ s.channel.queue).Sublist l.sent
  delivered : l.received.Perm (l.delivered.map Prod.fst ++ s.worker.unfinished)

/-- Nothing is sent, received or counted at the start. -/
theorem balanced_init (capacity : ℕ) :
    Balanced (PushLedger.empty : PushLedger Json Time) (SnsState.init capacity) :=
  ⟨rfl, rfl, rfl, rfl, List.Sublist.refl [], List.Perm.refl []⟩

section Books

variable {l : PushLedger Json Time} {s s' : SnsState Json Time}

/-- A total after an increment of one of the counters. -/
theorem total_add (l : PushLedger Json Time) {m m' : SnsMetrics} {c : Counter} {n : ℕ}
    (h : m'.get c = m.get c + n) : l.total m' c = l.total m c + n := by
  simp only [PushLedger.total, h]
  omega

/-- An element of a list, and the others. -/
theorem perm_cons_eraseIdx {α : Type} {as : List α} {i : ℕ} {a : α} (h : as[i]? = some a) :
    as.Perm (a :: as.eraseIdx i) := by
  obtain ⟨hi, rfl⟩ := List.getElem?_eq_some_iff.mp h
  exact (List.getElem_cons_eraseIdx_perm hi).symm

/-- The uncounted pushes, after a call has changed. -/
theorem uncounted_set {i : ℕ} {call : SendAlert Json Time}
    (hcall : s.sends[i]? = some call) (call' : SendAlert Json Time) :
    (s.sends.set i call').countP SendAlert.uncounted + call.uncounted.toNat =
      s.uncounted + call'.uncounted.toNat := by
  obtain ⟨hi, -⟩ := List.getElem?_eq_some_iff.mp hcall
  have hold := (perm_cons_eraseIdx hcall).countP_eq SendAlert.uncounted
  have hnew := (List.set_perm_cons_eraseIdx hi call').countP_eq SendAlert.uncounted
  rw [SnsState.uncounted, hold, hnew, List.countP_cons, List.countP_cons]
  cases call.uncounted <;> cases call'.uncounted <;> simp

/-- A send adds a push to the channel and one that is uncounted. -/
theorem balanced_send (h : Balanced l s) {i : ℕ} (hstep : sendNext s i = some s') :
    Balanced (l.note s (.send i)) s' := by
  obtain ⟨event, device, rest, hcall, rfl⟩ := sendNext_cases hstep
  have hnote : l.note s (.send i) = { l with sent := l.sent ++ [(device, event)] } := by
    rw [PushLedger.note, hcall]
  have huncounted := uncounted_set hcall ⟨event, rest, true⟩
  have hbacklog := Broadcast.backlog_send s.channel (device, event)
  have henqueued := h.enqueued
  have hlagged := h.lagged
  rw [hnote]
  refine { h with enqueued := ?_, lagged := ?_, fifo := ?_ }
  · show l.total s.metrics .enqueued + (s.sends.set i _).countP _ = (l.sent ++ [_]).length
    rw [List.length_append, List.length_singleton]
    simp only [Bool.toNat_false, Bool.toNat_true] at huncounted
    omega
  · show l.total s.metrics .lagged + s.worker.skipped + (s.channel.send _).backlog +
      l.received.length = (l.sent ++ [_]).length
    rw [List.length_append, List.length_singleton]
    omega
  · show (l.received ++ (s.channel.send _).queue).Sublist (l.sent ++ [_])
    refine ((List.Sublist.refl _).append (s.channel.queue_send_sublist _)).trans ?_
    rw [← List.append_assoc]
    exact h.fifo.append (List.Sublist.refl _)

/-- The count of a sent device takes it from the uncounted ones to the total. -/
theorem balanced_incEnqueued (h : Balanced l s) {i : ℕ} (hstep : countSent s i = some s') :
    Balanced l s' := by
  obtain ⟨event, rest, hcall, rfl⟩ := countSent_cases hstep
  have huncounted := uncounted_set hcall ⟨event, rest, false⟩
  have htotal := total_add l (get_incEnqueued s.metrics .enqueued)
  have henqueued := h.enqueued
  refine { h with enqueued := ?_ }
  show l.total s.metrics.incEnqueued .enqueued + (s.sends.set i _).countP _ = l.sent.length
  simp only [Bool.toNat_false, Bool.toNat_true, if_true] at huncounted htotal
  omega

/-- A call that returns has nothing uncounted, so the books do not change. -/
theorem balanced_sendAlertDone (h : Balanced l s) {i : ℕ}
    (hstep : sendAlertDone s i = some s') : Balanced l s' := by
  obtain ⟨event, hcall, rfl⟩ := sendAlertDone_cases hstep
  have huncounted : (s.sends.eraseIdx i).countP SendAlert.uncounted = s.uncounted := by
    have hperm := (perm_cons_eraseIdx hcall).countP_eq SendAlert.uncounted
    rw [List.countP_cons_of_neg (by simp)] at hperm
    exact hperm.symm
  refine { h with enqueued := ?_ }
  show l.total s.metrics .enqueued + (s.sends.eraseIdx i).countP _ = l.sent.length
  rw [huncounted]
  exact h.enqueued

/-- A receive takes a push from the channel in hand, or the missed ones out of it. -/
theorem balanced_recv (h : Balanced l s) (hstep : workerRecv s = some s') :
    Balanced (l.note s .recv) s' := by
  have hlagged := h.lagged
  obtain ⟨hskipped, ⟨push, channel, worker, hrecv, rfl, hunfinished, hworker⟩ |
    ⟨skipped, channel, worker, hrecv, rfl, hunfinished, hworker⟩⟩ := workerRecv_cases hstep
  · obtain ⟨hbacklog, -, hqueue⟩ := Broadcast.backlog_recv_item hrecv
    have hnote : l.note s .recv = { l with received := l.received ++ [push] } := by
      rw [PushLedger.note, hrecv]
    rw [hnote]
    refine { h with lagged := ?_, fifo := ?_, delivered := ?_ }
    · show l.total s.metrics .lagged + worker.skipped + channel.backlog +
        (l.received ++ [push]).length = l.sent.length
      rw [List.length_append, List.length_singleton]
      omega
    · show (l.received ++ [push] ++ channel.queue).Sublist l.sent
      rw [List.append_assoc, List.singleton_append, ← hqueue]
      exact h.fifo
    · show (l.received ++ [push]).Perm (_ ++ worker.unfinished)
      rw [hunfinished, ← List.append_assoc]
      exact h.delivered.append (List.Perm.refl _)
  · obtain ⟨hbacklog, -, hqueue⟩ := Broadcast.backlog_recv_lagged hrecv
    have hnote : l.note s .recv = l := by
      rw [PushLedger.note, hrecv]
    rw [hnote]
    refine { h with lagged := ?_, fifo := ?_, delivered := ?_ }
    · show l.total s.metrics .lagged + worker.skipped + channel.backlog + l.received.length =
        l.sent.length
      omega
    · show (l.received ++ channel.queue).Sublist l.sent
      rw [hqueue]
      exact h.fifo
    · show l.received.Perm (_ ++ worker.unfinished)
      rw [hunfinished]
      exact h.delivered

/-- The missed pushes move from the hands of the worker into the counter. -/
theorem balanced_addLagged (h : Balanced l s) (hstep : workerAddLagged s = some s') :
    Balanced l s' := by
  obtain ⟨worker, rfl, hunfinished, hskipped⟩ := workerAddLagged_cases hstep
  have htotal := total_add l (get_addLagged s.metrics .lagged s.worker.skipped)
  have hlagged := h.lagged
  refine { h with lagged := ?_, delivered := ?_ }
  · show l.total (s.metrics.addLagged _) .lagged + worker.skipped + s.channel.backlog +
      l.received.length = l.sent.length
    simp only [if_true] at htotal hlagged
    omega
  · show l.received.Perm (_ ++ worker.unfinished)
    rw [hunfinished]
    exact h.delivered

/-- The worker closes a batch, or leaves one that is empty. -/
theorem Balanced.of_worker (h : Balanced l s) {worker : Worker Json Time}
    (hunfinished : worker.unfinished = s.worker.unfinished)
    (hskipped : worker.skipped = s.worker.skipped) :
    Balanced l { s with worker := worker } := by
  refine { h with lagged := ?_, delivered := ?_ }
  · show l.total s.metrics .lagged + worker.skipped + _ + _ = _
    rw [hskipped]
    exact h.lagged
  · show l.received.Perm (_ ++ worker.unfinished)
    rw [hunfinished]
    exact h.delivered

/-- A push that ends moves from the batch to the published or the failed ones. -/
theorem balanced_deliver (h : Balanced l s) {i : ℕ} {outcome : Except SnsError Unit}
    (hstep : workerDeliver s i outcome = some s') :
    Balanced (l.note s (.deliver i outcome)) s' := by
  obtain ⟨size, pending, cleaning, cleaning', push, hworker, hpush, rfl⟩ :=
    workerDeliver_cases hstep
  have hnote : l.note s (.deliver i outcome) =
      { l with delivered := l.delivered ++ [(push, outcome)] } := by
    simp only [PushLedger.note, hworker, hpush]
  have hlagged := h.lagged
  have hpublished := h.published
  have hfailed := h.failed
  have hdelivered := h.delivered
  simp only [hworker, Worker.skipped, Worker.unfinished] at hlagged hdelivered
  have hperm : l.received.Perm
      ((l.delivered ++ [(push, outcome)]).map Prod.fst ++ pending.eraseIdx i) := by
    rw [List.map_append, List.append_assoc]
    exact hdelivered.trans ((perm_cons_eraseIdx hpush).append_left _)
  rw [hnote]
  cases outcome with
  | ok value =>
    have htotal := total_add l (get_incPublished s.metrics .published)
    refine { h with lagged := hlagged, delivered := hperm, published := ?_, failed := ?_ }
    · show l.total s.metrics.incPublished .published = List.countP _ (l.delivered ++ [_])
      rw [htotal, List.countP_append, hpublished]
      rfl
    · show l.total s.metrics .failed = List.countP _ (l.delivered ++ [_])
      rw [List.countP_append, hfailed]
      rfl
  | error reason =>
    have htotal := total_add l (get_incFailed s.metrics .failed)
    refine { h with lagged := hlagged, delivered := hperm, published := ?_, failed := ?_ }
    · show l.total s.metrics .published = List.countP _ (l.delivered ++ [_])
      rw [List.countP_append, hpublished]
      rfl
    · show l.total s.metrics.incFailed .failed = List.countP _ (l.delivered ++ [_])
      rw [htotal, List.countP_append, hfailed]
      rfl

/-- The reporter takes an amount out of a counter, and the observer writes it down. -/
theorem balanced_swap (h : Balanced l s) (hstep : snsStep s .swap = some s') :
    Balanced (l.note s .swap) s' := by
  obtain ⟨counter, rest, hreporter, rfl⟩ := swap_cases hstep
  have hnote : l.note s .swap = { l with
      swapped := Function.update l.swapped counter
        (l.swapped counter + s.metrics.get counter) } := by
    simp only [PushLedger.note, hreporter]
  have htotal := fun c => total_swapOut s.metrics c l counter
  have henqueued := h.enqueued
  have hlagged := h.lagged
  rw [← htotal] at henqueued hlagged
  rw [hnote]
  exact { h with
    enqueued := henqueued
    lagged := hlagged
    published := (htotal .published).trans h.published
    failed := (htotal .failed).trans h.failed }

/-- The books after a step. -/
theorem balanced_snsStep (h : Balanced l s) {a : SnsAction Json Time}
    (hstep : snsStep s a = some s') : Balanced (l.note s a) s' := by
  cases a with
  | incResolved =>
    obtain rfl := Option.some.inj hstep
    exact { h with }
  | sendAlert event devices =>
    obtain rfl := Option.some.inj hstep
    have huncounted : (s.sends ++ [(⟨event, devices, false⟩ : SendAlert Json Time)]).countP
        SendAlert.uncounted = s.uncounted := by
      rw [List.countP_append]
      rfl
    refine { h with enqueued := ?_ }
    show l.total s.metrics .enqueued + (s.sends ++ [_]).countP _ = l.sent.length
    rw [huncounted]
    exact h.enqueued
  | send i => exact balanced_send h hstep
  | incEnqueued i => exact balanced_incEnqueued h hstep
  | sendAlertDone i => exact balanced_sendAlertDone h hstep
  | recv => exact balanced_recv h hstep
  | addLagged => exact balanced_addLagged h hstep
  | deadline =>
    obtain ⟨batch, hworker, rfl⟩ := deadline_cases hstep
    exact h.of_worker (by rw [hworker]; rfl) (by rw [hworker]; rfl)
  | deliver i outcome => exact balanced_deliver h hstep
  | cleanedUp i =>
    obtain ⟨size, pending, cleaning, hworker, rfl⟩ := cleanedUp_cases hstep
    exact h.of_worker (by rw [hworker]; rfl) (by rw [hworker]; rfl)
  | batchDone =>
    obtain ⟨size, hworker, rfl⟩ := batchDone_cases hstep
    exact h.of_worker (by rw [hworker]; rfl) (by rw [hworker]; rfl)
  | tick =>
    obtain rfl := tick_cases hstep
    exact { h with }
  | swap => exact balanced_swap h hstep

/-- Every delivery that has ended is in one of two counters. -/
theorem published_add_failed (h : Balanced l s) :
    l.total s.metrics .published + l.total s.metrics .failed = l.delivered.length := by
  rw [h.published, h.failed, PushLedger.succeeded, PushLedger.refused]
  have hsplit := List.length_eq_countP_add_countP (l := l.delivered) fun d => d.2.isOk
  simp only [Bool.not_eq_true, Bool.decide_eq_false] at hsplit
  exact hsplit.symm

/-- **The law of conservation**, with the pushes that are sent and not counted yet. -/
theorem conserved_of_balanced (h : Balanced l s) :
    l.total s.metrics .enqueued + s.uncounted =
      l.total s.metrics .lagged + l.total s.metrics .published + l.total s.metrics .failed +
        s.channel.queue.length + (s.channel.missed + s.worker.skipped) +
          s.worker.unfinished.length := by
  have henqueued := h.enqueued
  have hlagged := h.lagged
  have hended := published_add_failed h
  have hreceived : l.received.length = l.delivered.length + s.worker.unfinished.length := by
    rw [h.delivered.length_eq, List.length_append, List.length_map]
  simp only [Broadcast.backlog] at hlagged
  omega

end Books

/-! ## The size of a batch -/

/-- A batch that is collected has room for one more; one that is delivered is not larger
than the limit. -/
def Batched : Worker Json Time → Prop
  | .further batch | .furtherLagged batch _ => batch.length < Worker.maxBatch
  | .delivering size pending _ => size ≤ Worker.maxBatch ∧ pending.length ≤ size
  | _ => True

/-- A batch that goes on after the check is not full. -/
theorem batched_checkBatch {batch : List (Push Json Time)}
    (h : batch.length ≤ Worker.maxBatch) : Batched (Worker.checkBatch batch) := by
  unfold Worker.checkBatch
  split
  · exact ⟨h, le_rfl⟩
  · rename_i hroom
    exact Nat.lt_of_not_le hroom

section Batches

variable {s s' : SnsState Json Time}

/-- A receive adds at most one push to a batch that is not full. -/
theorem batched_workerRecv (h : Batched s.worker) (hstep : workerRecv s = some s') :
    Batched s'.worker := by
  rw [workerRecv] at hstep
  split at hstep
  · split at hstep
    · obtain rfl := Option.some.inj hstep
      show 1 < Worker.maxBatch
      decide
    · obtain rfl := Option.some.inj hstep
      trivial
    · cases hstep
  · rename_i batch hworker
    rw [hworker] at h
    split at hstep
    · rename_i push channel hrecv
      obtain rfl := Option.some.inj hstep
      refine batched_checkBatch ?_
      rw [List.length_append, List.length_singleton]
      exact h
    · obtain rfl := Option.some.inj hstep
      exact h
    · cases hstep
  · cases hstep

/-- Counting the missed pushes leaves the batch as it is. -/
theorem batched_workerAddLagged (h : Batched s.worker) (hstep : workerAddLagged s = some s') :
    Batched s'.worker := by
  rw [workerAddLagged] at hstep
  split at hstep
  · obtain rfl := Option.some.inj hstep
    trivial
  · rename_i batch skipped hworker
    rw [hworker] at h
    obtain rfl := Option.some.inj hstep
    exact batched_checkBatch (Nat.le_of_lt h)
  · cases hstep

/-- No step makes a batch too large. -/
theorem batched_snsStep (h : Batched s.worker) {a : SnsAction Json Time}
    (hstep : snsStep s a = some s') : Batched s'.worker := by
  cases a with
  | incResolved | sendAlert =>
    obtain rfl := Option.some.inj hstep
    exact h
  | send i =>
    obtain ⟨event, device, rest, -, rfl⟩ := sendNext_cases hstep
    exact h
  | incEnqueued i =>
    obtain ⟨event, rest, -, rfl⟩ := countSent_cases hstep
    exact h
  | sendAlertDone i =>
    obtain ⟨event, -, rfl⟩ := sendAlertDone_cases hstep
    exact h
  | recv => exact batched_workerRecv h hstep
  | addLagged => exact batched_workerAddLagged h hstep
  | deadline =>
    obtain ⟨batch, hworker, rfl⟩ := deadline_cases hstep
    rw [hworker] at h
    exact ⟨Nat.le_of_lt h, le_rfl⟩
  | deliver i outcome =>
    obtain ⟨size, pending, cleaning, cleaning', push, hworker, hpush, rfl⟩ :=
      workerDeliver_cases hstep
    rw [hworker] at h
    exact ⟨h.1, (List.length_eraseIdx_le pending i).trans h.2⟩
  | cleanedUp i =>
    obtain ⟨size, pending, cleaning, hworker, rfl⟩ := cleanedUp_cases hstep
    rw [hworker] at h
    exact h
  | batchDone =>
    obtain ⟨size, -, rfl⟩ := batchDone_cases hstep
    trivial
  | tick =>
    obtain rfl := tick_cases hstep
    exact h
  | swap =>
    obtain ⟨counter, rest, -, rfl⟩ := swap_cases hstep
    exact h

/-- **No batch exceeds 256 pushes.** -/
theorem batchSize_le (h : Batched s.worker) : s.worker.batchSize ≤ Worker.maxBatch := by
  cases hworker : s.worker with
  | first => exact Nat.zero_le _
  | firstLagged skipped => exact Nat.zero_le _
  | further batch =>
    rw [hworker] at h
    exact Nat.le_of_lt h
  | furtherLagged batch skipped =>
    rw [hworker] at h
    exact Nat.le_of_lt h
  | delivering size pending cleaning =>
    rw [hworker] at h
    exact h.1

end Batches

/-! ## A batch can be finished -/

/-- The worker can come back to its first `recv` without receiving anything more. -/
def Finishes (l : PushLedger Json Time) (s : SnsState Json Time) : Prop :=
  ∃ more l' s', Runs.exec (Runs.observed snsStep PushLedger.note) (l, s) more = some (l', s') ∧
    s'.worker = .first ∧ l'.received = l.received

section Finish

variable {l : PushLedger Json Time} {s s' : SnsState Json Time}

/-- What can be finished after a step that receives nothing can be finished before it. -/
theorem Finishes.of_step {a : SnsAction Json Time} (hstep : snsStep s a = some s')
    (hreceived : (l.note s a).received = l.received) (h : Finishes (l.note s a) s') :
    Finishes l s := by
  obtain ⟨more, l', s'', hrun, hworker, hsame⟩ := h
  refine ⟨a :: more, l', s'', ?_, hworker, hsame.trans hreceived⟩
  have hobserved : Runs.observed snsStep PushLedger.note (l, s) a = some (l.note s a, s') :=
    Runs.observed_eq_some.mpr ⟨hstep, rfl⟩
  rw [Runs.exec_cons, hobserved]
  exact hrun

/-- A worker at the first `recv` has nothing to finish. -/
theorem finishes_first (hworker : s.worker = .first) : Finishes l s :=
  ⟨[], l, s, rfl, hworker, rfl⟩

/-- The devices are marked, and the batch ends. -/
theorem finishes_cleaning {size : ℕ} {cleaning : List UserDevice}
    (hworker : s.worker = .delivering size [] cleaning) : Finishes l s := by
  induction cleaning generalizing s with
  | nil =>
    have hstep : snsStep s .batchDone = some { s with worker := .first } := by
      simp only [snsStep, hworker]
    exact Finishes.of_step hstep rfl (finishes_first rfl)
  | cons device rest ih =>
    have hstep : snsStep s (.cleanedUp 0) =
        some { s with worker := .delivering size [] rest } := by
      simp [snsStep, hworker]
    exact Finishes.of_step hstep rfl (ih rfl)

/-- One publish after the other returns. -/
theorem finishes_delivering {size : ℕ} {pending : List (Push Json Time)}
    {cleaning : List UserDevice} (hworker : s.worker = .delivering size pending cleaning) :
    Finishes l s := by
  induction pending generalizing l s with
  | nil => exact finishes_cleaning hworker
  | cons push rest ih =>
    have hstep : snsStep s (.deliver 0 (.ok ())) = some { s with
        metrics := s.metrics.incPublished
        worker := .delivering size rest cleaning } := by
      simp [snsStep, workerDeliver, hworker]
    have hnote : (l.note s (.deliver 0 (.ok ()))).received = l.received := by
      simp [PushLedger.note, hworker]
    exact Finishes.of_step hstep hnote (ih rfl)

/-- A batch that is being collected is finished by its deadline and its deliveries. -/
theorem finishes_further {batch : List (Push Json Time)} (hworker : s.worker = .further batch) :
    Finishes l s := by
  have hstep : snsStep s .deadline = some { s with worker := Worker.deliver batch } := by
    simp only [snsStep, hworker]
  exact Finishes.of_step hstep rfl (finishes_delivering rfl)

/-- **Every batch can be finished**, wherever the worker stands. -/
theorem finishes (l : PushLedger Json Time) (s : SnsState Json Time) : Finishes l s := by
  cases hworker : s.worker with
  | first => exact finishes_first hworker
  | firstLagged skipped =>
    have hstep : snsStep s .addLagged = some { s with
        metrics := s.metrics.addLagged skipped, worker := .first } := by
      simp only [snsStep, workerAddLagged, hworker]
    exact Finishes.of_step hstep rfl (finishes_first rfl)
  | further batch => exact finishes_further hworker
  | furtherLagged batch skipped =>
    have hstep : snsStep s .addLagged = some { s with
        metrics := s.metrics.addLagged skipped, worker := Worker.checkBatch batch } := by
      simp only [snsStep, workerAddLagged, hworker]
    refine Finishes.of_step hstep rfl ?_
    by_cases hfull : Worker.maxBatch ≤ batch.length
    · exact finishes_delivering (if_pos hfull)
    · exact finishes_further (if_neg hfull)
  | delivering size pending cleaning => exact finishes_delivering hworker

end Finish

/-! ## Every run -/

/-- How the pushes of a run were accounted for. -/
structure Accounted (l : PushLedger Json Time) (s : SnsState Json Time) : Prop where
  /-- The law, when no send is between the channel and its counter: what was enqueued was
  missed, published or refused, or is unread, overwritten and not yet in the counter, or in
  the batch. -/
  balance : s.uncounted = 0 → l.total s.metrics .enqueued =
    l.total s.metrics .lagged + l.total s.metrics .published + l.total s.metrics .failed +
      s.channel.queue.length + (s.channel.missed + s.worker.skipped) +
        s.worker.unfinished.length
  /-- What was enqueued is what was sent. -/
  enqueued : s.uncounted = 0 → l.total s.metrics .enqueued = l.sent.length
  /-- Every push that was received has ended once, or is in the batch. -/
  delivered : l.received.Perm (l.delivered.map Prod.fst ++ s.worker.unfinished)
  /-- The worker receives in the order of the sends. -/
  fifo : (l.received ++ s.channel.queue).Sublist l.sent
  /-- A delivery is counted by how it ended. -/
  published : l.total s.metrics .published = l.succeeded
  failed : l.total s.metrics .failed = l.refused
  batch : s.worker.batchSize ≤ 256

/-- The invariant of a run with its ledger. -/
def Booked (p : PushLedger Json Time × SnsState Json Time) : Prop :=
  Balanced p.1 p.2 ∧ Batched p.2.worker

/-- The books balance in every run, and no batch is too large. -/
theorem booked_pushLedgerRun {capacity : ℕ} {actions : List (SnsAction Json Time)}
    {p : PushLedger Json Time × SnsState Json Time}
    (hrun : pushLedgerRun capacity actions = some p) : Booked p := by
  refine Runs.invariant_of_step ⟨balanced_init capacity, trivial⟩ ?_ hrun
  rintro ⟨l, s⟩ a ⟨l', s'⟩ ⟨hbalanced, hbatched⟩ hstep
  obtain ⟨hs, hl⟩ := Runs.observed_eq_some.mp hstep
  obtain rfl : l' = l.note s a := hl
  exact ⟨balanced_snsStep hbalanced hs, batched_snsStep hbatched hs⟩

/-- The law of conservation is read off the books. -/
theorem accounted_of_booked {l : PushLedger Json Time} {s : SnsState Json Time}
    (h : Booked (l, s)) : Accounted l s := by
  obtain ⟨hbalanced, hbatched⟩ := h
  refine ⟨?_, ?_, hbalanced.delivered, hbalanced.fifo, hbalanced.published, hbalanced.failed,
    batchSize_le hbatched⟩
  · intro hcounted
    have hlaw := conserved_of_balanced hbalanced
    rw [hcounted] at hlaw
    exact hlaw
  · intro hcounted
    have hlaw := hbalanced.enqueued
    rw [hcounted] at hlaw
    exact hlaw

/-- **The pushes are conserved.**  Every run has its ledger.  Whenever no send is between the
channel and its counter, the total of `enqueued` is the sum of the other totals and of the
pushes on their way; every push that was received has ended exactly once or is in the batch,
which has at most 256 pushes and can be finished.
SRC: main.rs:170-228, 252-299, sns/publisher.rs:23-42, sns/metrics.rs:7-65 -/
theorem conservation_snsRun (capacity : ℕ) (actions : List (SnsAction Json Time))
    (s : SnsState Json Time) (hrun : snsRun capacity actions = some s) :
    ∃ l, pushLedgerRun capacity actions = some (l, s) ∧ Accounted l s ∧ Finishes l s := by
  obtain ⟨l, hledger⟩ := Runs.exists_exec_observed hrun PushLedger.note PushLedger.empty
  exact ⟨l, hledger, accounted_of_booked (booked_pushLedgerRun hledger), finishes l s⟩

/-! ## The counters as words -/

section Words

variable {words : Counter → UInt64} {s s' : SnsState Json Time}

/-- The words hold the counters, as far as they can. -/
def HoldsCounters (words : Counter → UInt64) (s : SnsState Json Time) : Prop :=
  ∀ c, words c = UInt64.ofNat (s.metrics.get c)

/-- After a `fetch_add`, which wraps around, a word still holds its counter. -/
theorem HoldsCounters.fetchAdd (h : HoldsCounters words s) {m : SnsMetrics} {counter : Counter}
    {n : ℕ} (hm : ∀ c, m.get c = s.metrics.get c + if c = counter then n else 0) (c : Counter) :
    Function.update words counter (words counter + UInt64.ofNat n) c = UInt64.ofNat (m.get c) := by
  rw [Function.update_apply, hm c]
  split
  · rename_i hsame
    rw [hsame, h counter, UInt64.ofNat_add]
  · exact h c

/-- Every step changes the words as it changes the counters. -/
theorem holdsCounters_snsStep (h : HoldsCounters words s) {a : SnsAction Json Time}
    (hstep : snsStep s a = some s') : HoldsCounters (countWords words s a) s' := by
  cases a with
  | incResolved =>
    obtain rfl := Option.some.inj hstep
    refine h.fetchAdd (n := 1) fun c => ?_
    cases c <;> rfl
  | incEnqueued i =>
    obtain ⟨event, rest, -, rfl⟩ := countSent_cases hstep
    exact h.fetchAdd (n := 1) (get_incEnqueued s.metrics)
  | addLagged =>
    obtain ⟨worker, rfl, -, -⟩ := workerAddLagged_cases hstep
    exact h.fetchAdd fun c => get_addLagged s.metrics c _
  | deliver i outcome =>
    obtain ⟨size, pending, cleaning, cleaning', push, -, -, rfl⟩ := workerDeliver_cases hstep
    cases outcome with
    | ok _ => exact h.fetchAdd (n := 1) (get_incPublished s.metrics)
    | error _ => exact h.fetchAdd (n := 1) (get_incFailed s.metrics)
  | swap =>
    obtain ⟨counter, rest, hreporter, rfl⟩ := swap_cases hstep
    intro c
    rw [countWords, hreporter]
    show Function.update words counter 0 c = UInt64.ofNat ((s.metrics.swapOut counter).get c)
    rw [Function.update_apply, get_swapOut]
    split
    · rfl
    · exact h c
  | sendAlert event devices =>
    obtain rfl := Option.some.inj hstep
    exact h
  | send i =>
    obtain ⟨event, device, rest, -, rfl⟩ := sendNext_cases hstep
    exact h
  | sendAlertDone i =>
    obtain ⟨event, -, rfl⟩ := sendAlertDone_cases hstep
    exact h
  | recv =>
    obtain ⟨-, ⟨push, channel, worker, -, rfl, -⟩ | ⟨skipped, channel, worker, -, rfl, -⟩⟩ :=
      workerRecv_cases hstep
    · exact h
    · exact h
  | deadline =>
    obtain ⟨batch, -, rfl⟩ := deadline_cases hstep
    exact h
  | cleanedUp i =>
    obtain ⟨size, pending, cleaning, -, rfl⟩ := cleanedUp_cases hstep
    exact h
  | batchDone =>
    obtain ⟨size, -, rfl⟩ := batchDone_cases hstep
    exact h
  | tick =>
    obtain rfl := tick_cases hstep
    exact h

/-- **The words are the counters modulo `2 ^ 64`**, in every run.  So a word is the counter as
long as less than `2 ^ 64` was added to it since it was swapped out. -/
theorem words_snsRun {capacity : ℕ} {actions : List (SnsAction Json Time)}
    (hrun : Runs.exec (Runs.observed snsStep countWords) (fun _ => 0, SnsState.init capacity)
      actions = some (words, s)) (c : Counter) :
    (words c).toNat = s.metrics.get c % 2 ^ 64 ∧
      (s.metrics.get c < 2 ^ 64 → (words c).toNat = s.metrics.get c) := by
  have hinit : HoldsCounters (fun _ => 0) (SnsState.init capacity : SnsState Json Time) := by
    intro c
    cases c <;> rfl
  have h : HoldsCounters words s :=
    Runs.invariant_of_observed hinit (fun _ _ _ _ hwords => holdsCounters_snsStep hwords) hrun
  rw [h c, UInt64.toNat_ofNat']
  exact ⟨rfl, Nat.mod_eq_of_lt⟩

end Words

/-! ## A push that is overwritten -/

/-- A channel with one place: of two pushes, the first is missed and the second delivered,
and the reporter swaps two counters out. -/
def overwrittenRun : List (SnsAction Event ℕ) :=
  [.sendAlert phoneAlert [phone "a", phone "b"], .send 0, .incEnqueued 0, .send 0,
    .incEnqueued 0, .recv, .addLagged, .recv, .deadline, .deliver 0 (.ok ()), .batchDone,
    .tick, .swap, .swap]

/-- The law holds in the run with the overwritten push. -/
theorem conservation_snsRun_overwritten :
    ∃ s l, snsRun 1 overwrittenRun = some s ∧ pushLedgerRun 1 overwrittenRun = some (l, s) ∧
      Accounted l s ∧ Finishes l s := by
  have hsome : (snsRun 1 overwrittenRun).isSome := by decide +kernel
  obtain ⟨s, hs⟩ := Option.isSome_iff_exists.mp hsome
  obtain ⟨l, hledger, haccounted, hfinishes⟩ := conservation_snsRun 1 overwrittenRun s hs
  exact ⟨s, l, hs, hledger, haccounted, hfinishes⟩

end AlertDistributor.Analysis
