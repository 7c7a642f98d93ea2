import AlertDistributor.Analysis.AlertsConsumerSteps
import AlertDistributor.Analysis.StaleCopies
import AlertDistributor.Interface.DispatchLedger

/-!
# What a committed offset says

A commit is requested only after both dispatches of an alert have returned, and the loop
passes a message without a commit only when it carries no alert.  So below an offset that
was ever requested, and below the position of a running member, every alert was dispatched
to both sides.  `Covered` says this of the broker, of the requests under way and of the
member; a crash forgets the member, and a restart takes up a position that is covered.
-/

set_option autoImplicit false

namespace AlertDistributor.Analysis

open AlertDistributor.Model AlertDistributor.Interface AlertDistributor.System

variable {Partition Payload Json Time : Type}

/-! ## Offsets that are covered -/

/-- What one ledger says, the other says as well. -/
structure Grown (l l' : DispatchLedger Partition Json Time) : Prop where
  ws : l.ws ⊆ l'.ws
  sns : l.sns ⊆ l'.sns

section Offsets

variable (fromSlice : Payload → Option (AlertEvent Json Time))
  (l : DispatchLedger Partition Json Time) (log : AlertLog Payload) (partition : Partition)

/-- If the message carries an alert, it was dispatched. -/
def Handed (message : LogRecord (Option Payload)) : Prop :=
  ∀ event, alertOf fromSlice message = some event → l.Dispatched partition message.offset event

/-- An offset up to which a member may have read. -/
structure Reached (position : ℕ) : Prop where
  le_end : position ≤ log.endOffset
  settled : log.Settled (Handed fromSlice l partition) position

/-- An offset that may be committed: one past an alert, with nothing below that is not
dispatched. -/
structure CommitPoint (offset : ℕ) : Prop where
  settled : log.Settled (Handed fromSlice l partition) offset
  after : ∃ message ∈ log.records, ∃ event, alertOf fromSlice message = some event ∧
    offset = message.offset + 1

end Offsets

section OffsetRules

variable {fromSlice : Payload → Option (AlertEvent Json Time)}
  {l l' : DispatchLedger Partition Json Time} {log : AlertLog Payload} {partition : Partition}
  {offset : ℕ}

/-- What was handed over stays handed over. -/
theorem Handed.mono (hgrown : Grown l l') {message : LogRecord (Option Payload)}
    (h : Handed fromSlice l partition message) : Handed fromSlice l' partition message := by
  intro event hevent
  obtain ⟨hws, hsns⟩ := h event hevent
  exact ⟨hgrown.ws hws, hgrown.sns hsns⟩

/-- There is no message below offset 0. -/
theorem reached_zero : Reached fromSlice l log partition 0 :=
  ⟨Nat.zero_le _, log.settled_zero _⟩

/-- What was reached stays reached while the ledger grows. -/
theorem Reached.mono (h : Reached fromSlice l log partition offset)
    (hgrown : Grown l l') : Reached fromSlice l' log partition offset :=
  ⟨h.le_end, h.settled.mono fun _ => Handed.mono hgrown⟩

/-- It stays reached while the log grows. -/
theorem Reached.append (h : Reached fromSlice l log partition offset) (gap : ℕ)
    (payload : Option Payload) :
    Reached fromSlice l (log.append gap payload) partition offset := by
  refine ⟨?_, h.settled.append h.le_end gap payload⟩
  have hle := h.le_end
  show offset ≤ log.endOffset + gap + 1
  omega

/-- A commit point is no further than the end of the log. -/
theorem CommitPoint.le_end (h : CommitPoint fromSlice l log partition offset) :
    offset ≤ log.endOffset := by
  obtain ⟨message, hmessage, -, -, rfl⟩ := h.after
  exact log.below message hmessage

/-- A restart may read from where a commit was. -/
theorem CommitPoint.reached (h : CommitPoint fromSlice l log partition offset) :
    Reached fromSlice l log partition offset :=
  ⟨h.le_end, h.settled⟩

/-- A commit point stays one while the ledger grows. -/
theorem CommitPoint.mono (h : CommitPoint fromSlice l log partition offset)
    (hgrown : Grown l l') : CommitPoint fromSlice l' log partition offset :=
  ⟨h.settled.mono fun _ => Handed.mono hgrown, h.after⟩

/-- It stays one while the log grows. -/
theorem CommitPoint.append (h : CommitPoint fromSlice l log partition offset) (gap : ℕ)
    (payload : Option Payload) :
    CommitPoint fromSlice l (log.append gap payload) partition offset := by
  refine ⟨h.settled.append h.le_end gap payload, ?_⟩
  obtain ⟨message, hmessage, event, hevent, hoffset⟩ := h.after
  exact ⟨message, PartitionLog.mem_append.mpr (.inl hmessage), event, hevent, hoffset⟩

end OffsetRules

/-! ## The invariant -/

/-- The message in the `join!`: everything below it is dispatched, and the flags tell what
is known of the message itself. -/
structure AlertInHand (fromSlice : Payload → Option (AlertEvent Json Time))
    (l : DispatchLedger Partition Json Time) (log : AlertLog Payload) (partition : Partition)
    (message : LogRecord (Option Payload)) (event : AlertEvent Json Time) (ws sns : Bool) :
    Prop where
  mem : message ∈ log.records
  alert : alertOf fromSlice message = some event
  settled : log.Settled (Handed fromSlice l partition) message.offset
  ws : ws = true → (partition, message.offset, event) ∈ l.ws
  sns : sns = true → (partition, message.offset, event) ∈ l.sns

/-- An alert stays in hand while the log grows. -/
theorem AlertInHand.append {fromSlice : Payload → Option (AlertEvent Json Time)}
    {l : DispatchLedger Partition Json Time} {log : AlertLog Payload} {partition : Partition}
    {message : LogRecord (Option Payload)} {event : AlertEvent Json Time} {ws sns : Bool}
    (h : AlertInHand fromSlice l log partition message event ws sns) (gap : ℕ)
    (payload : Option Payload) :
    AlertInHand fromSlice l (log.append gap payload) partition message event ws sns := by
  have hlt := log.below message h.mem
  exact { h with
    mem := PartitionLog.mem_append.mpr (.inl h.mem)
    settled := h.settled.append (Nat.le_of_lt hlt) gap payload }

/-- What is known of the positions of a member, by where it stands. -/
def Working (fromSlice : Payload → Option (AlertEvent Json Time))
    (l : DispatchLedger Partition Json Time) (topic : Partition → AlertLog Payload)
    (position : Partition → ℕ) : Consumer Partition Payload Json Time → Prop
  | .down => True
  | .polling => ∀ p, Reached fromSlice l (topic p) p (position p)
  | .dispatching partition message event ws sns =>
    (∀ p, p ≠ partition → Reached fromSlice l (topic p) p (position p)) ∧
      position partition = message.offset + 1 ∧
        AlertInHand fromSlice l (topic partition) partition message event ws sns

/-- Committed offsets, requested offsets and positions do not pass an alert that was not
dispatched. -/
structure Covered (fromSlice : Payload → Option (AlertEvent Json Time))
    (l : DispatchLedger Partition Json Time) (s : KafkaState Partition Payload Json Time) :
    Prop where
  committed : ∀ p offset, s.committed p = some offset →
    CommitPoint fromSlice l (s.topic p) p offset
  commits : ∀ c ∈ s.commits, CommitPoint fromSlice l (s.topic c.1) c.1 c.2
  working : Working fromSlice l s.topic s.position s.consumer

/-- Nothing is committed at the start. -/
theorem covered_init (fromSlice : Payload → Option (AlertEvent Json Time)) :
    Covered fromSlice (DispatchLedger.empty : DispatchLedger Partition Json Time)
      KafkaState.init := by
  refine ⟨?_, by simp [KafkaState.init], trivial⟩
  intro p offset hcommitted
  cases hcommitted

/-! ## Every step keeps it -/

section Steps

variable {fromSlice : Payload → Option (AlertEvent Json Time)}
  {l : DispatchLedger Partition Json Time} {s s' : KafkaState Partition Payload Json Time}

/-- What the ledger gains does no harm. -/
theorem Working.mono {l' : DispatchLedger Partition Json Time} (hgrown : Grown l l')
    {topic : Partition → AlertLog Payload} {position : Partition → ℕ}
    {consumer : Consumer Partition Payload Json Time}
    (h : Working fromSlice l topic position consumer) :
    Working fromSlice l' topic position consumer := by
  cases consumer with
  | down => trivial
  | polling => exact fun p => (h p).mono hgrown
  | dispatching partition message event ws sns =>
    obtain ⟨hothers, hposition, hhand⟩ := h
    refine ⟨fun p hne => (hothers p hne).mono hgrown, hposition, { hhand with
      settled := hhand.settled.mono fun _ => Handed.mono hgrown
      ws := fun hws => hgrown.ws (hhand.ws hws)
      sns := fun hsns => hgrown.sns (hhand.sns hsns) }⟩

/-- What is known while a message is in the `join!`. -/
theorem Covered.dispatching (h : Covered fromSlice l s) {partition : Partition}
    {message : LogRecord (Option Payload)} {event : AlertEvent Json Time} {ws sns : Bool}
    (hconsumer : s.consumer = .dispatching partition message event ws sns) :
    (∀ p, p ≠ partition → Reached fromSlice l (s.topic p) p (s.position p)) ∧
      s.position partition = message.offset + 1 ∧
        AlertInHand fromSlice l (s.topic partition) partition message event ws sns := by
  have hworking := h.working
  rwa [hconsumer] at hworking

/-- A ledger that says more covers the same offsets. -/
theorem Covered.mono {l' : DispatchLedger Partition Json Time} (h : Covered fromSlice l s)
    (hgrown : Grown l l') : Covered fromSlice l' s :=
  ⟨fun p offset hcommitted => (h.committed p offset hcommitted).mono hgrown,
    fun c hc => (h.commits c hc).mono hgrown, h.working.mono hgrown⟩

/-- A restart takes up what is committed, and begins with the oldest message where nothing
is. -/
theorem covered_restart (h : Covered fromSlice l s) :
    Covered fromSlice l { s with
      position := startPosition AlertsConsumer.config s, consumer := .polling } := by
  refine { h with working := ?_ }
  intro p
  show Reached fromSlice l (s.topic p) p (startPosition AlertsConsumer.config s p)
  cases hcommitted : s.committed p with
  | none =>
    have hstart : startPosition AlertsConsumer.config s p = 0 := by
      simp only [startPosition, hcommitted, AlertsConsumer.config]
    rw [hstart]
    exact reached_zero
  | some offset =>
    have hstart : startPosition AlertsConsumer.config s p = offset := by
      simp only [startPosition, hcommitted]
    rw [hstart]
    exact (h.committed p offset hcommitted).reached

/-- One dispatch of the message in hand has returned, and is written down. -/
theorem covered_wsReturns (h : Covered fromSlice l s) {partition : Partition}
    {message : LogRecord (Option Payload)} {event : AlertEvent Json Time} {sns : Bool}
    (hconsumer : s.consumer = .dispatching partition message event false sns) :
    Covered fromSlice (l.note s .wsReturns)
      { s with consumer := .dispatching partition message event true sns } := by
  have hnote : l.note s .wsReturns =
      { l with ws := l.ws ++ [(partition, message.offset, event)] } := by
    simp only [DispatchLedger.note, hconsumer]
  have hgrown : Grown l { l with ws := l.ws ++ [(partition, message.offset, event)] } :=
    ⟨List.subset_append_left _ _, fun _ hmem => hmem⟩
  rw [hnote]
  have hmono := h.mono hgrown
  obtain ⟨hothers, hposition, hhand⟩ := hmono.dispatching hconsumer
  exact { hmono with
    working := ⟨hothers, hposition, { hhand with ws := fun _ => by simp }⟩ }

/-- So it is for the dispatch of pushes. -/
theorem covered_snsReturns (h : Covered fromSlice l s) {partition : Partition}
    {message : LogRecord (Option Payload)} {event : AlertEvent Json Time} {ws : Bool}
    (hconsumer : s.consumer = .dispatching partition message event ws false) :
    Covered fromSlice (l.note s .snsReturns)
      { s with consumer := .dispatching partition message event ws true } := by
  have hnote : l.note s .snsReturns =
      { l with sns := l.sns ++ [(partition, message.offset, event)] } := by
    simp only [DispatchLedger.note, hconsumer]
  have hgrown : Grown l { l with sns := l.sns ++ [(partition, message.offset, event)] } :=
    ⟨fun _ hmem => hmem, List.subset_append_left _ _⟩
  rw [hnote]
  have hmono := h.mono hgrown
  obtain ⟨hothers, hposition, hhand⟩ := hmono.dispatching hconsumer
  exact { hmono with
    working := ⟨hothers, hposition, { hhand with sns := fun _ => by simp }⟩ }

variable [DecidableEq Partition]

/-- What an append to a log keeps, an append to one log of the topic keeps. -/
theorem update_append {topic : Partition → AlertLog Payload} {partition : Partition} {gap : ℕ}
    {payload : Option Payload} (Q : AlertLog Payload → Prop) {p : Partition}
    (happend : Q (topic p) → Q ((topic p).append gap payload)) (h : Q (topic p)) :
    Q (Function.update topic partition ((topic partition).append gap payload) p) := by
  by_cases hsame : p = partition
  · subst hsame
    rw [Function.update_self]
    exact happend h
  · rw [Function.update_of_ne hsame]
    exact h

/-- A new message is above everything that was reached. -/
theorem covered_produce (h : Covered fromSlice l s) (partition : Partition) (gap : ℕ)
    (payload : Option Payload) :
    Covered fromSlice l { s with
      topic := Function.update s.topic partition ((s.topic partition).append gap payload) } := by
  have hreached : ∀ p, Reached fromSlice l (s.topic p) p (s.position p) →
      Reached fromSlice l (Function.update s.topic partition
        ((s.topic partition).append gap payload) p) p (s.position p) :=
    fun p => update_append (Reached fromSlice l · p (s.position p)) fun hp => hp.append gap payload
  refine ⟨?_, ?_, ?_⟩
  · intro p offset hcommitted
    exact update_append (CommitPoint fromSlice l · p offset) (fun hp => hp.append gap payload)
      (h.committed p offset hcommitted)
  · intro c hc
    exact update_append (CommitPoint fromSlice l · c.1 c.2) (fun hp => hp.append gap payload)
      (h.commits c hc)
  · have hworking := h.working
    show Working fromSlice l (Function.update s.topic partition _) s.position s.consumer
    cases hconsumer : s.consumer with
    | down => trivial
    | polling =>
      rw [hconsumer] at hworking
      exact fun p => hreached p (hworking p)
    | dispatching p message event ws sns =>
      obtain ⟨hothers, hposition, hhand⟩ := h.dispatching hconsumer
      refine ⟨fun p' hne => hreached p' (hothers p' hne), hposition, ?_⟩
      exact update_append (AlertInHand fromSlice l · p message event ws sns)
        (fun hp => hp.append gap payload) hhand

/-- The next message of a partition: the member is past it, or has it in hand. -/
theorem covered_receive (h : Covered fromSlice l s) (hpolling : s.consumer = .polling)
    {partition : Partition} {message : LogRecord (Option Payload)}
    (hnext : (s.topic partition).next (s.position partition) = some message) :
    Covered fromSlice l { s with
      position := Function.update s.position partition (message.offset + 1)
      consumer := processMessage fromSlice partition message } := by
  have hworking := h.working
  rw [hpolling] at hworking
  obtain ⟨hmem, -, -⟩ := PartitionLog.next_eq_some hnext
  have hsettled := (hworking partition).settled.next hnext
  have hothers : ∀ p, p ≠ partition → Reached fromSlice l (s.topic p) p
      (Function.update s.position partition (message.offset + 1) p) := by
    intro p hne
    rw [Function.update_of_ne hne]
    exact hworking p
  refine { h with working := ?_ }
  show Working fromSlice l s.topic (Function.update s.position partition _) _
  obtain ⟨hnone, hconsumer⟩ | ⟨event, hevent, hconsumer⟩ :=
    processMessage_cases fromSlice partition message
  · rw [hconsumer]
    intro p
    by_cases hsame : p = partition
    · subst hsame
      rw [Function.update_self]
      refine ⟨(s.topic p).below message hmem, hsettled.succ hmem ?_⟩
      intro event hevent
      rw [hnone] at hevent
      cases hevent
    · exact hothers p hsame
  · rw [hconsumer]
    exact ⟨hothers, Function.update_self .., ⟨hmem, hevent, hsettled, by simp, by simp⟩⟩

/-- The request of a commit comes after both dispatches. -/
theorem covered_commitMessage (h : Covered fromSlice l s) {partition : Partition}
    {message : LogRecord (Option Payload)} {event : AlertEvent Json Time}
    (hconsumer : s.consumer = .dispatching partition message event true true) (ok : Bool) :
    Covered fromSlice l { s with
      commits := if ok then s.commits ++ [(partition, message.offset + 1)] else s.commits
      consumer := .polling } := by
  obtain ⟨hothers, hposition, hhand⟩ := h.dispatching hconsumer
  have hhanded : Handed fromSlice l partition message := by
    intro event' hevent'
    obtain rfl : event' = event := Option.some.inj (hevent'.symm.trans hhand.alert)
    exact ⟨hhand.ws rfl, hhand.sns rfl⟩
  have hpoint : CommitPoint fromSlice l (s.topic partition) partition (message.offset + 1) :=
    ⟨hhand.settled.succ hhand.mem hhanded, message, hhand.mem, event, hhand.alert, rfl⟩
  refine ⟨h.committed, ?_, ?_⟩
  · intro c hc
    cases ok with
    | false => exact h.commits c hc
    | true =>
      obtain hc | hc := List.mem_append.mp hc
      · exact h.commits c hc
      · rw [List.mem_singleton.mp hc]
        exact hpoint
  · intro p
    by_cases hsame : p = partition
    · subst hsame
      show Reached fromSlice l (s.topic p) p (s.position p)
      rw [hposition]
      exact hpoint.reached
    · exact hothers p hsame

/-- A request that arrives, in whatever order. -/
theorem covered_committed (h : Covered fromSlice l s) {i : ℕ} {partition : Partition}
    {offset : ℕ} (hcommit : s.commits[i]? = some (partition, offset)) :
    Covered fromSlice l { s with
      committed := Function.update s.committed partition (some offset)
      commits := s.commits.eraseIdx i } := by
  refine ⟨?_, fun c hc => h.commits c (List.mem_of_mem_eraseIdx hc), h.working⟩
  intro p offset' hcommitted
  simp only [Function.update_apply] at hcommitted
  split at hcommitted
  · rename_i hsame
    subst hsame
    obtain rfl := Option.some.inj hcommitted
    exact h.commits _ (List.mem_of_getElem? hcommit)
  · exact h.committed p offset' hcommitted

/-- **Whatever happens next**, a crash included, the offsets stay covered. -/
theorem covered_kafkaStep (h : Covered fromSlice l s) {a : KafkaAction Partition Payload}
    (hstep : kafkaStep AlertsConsumer.config fromSlice s a = some s') :
    Covered fromSlice (l.note s a) s' := by
  cases a with
  | produce partition gap payload =>
    obtain rfl := Option.some.inj hstep
    exact covered_produce h partition gap payload
  | receive partition =>
    obtain ⟨message, hpolling, hnext, rfl⟩ := kafkaReceive_cases hstep
    exact covered_receive h hpolling hnext
  | receiveError =>
    obtain rfl := kafkaReceiveError_cases hstep
    exact h
  | wsReturns =>
    obtain ⟨partition, message, event, sns, hconsumer, rfl⟩ := kafkaWsReturns_cases hstep
    exact covered_wsReturns h hconsumer
  | snsReturns =>
    obtain ⟨partition, message, event, ws, hconsumer, rfl⟩ := kafkaSnsReturns_cases hstep
    exact covered_snsReturns h hconsumer
  | commitMessage ok =>
    obtain ⟨partition, message, event, hconsumer, rfl⟩ := kafkaCommitMessage_cases hstep
    exact covered_commitMessage h hconsumer ok
  | autoCommit partition =>
    rw [kafkaStep_autoCommit] at hstep
    cases hstep
  | committed i =>
    obtain ⟨partition, offset, hcommit, rfl⟩ := kafkaCommitted_cases hstep
    exact covered_committed h hcommit
  | commitLost i =>
    obtain rfl := kafkaCommitLost_cases hstep
    exact ⟨h.committed, fun c hc => h.commits c (List.mem_of_mem_eraseIdx hc), h.working⟩
  | crash =>
    obtain rfl := kafkaCrash_cases hstep
    exact { h with working := trivial }
  | restart =>
    obtain ⟨-, rfl⟩ := kafkaRestart_cases hstep
    exact covered_restart h

end Steps

/-! ## Every run -/

section Runs

variable [DecidableEq Partition] {fromSlice : Payload → Option (AlertEvent Json Time)}

/-- The invariant of a run with its ledger. -/
def CoveredWith (fromSlice : Payload → Option (AlertEvent Json Time))
    (p : DispatchLedger Partition Json Time × KafkaState Partition Payload Json Time) : Prop :=
  Covered fromSlice p.1 p.2

/-- The offsets are covered in every run. -/
theorem covered_dispatchLedgerRun {actions : List (KafkaAction Partition Payload)}
    {p : DispatchLedger Partition Json Time × KafkaState Partition Payload Json Time}
    (hrun : dispatchLedgerRun AlertsConsumer.config fromSlice actions = some p) :
    CoveredWith fromSlice p := by
  have hinit : CoveredWith fromSlice ((DispatchLedger.empty, KafkaState.init) :
      DispatchLedger Partition Json Time × KafkaState Partition Payload Json Time) :=
    covered_init fromSlice
  refine Runs.invariant_of_step hinit ?_ hrun
  rintro ⟨l, s⟩ a ⟨l', s'⟩ h hstep
  obtain ⟨hs, hl⟩ := Runs.observed_eq_some.mp hstep
  obtain rfl : l' = l.note s a := hl
  exact covered_kafkaStep h hs

/-- **A committed offset never passes an alert that was not dispatched.**  Every run has its
ledger; an offset that a partition has as committed is one past a well-formed alert, and for
every well-formed alert below it both dispatches have returned.
SRC: kafka/consumer.rs:26-35, 44-121 -/
theorem committed_dispatched (fromSlice : Payload → Option (AlertEvent Json Time))
    (actions : List (KafkaAction Partition Payload))
    (s : KafkaState Partition Payload Json Time)
    (hrun : kafkaRun AlertsConsumer.config fromSlice actions = some s) :
    ∃ l, dispatchLedgerRun AlertsConsumer.config fromSlice actions = some (l, s) ∧
      ∀ partition offset, s.committed partition = some offset →
        (∀ message ∈ (s.topic partition).records, ∀ event,
          alertOf fromSlice message = some event → message.offset < offset →
            l.Dispatched partition message.offset event) ∧
        ∃ message ∈ (s.topic partition).records, ∃ event,
          alertOf fromSlice message = some event ∧ offset = message.offset + 1 := by
  obtain ⟨l, hledger⟩ := Runs.exists_exec_observed hrun DispatchLedger.note DispatchLedger.empty
  have h : Covered fromSlice l s := covered_dispatchLedgerRun hledger
  refine ⟨l, hledger, ?_⟩
  intro partition offset hcommitted
  obtain ⟨hsettled, hafter⟩ := h.committed partition offset hcommitted
  refine ⟨?_, hafter⟩
  intro message hmessage event hevent hbelow
  exact hsettled message hmessage hbelow event hevent

end Runs

/-! ## A crash before the commit -/

/-- A payload is well formed or not. -/
def sampleFromSlice (wellFormed : Bool) : Option (AlertEvent Event ℕ) :=
  if wellFormed then some phoneAlert else none

/-- One partition with an alert, an empty message, a malformed one and another alert.  The
process stops in the first dispatch, reads the alert again, and commits past the two messages
that it skips. -/
def crashedRun : List (KafkaAction ℕ Bool) :=
  [.produce 0 0 (some true), .produce 0 0 none, .produce 0 2 (some false),
    .produce 0 0 (some true), .restart, .receive 0, .wsReturns, .crash, .restart, .receive 0,
    .snsReturns, .wsReturns, .commitMessage true, .receive 0, .receiveError, .receive 0,
    .receive 0, .wsReturns, .snsReturns, .commitMessage true, .commitLost 0, .crash,
    .committed 0, .restart]

/-- In the crashed run the first alert, below the committed offset, was dispatched. -/
theorem committed_dispatched_crashed :
    ∃ s l, kafkaRun AlertsConsumer.config sampleFromSlice crashedRun = some s ∧
      dispatchLedgerRun AlertsConsumer.config sampleFromSlice crashedRun = some (l, s) ∧
      s.committed 0 = some 6 ∧ l.Dispatched 0 0 phoneAlert := by
  have hrun : ∃ s, kafkaRun AlertsConsumer.config sampleFromSlice crashedRun = some s ∧
      s.committed 0 = some 6 ∧ ⟨0, some true⟩ ∈ (s.topic 0).records := by
    refine ⟨_, rfl, rfl, ?_⟩
    decide
  obtain ⟨s, hs, hcommitted, hmessage⟩ := hrun
  obtain ⟨l, hledger, hcovered⟩ := committed_dispatched sampleFromSlice crashedRun s hs
  obtain ⟨hdispatched, -⟩ := hcovered 0 6 hcommitted
  exact ⟨s, l, hs, hledger, hcommitted, hdispatched _ hmessage phoneAlert rfl (by decide)⟩

end AlertDistributor.Analysis
