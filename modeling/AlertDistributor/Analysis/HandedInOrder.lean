import AlertDistributor.Analysis.Commits

/-!
# What one life of the consumer hands over

A life begins at the committed offsets and hands over, of each partition, exactly the
well-formed alerts that lie between there and the position of the member, in their order and
each one once; only the alert in hand may be missing on a side that has not returned yet.  So
an alert is dispatched again only by a later life, and only if it lies above what was committed
when that life began.  In one life the member keeps its partitions.
-/

set_option autoImplicit false

namespace AlertDistributor.Analysis

open AlertDistributor.Model AlertDistributor.Interface AlertDistributor.System

variable {Partition Payload Json Time : Type} [DecidableEq Partition]

/-! ## Stretches of a log -/

section Stretches

variable {fromSlice : Payload → Option (AlertEvent Json Time)} {log log' : AlertLog Payload}
  {start stop : ℕ} {handed : List (ℕ × AlertEvent Json Time)}

/-- What was handed over is what lies between two offsets that the log has reached. -/
structure HandsOver (fromSlice : Payload → Option (AlertEvent Json Time))
    (log : AlertLog Payload) (start stop : ℕ) (handed : List (ℕ × AlertEvent Json Time)) :
    Prop where
  start_le : start ≤ stop
  stop_le : stop ≤ log.endOffset
  handed : handed = alertsIn fromSlice log start stop

/-- From an offset to itself nothing is handed over. -/
theorem handsOver_nil (h : start ≤ log.endOffset) : HandsOver fromSlice log start start [] :=
  ⟨Nat.le_refl _, h, by rw [alertsIn, PartitionLog.segment_self]; rfl⟩

/-- A log that goes on has the same stretches. -/
theorem HandsOver.continues (h : HandsOver fromSlice log start stop handed)
    (hlog : log.Continues log') : HandsOver fromSlice log' start stop handed where
  start_le := h.start_le
  stop_le := h.stop_le.trans hlog.endOffset_le
  handed := by rw [alertsIn, hlog.segment_eq start stop h.stop_le]; exact h.handed

/-- Up to the next record there is nothing to hand over. -/
theorem HandsOver.to_next {message : LogRecord (Option Payload)}
    (h : HandsOver fromSlice log start stop handed) (hnext : log.next stop = some message) :
    HandsOver fromSlice log start message.offset handed := by
  obtain ⟨hmem, hle, -⟩ := PartitionLog.next_eq_some hnext
  refine ⟨h.start_le.trans hle, Nat.le_of_lt (log.below message hmem), ?_⟩
  rw [h.handed, alertsIn, alertsIn, ← log.segment_append_segment h.start_le hle,
    PartitionLog.segment_before_next hnext, List.append_nil]

/-- One message, at its offset. -/
theorem segment_one {message : LogRecord (Option Payload)} (hmem : message ∈ log.records) :
    log.segment message.offset (message.offset + 1) = [message] := by
  refine PartitionLog.segment_to_next ?_
  cases hnext : log.next message.offset with
  | none =>
    rw [PartitionLog.next, List.find?_eq_none] at hnext
    exact absurd (decide_eq_true (Nat.le_refl _)) (hnext message hmem)
  | some r =>
    obtain ⟨hr, hle, hskipped⟩ := PartitionLog.next_eq_some hnext
    have hnot : ¬ message.offset < r.offset := fun hlt =>
      Nat.lt_irrefl _ (hskipped message hmem hlt)
    rw [log.eq_of_offset_eq hr hmem (Nat.le_antisymm (Nat.not_lt.mp hnot) hle)]

/-- Past a message: its alert is handed over, if it carries one. -/
theorem HandsOver.succ {message : LogRecord (Option Payload)}
    (h : HandsOver fromSlice log start message.offset handed) (hmem : message ∈ log.records) :
    HandsOver fromSlice log start (message.offset + 1) (handed ++
      ((alertOf fromSlice message).map fun event => (message.offset, event)).toList) := by
  refine ⟨Nat.le_succ_of_le h.start_le, log.below message hmem, ?_⟩
  rw [h.handed, alertsIn, alertsIn,
    ← log.segment_append_segment h.start_le (Nat.le_succ message.offset), segment_one hmem,
    List.filterMap_append]
  cases halert : alertOf fromSlice message with
  | none => simp [halert]
  | some event => simp [halert]

/-- The offsets of a stretch are different. -/
theorem HandsOver.nodup (h : HandsOver fromSlice log start stop handed) :
    (handed.map Prod.fst).Nodup := by
  have hordered : (log.segment start stop).Pairwise fun r r' => r.offset < r'.offset :=
    log.ordered.filter _
  rw [h.handed, alertsIn, List.map_filterMap]
  refine List.Pairwise.imp Nat.ne_of_lt (hordered.filterMap _ ?_)
  intro r r' hlt offset hoffset offset' hoffset'
  simp only [Option.map_map, Option.map_eq_some_iff, Function.comp] at hoffset hoffset'
  obtain ⟨-, -, rfl⟩ := hoffset
  obtain ⟨-, -, rfl⟩ := hoffset'
  exact hlt

end Stretches

/-! ## What was handed over of a partition -/

section Handed

variable {calls : List (Partition × ℕ × AlertEvent Json Time)} {partition : Partition}
  {offset : ℕ} {event : AlertEvent Json Time}

/-- A further call is the last one of its partition. -/
theorem handedAt_append_self :
    handedAt (calls ++ [(partition, offset, event)]) partition =
      handedAt calls partition ++ [(offset, event)] := by
  simp [handedAt]

/-- It is no call of another one. -/
theorem handedAt_append_of_ne {other : Partition} (hne : other ≠ partition) :
    handedAt (calls ++ [(partition, offset, event)]) other = handedAt calls other := by
  simp [handedAt, hne.symm]

/-- Calls whose offsets are different in each partition are for different messages. -/
theorem nodup_of_handedAt (h : ∀ p, ((handedAt calls p).map Prod.fst).Nodup) :
    (calls.map fun call => (call.1, call.2.1)).Nodup := by
  induction calls with
  | nil => exact List.nodup_nil
  | cons call calls ih =>
    obtain ⟨p, offset, event⟩ := call
    rw [List.map_cons, List.nodup_cons]
    refine ⟨?_, ih fun other => ?_⟩
    · intro hmem
      obtain ⟨⟨p', offset', event'⟩, hcall, heq⟩ := List.mem_map.mp hmem
      obtain ⟨rfl, rfl⟩ := Prod.mk.inj heq
      have hhere := h p'
      rw [handedAt, List.filter_cons_of_pos (by simp), List.map_cons, List.map_cons,
        List.nodup_cons] at hhere
      refine hhere.1 (List.mem_map.mpr ⟨(offset', event'), ?_, rfl⟩)
      exact List.mem_map.mpr ⟨_, List.mem_filter.mpr ⟨hcall, by simp⟩, rfl⟩
    · have hhere := h other
      by_cases hsame : p = other
      · rw [handedAt, List.filter_cons_of_pos (by simp [hsame]), List.map_cons, List.map_cons,
          List.nodup_cons] at hhere
        exact hhere.2
      · rwa [handedAt, List.filter_cons_of_neg (by simp [hsame])] at hhere

end Handed

/-! ## The invariant -/

section Invariant

variable (fromSlice : Payload → Option (AlertEvent Json Time))

/-- One side of a life, up to an offset of each partition. -/
def Side (topic : Partition → AlertLog Payload) (start stop : Partition → ℕ)
    (calls : List (Partition × ℕ × AlertEvent Json Time)) : Prop :=
  ∀ p, HandsOver fromSlice (topic p) (start p) (stop p) (handedAt calls p)

/-- What is known of the present life, by where the consumer stands. -/
def LifeSoFar (life : DispatchLife Partition Json Time)
    (topic : Partition → AlertLog Payload) (position : Partition → ℕ) :
    Consumer Partition Payload Json Time → Prop
  | .down => life = LivesLedger.empty.current
  | .polling =>
    Side fromSlice topic life.start position life.calls.ws ∧
      Side fromSlice topic life.start position life.calls.sns
  | .dispatching partition message event ws sns =>
    (message ∈ (topic partition).records ∧ alertOf fromSlice message = some event ∧
      position partition = message.offset + 1) ∧
        Side fromSlice topic life.start (handedUpTo position partition message ws)
          life.calls.ws ∧
        Side fromSlice topic life.start (handedUpTo position partition message sns)
          life.calls.sns

/-- Each side of a life handed over what lies between the start of the life and the offset it
has come to, and no message twice. -/
structure InOrder (topic : Partition → AlertLog Payload)
    (life : DispatchLife Partition Json Time) : Prop where
  ws : ∀ p,
    HandsOver fromSlice (topic p) (life.start p) (life.wsReached p) (handedAt life.calls.ws p)
  sns : ∀ p,
    HandsOver fromSlice (topic p) (life.start p) (life.snsReached p) (handedAt life.calls.sns p)
  wsOnce : (life.calls.ws.map fun call => (call.1, call.2.1)).Nodup
  snsOnce : (life.calls.sns.map fun call => (call.1, call.2.1)).Nodup

/-- The lives of a run. -/
structure LivesInOrder (l : LivesLedger Partition Json Time)
    (s : KafkaState Partition Payload Json Time) : Prop where
  past : ∀ life ∈ l.past, InOrder fromSlice s.topic life
  current : LifeSoFar fromSlice l.current s.topic s.position s.consumer
  committed : ∀ p offset, s.committed p = some offset → offset ≤ (s.topic p).endOffset
  commits : ∀ c ∈ s.commits, c.2 ≤ (s.topic c.1).endOffset

end Invariant

section Rules

variable {fromSlice : Payload → Option (AlertEvent Json Time)}
  {topic topic' : Partition → AlertLog Payload} {start stop : Partition → ℕ}
  {calls : List (Partition × ℕ × AlertEvent Json Time)} {life : DispatchLife Partition Json Time}

/-- A side is in order on every topic that continues the one it has come through. -/
theorem Side.continues (h : Side fromSlice topic start stop calls)
    (htopic : ∀ p, (topic p).Continues (topic' p)) : Side fromSlice topic' start stop calls :=
  fun p => (h p).continues (htopic p)

/-- A life is in order when both sides are. -/
theorem InOrder.of_sides (hws : Side fromSlice topic life.start life.wsReached life.calls.ws)
    (hsns : Side fromSlice topic life.start life.snsReached life.calls.sns) :
    InOrder fromSlice topic life where
  ws := hws
  sns := hsns
  wsOnce := nodup_of_handedAt fun p => (hws p).nodup
  snsOnce := nodup_of_handedAt fun p => (hsns p).nodup

/-- It stays in order while the topic grows. -/
theorem InOrder.continues (h : InOrder fromSlice topic life)
    (htopic : ∀ p, (topic p).Continues (topic' p)) : InOrder fromSlice topic' life where
  ws := fun p => (h.ws p).continues (htopic p)
  sns := fun p => (h.sns p).continues (htopic p)
  wsOnce := h.wsOnce
  snsOnce := h.snsOnce

/-- The present life is in order wherever the consumer stands. -/
theorem LifeSoFar.inOrder {s : KafkaState Partition Payload Json Time}
    (h : LifeSoFar fromSlice life s.topic s.position s.consumer) :
    InOrder fromSlice s.topic (life.upTo s) := by
  cases hconsumer : s.consumer with
  | down =>
    rw [hconsumer] at h
    have hempty : life = LivesLedger.empty.current := h
    have hws : wsReached s = fun _ => 0 := by simp only [wsReached, hconsumer]
    have hsns : snsReached s = fun _ => 0 := by simp only [snsReached, hconsumer]
    have hnil : Side fromSlice s.topic (fun _ => 0) (fun _ => 0)
        ([] : List (Partition × ℕ × AlertEvent Json Time)) :=
      fun p => handsOver_nil (Nat.zero_le _)
    rw [hempty]
    refine .of_sides ?_ ?_
    · show Side fromSlice s.topic (fun _ => 0) (wsReached s) []
      rw [hws]
      exact hnil
    · show Side fromSlice s.topic (fun _ => 0) (snsReached s) []
      rw [hsns]
      exact hnil
  | polling =>
    rw [hconsumer] at h
    have hws : wsReached s = s.position := by simp only [wsReached, hconsumer]
    have hsns : snsReached s = s.position := by simp only [snsReached, hconsumer]
    refine .of_sides ?_ ?_
    · show Side fromSlice s.topic life.start (wsReached s) life.calls.ws
      exact hws ▸ h.1
    · show Side fromSlice s.topic life.start (snsReached s) life.calls.sns
      exact hsns ▸ h.2
  | dispatching partition message event ws sns =>
    rw [hconsumer] at h
    have hws : wsReached s = handedUpTo s.position partition message ws := by
      simp only [wsReached, hconsumer]
    have hsns : snsReached s = handedUpTo s.position partition message sns := by
      simp only [snsReached, hconsumer]
    refine .of_sides ?_ ?_
    · show Side fromSlice s.topic life.start (wsReached s) life.calls.ws
      exact hws ▸ h.2.1
    · show Side fromSlice s.topic life.start (snsReached s) life.calls.sns
      exact hsns ▸ h.2.2

/-- So does the present life, with what it has in hand. -/
theorem LifeSoFar.continues {position : Partition → ℕ}
    {consumer : Consumer Partition Payload Json Time}
    (h : LifeSoFar fromSlice life topic position consumer)
    (htopic : ∀ p, (topic p).Continues (topic' p))
    (hrecords : ∀ p, (topic p).records ⊆ (topic' p).records) :
    LifeSoFar fromSlice life topic' position consumer := by
  cases consumer with
  | down => exact h
  | polling => exact ⟨h.1.continues htopic, h.2.continues htopic⟩
  | dispatching partition message event ws sns =>
    obtain ⟨⟨hmem, halert, hposition⟩, hws, hsns⟩ := h
    exact ⟨⟨hrecords partition hmem, halert, hposition⟩, hws.continues htopic,
      hsns.continues htopic⟩

/-- A side that has returned for the alert in hand. -/
theorem Side.returns {position : Partition → ℕ} {partition : Partition}
    {message : LogRecord (Option Payload)} {event : AlertEvent Json Time}
    (hmem : message ∈ (topic partition).records) (halert : alertOf fromSlice message = some event)
    (hposition : position partition = message.offset + 1)
    (h : Side fromSlice topic start (handedUpTo position partition message false) calls) :
    Side fromSlice topic start (handedUpTo position partition message true)
      (calls ++ [(partition, message.offset, event)]) := by
  intro p
  have hhere := h p
  by_cases hsame : p = partition
  · subst hsame
    have hbefore : handedUpTo position p message false p = message.offset := by
      simp [handedUpTo]
    have hafter : handedUpTo position p message true p = message.offset + 1 := by
      simp [handedUpTo, hposition]
    rw [hbefore] at hhere
    rw [hafter, handedAt_append_self]
    have hsucc := hhere.succ hmem
    rw [halert] at hsucc
    exact hsucc
  · have hbefore : handedUpTo position partition message false p = position p := by
      simp [handedUpTo, hsame]
    have hafter : handedUpTo position partition message true p = position p := by
      simp [handedUpTo, hsame]
    rw [hbefore] at hhere
    rw [hafter, handedAt_append_of_ne hsame]
    exact hhere

/-- A side at the next message of a partition, which it has not handed over yet. -/
theorem Side.receive {position : Partition → ℕ} {partition : Partition}
    {message : LogRecord (Option Payload)}
    (hnext : (topic partition).next (position partition) = some message)
    (h : Side fromSlice topic start position calls) :
    Side fromSlice topic start (handedUpTo
      (Function.update position partition (message.offset + 1)) partition message false)
        calls := by
  intro p
  have hhere := h p
  by_cases hsame : p = partition
  · subst hsame
    have hafter : handedUpTo (Function.update position p (message.offset + 1)) p message false
        p = message.offset := by
      simp [handedUpTo]
    rw [hafter]
    exact hhere.to_next hnext
  · have hafter : handedUpTo (Function.update position partition (message.offset + 1)) partition
        message false p = position p := by
      simp [handedUpTo, hsame]
    rw [hafter]
    exact hhere

/-- A side passes a message that carries no alert. -/
theorem Side.skip {position : Partition → ℕ} {partition : Partition}
    {message : LogRecord (Option Payload)}
    (hnext : (topic partition).next (position partition) = some message)
    (hnone : alertOf fromSlice message = none)
    (h : Side fromSlice topic start position calls) :
    Side fromSlice topic start (Function.update position partition (message.offset + 1))
      calls := by
  intro p
  have hhere := h p
  by_cases hsame : p = partition
  · subst hsame
    rw [Function.update_self]
    have hsucc := (hhere.to_next hnext).succ (PartitionLog.next_eq_some hnext).1
    rw [hnone] at hsucc
    simpa using hsucc
  · rw [Function.update_of_ne hsame]
    exact hhere

end Rules

/-! ## Every step keeps it -/

section Steps

variable {fromSlice : Payload → Option (AlertEvent Json Time)}
  {l : LivesLedger Partition Json Time} {s s' : KafkaState Partition Payload Json Time}

/-- Before the first start no life has begun. -/
theorem livesInOrder_init :
    LivesInOrder fromSlice (LivesLedger.empty : LivesLedger Partition Json Time)
      (KafkaState.init : KafkaState Partition Payload Json Time) where
  past := fun _ hmem => (List.not_mem_nil hmem).elim
  current := rfl
  committed := fun _ _ h => by cases h
  commits := fun _ hmem => (List.not_mem_nil hmem).elim

/-- The consumer and the positions stay, and the topic goes on. -/
theorem LivesInOrder.of_topic (h : LivesInOrder fromSlice l s)
    {topic : Partition → AlertLog Payload} (htopic : ∀ p, (s.topic p).Continues (topic p))
    (hrecords : ∀ p, (s.topic p).records ⊆ (topic p).records) :
    LivesInOrder fromSlice l { s with topic := topic } where
  past := fun life hlife => (h.past life hlife).continues htopic
  current := h.current.continues htopic hrecords
  committed := fun p offset hoffset => (h.committed p offset hoffset).trans (htopic p).endOffset_le
  commits := fun c hc => (h.commits c hc).trans (htopic c.1).endOffset_le

/-- A new message is behind everything that was handed over. -/
theorem livesInOrder_produce (h : LivesInOrder fromSlice l s) (partition : Partition) (gap : ℕ)
    (payload : Option Payload) :
    LivesInOrder fromSlice l { s with
      topic := Function.update s.topic partition ((s.topic partition).append gap payload) } := by
  refine h.of_topic (PartitionLog.continues_update
    (PartitionLog.continues_append (s.topic partition) gap payload)) ?_
  intro p r hr
  exact update_append (fun log => r ∈ log.records)
    (fun hmem => PartitionLog.mem_append.mpr (.inl hmem)) hr

/-- A received message is passed over, or taken in hand by both sides. -/
theorem livesInOrder_receive (h : LivesInOrder fromSlice l s) (hpolling : s.consumer = .polling)
    {partition : Partition} {message : LogRecord (Option Payload)}
    (hnext : (s.topic partition).next (s.position partition) = some message) :
    LivesInOrder fromSlice l { s with
      position := Function.update s.position partition (message.offset + 1)
      consumer := processMessage fromSlice partition message } := by
  have hcurrent := h.current
  rw [hpolling] at hcurrent
  obtain ⟨hws, hsns⟩ := hcurrent
  obtain ⟨hmem, -, -⟩ := PartitionLog.next_eq_some hnext
  refine { h with current := ?_ }
  show LifeSoFar fromSlice l.current s.topic (Function.update s.position partition _) _
  obtain ⟨hnone, hconsumer⟩ | ⟨event, hevent, hconsumer⟩ :=
    processMessage_cases fromSlice partition message
  · rw [hconsumer]
    exact ⟨hws.skip hnext hnone, hsns.skip hnext hnone⟩
  · rw [hconsumer]
    exact ⟨⟨hmem, hevent, Function.update_self ..⟩, hws.receive hnext, hsns.receive hnext⟩

/-- A restart reads from committed offsets, which the log has reached. -/
theorem livesInOrder_restart (h : LivesInOrder fromSlice l s) (hdown : s.consumer = .down) :
    LivesInOrder fromSlice
      { l with current := { l.current with start := startPosition AlertsConsumer.config s } }
      { s with position := startPosition AlertsConsumer.config s, consumer := .polling } := by
  have hcurrent := h.current
  rw [hdown] at hcurrent
  have hempty : l.current = LivesLedger.empty.current := hcurrent
  have hreached : ∀ p, startPosition AlertsConsumer.config s p ≤ (s.topic p).endOffset := by
    intro p
    cases hcommitted : s.committed p with
    | none =>
      simp only [startPosition, hcommitted, AlertsConsumer.config]
      exact Nat.zero_le _
    | some offset =>
      simp only [startPosition, hcommitted]
      exact h.committed p offset hcommitted
  have hnil : Side fromSlice s.topic (startPosition AlertsConsumer.config s)
      (startPosition AlertsConsumer.config s)
      ([] : List (Partition × ℕ × AlertEvent Json Time)) := fun p => handsOver_nil (hreached p)
  refine { h with current := ?_ }
  show LifeSoFar fromSlice { l.current with start := _ } s.topic _ .polling
  rw [hempty]
  exact ⟨hnil, hnil⟩

/-- The WebSocket side returns for the alert in hand. -/
theorem livesInOrder_wsReturns (h : LivesInOrder fromSlice l s)
    (hstep : kafkaStep AlertsConsumer.config fromSlice s .wsReturns = some s') :
    LivesInOrder fromSlice (l.note AlertsConsumer.config s .wsReturns) s' := by
  have hcurrent := h.current
  obtain ⟨partition, message, event, sns, hconsumer, rfl⟩ := kafkaWsReturns_cases hstep
  rw [hconsumer] at hcurrent
  obtain ⟨⟨hmem, halert, hposition⟩, hws, hsns⟩ := hcurrent
  have hnote : l.note AlertsConsumer.config s .wsReturns = { l with current := { l.current with
      calls := { l.current.calls with
        ws := l.current.calls.ws ++ [(partition, message.offset, event)] } } } := by
    simp only [LivesLedger.note, DispatchLedger.note, hconsumer]
  rw [hnote]
  exact { h with
    current := ⟨⟨hmem, halert, hposition⟩, hws.returns hmem halert hposition, hsns⟩ }

/-- The push side returns for the alert in hand. -/
theorem livesInOrder_snsReturns (h : LivesInOrder fromSlice l s)
    (hstep : kafkaStep AlertsConsumer.config fromSlice s .snsReturns = some s') :
    LivesInOrder fromSlice (l.note AlertsConsumer.config s .snsReturns) s' := by
  have hcurrent := h.current
  obtain ⟨partition, message, event, ws, hconsumer, rfl⟩ := kafkaSnsReturns_cases hstep
  rw [hconsumer] at hcurrent
  obtain ⟨⟨hmem, halert, hposition⟩, hws, hsns⟩ := hcurrent
  have hnote : l.note AlertsConsumer.config s .snsReturns = { l with current := { l.current with
      calls := { l.current.calls with
        sns := l.current.calls.sns ++ [(partition, message.offset, event)] } } } := by
    simp only [LivesLedger.note, DispatchLedger.note, hconsumer]
  rw [hnote]
  exact { h with
    current := ⟨⟨hmem, halert, hposition⟩, hws, hsns.returns hmem halert hposition⟩ }

/-- Once both sides have returned, both have come to the position, and the offset behind the
alert may be requested. -/
theorem livesInOrder_commitMessage (h : LivesInOrder fromSlice l s) {ok : Bool}
    (hstep : kafkaStep AlertsConsumer.config fromSlice s (.commitMessage ok) = some s') :
    LivesInOrder fromSlice (l.note AlertsConsumer.config s (.commitMessage ok)) s' := by
  have hcurrent := h.current
  obtain ⟨partition, message, event, hconsumer, rfl⟩ := kafkaCommitMessage_cases hstep
  rw [hconsumer] at hcurrent
  obtain ⟨⟨hmem, -, -⟩, hws, hsns⟩ := hcurrent
  have hreturned : handedUpTo s.position partition message true = s.position := by
    funext p
    simp [handedUpTo]
  rw [hreturned] at hws hsns
  refine { h with current := ⟨hws, hsns⟩, commits := ?_ }
  intro c hc
  cases ok with
  | false => exact h.commits c hc
  | true =>
    obtain hc | hc := List.mem_append.mp hc
    · exact h.commits c hc
    · rw [List.mem_singleton.mp hc]
      exact (s.topic partition).below message hmem

/-- What the broker holds was requested. -/
theorem livesInOrder_committed (h : LivesInOrder fromSlice l s) {i : ℕ}
    (hstep : kafkaStep AlertsConsumer.config fromSlice s (.committed i) = some s') :
    LivesInOrder fromSlice (l.note AlertsConsumer.config s (.committed i)) s' := by
  obtain ⟨partition, offset, hcommit, rfl⟩ := kafkaCommitted_cases hstep
  refine { h with
    committed := ?_
    commits := fun c hc => h.commits c (List.mem_of_mem_eraseIdx hc) }
  intro p offset' hcommitted
  simp only [Function.update_apply] at hcommitted
  split at hcommitted
  · rename_i hsame
    subst hsame
    obtain rfl := Option.some.inj hcommitted
    exact h.commits _ (List.mem_of_getElem? hcommit)
  · exact h.committed p offset' hcommitted

/-- A crash ends the present life as far as it has come. -/
theorem livesInOrder_crash (h : LivesInOrder fromSlice l s)
    (hstep : kafkaStep AlertsConsumer.config fromSlice s .crash = some s') :
    LivesInOrder fromSlice (l.note AlertsConsumer.config s .crash) s' := by
  obtain rfl := kafkaCrash_cases hstep
  refine { h with past := ?_, current := rfl }
  intro life hlife
  obtain hlife | hlife := List.mem_append.mp hlife
  · exact h.past life hlife
  · rw [List.mem_singleton.mp hlife]
    exact h.current.inOrder

/-- Every step of the consumer and the broker keeps the lives in order. -/
theorem livesInOrder_kafkaStep (h : LivesInOrder fromSlice l s)
    {a : KafkaAction Partition Payload}
    (hstep : kafkaStep AlertsConsumer.config fromSlice s a = some s') :
    LivesInOrder fromSlice (l.note AlertsConsumer.config s a) s' := by
  cases a with
  | produce partition gap payload =>
    obtain rfl := Option.some.inj hstep
    exact livesInOrder_produce h partition gap payload
  | receive partition =>
    obtain ⟨message, hpolling, hnext, rfl⟩ := kafkaReceive_cases hstep
    exact livesInOrder_receive h hpolling hnext
  | receiveError =>
    obtain rfl := kafkaReceiveError_cases hstep
    exact h
  | wsReturns => exact livesInOrder_wsReturns h hstep
  | snsReturns => exact livesInOrder_snsReturns h hstep
  | commitMessage ok => exact livesInOrder_commitMessage h hstep
  | autoCommit partition =>
    rw [kafkaStep_autoCommit] at hstep
    cases hstep
  | committed i => exact livesInOrder_committed h hstep
  | commitLost i =>
    obtain rfl := kafkaCommitLost_cases hstep
    exact { h with commits := fun c hc => h.commits c (List.mem_of_mem_eraseIdx hc) }
  | crash => exact livesInOrder_crash h hstep
  | restart =>
    obtain ⟨hdown, rfl⟩ := kafkaRestart_cases hstep
    exact livesInOrder_restart h hdown

end Steps

/-! ## Every run -/

/-- The lives are in order in every run. -/
theorem livesInOrder_livesLedgerRun {fromSlice : Payload → Option (AlertEvent Json Time)}
    {actions : List (KafkaAction Partition Payload)} {l : LivesLedger Partition Json Time}
    {s : KafkaState Partition Payload Json Time}
    (hrun : livesLedgerRun AlertsConsumer.config fromSlice actions = some (l, s)) :
    LivesInOrder fromSlice l s := by
  refine Runs.invariant_of_observed livesInOrder_init ?_ hrun
  intro l s a s' h hstep
  exact livesInOrder_kafkaStep h hstep

/-- Every life is, the present one included. -/
theorem LivesInOrder.inOrder {fromSlice : Payload → Option (AlertEvent Json Time)}
    {l : LivesLedger Partition Json Time} {s : KafkaState Partition Payload Json Time}
    (h : LivesInOrder fromSlice l s) : ∀ life ∈ l.lives s, InOrder fromSlice s.topic life := by
  intro life hlife
  obtain hpast | hcurrent := List.mem_append.mp hlife
  · exact h.past life hpast
  · rw [List.mem_singleton.mp hcurrent]
    exact h.current.inOrder

/-- **Each life of the process hands over a stretch of every partition**, to each side: the
well-formed alerts from the offset that the life began at up to the one the side has come to,
in the order of the log, none left out and none twice.  An alert is handed over again only by
another life, as long as the member keeps its partitions.
SRC: kafka/consumer.rs:26-35, 44-121 -/
theorem inOrder_kafkaRun (fromSlice : Payload → Option (AlertEvent Json Time))
    (actions : List (KafkaAction Partition Payload))
    (s : KafkaState Partition Payload Json Time)
    (hrun : kafkaRun AlertsConsumer.config fromSlice actions = some s) :
    ∃ l, livesLedgerRun AlertsConsumer.config fromSlice actions = some (l, s) ∧
      ∀ life ∈ l.lives s, InOrder fromSlice s.topic life := by
  obtain ⟨l, hledger⟩ := Runs.exists_exec_observed hrun (LivesLedger.note AlertsConsumer.config)
    LivesLedger.empty
  exact ⟨l, hledger, (livesInOrder_livesLedgerRun hledger).inOrder⟩

/-- The first alert of the crashed run is handed over in two lives. -/
theorem inOrder_kafkaRun_crashed :
    ∃ s l, kafkaRun AlertsConsumer.config sampleFromSlice crashedRun = some s ∧
      livesLedgerRun AlertsConsumer.config sampleFromSlice crashedRun = some (l, s) ∧
        (l.lives s).map (fun life => (life.calls.ws.map fun call => (call.1, call.2.1))) =
          [[(0, 0)], [(0, 0), (0, 5)], []] ∧
        ∀ life ∈ l.lives s, InOrder sampleFromSlice s.topic life := by
  have hcalls : (livesLedgerRun AlertsConsumer.config sampleFromSlice crashedRun).map
      (fun p => (p.1.lives p.2).map fun life => (life.calls.ws.map fun call =>
        (call.1, call.2.1))) = some [[(0, 0)], [(0, 0), (0, 5)], []] := rfl
  obtain ⟨s, hs⟩ : ∃ s, kafkaRun AlertsConsumer.config sampleFromSlice crashedRun = some s :=
    ⟨_, rfl⟩
  obtain ⟨l, hledger, hlives⟩ := inOrder_kafkaRun sampleFromSlice crashedRun s hs
  rw [hledger] at hcalls
  exact ⟨s, l, hs, hledger, Option.some.inj hcalls, hlives⟩

end AlertDistributor.Analysis
