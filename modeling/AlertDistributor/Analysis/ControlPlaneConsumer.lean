import AlertDistributor.Analysis.ControlPlaneSteps

/-!
# What the control-plane consumer has applied

Along every run the consumer's own map `next` is the position of the client, the messages
it received from a partition are the segment of the log between the noted offset and that
position, and the cache is the snapshot with these messages on it.  The offsets are noted
before the views are read: whatever is published after the query of a view stands at or
above the noted offset of its partition.  `Followed` is this invariant.
-/

set_option autoImplicit false

namespace AlertDistributor.Analysis

open AlertDistributor.Model AlertDistributor.Interface AlertDistributor.System FiniteMap

variable {Partition Payload Value : Type} [DecidableEq Partition]

/-! ## The invariant -/

/-- The messages of one partition. -/
def inPartition (rs : List (Published Partition Payload)) (partition : Partition) :
    List (LogRecord (Option Payload)) :=
  (rs.filter fun r => r.1 = partition).map Prod.snd

/-- Each partition was noted once, with the offset in the ledger. -/
structure NotedOnce (noted : Partition → ℕ) (left : List Partition)
    (offsets : List (Partition × ℕ)) : Prop where
  nodup : (offsets.map Prod.fst ++ left).Nodup
  noted_eq : ∀ e ∈ offsets, e.2 = noted e.1

/-- What is known of the offsets and the views, by where the process stands. -/
def Prepared (noted : Partition → ℕ) (views : List View) : ControlPhase Partition → Prop
  | .down => views = []
  | .preparing left offsets => views = [] ∧ NotedOnce noted left offsets
  | .loading offsets left => NotedOnce noted [] offsets ∧ offsets ≠ [] ∧ views ++ left = View.all
  | .consuming | .probing _ _ => views = View.all

/-- What was read of an assigned partition: everything from the noted offset up to the
position. -/
structure ReadTo (noted : ℕ) (received : List (LogRecord (Option Payload)))
    (log : ControlLog Payload) (position : ℕ) : Prop where
  noted_le : noted ≤ position
  le_end : position ≤ log.endOffset
  received_eq : received = log.segment noted position

structure Followed (decoder : Decoder Payload Value) (l : ControlLedger Partition Payload)
    (s : ControlPlane Partition Payload) : Prop where
  published : ∀ q, inPartition l.published q = (s.topic q).records
  noted_le : ∀ q, l.noted q ≤ (s.topic q).endOffset
  /-- The offsets were noted before the views were read. -/
  viewed : ∀ v ∈ l.views, v.2 ≤ l.published.length ∧
    ∀ r ∈ l.published.drop v.2, l.noted r.1 ≤ r.2.offset
  prepared : Prepared l.noted (l.views.map fun v => v.1.view) s.phase
  starting : Starting s.phase → s.position = ∅
  next_eq : s.next = s.position
  read : ∀ q position, s.position.lookup q = some position →
    ReadTo (l.noted q) (inPartition l.received q) (s.topic q) position
  known : ∀ r ∈ l.received, r.1 ∈ s.position.keys
  cache_eq : s.cache = l.cache decoder

variable {decoder : Decoder Payload Value} {l l' : ControlLedger Partition Payload}
  {s s' : ControlPlane Partition Payload}

/-- A further message is the last one of its partition. -/
theorem inPartition_concat (rs : List (Published Partition Payload))
    (r : Published Partition Payload) (q : Partition) :
    inPartition (rs ++ [r]) q = inPartition rs q ++ if r.1 = q then [r.2] else [] := by
  by_cases h : r.1 = q
  · simp [inPartition, List.filter_append, h]
  · simp [inPartition, List.filter_append, h]

/-- The messages of a partition are those with its number. -/
theorem mem_inPartition {rs : List (Published Partition Payload)} {q : Partition}
    {r : LogRecord (Option Payload)} : r ∈ inPartition rs q ↔ (q, r) ∈ rs := by
  rw [inPartition, List.mem_map]
  constructor
  · rintro ⟨r', hr', rfl⟩
    obtain ⟨hmem, hq⟩ := List.mem_filter.mp hr'
    rw [← of_decide_eq_true hq]
    exact hmem
  · intro hmem
    exact ⟨(q, r), List.mem_filter.mpr ⟨hmem, by simp⟩, rfl⟩

/-- Nothing was received as long as nothing is assigned. -/
theorem Followed.received_eq_nil (h : Followed decoder l s) (hstarting : Starting s.phase) :
    l.received = [] := by
  rw [List.eq_nil_iff_forall_not_mem]
  intro r hr
  have hmem := h.known r hr
  rw [h.starting hstarting] at hmem
  simp at hmem

/-- A process that is down follows whatever the topic holds. -/
theorem followed_stopped {published : List (Published Partition Payload)}
    {topic : Partition → ControlLog Payload}
    (hpublished : ∀ q, inPartition published q = (topic q).records) :
    Followed decoder { ControlLedger.empty with published := published }
      (ControlPlane.stopped topic) where
  published := hpublished
  noted_le _ := Nat.zero_le _
  viewed v hv := by cases hv
  prepared := rfl
  starting _ := rfl
  next_eq := rfl
  read q position hposition := by
    have hnone : (∅ : HashMap Partition ℕ).lookup q = some position := hposition
    rw [Finmap.lookup_empty] at hnone
    cases hnone
  known r hr := by cases hr
  cache_eq := rfl

/-! ## The topic grows -/

/-- What was read of a log was read of every log that continues it. -/
theorem ReadTo.continued {noted position : ℕ} {received : List (LogRecord (Option Payload))}
    {log log' : ControlLog Payload} (h : ReadTo noted received log position)
    (hlog : log.Continues log') : ReadTo noted received log' position := by
  refine ⟨h.noted_le, h.le_end.trans hlog.endOffset_le, ?_⟩
  rw [h.received_eq, hlog.segment_eq noted position h.le_end]

/-- A published message is behind everything that was received. -/
theorem followed_publish (h : Followed decoder l s) (partition : Partition)
    (payload : Option Payload)
    (hs : controlStep decoder s (.publish partition payload) = some s') :
    Followed decoder (l.note s (.publish partition payload)) s' := by
  obtain rfl := Option.some.inj hs
  have hlogs := PartitionLog.continues_update
    ((s.topic partition).continues_append 0 payload)
  refine { h with
    published := ?_, noted_le := fun q => (h.noted_le q).trans (hlogs q).endOffset_le,
    viewed := ?_, read := fun q position hq => (h.read q position hq).continued (hlogs q) }
  · intro q
    have hlog := h.published q
    by_cases hq : q = partition
    · subst hq
      simp only [ControlLedger.note, inPartition_concat, hlog, if_true, Function.update_self,
        PartitionLog.append, Nat.add_zero]
    · simp only [ControlLedger.note, inPartition_concat, hlog, Ne.symm hq, if_false,
        List.append_nil, Function.update_of_ne hq]
  · intro v hv
    obtain ⟨hlength, hlater⟩ := h.viewed v hv
    refine ⟨Nat.le_trans hlength (by simp [ControlLedger.note]), ?_⟩
    intro r hr
    rw [ControlLedger.note, List.drop_append_of_le_length hlength, List.mem_append,
      List.mem_singleton] at hr
    rcases hr with hr | rfl
    · exact hlater r hr
    · exact h.noted_le partition

/-- So is an offset without a message. -/
theorem followed_skip (h : Followed decoder l s) (partition : Partition)
    (hs : controlStep decoder s (.skip partition) = some s') :
    Followed decoder (l.note s (.skip partition)) s' := by
  obtain rfl := Option.some.inj hs
  have hlogs := PartitionLog.continues_update (s.topic partition).continues_skip
  refine { h with
    published := ?_, noted_le := fun q => (h.noted_le q).trans (hlogs q).endOffset_le,
    read := fun q position hq => (h.read q position hq).continued (hlogs q) }
  intro q
  have hlog := h.published q
  by_cases hq : q = partition
  · subst hq
    simp only [ControlLedger.note, hlog, Function.update_self, PartitionLog.skip]
  · simp only [ControlLedger.note, hlog, Function.update_of_ne hq]

/-! ## The process starts -/

/-- A start has noted and received nothing. -/
theorem followed_start {partitions : List Partition} (h : Followed decoder l s)
    (hs : controlStep decoder s (.start partitions) = some s') :
    Followed decoder (l.note s (.start partitions)) s' := by
  obtain ⟨hphase, hnodup, rfl⟩ := start_cases hs
  have hviews := h.prepared
  rw [hphase] at hviews
  have hposition := h.starting (by rw [hphase]; trivial)
  exact { h with
    prepared := ⟨hviews, by simpa using hnodup, by simp⟩
    starting := fun _ => hposition }

/-- Noting one more partition. -/
theorem NotedOnce.note {noted : Partition → ℕ} {partition : Partition} {left : List Partition}
    {offsets : List (Partition × ℕ)} (h : NotedOnce noted (partition :: left) offsets)
    (stop : ℕ) :
    NotedOnce (Function.update noted partition stop) left (offsets ++ [(partition, stop)]) := by
  obtain ⟨hnodup, hnoted⟩ := h
  refine ⟨by simpa using hnodup, ?_⟩
  intro e he
  rcases List.mem_append.mp he with hold | hnew
  · have hne : e.1 ≠ partition := by
      intro heq
      exact (List.nodup_append.mp hnodup).2.2 e.1 (List.mem_map_of_mem hold) partition
        List.mem_cons_self heq
    rw [hnoted e hold, Function.update_of_ne hne]
  · rw [List.mem_singleton.mp hnew, Function.update_self]

/-- A noted offset is the end of its partition. -/
theorem followed_noteOffset (h : Followed decoder l s)
    (hs : controlStep decoder s .noteOffset = some s') :
    Followed decoder (l.note s .noteOffset) s' := by
  obtain ⟨partition, left, offsets, hphase, rfl⟩ := noteOffset_cases hs
  have hprepared := h.prepared
  rw [hphase] at hprepared
  obtain ⟨hviews, honce⟩ := hprepared
  have hposition : s.position = ∅ := h.starting (by rw [hphase]; trivial)
  have hnote : l.note s .noteOffset =
      { l with noted := Function.update l.noted partition (s.topic partition).endOffset } := by
    simp only [ControlLedger.note, hphase]
  rw [hnote]
  refine { h with
    noted_le := ?_, viewed := ?_, prepared := ?_, starting := fun _ => hposition, read := ?_ }
  · intro q
    show Function.update l.noted partition (s.topic partition).endOffset q ≤
      (s.topic q).endOffset
    by_cases hq : q = partition
    · subst hq
      rw [Function.update_self]
    · rw [Function.update_of_ne hq]
      exact h.noted_le q
  · intro v hv
    rw [List.map_eq_nil_iff.mp hviews] at hv
    cases hv
  · cases left with
    | nil => exact ⟨honce.note _, by simp, by rw [hviews, List.nil_append]⟩
    | cons next left => exact ⟨hviews, honce.note _⟩
  · intro q position hlookup
    have hnone : s.position.lookup q = some position := hlookup
    rw [hposition, Finmap.lookup_empty] at hnone
    cases hnone

/-- A query applies the rows of its view, and notes when it was asked. -/
theorem followed_query {rows : ViewRows} (h : Followed decoder l s)
    (hs : controlStep decoder s (.query rows) = some s') :
    Followed decoder (l.note s (.query rows)) s' := by
  obtain ⟨offsets, left, hphase, rfl⟩ := query_cases hs
  have hprepared := h.prepared
  rw [hphase] at hprepared
  obtain ⟨honce, hsome, hviews⟩ := hprepared
  have hstarting : Starting s.phase := by rw [hphase]; trivial
  have hposition := h.starting hstarting
  have hreceived := h.received_eq_nil hstarting
  refine { h with
    viewed := ?_, prepared := ⟨honce, hsome, ?_⟩, starting := fun _ => hposition, cache_eq := ?_ }
  · intro v hv
    rcases List.mem_append.mp hv with hold | hnew
    · exact h.viewed v hold
    · -- nothing is published behind the query yet
      rw [List.mem_singleton.mp hnew]
      refine ⟨Nat.le_refl _, fun r hr => ?_⟩
      have hnil : r ∈ l.published.drop l.published.length := hr
      rw [List.drop_length] at hnil
      cases hnil
  · simpa [ControlLedger.note] using hviews
  · have hcache := h.cache_eq
    simp only [ControlLedger.cache, hreceived] at hcache
    simp only [ControlLedger.note, ControlLedger.cache, hreceived, List.map_append,
      List.foldl_append, hcache]
    rfl

/-- An assigned partition is read from its noted offset on. -/
theorem followed_assign (h : Followed decoder l s)
    (hs : controlStep decoder s .assign = some s') :
    Followed decoder (l.note s .assign) s' := by
  obtain ⟨offsets, hphase, rfl⟩ := assign_cases hs
  have hprepared := h.prepared
  rw [hphase] at hprepared
  obtain ⟨honce, -, hviews⟩ := hprepared
  rw [List.append_nil] at hviews
  have hreceived := h.received_eq_nil (by rw [hphase]; trivial)
  have hnodup : (offsets.map Prod.fst).Nodup := by simpa using honce.nodup
  refine { h with
    prepared := hviews, starting := fun hfalse => hfalse.elim, next_eq := rfl, read := ?_,
    known := ?_ }
  · intro q position hposition
    have hmem := (lookup_collect_eq_some_iff hnodup).mp hposition
    obtain rfl : position = l.noted q := honce.noted_eq _ hmem
    refine ⟨Nat.le_refl _, h.noted_le q, ?_⟩
    simp only [ControlLedger.note, inPartition, hreceived, List.filter_nil, List.map_nil,
      PartitionLog.segment_self]
  · intro r hr
    rw [show (l.note s .assign).received = [] from hreceived] at hr
    cases hr

/-! ## The process runs -/

omit [DecidableEq Partition] in
/-- A received message is applied last. -/
theorem cache_receive (l : ControlLedger Partition Payload) (partition : Partition)
    (message : LogRecord (Option Payload)) (contacts : List Contact) :
    ControlLedger.cache
      { l with received := l.received ++ [(partition, message)], contacts := contacts } decoder =
      applyMessage decoder (l.cache decoder) message := by
  cases hvalue : message.value with
  | none => simp [ControlLedger.cache, applyMessage, hvalue]
  | some payload => simp [ControlLedger.cache, applyMessage, hvalue, applyEvents]

/-- A received message is the next one of its partition, and is applied. -/
theorem followed_receive {partition : Partition} (h : Followed decoder l s)
    (hs : controlStep decoder s (.receive partition) = some s') :
    Followed decoder (l.note s (.receive partition)) s' := by
  obtain ⟨hphase, position, message, hposition, hmessage, rfl⟩ := receiveMessage_cases hs
  have hnote : l.note s (.receive partition) =
      { l with
        received := l.received ++ [(partition, message)]
        contacts := l.contacts ++ [.applied message.offset] } := by
    simp only [ControlLedger.note, hposition, Option.bind_some, hmessage]
  obtain ⟨hmem, hle, -⟩ := PartitionLog.next_eq_some hmessage
  have hbelow := (s.topic partition).below message hmem
  rw [hnote]
  refine { h with
    starting := fun hstarting => ?_, next_eq := ?_, read := ?_, known := ?_, cache_eq := ?_ }
  · rw [show s.phase = .consuming from hphase] at hstarting
    exact hstarting.elim
  · simp only [h.next_eq]
  · intro q position' hposition'
    rw [lookup_insert_eq_some_iff] at hposition'
    rcases hposition' with ⟨rfl, rfl⟩ | ⟨hq, hold⟩
    · obtain ⟨hnoted, hend, hreceived⟩ := h.read q position hposition
      refine ⟨hnoted.trans (hle.trans (Nat.le_succ _)), hbelow, ?_⟩
      rw [inPartition_concat, hreceived, if_pos rfl]
      exact (PartitionLog.segment_next hnoted hmessage).symm
    · obtain ⟨hnoted, hend, hreceived⟩ := h.read q position' hold
      refine ⟨hnoted, hend, ?_⟩
      rw [inPartition_concat, hreceived, if_neg (Ne.symm hq), List.append_nil]
  · intro r hr
    rw [mem_keys_iff_lookup]
    rcases List.mem_append.mp hr with hold | hnew
    · obtain ⟨position', hold⟩ := (mem_keys_iff_lookup _ _).mp (h.known r hold)
      by_cases hq : r.1 = partition
      · exact ⟨message.offset + 1, by rw [lookup_insert_ite, if_pos hq]⟩
      · exact ⟨position', by rw [lookup_insert_ite, if_neg hq, hold]⟩
    · rw [List.mem_singleton.mp hnew]
      exact ⟨message.offset + 1, by rw [lookup_insert_ite, if_pos rfl]⟩
  · rw [cache_receive, ← h.cache_eq]

/-- The other actions at the `select!` leave notes of the contacts only. -/
theorem note_of_moves {a : ControlAction Partition Payload} (ha : Moves a)
    (l : ControlLedger Partition Payload) (s : ControlPlane Partition Payload) :
    ∃ contacts begun, l.note s a = { l with contacts := contacts, begun := begun } := by
  cases a with
  | receiveError => exact ⟨_, _, rfl⟩
  | probe => exact ⟨_, _, rfl⟩
  | fetchWatermark partition => exact ⟨_, _, rfl⟩
  | fetchFailed => exact ⟨_, _, rfl⟩
  | probeDone =>
    rw [ControlLedger.note]
    split
    · exact ⟨_, _, rfl⟩
    · exact ⟨_, _, rfl⟩
  | _ => exact ha.elim

/-- What only moves between `consuming` and `probing` changes nothing of this. -/
theorem followed_moves {a : ControlAction Partition Payload} (ha : Moves a)
    (h : Followed decoder l s) (hs : controlStep decoder s a = some s') :
    Followed decoder (l.note s a) s' := by
  obtain ⟨hrunning, phase, health, hphase, rfl⟩ := moves_cases ha hs
  obtain ⟨contacts, begun, hnote⟩ := note_of_moves ha l s
  have hviews : l.views.map (fun v => v.1.view) = View.all := by
    have hbefore := h.prepared
    cases hs : s.phase <;> simp_all [Starting, Prepared]
  rw [hnote]
  refine { h with prepared := ?_, starting := fun hstarting => (hphase hstarting).elim }
  cases phase with
  | consuming => exact hviews
  | probing left total => exact hviews
  | _ => exact (hphase trivial).elim

/-- A crash forgets what was noted and received. -/
theorem followed_crash (h : Followed decoder l s)
    (hs : controlStep decoder s .crash = some s') :
    Followed decoder (l.note s .crash) s' := by
  obtain rfl := crash_cases hs
  exact followed_stopped h.published

/-- **Every step keeps the invariant.** -/
theorem followed_controlStep {a : ControlAction Partition Payload} (h : Followed decoder l s)
    (hs : controlStep decoder s a = some s') : Followed decoder (l.note s a) s' := by
  cases a with
  | publish partition payload => exact followed_publish h partition payload hs
  | skip partition => exact followed_skip h partition hs
  | start partitions => exact followed_start h hs
  | noteOffset => exact followed_noteOffset h hs
  | query rows => exact followed_query h hs
  | assign => exact followed_assign h hs
  | receive partition => exact followed_receive h hs
  | crash => exact followed_crash h hs
  | _ => exact followed_moves trivial h hs

/-- **Every run keeps the invariant.** -/
theorem followed_controlLedgerRun {actions : List (ControlAction Partition Payload)}
    (h : controlLedgerRun decoder actions = some (l, s)) : Followed decoder l s :=
  Runs.invariant_of_observed (followed_stopped fun _ => rfl)
    (fun _ _ _ _ => followed_controlStep) h

/-- **The consumer applies each message once and in order.**  In every state of every run the
cache is the loaded snapshot with the received messages on it; of an assigned partition the
received messages are those between the noted offset and the position, in the order of the
log, and of any other partition there are none.  A message that was published after the query
of a view is at or above the noted offset of its partition.
SRC: kafka/control_plane.rs:275-412, permissions/loader.rs:55-118 -/
theorem applied_controlRun (decoder : Decoder Payload Value)
    (actions : List (ControlAction Partition Payload)) (s : ControlPlane Partition Payload)
    (hrun : controlRun decoder actions = some s) :
    ∃ l, controlLedgerRun decoder actions = some (l, s) ∧
      s.cache = l.cache decoder ∧ s.next = s.position ∧
      (∀ q, inPartition l.published q = (s.topic q).records) ∧
      (∀ q position, s.position.lookup q = some position →
        l.noted q ≤ position ∧ position ≤ (s.topic q).endOffset ∧
          inPartition l.received q = (s.topic q).segment (l.noted q) position) ∧
      (∀ q, s.position.lookup q = none → inPartition l.received q = []) ∧
      ∀ v ∈ l.views, ∀ r ∈ l.published.drop v.2, l.noted r.1 ≤ r.2.offset := by
  obtain ⟨l, hledger⟩ := Runs.exists_exec_observed hrun ControlLedger.note ControlLedger.empty
  have h := followed_controlLedgerRun hledger
  refine ⟨l, hledger, h.cache_eq, h.next_eq, h.published, ?_, ?_, fun v hv => (h.viewed v hv).2⟩
  · intro q position hposition
    obtain ⟨hnoted, hend, hreceived⟩ := h.read q position hposition
    exact ⟨hnoted, hend, hreceived⟩
  · intro q hnone
    rw [List.eq_nil_iff_forall_not_mem]
    intro r hr
    have hknown := (mem_keys_iff_lookup _ _).mp (h.known _ (mem_inPartition.mp hr))
    obtain ⟨position, hposition⟩ := hknown
    rw [show (q, r).1 = q from rfl, hnone] at hposition
    cases hposition

/-- A process that fails at its first start.  At the second one the database is ahead of the
topic: it shows the three events of which one is published, and the others are received
after the snapshot that has them. -/
def restartedRun : List (ControlAction ℕ Event) :=
  [.start [0], .crash, .publish 0 (some (.unitDeviceUpsert "a" 1 10)), .start [0, 1],
    .noteOffset, .noteOffset, .query (.users []),
    .query (.organizationUsers [⟨10, 5, "owner", "ACTIVE"⟩]), .query (.userUnits []),
    .query (.unitDevices [⟨"b", 2, 10⟩, ⟨"a", 1, 10⟩]), .query (.userDevices []), .assign,
    .publish 1 (some (.membershipUpsert 10 5 "owner" "ACTIVE")),
    .publish 0 (some (.unitDeviceUpsert "b" 2 10)), .receive 1, .receive 0, .probe,
    .fetchWatermark 1, .fetchWatermark 0, .probeDone]

/-- The restarted consumer has applied what its ledger says. -/
theorem applied_controlRun_restarted :
    ∃ s l, controlRun typedDecoder restartedRun = some s ∧ s.cache = l.cache typedDecoder ∧
      controlLedgerRun typedDecoder restartedRun = some (l, s) := by
  obtain ⟨s, hrun⟩ : ∃ s, controlRun typedDecoder restartedRun = some s := ⟨_, rfl⟩
  obtain ⟨l, hledger, hcache, -⟩ := applied_controlRun typedDecoder restartedRun s hrun
  exact ⟨s, l, hrun, hcache, hledger⟩

/-! ## Catching up -/

/-- The messages of one partition that were not received. -/
def pending (s : ControlPlane Partition Payload) (q : Partition) : ℕ :=
  ((s.topic q).segment (positionAt s q) (s.topic q).endOffset).length

/-- The unapplied messages, partition by partition. -/
theorem unapplied_eq (s : ControlPlane Partition Payload) :
    unapplied s = ∑ q ∈ s.position.keys, pending s q := rfl

/-- Receiving one message leaves one less. -/
theorem unapplied_receive {partition : Partition}
    (hs : controlStep decoder s (.receive partition) = some s') :
    unapplied s = unapplied s' + 1 := by
  obtain ⟨-, position, message, hposition, hmessage, rfl⟩ := receiveMessage_cases hs
  have hmem : partition ∈ s.position.keys := (mem_keys_iff_lookup _ _).mpr ⟨_, hposition⟩
  have hkeys : (s.position.insert partition (message.offset + 1)).keys = s.position.keys := by
    ext q
    rw [mem_keys_iff_lookup, mem_keys_iff_lookup]
    by_cases hq : q = partition
    · subst hq
      simp [hposition]
    · simp [hq]
  have hone := PartitionLog.length_segment_next hmessage
  rw [unapplied_eq, unapplied_eq, ← Finset.add_sum_erase _ _ hmem]
  show _ = ∑ q ∈ (s.position.insert partition (message.offset + 1)).keys, _ + 1
  rw [hkeys, ← Finset.add_sum_erase _ _ hmem]
  have hothers : ∑ q ∈ s.position.keys.erase partition, pending s q =
      ∑ q ∈ s.position.keys.erase partition, pending { s with
        cache := applyMessage decoder s.cache message
        position := s.position.insert partition (message.offset + 1)
        next := s.next.insert partition (message.offset + 1)
        health := s.health.markApplied message.offset } q := by
    refine Finset.sum_congr rfl fun q hq => ?_
    have hne := Finset.ne_of_mem_erase hq
    simp only [pending, positionAt, lookup_insert_ite, if_neg hne]
  have hbefore : pending s partition =
      ((s.topic partition).segment position (s.topic partition).endOffset).length := by
    rw [pending, positionAt, hposition, Option.getD_some]
  rw [hothers, hbefore, hone]
  simp only [pending, positionAt, lookup_insert_ite, if_true, Option.getD_some]
  omega

/-- As long as a message is left, one can be received. -/
theorem exists_receive (decoder : Decoder Payload Value) (hphase : s.phase = .consuming) (hleft : 0 < unapplied s) :
    ∃ partition s', controlStep decoder s (.receive partition) = some s' := by
  obtain ⟨q, hq, hpending⟩ := Finset.exists_ne_zero_of_sum_ne_zero (Nat.ne_of_gt hleft)
  obtain ⟨position, hposition⟩ := (mem_keys_iff_lookup _ _).mp hq
  rw [positionAt, hposition, Option.getD_some] at hpending
  cases hmessage : (s.topic q).next position with
  | none => exact absurd (PartitionLog.next_eq_none_iff.mp hmessage) hpending
  | some message =>
    refine ⟨q, Option.isSome_iff_exists.mp ?_⟩
    simp only [controlStep, hphase, hposition, hmessage, Option.isSome_some]

/-- A consumer has caught up when nothing is left. -/
theorem caughtUp_iff (hphase : s.phase = .consuming)
    (hassigned : ∀ q, (s.topic q).records ≠ [] → q ∈ s.position.keys) :
    CaughtUp s ↔ unapplied s = 0 := by
  rw [unapplied_eq, Finset.sum_eq_zero_iff]
  simp only [pending, List.length_eq_zero_iff, List.eq_nil_iff_forall_not_mem]
  constructor
  · intro h q _ r hr
    obtain ⟨hmem, hfrom, -⟩ := PartitionLog.mem_segment.mp hr
    obtain ⟨position, hposition, hlt⟩ := h.reached q r hmem
    rw [positionAt, hposition, Option.getD_some] at hfrom
    omega
  · intro h
    refine ⟨Or.inl hphase, fun q r hr => ?_⟩
    have hq := hassigned q (List.ne_nil_of_mem hr)
    obtain ⟨position, hposition⟩ := (mem_keys_iff_lookup _ _).mp hq
    refine ⟨position, hposition, ?_⟩
    by_contra hge
    refine h q hq r (PartitionLog.mem_segment.mpr ⟨hr, ?_, (s.topic q).below r hr⟩)
    rw [positionAt, hposition, Option.getD_some]
    omega

/-- What a message that is received leaves as it was. -/
theorem frame_receive {partition : Partition}
    (hs : controlStep decoder s (.receive partition) = some s') :
    s.phase = .consuming ∧ s'.phase = .consuming ∧ s'.topic = s.topic ∧
      s.position.keys ⊆ s'.position.keys := by
  obtain ⟨hphase, position, message, -, -, rfl⟩ := receiveMessage_cases hs
  refine ⟨hphase, hphase, rfl, fun q hq => ?_⟩
  obtain ⟨position', hposition'⟩ := (mem_keys_iff_lookup _ _).mp hq
  rw [mem_keys_iff_lookup]
  by_cases hq : q = partition
  · exact ⟨message.offset + 1, by rw [lookup_insert_ite, if_pos hq]⟩
  · exact ⟨position', by rw [lookup_insert_ite, if_neg hq, hposition']⟩

/-- Receiving from these partitions, one after the other. -/
def receives (partitions : List Partition) : List (ControlAction Partition Payload) :=
  partitions.map fun partition => .receive partition

/-- Receiving from some partitions is receiving from the first, then from the others. -/
theorem exec_receives_cons {partition : Partition} {partitions : List Partition} :
    Runs.exec (controlStep decoder) s (receives (partition :: partitions)) = some s' ↔
      ∃ mid, controlStep decoder s (.receive partition) = some mid ∧
        Runs.exec (controlStep decoder) mid (receives partitions) = some s' := by
  rw [receives, List.map_cons, Runs.exec_cons, Option.bind_eq_some_iff]
  rfl

/-- Receiving takes the unapplied messages off one by one. -/
theorem frame_receives {partitions : List Partition} (hphase : s.phase = .consuming)
    (hrun : Runs.exec (controlStep decoder) s (receives partitions) = some s') :
    s'.phase = .consuming ∧ s'.topic = s.topic ∧ s.position.keys ⊆ s'.position.keys ∧
      partitions.length + unapplied s' = unapplied s := by
  induction partitions generalizing s with
  | nil =>
    obtain rfl := Option.some.inj hrun
    exact ⟨hphase, rfl, Finset.Subset.refl _, by rw [List.length_nil, Nat.zero_add]⟩
  | cons partition partitions ih =>
    obtain ⟨mid, hmid, hrest⟩ := exec_receives_cons.mp hrun
    obtain ⟨-, hconsuming, htopic, hkeys⟩ := frame_receive hmid
    have hone := unapplied_receive hmid
    obtain ⟨hphase', htopic', hkeys', hlength⟩ := ih hconsuming hrest
    refine ⟨hphase', htopic'.trans htopic, hkeys.trans hkeys', ?_⟩
    rw [List.length_cons]
    omega

/-- **A quiet topic is drained.**  From every state in which the consumer waits for messages
and is assigned each partition that has any, it can receive until it has caught up, and
whatever order of the partitions it takes, it has caught up after exactly the messages that
were left.
SRC: kafka/control_plane.rs:362-408 -/
theorem drains_controlStep (decoder : Decoder Payload Value) (s : ControlPlane Partition Payload)
    (hphase : s.phase = .consuming)
    (hassigned : ∀ q, (s.topic q).records ≠ [] → q ∈ s.position.keys) :
    (∃ partitions s', Runs.exec (controlStep decoder) s (receives partitions) = some s' ∧
      s'.topic = s.topic ∧ CaughtUp s') ∧
    ∀ partitions s', Runs.exec (controlStep decoder) s (receives partitions) = some s' →
      partitions.length ≤ unapplied s ∧ (partitions.length = unapplied s ↔ CaughtUp s') := by
  constructor
  · induction hleft : unapplied s generalizing s with
    | zero => exact ⟨[], s, rfl, rfl, (caughtUp_iff hphase hassigned).mpr hleft⟩
    | succ n ih =>
      obtain ⟨partition, mid, hmid⟩ := exists_receive decoder hphase (by omega)
      obtain ⟨-, hphase', htopic, hkeys⟩ := frame_receive hmid
      have hone := unapplied_receive hmid
      obtain ⟨partitions, s', hrun, htopic', hcaught⟩ :=
        ih mid hphase' (fun q hq => hkeys (hassigned q (htopic ▸ hq))) (by omega)
      exact ⟨partition :: partitions, s', exec_receives_cons.mpr ⟨mid, hmid, hrun⟩,
        htopic'.trans htopic, hcaught⟩
  · intro partitions s' hrun
    obtain ⟨hphase', htopic, hkeys, hlength⟩ := frame_receives hphase hrun
    rw [caughtUp_iff hphase' fun q hq => hkeys (hassigned q (htopic ▸ hq))]
    omega

/-- A consumer of one partition, before a message without a payload. -/
def oneLeft : ControlPlane Unit Event where
  topic _ := PartitionLog.empty.append 0 none
  phase := .consuming
  cache := State.default
  position := collect [((), 0)]
  next := collect [((), 0)]
  health := ControlPlaneHealth.default

/-- One receive drains the topic with one message left. -/
theorem drains_controlStep_oneLeft :
    ∃ partitions s', Runs.exec (controlStep typedDecoder) oneLeft (receives partitions) =
      some s' ∧ partitions.length = 1 ∧ CaughtUp s' := by
  have hassigned : ∀ q, (oneLeft.topic q).records ≠ [] → q ∈ oneLeft.position.keys := by
    intro q _
    exact (mem_keys_iff_lookup _ _).mpr ⟨0, by cases q; rfl⟩
  obtain ⟨⟨partitions, s', hrun, -, hcaught⟩, hlength⟩ :=
    drains_controlStep typedDecoder oneLeft rfl hassigned
  exact ⟨partitions, s', hrun, (hlength partitions s' hrun).2.mpr hcaught, hcaught⟩

end AlertDistributor.Analysis
