import AlertDistributor.Analysis.HandedInOrder
import AlertDistributor.Analysis.MessageText

/-!
# The alerts of the texts

An alert is taken from a text if and only if the text says it (`alertFromSlice_iff`), as the
text that its `Serialize` writes does (`saidAlert_text`).  So what the consumer hands over of a
stretch of the log is what the texts of the stretch say (`handsOverSaid_kafkaRun`).
-/

set_option autoImplicit false

namespace AlertDistributor.Analysis

open AlertDistributor.Model AlertDistributor.Interface AlertDistributor.System JsonText Serde

section Alert

variable {Payload Raw Value Time : Type} {json : SerdeJson Payload Raw Value}
  {parseUuid : String → Option Uuid} {parseTime : String → Option Time}

/-- What the derived `Deserialize` of `AlertEvent` accepts. -/
theorem alert_iff {raw : Raw} {event : AlertEvent Value Time} :
    AlertEvent.deserialize json parseUuid parseTime raw = some event ↔
      ∃ bySeq slot,
        Gives alertFieldNames (json.rawShape raw) bySeq slot ∧
        IsAlert json parseUuid parseTime bySeq slot event := by
  refine given_bind_iff (fun bySeq slot event =>
    IsAlert json parseUuid parseTime bySeq slot event) (fun g event => ?_) event
  simp only [Option.bind_eq_bind, Option.bind_eq_some_iff, Given.required_iff,
    Given.optional_iff, Option.pure_def, Option.some.injEq]
  constructor
  · rintro ⟨id, hid, org, horg, unit, hunit, name, ⟨hgiven, hname⟩, rule, hrule, source,
      hsource, sourceId, hsourceId, type, htype, title, ⟨hgiven', htitle⟩, payload, hpayload,
      time, htime, rfl⟩
    exact ⟨hid, horg, hunit, hgiven, hname, hrule, hsource, hsourceId, htype, hgiven', htitle,
      hpayload, htime⟩
  · intro h
    exact ⟨_, h.id, _, h.organizationId, _, h.unitId, _, ⟨h.unitNameGiven, h.unitName⟩, _,
      h.ruleId, _, h.sourceType, _, h.sourceId, _, h.alertType, _,
      ⟨h.alertNameGiven, h.alertName⟩, _, h.payload, _, h.occurredAt, rfl⟩

/-- **An alert is read from a payload if and only if the payload says it.** -/
theorem alertFromSlice_iff {payload : Payload} {event : AlertEvent Value Time} :
    alertFromSlice json parseUuid parseTime payload = some event ↔
      SaysAlert json parseUuid parseTime payload event := by
  unfold alertFromSlice
  rw [Option.bind_eq_some_iff]
  constructor
  · rintro ⟨raw, hread, hdecode⟩
    obtain ⟨bySeq, slot, hgives, halert⟩ := alert_iff.mp hdecode
    exact ⟨raw, bySeq, slot, hread, hgives, halert⟩
  · rintro ⟨raw, bySeq, slot, hread, hgives, halert⟩
    exact ⟨raw, hread, alert_iff.mpr ⟨bySeq, slot, hgives, halert⟩⟩

end Alert

section Text

variable {Time : Type} {parseUuid : String → Option Uuid} {printUuid : Uuid → String}
  {parseTime : String → Option Time} {printTime : Time → String}

/-- A name that is written as text or as null is held. -/
theorem mayHoldString_of_optionValue {slot : String → Option Value} {field : String}
    {s : Option String} (h : slot field = some (optionValue s)) :
    MayHoldString valueShape slot field s := by
  cases s with
  | none =>
    intro v hv
    rw [h] at hv
    obtain rfl := Option.some.inj hv
    rfl
  | some s => exact mayHoldString_of_slot h

/-- The fields of an alert are canonical when its payload is. -/
theorem canonical_alertFields {event : AlertEvent Value Time}
    (hpayload : event.payload.Canonical) :
    ∀ e ∈ alertFields printUuid printTime event, e.2.Canonical := by
  have hoption : ∀ s, (optionValue s).Canonical := by
    intro s
    cases s with
    | none => exact .null
    | some s => exact .string s
  simp [alertFields, Value.Canonical.string, hoption, hpayload]

/-- **An alert is said by its text**, whatever other fields stand in it. -/
theorem saidAlert_text (codec : JsonCodec) (hround : ∀ u, parseUuid (printUuid u) = some u)
    (htime : ∀ t, parseTime (printTime t) = some t) {event : AlertEvent Value Time}
    (hpayload : event.payload.Canonical) (more : MoreFields alertFieldNames) :
    SaysAlert (readingWith codec) parseUuid parseTime
      (alertText codec printUuid printTime event more) event := by
  have hcanonical : (Value.ofFields
      (alertFields printUuid printTime event ++ more.entries)).Canonical := by
    refine Value.canonical_ofFields fun e he => ?_
    obtain he | he := List.mem_append.mp he
    · exact canonical_alertFields hpayload e he
    · exact more.canonical e he
  have hslot : ∀ field ∈ alertFieldNames,
      (known alertFieldNames (sortFields (alertFields printUuid printTime event ++
        more.entries))).lookup field =
          (alertFields printUuid printTime event).reverse.lookup field :=
    fun field hfield => lookup_written more hfield
  obtain ⟨hid, horg, hunit, hname, hrule, hsource, hsourceId, htype, htitle, hdata, hoccurred⟩ :
      _ = some (Value.string (printUuid event.id)) ∧
      _ = some (Value.string (printUuid event.organizationId)) ∧
      _ = some (Value.string event.unitId) ∧ _ = some (optionValue event.unitName) ∧
      _ = some (Value.string (printUuid event.ruleId)) ∧
      _ = some (Value.string event.sourceType) ∧
      _ = some (Value.string (printUuid event.sourceId)) ∧
      _ = some (Value.string event.alertType) ∧ _ = some (optionValue event.alertName) ∧
      _ = some event.payload ∧ _ = some (Value.string (printTime event.occurredAt)) := by
    simpa [alertFieldNames, alertFields, lookup_cons_ite] using hslot
  refine ⟨_, false, _, codec.fromStr_toString _ hcanonical, gives_ofFields alertFieldNames _, ?_⟩
  exact {
    id := holdsUuid_of_slot hround hid
    organizationId := holdsUuid_of_slot hround horg
    unitId := ⟨_, hunit, rfl⟩
    unitNameGiven := fun _ => rfl
    unitName := mayHoldString_of_optionValue hname
    ruleId := holdsUuid_of_slot hround hrule
    sourceType := ⟨_, hsource, rfl⟩
    sourceId := holdsUuid_of_slot hround hsourceId
    alertType := ⟨_, htype, rfl⟩
    alertNameGiven := fun _ => rfl
    alertName := mayHoldString_of_optionValue htitle
    payload := ⟨_, hdata, rfl⟩
    occurredAt := ⟨_, hoccurred, htime _⟩ }

end Text

/-! ## What is handed over -/

section Handed

variable {Partition Payload Json Time : Type} [DecidableEq Partition]
  {fromSlice : Payload → Option (AlertEvent Json Time)}

/-- What was handed over of a partition is among the calls with it. -/
theorem mem_handedAt {calls : List (Partition × ℕ × AlertEvent Json Time)} {p : Partition}
    {offset : ℕ} {event : AlertEvent Json Time} :
    (offset, event) ∈ handedAt calls p ↔ (p, offset, event) ∈ calls := by
  unfold handedAt
  rw [List.mem_map]
  constructor
  · rintro ⟨⟨q, call⟩, hmem, rfl⟩
    obtain ⟨hcall, hpartition⟩ := List.mem_filter.mp hmem
    obtain rfl := of_decide_eq_true hpartition
    exact hcall
  · intro h
    exact ⟨_, List.mem_filter.mpr ⟨h, decide_eq_true rfl⟩, rfl⟩

/-- The alerts of a stretch are the records in it with a payload that is read. -/
theorem mem_alertsIn {log : AlertLog Payload} {start stop offset : ℕ}
    {event : AlertEvent Json Time} :
    (offset, event) ∈ alertsIn fromSlice log start stop ↔
      (start ≤ offset ∧ offset < stop) ∧
        ∃ payload, ⟨offset, some payload⟩ ∈ log.records ∧ fromSlice payload = some event := by
  unfold alertsIn
  rw [List.mem_filterMap]
  constructor
  · rintro ⟨⟨offset', value⟩, hmem, halert⟩
    obtain ⟨event', hevent, heq⟩ := Option.map_eq_some_iff.mp halert
    obtain ⟨rfl, rfl⟩ := Prod.mk.inj heq
    obtain ⟨payload, rfl, hpayload⟩ := Option.bind_eq_some_iff.mp hevent
    obtain ⟨hrecord, hbounds⟩ := PartitionLog.mem_segment.mp hmem
    exact ⟨hbounds, payload, hrecord, hpayload⟩
  · rintro ⟨hbounds, payload, hrecord, hpayload⟩
    refine ⟨_, PartitionLog.mem_segment.mpr ⟨hrecord, hbounds⟩, ?_⟩
    simp [alertOf, hpayload]

/-- One side of a life: the alerts of a stretch of the partition. -/
theorem HandsOver.mem_iff {log : AlertLog Payload} {start stop : ℕ}
    {calls : List (Partition × ℕ × AlertEvent Json Time)} {p : Partition}
    (h : HandsOver fromSlice log start stop (handedAt calls p)) (offset : ℕ)
    (event : AlertEvent Json Time) :
    (p, offset, event) ∈ calls ↔ (start ≤ offset ∧ offset < stop) ∧
      ∃ payload, ⟨offset, some payload⟩ ∈ log.records ∧ fromSlice payload = some event := by
  rw [← mem_handedAt, h.handed, mem_alertsIn]

end Handed

/-- **What is dispatched is what the texts say.**  Each life of the process hands over to each
side, of every partition, an alert at an offset exactly when the offset lies between the start
of the life and the one that the side has come to, and the record there has a payload that says
the alert.
SRC: kafka/consumer.rs:44-121, models/alert_event.rs:6-19 -/
theorem handsOverSaid_kafkaRun {Partition Payload Raw Value Time : Type} [DecidableEq Partition]
    (json : SerdeJson Payload Raw Value) (parseUuid : String → Option Uuid)
    (parseTime : String → Option Time) (actions : List (KafkaAction Partition Payload))
    (s : KafkaState Partition Payload Value Time)
    (hrun : kafkaRun AlertsConsumer.config (alertFromSlice json parseUuid parseTime) actions =
      some s) :
    ∃ l, livesLedgerRun AlertsConsumer.config (alertFromSlice json parseUuid parseTime) actions =
        some (l, s) ∧
      ∀ life ∈ l.lives s, ∀ p,
        (life.wsReached p ≤ (s.topic p).endOffset ∧ ∀ offset event,
          (p, offset, event) ∈ life.calls.ws ↔
            (life.start p ≤ offset ∧ offset < life.wsReached p) ∧
              ∃ payload, ⟨offset, some payload⟩ ∈ (s.topic p).records ∧
                SaysAlert json parseUuid parseTime payload event) ∧
        life.snsReached p ≤ (s.topic p).endOffset ∧ ∀ offset event,
          (p, offset, event) ∈ life.calls.sns ↔
            (life.start p ≤ offset ∧ offset < life.snsReached p) ∧
              ∃ payload, ⟨offset, some payload⟩ ∈ (s.topic p).records ∧
                SaysAlert json parseUuid parseTime payload event := by
  obtain ⟨l, hledger⟩ := Runs.exists_exec_observed hrun (LivesLedger.note AlertsConsumer.config)
    LivesLedger.empty
  refine ⟨l, hledger, fun life hlife p => ?_⟩
  have hinOrder := (livesInOrder_livesLedgerRun hledger).inOrder life hlife
  have hws := hinOrder.ws p
  have hsns := hinOrder.sns p
  refine ⟨⟨hws.stop_le, fun offset event => ?_⟩, hsns.stop_le, fun offset event => ?_⟩
  · simp only [← alertFromSlice_iff]
    exact hws.mem_iff offset event
  · simp only [← alertFromSlice_iff]
    exact hsns.mem_iff offset event

/-- An alert with a name of spaces and a payload. -/
def engineAlert : AlertEvent Value String where
  id := 1
  organizationId := 10
  unitId := "00000000-0000-0000-0000-000000000001"
  unitName := none
  ruleId := 4
  sourceType := "event"
  sourceId := 5
  alertType := "Engine OFF"
  alertName := some "   "
  payload := .ofFields [("engine_status", .string "OFF")]
  occurredAt := "2026-03-29T20:56:34Z"

/-- The text of the alert, with one more field. -/
def engineText : String :=
  alertText textCodec UuidText.print id engineAlert {
    entries := [("version", .number 1)]
    canonical := by simp [Value.Canonical.number]
    unread := by simp [alertFieldNames] }

/-- The text says the alert. -/
theorem saidAlert_engineText :
    SaysAlert (readingWith textCodec) UuidText.parse some engineText engineAlert := by
  have hpayload : engineAlert.payload.Canonical :=
    Value.canonical_ofFields (by simp [Value.Canonical.string])
  exact saidAlert_text textCodec UuidText.parse_print (fun _ => rfl) hpayload _

/-- A message without a payload and one with this payload, which the member receives. -/
def receivedRun {Payload : Type} (payload : Payload) : List (KafkaAction ℕ Payload) :=
  [.produce 0 0 none, .produce 0 0 (some payload), .restart, .receive 0, .receive 0]

/-- The second message comes to `process_message`. -/
theorem livesLedgerRun_receivedRun {Payload Json Time : Type}
    (fromSlice : Payload → Option (AlertEvent Json Time)) (payload : Payload) :
    ∃ l s, livesLedgerRun AlertsConsumer.config fromSlice (receivedRun payload) = some (l, s) ∧
      l.current.start 0 = 0 ∧ (s.topic 0).records = [⟨0, none⟩, ⟨1, some payload⟩] ∧
      s.position 0 = 2 ∧ s.consumer = processMessage fromSlice 0 ⟨1, some payload⟩ :=
  ⟨_, _, rfl, rfl, rfl, rfl, rfl⟩

/-- If it is an alert, both sides return for it. -/
theorem livesLedgerRun_returned {Payload Json Time : Type}
    {fromSlice : Payload → Option (AlertEvent Json Time)} {payload : Payload}
    {event : AlertEvent Json Time} (hevent : fromSlice payload = some event) :
    ∃ l s, livesLedgerRun AlertsConsumer.config fromSlice
        (receivedRun payload ++ [.wsReturns] ++ [.snsReturns]) = some (l, s) ∧
      l.current.start 0 = 0 ∧ (s.topic 0).records = [⟨0, none⟩, ⟨1, some payload⟩] ∧
      s.position 0 = 2 ∧ s.consumer = .dispatching 0 ⟨1, some payload⟩ event true true := by
  obtain ⟨l, s, hrun, hstart, hrecords, hposition, hconsumer⟩ :=
    livesLedgerRun_receivedRun fromSlice payload
  have hinHand : s.consumer = .dispatching 0 ⟨1, some payload⟩ event false false := by
    rw [hconsumer, processMessage]
    dsimp only
    rw [hevent]
  have hws : kafkaStep AlertsConsumer.config fromSlice s .wsReturns =
      some { s with consumer := .dispatching 0 ⟨1, some payload⟩ event true false } := by
    simp only [kafkaStep, hinHand]
  have hreturned : livesLedgerRun AlertsConsumer.config fromSlice
      (receivedRun payload ++ [.wsReturns]) = some (l.note AlertsConsumer.config s .wsReturns,
        { s with consumer := .dispatching 0 ⟨1, some payload⟩ event true false }) :=
    Runs.exec_concat_eq_some.mpr ⟨(l, s), hrun, Runs.observed_eq_some.mpr ⟨hws, rfl⟩⟩
  refine ⟨_, { s with consumer := .dispatching 0 ⟨1, some payload⟩ event true true },
    Runs.exec_concat_eq_some.mpr ⟨_, hreturned, rfl⟩, hstart, hrecords, hposition, rfl⟩

/-- The alert of the text is handed over to both sides. -/
theorem handsOverSaid_kafkaRun_engine :
    ∃ (s : KafkaState ℕ String Value String) (l : LivesLedger ℕ Value String),
      kafkaRun AlertsConsumer.config (alertFromSlice (readingWith textCodec) UuidText.parse some)
        (receivedRun engineText ++ [.wsReturns] ++ [.snsReturns]) = some s ∧
      ∃ life ∈ l.lives s, (0, 1, engineAlert) ∈ life.calls.ws ∧
        (0, 1, engineAlert) ∈ life.calls.sns := by
  obtain ⟨l, s, hledger, hstart, hrecords, hposition, hconsumer⟩ :=
    livesLedgerRun_returned (alertFromSlice_iff.mpr saidAlert_engineText)
  have hrun := (Runs.map_snd_exec_observed LivesLedger.empty KafkaState.init _).symm.trans
    (congrArg (Option.map Prod.snd) hledger)
  obtain ⟨l', hledger', hlives⟩ := handsOverSaid_kafkaRun (readingWith textCodec)
    UuidText.parse some _ s hrun
  obtain rfl := (Prod.mk.inj (Option.some.inj (hledger.symm.trans hledger'))).1
  have hlife : l.current.upTo s ∈ l.lives s := List.mem_append_right _ List.mem_cons_self
  have hws : (l.current.upTo s).wsReached 0 = 2 := by
    simp [DispatchLife.upTo, wsReached, hconsumer, handedUpTo, hposition]
  have hsns : (l.current.upTo s).snsReached 0 = 2 := by
    simp [DispatchLife.upTo, snsReached, hconsumer, handedUpTo, hposition]
  have hstart' : (l.current.upTo s).start 0 ≤ 1 := (Nat.le_of_eq hstart).trans (Nat.zero_le 1)
  have hsaid : ∃ payload, ⟨1, some payload⟩ ∈ (s.topic 0).records ∧
      SaysAlert (readingWith textCodec) UuidText.parse some payload engineAlert :=
    ⟨engineText, by rw [hrecords]; simp, saidAlert_engineText⟩
  obtain ⟨⟨-, hwsCalls⟩, -, hsnsCalls⟩ := hlives _ hlife 0
  refine ⟨s, l, hrun, _, hlife, (hwsCalls 1 engineAlert).mpr ⟨⟨hstart', ?_⟩, hsaid⟩,
    (hsnsCalls 1 engineAlert).mpr ⟨⟨hstart', ?_⟩, hsaid⟩⟩
  · rw [hws]
    decide
  · rw [hsns]
    decide

end AlertDistributor.Analysis
