import AlertDistributor.Analysis.MessageGrammar
import AlertDistributor.Analysis.PushPayload
import AlertDistributor.Interface.MessageText
import AlertDistributor.Library.UuidText

/-!
# From the texts to the tables

The text of a message says its event (`said_text`), so whatever else a producer writes into
its messages, the cache after a stream of texts holds the last event per key
(`represents_texts`).
-/

set_option autoImplicit false

namespace AlertDistributor.Analysis

open AlertDistributor.Model AlertDistributor.Interface JsonText Serde

/-! ## The fields of a written object -/

section Fields

variable {fields : List String} {written : List (String × Value)}

/-- A written object names no field twice. -/
theorem gives_ofFields (fields : List String) (entries : List (String × Value)) :
    Gives fields (valueShape (.ofFields entries)) false fun field =>
      (known fields (sortFields entries)).lookup field := by
  refine .map (List.Pairwise.map Prod.fst (fun _ _ h => h) ?_)
  exact ((sorted_sortFields entries).sublist List.filter_sublist).imp fun h => h.ne

/-- A field is found as it was written, whatever other fields stand beside it. -/
theorem lookup_written (more : MoreFields fields) {field : String} (hfield : field ∈ fields) :
    (known fields (sortFields (written ++ more.entries))).lookup field =
      written.reverse.lookup field := by
  have hmore : more.entries.reverse.lookup field = none := by
    rw [List.lookup_eq_none_iff]
    intro e he
    rw [bne_iff_ne]
    rintro rfl
    exact more.unread e (List.mem_reverse.mp he) hfield
  have hget := Value.get_ofFields (written ++ more.entries) field
  rw [List.reverse_append, List.lookup_append, hmore, Option.none_or] at hget
  rw [lookup_known hfield]
  exact hget

end Fields

/-! ## One message -/

section Message

variable {parseUuid : String → Option Uuid} {printUuid : Uuid → String}
  {slot : String → Option Value} {field : String}

/-- A UUID that is written is held. -/
theorem holdsUuid_of_slot (hround : ∀ u, parseUuid (printUuid u) = some u) {u : Uuid}
    (h : slot field = some (.string (printUuid u))) :
    HoldsUuid valueShape parseUuid slot field u :=
  ⟨_, h, hround u⟩

/-- It is also what a field that may be absent holds. -/
theorem mayHoldUuid_of_slot (hround : ∀ u, parseUuid (printUuid u) = some u) {u : Uuid}
    (h : slot field = some (.string (printUuid u))) :
    MayHoldUuid valueShape parseUuid slot field (some u) :=
  ⟨_, h, nofun, hround u⟩

/-- A text that is written is held. -/
theorem mayHoldString_of_slot {s : String} (h : slot field = some (.string s)) :
    MayHoldString valueShape slot field (some s) :=
  ⟨_, h, nofun, rfl⟩

/-- And so is a flag. -/
theorem mayHoldBool_of_slot {b : Bool} (h : slot field = some (.bool b)) :
    MayHold valueShape slot (asBool valueShape) field (some b) :=
  ⟨_, h, nofun, rfl⟩

/-- A field that is not written holds nothing. -/
theorem mayHold_of_absent {α : Type} {decode : Value → Option α} (h : slot field = none) :
    MayHold valueShape slot decode field none := by
  intro v hv
  rw [h] at hv
  cases hv

/-- The written fields of an event say the event. -/
theorem dataSays_of_written (hround : ∀ u, parseUuid (printUuid u) = some u) (e : Event)
    (hslot : ∀ field ∈ e.fields, slot field = (e.data printUuid).reverse.lookup field) :
    DataSays valueShape parseUuid slot e.eventType e := by
  cases e with
  | userUpsert id status =>
    obtain ⟨hid, hstatus⟩ : slot "id" = some (.string (printUuid id)) ∧
        slot "status" = some (.string status) := by
      simpa [Event.fields, Event.data, lookup_cons_ite] using hslot
    exact @DataSays.userUpsert _ _ _ _ _ (some status) (holdsUuid_of_slot hround hid)
      (mayHoldString_of_slot hstatus)
  | userDelete id =>
    obtain ⟨hid, hstatus⟩ : slot "id" = some (.string (printUuid id)) ∧
        slot "status" = none := by
      simpa [Event.fields, Event.data, lookup_cons_ite] using hslot
    exact .userDelete (holdsUuid_of_slot hround hid) (mayHold_of_absent hstatus)
  | membershipUpsert org user role status =>
    obtain ⟨horg, huser, hrole, hstatus⟩ :
        slot "organization_id" = some (.string (printUuid org)) ∧
        slot "user_id" = some (.string (printUuid user)) ∧
        slot "role" = some (.string role) ∧ slot "status" = some (.string status) := by
      simpa [Event.fields, Event.data, lookup_cons_ite] using hslot
    exact @DataSays.membershipUpsert _ _ _ _ _ _ (some role) (some status)
      (holdsUuid_of_slot hround horg) (holdsUuid_of_slot hround huser)
      (mayHoldString_of_slot hrole) (mayHoldString_of_slot hstatus)
  | membershipDelete org user =>
    obtain ⟨horg, huser, hrole, hstatus⟩ :
        slot "organization_id" = some (.string (printUuid org)) ∧
        slot "user_id" = some (.string (printUuid user)) ∧
        slot "role" = none ∧ slot "status" = none := by
      simpa [Event.fields, Event.data, lookup_cons_ite] using hslot
    exact .membershipDelete (holdsUuid_of_slot hround horg) (holdsUuid_of_slot hround huser)
      (mayHold_of_absent hrole) (mayHold_of_absent hstatus)
  | userUnitUpsert org user unit =>
    obtain ⟨horg, huser, hunit⟩ :
        slot "organization_id" = some (.string (printUuid org)) ∧
        slot "user_id" = some (.string (printUuid user)) ∧
        slot "unit_id" = some (.string (printUuid unit)) := by
      simpa [Event.fields, Event.data, lookup_cons_ite] using hslot
    exact .userUnitUpsert (mayHoldUuid_of_slot hround horg) (holdsUuid_of_slot hround huser)
      (holdsUuid_of_slot hround hunit)
  | userUnitDelete user unit =>
    obtain ⟨horg, huser, hunit⟩ : slot "organization_id" = none ∧
        slot "user_id" = some (.string (printUuid user)) ∧
        slot "unit_id" = some (.string (printUuid unit)) := by
      simpa [Event.fields, Event.data, lookup_cons_ite] using hslot
    exact .userUnitDelete (mayHold_of_absent horg) (holdsUuid_of_slot hround huser)
      (holdsUuid_of_slot hround hunit)
  | unitDeviceUpsert imei unit org =>
    obtain ⟨himei, hunit, horg⟩ : slot "device_id" = some (.string imei) ∧
        slot "unit_id" = some (.string (printUuid unit)) ∧
        slot "organization_id" = some (.string (printUuid org)) := by
      simpa [Event.fields, Event.data, lookup_cons_ite] using hslot
    exact .unitDeviceUpsert ⟨_, himei, rfl⟩ (mayHoldUuid_of_slot hround hunit)
      (mayHoldUuid_of_slot hround horg)
  | unitDeviceDelete imei =>
    obtain ⟨himei, hunit, horg⟩ : slot "device_id" = some (.string imei) ∧
        slot "unit_id" = none ∧ slot "organization_id" = none := by
      simpa [Event.fields, Event.data, lookup_cons_ite] using hslot
    exact .unitDeviceDelete ⟨_, himei, rfl⟩ (mayHold_of_absent hunit) (mayHold_of_absent horg)
  | userDeviceUpsert d =>
    obtain ⟨hid, huser, htoken, hplatform, harn, hactive⟩ :
        slot "id" = some (.string (printUuid d.id)) ∧
        slot "user_id" = some (.string (printUuid d.userId)) ∧
        slot "device_token" = some (.string d.deviceToken) ∧
        slot "platform" = some (.string d.platform) ∧
        slot "endpoint_arn" = some (.string d.endpointArn) ∧
        slot "is_active" = some (.bool d.isActive) := by
      simpa [Event.fields, Event.data, lookup_cons_ite] using hslot
    exact @DataSays.userDeviceUpsert _ _ _ _ _ _ (some d.deviceToken) (some d.platform)
      (some d.endpointArn) (some d.isActive) (holdsUuid_of_slot hround hid)
      (mayHoldUuid_of_slot hround huser) (mayHoldString_of_slot htoken)
      (mayHoldString_of_slot hplatform) (mayHoldString_of_slot harn) (mayHoldBool_of_slot hactive)
  | userDeviceDelete id =>
    obtain ⟨hid, huser, htoken, hplatform, harn, hactive⟩ :
        slot "id" = some (.string (printUuid id)) ∧ slot "user_id" = none ∧
        slot "device_token" = none ∧ slot "platform" = none ∧
        slot "endpoint_arn" = none ∧ slot "is_active" = none := by
      simpa [Event.fields, Event.data, lookup_cons_ite] using hslot
    exact .userDeviceDelete (holdsUuid_of_slot hround hid) (mayHold_of_absent huser)
      (mayHold_of_absent htoken) (mayHold_of_absent hplatform) (mayHold_of_absent harn)
      (mayHold_of_absent hactive)

/-- The data of an event are canonical. -/
theorem canonical_data (printUuid : Uuid → String) (event : Event) :
    ∀ e ∈ event.data printUuid, e.2.Canonical := by
  cases event <;> simp [Event.data, Value.Canonical.string, Value.Canonical.bool]

/-- A message is canonical when its further fields are. -/
theorem canonical_value (printUuid : Uuid → String) (m : Message) :
    (m.value printUuid).Canonical := by
  have hdata : (m.dataValue printUuid).Canonical := by
    refine Value.canonical_ofFields fun e he => ?_
    obtain he | he := List.mem_append.mp he
    · exact canonical_data printUuid m.event e he
    · exact m.inData.canonical e he
  refine Value.canonical_ofFields fun e he => ?_
  obtain he | he := List.mem_append.mp he
  · simp only [Message.envelope, List.mem_cons, List.not_mem_nil, or_false] at he
    obtain rfl | rfl | rfl | rfl := he
    · exact .number 1
    · exact .string _
    · exact .string _
    · exact hdata
  · exact m.inEnvelope.canonical e he

/-- The envelope of a text, as it is read. -/
theorem isEnvelope_text (codec : JsonCodec) (printUuid : Uuid → String) (m : Message) :
    IsEnvelope (readingWith codec) (m.text printUuid codec) m.event.eventType m.event.entity
      (some SCHEMA_VERSION) (m.dataValue printUuid) := by
  have hslot : ∀ field ∈ envelopeFields,
      (known envelopeFields (sortFields (m.envelope printUuid ++ m.inEnvelope.entries))).lookup
        field = (m.envelope printUuid).reverse.lookup field :=
    fun field hfield => lookup_written m.inEnvelope hfield
  obtain ⟨htype, hentity, hversion, hdata⟩ :
      _ = some (Value.string (wireName m.event.eventType)) ∧
      _ = some (Value.string m.event.entity) ∧ _ = some (Value.number 1) ∧
      _ = some (m.dataValue printUuid) := by
    simpa [envelopeFields, Message.envelope, lookup_cons_ite] using hslot
  refine ⟨m.value printUuid, false, _, codec.fromStr_toString _ (canonical_value printUuid m),
    gives_ofFields envelopeFields _, ⟨_, htype, ?_⟩, ⟨_, hentity, rfl⟩,
    ⟨_, hversion, nofun, rfl⟩, ⟨_, hdata, rfl⟩⟩
  cases m.event.eventType <;> rfl

/-- **The text of a message says its event.** -/
theorem said_text (codec : JsonCodec) (hround : ∀ u, parseUuid (printUuid u) = some u)
    (m : Message) : Says (readingWith codec) parseUuid (m.text printUuid codec) m.event := by
  refine ⟨m.event.eventType, some SCHEMA_VERSION, m.dataValue printUuid, false, _,
    isEnvelope_text codec printUuid m, ?_, gives_ofFields m.event.fields _,
    dataSays_of_written hround m.event fun field hfield => lookup_written m.inData hfield⟩
  intro v hv
  exact (Option.some.inj hv).symm

end Message

/-! ## A stream of texts -/

/-- The events of a stream are read from its texts. -/
theorem decodeEvents_stream (codec : JsonCodec) {parseUuid : String → Option Uuid}
    {printUuid : Uuid → String} (hround : ∀ u, parseUuid (printUuid u) = some u)
    {stream : List (Message ⊕ String)}
    (hother : ∀ text, Sum.inr text ∈ stream → ∀ e, ¬ Says (readingWith codec) parseUuid text e) :
    decodeEvents (serdeDecoder (readingWith codec) parseUuid)
      (stream.map (streamText printUuid codec)) = streamEvents stream := by
  have hitem : ∀ item ∈ stream,
      decodeEvent (serdeDecoder (readingWith codec) parseUuid)
        (streamText printUuid codec item) = item.getLeft?.map Message.event := by
    intro item hitem
    cases item with
    | inl m => exact decodeEvent_iff.mpr (said_text codec hround m)
    | inr text =>
      refine Option.eq_none_iff_forall_ne_some.mpr fun e he => ?_
      exact hother text hitem e (decodeEvent_iff.mp he)
  rw [decodeEvents, List.filterMap_map, streamEvents, List.map_filterMap]
  exact List.filterMap_congr hitem

/-- **The cache after a stream of texts holds what the messages say.**  Whatever other fields
the producer writes into the envelopes and the data, and whatever texts that say nothing stand
between the messages, the texts are applied as the events are, in their order, and the tables
hold the last event per key.
SRC: kafka/control_plane.rs:89-254, 419-428 -/
theorem represents_texts (codec : JsonCodec) (parseUuid : String → Option Uuid)
    (printUuid : Uuid → String) (hround : ∀ u, parseUuid (printUuid u) = some u)
    (stream : List (Message ⊕ String))
    (hother : ∀ text, Sum.inr text ∈ stream → ∀ e, ¬ Says (readingWith codec) parseUuid text e) :
    applyEvents (serdeDecoder (readingWith codec) parseUuid) State.default
        (stream.map (streamText printUuid codec)) =
      State.run ((streamEvents stream).map Event.op) ∧
    Represents (applyEvents (serdeDecoder (readingWith codec) parseUuid) State.default
      (stream.map (streamText printUuid codec))) (Tables.ofEvents (streamEvents stream)) := by
  have hrun : applyEvents (serdeDecoder (readingWith codec) parseUuid) State.default
      (stream.map (streamText printUuid codec)) =
        State.run ((streamEvents stream).map Event.op) := by
    rw [applyEvents_eq, decodeEvents_stream codec hround hother]
    rfl
  refine ⟨hrun, ?_⟩
  rw [hrun, ofEvents_eq]
  exact represents_run _

/-- A message as the tests of the source write it, for the device of a unit. -/
def deviceMessage : Message where
  event := .unitDeviceUpsert "111" 1 10
  inEnvelope := {
    entries := [("event_id", .string "e"), ("organization_id", .null)]
    canonical := by simp [Value.Canonical.string, Value.Canonical.null]
    unread := by simp [envelopeFields] }
  inData := {
    entries := [("updated_at", .string "2026-10-19T00:00:00Z")]
    canonical := by simp [Value.Canonical.string]
    unread := by simp [Event.fields] }

/-- This text is not JSON. -/
theorem fromStr_noJson : textCodec.fromStr "no es json" = none := rfl

/-- The device of the message is assigned, and the text that says nothing does no harm. -/
theorem represents_texts_device :
    ∃ cache : State, cache = applyEvents (serdeDecoder (readingWith textCodec) UuidText.parse)
        State.default [deviceMessage.text UuidText.print textCodec, "no es json"] ∧
      cache.unitDevices.lookup "111" = some (1, 10) := by
  refine ⟨_, rfl, ?_⟩
  have hother : ∀ text, Sum.inr text ∈ [Sum.inl deviceMessage, Sum.inr "no es json"] →
      ∀ e, ¬ Says (readingWith textCodec) UuidText.parse text e := by
    intro text htext e h
    obtain rfl : text = "no es json" := by simpa using htext
    obtain ⟨_, _, _, ⟨raw, _, _, hread, -⟩, -⟩ := envelope_of_said h
    have hnone : (readingWith textCodec).read "no es json" = none := fromStr_noJson
    rw [hread] at hnone
    cases hnone
  have hr := (represents_texts textCodec UuidText.parse UuidText.print UuidText.parse_print
    [.inl deviceMessage, .inr "no es json"] hother).2
  exact hr.unitDevices "111"

end AlertDistributor.Analysis
