import AlertDistributor.Analysis.ControlPlane
import AlertDistributor.Interface.MessageGrammar

/-!
# The grammar of the control-plane messages

The derived deserializers read exactly the grammar (`decodeEvent_iff`): a message is
taken as an event if and only if it says that event, whatever the order of its fields and
whatever other fields it has.  So `apply_event` carries out what a message says, and its
answer tells why a message says nothing (`applyEvent_grammar`).
-/

set_option autoImplicit false

namespace AlertDistributor.Analysis

open AlertDistributor.Model AlertDistributor.Interface Serde

/-! ## The five `data` types -/

section Data

variable {Value : Type} {shape : Value → Shape Value} {parseUuid : String → Option Uuid}
  {v : Value}

/-- What the derived `Deserialize` of `UserData` accepts. -/
theorem userData_iff {d : UserData} :
    UserData.deserialize shape parseUuid v = some d ↔
      ∃ bySeq slot, Gives ["id", "status"] (shape v) bySeq slot ∧
        HoldsUuid shape parseUuid slot "id" d.id ∧
        MayHoldString shape slot "status" d.status := by
  refine given_bind_iff (fun _ slot d => HoldsUuid shape parseUuid slot "id" d.id ∧
    MayHoldString shape slot "status" d.status) (fun g d => ?_) d
  simp only [Option.bind_eq_bind, Option.bind_eq_some_iff, Given.required_iff,
    Given.defaulted_iff, Option.pure_def, Option.some.injEq]
  constructor
  · rintro ⟨id, hid, status, hstatus, rfl⟩
    exact ⟨hid, hstatus⟩
  · rintro ⟨hid, hstatus⟩
    exact ⟨_, hid, _, hstatus, rfl⟩

/-- What that of `MembershipData` accepts. -/
theorem membershipData_iff {d : MembershipData} :
    MembershipData.deserialize shape parseUuid v = some d ↔
      ∃ bySeq slot,
        Gives ["organization_id", "user_id", "role", "status"] (shape v) bySeq slot ∧
        HoldsUuid shape parseUuid slot "organization_id" d.organizationId ∧
        HoldsUuid shape parseUuid slot "user_id" d.userId ∧
        MayHoldString shape slot "role" d.role ∧
        MayHoldString shape slot "status" d.status := by
  refine given_bind_iff (fun _ slot d =>
    HoldsUuid shape parseUuid slot "organization_id" d.organizationId ∧
    HoldsUuid shape parseUuid slot "user_id" d.userId ∧ MayHoldString shape slot "role" d.role ∧
    MayHoldString shape slot "status" d.status) (fun g d => ?_) d
  simp only [Option.bind_eq_bind, Option.bind_eq_some_iff, Given.required_iff,
    Given.defaulted_iff, Option.pure_def, Option.some.injEq]
  constructor
  · rintro ⟨org, horg, user, huser, role, hrole, status, hstatus, rfl⟩
    exact ⟨horg, huser, hrole, hstatus⟩
  · rintro ⟨horg, huser, hrole, hstatus⟩
    exact ⟨_, horg, _, huser, _, hrole, _, hstatus, rfl⟩

/-- What that of `UserUnitData` accepts. -/
theorem userUnitData_iff {d : UserUnitData} :
    UserUnitData.deserialize shape parseUuid v = some d ↔
      ∃ bySeq slot, Gives ["organization_id", "user_id", "unit_id"] (shape v) bySeq slot ∧
        MayHoldUuid shape parseUuid slot "organization_id" d.organizationId ∧
        HoldsUuid shape parseUuid slot "user_id" d.userId ∧
        HoldsUuid shape parseUuid slot "unit_id" d.unitId := by
  refine given_bind_iff (fun _ slot d =>
    MayHoldUuid shape parseUuid slot "organization_id" d.organizationId ∧
    HoldsUuid shape parseUuid slot "user_id" d.userId ∧
    HoldsUuid shape parseUuid slot "unit_id" d.unitId) (fun g d => ?_) d
  simp only [Option.bind_eq_bind, Option.bind_eq_some_iff, Given.required_iff,
    Given.defaulted_iff, Option.pure_def, Option.some.injEq]
  constructor
  · rintro ⟨org, horg, user, huser, unit, hunit, rfl⟩
    exact ⟨horg, huser, hunit⟩
  · rintro ⟨horg, huser, hunit⟩
    exact ⟨_, horg, _, huser, _, hunit, rfl⟩

/-- What that of `UnitDeviceData` accepts. -/
theorem unitDeviceData_iff {d : UnitDeviceData} :
    UnitDeviceData.deserialize shape parseUuid v = some d ↔
      ∃ bySeq slot, Gives ["device_id", "unit_id", "organization_id"] (shape v) bySeq slot ∧
        Holds slot (asString shape) "device_id" d.deviceId ∧
        MayHoldUuid shape parseUuid slot "unit_id" d.unitId ∧
        MayHoldUuid shape parseUuid slot "organization_id" d.organizationId := by
  refine given_bind_iff (fun _ slot d =>
    Holds slot (asString shape) "device_id" d.deviceId ∧
    MayHoldUuid shape parseUuid slot "unit_id" d.unitId ∧
    MayHoldUuid shape parseUuid slot "organization_id" d.organizationId) (fun g d => ?_) d
  simp only [Option.bind_eq_bind, Option.bind_eq_some_iff, Given.required_iff,
    Given.defaulted_iff, Option.pure_def, Option.some.injEq]
  constructor
  · rintro ⟨imei, himei, unit, hunit, org, horg, rfl⟩
    exact ⟨himei, hunit, horg⟩
  · rintro ⟨himei, hunit, horg⟩
    exact ⟨_, himei, _, hunit, _, horg, rfl⟩

/-- What that of `UserDeviceData` accepts. -/
theorem userDeviceData_iff {d : UserDeviceData} :
    UserDeviceData.deserialize shape parseUuid v = some d ↔
      ∃ bySeq slot,
        Gives ["id", "user_id", "device_token", "platform", "endpoint_arn", "is_active"]
          (shape v) bySeq slot ∧
        HoldsUuid shape parseUuid slot "id" d.id ∧
        MayHoldUuid shape parseUuid slot "user_id" d.userId ∧
        MayHoldString shape slot "device_token" d.deviceToken ∧
        MayHoldString shape slot "platform" d.platform ∧
        MayHoldString shape slot "endpoint_arn" d.endpointArn ∧
        MayHold shape slot (asBool shape) "is_active" d.isActive := by
  refine given_bind_iff (fun _ slot d => HoldsUuid shape parseUuid slot "id" d.id ∧
    MayHoldUuid shape parseUuid slot "user_id" d.userId ∧
    MayHoldString shape slot "device_token" d.deviceToken ∧
    MayHoldString shape slot "platform" d.platform ∧
    MayHoldString shape slot "endpoint_arn" d.endpointArn ∧
    MayHold shape slot (asBool shape) "is_active" d.isActive) (fun g d => ?_) d
  simp only [Option.bind_eq_bind, Option.bind_eq_some_iff, Given.required_iff,
    Given.defaulted_iff, Option.pure_def, Option.some.injEq]
  constructor
  · rintro ⟨id, hid, user, huser, token, htoken, platform, hplatform, arn, harn, active,
      hactive, rfl⟩
    exact ⟨hid, huser, htoken, hplatform, harn, hactive⟩
  · rintro ⟨hid, huser, htoken, hplatform, harn, hactive⟩
    exact ⟨_, hid, _, huser, _, htoken, _, hplatform, _, harn, _, hactive, rfl⟩

end Data

/-! ## One message -/

section Message

variable {Payload Raw Value : Type} {json : SerdeJson Payload Raw Value}
  {parseUuid : String → Option Uuid} {payload : Payload}

/-- What the derived `Deserialize` of `Envelope` accepts. -/
theorem envelopeOf_iff {raw : Raw} {envelope : Envelope Value} :
    Envelope.deserialize json raw = some envelope ↔
      ∃ bySeq slot,
        Gives ["event_type", "entity", "schema_version", "data"] (json.rawShape raw) bySeq
          slot ∧
        Holds slot (EventType.deserialize json.rawShape) "event_type" envelope.eventType ∧
        Holds slot (asString json.rawShape) "entity" envelope.entity ∧
        MayHold json.rawShape slot (asUInt32 json.rawShape) "schema_version"
          envelope.schemaVersion ∧
        Holds slot json.toValue "data" envelope.data := by
  refine given_bind_iff (fun _ slot envelope =>
    Holds slot (EventType.deserialize json.rawShape) "event_type" envelope.eventType ∧
    Holds slot (asString json.rawShape) "entity" envelope.entity ∧
    MayHold json.rawShape slot (asUInt32 json.rawShape) "schema_version"
      envelope.schemaVersion ∧
    Holds slot json.toValue "data" envelope.data) (fun g envelope => ?_) envelope
  simp only [Option.bind_eq_bind, Option.bind_eq_some_iff, Given.required_iff,
    Given.defaulted_iff, Option.pure_def, Option.some.injEq]
  constructor
  · rintro ⟨eventType, htype, entity, hentity, version, hversion, data, hdata, rfl⟩
    exact ⟨htype, hentity, hversion, hdata⟩
  · rintro ⟨htype, hentity, hversion, hdata⟩
    exact ⟨_, htype, _, hentity, _, hversion, _, hdata, rfl⟩

/-- An envelope is read exactly from a payload that is one. -/
theorem envelope_iff {envelope : Envelope Value} :
    (serdeDecoder json parseUuid).envelope payload = some envelope ↔
      IsEnvelope json payload envelope.eventType envelope.entity envelope.schemaVersion
        envelope.data := by
  show (json.read payload).bind (Envelope.deserialize json) = some envelope ↔ _
  rw [Option.bind_eq_some_iff]
  constructor
  · rintro ⟨raw, hread, hdecode⟩
    obtain ⟨bySeq, slot, hgives, hfields⟩ := envelopeOf_iff.mp hdecode
    exact ⟨raw, bySeq, slot, hread, hgives, hfields⟩
  · rintro ⟨raw, bySeq, slot, hread, hgives, hfields⟩
    exact ⟨raw, hread, envelopeOf_iff.mpr ⟨bySeq, slot, hgives, hfields⟩⟩

/-- Some envelope of a kind is read if and only if the payload is one. -/
theorem exists_envelope_iff (P : Option UInt32 → String → Prop) :
    (∃ envelope, (serdeDecoder json parseUuid).envelope payload = some envelope ∧
        P envelope.schemaVersion envelope.entity) ↔
      ∃ eventType entity version data, IsEnvelope json payload eventType entity version data ∧
        P version entity := by
  constructor
  · rintro ⟨envelope, henvelope, h⟩
    exact ⟨_, _, _, _, envelope_iff.mp henvelope, h⟩
  · rintro ⟨eventType, entity, version, data, henvelope, h⟩
    exact ⟨⟨eventType, entity, version, data⟩, envelope_iff.mpr henvelope, h⟩

/-- What an UPSERT is read as, it says. -/
theorem said_of_upsertEvent {entity : String} {data : Value} {e : Event}
    (h : upsertEvent (serdeDecoder json parseUuid) entity data = some e) :
    entity = e.entity ∧ ∃ bySeq slot, Gives e.fields (json.shape data) bySeq slot ∧
      DataSays json.shape parseUuid slot .upsert e := by
  unfold upsertEvent at h
  split at h
  · rename_i heq
    obtain ⟨d, hd, rfl⟩ := Option.map_eq_some_iff.mp h
    obtain ⟨bySeq, slot, hgives, hid, hstatus⟩ := userData_iff.mp hd
    exact ⟨heq, bySeq, slot, hgives, .userUpsert hid hstatus⟩
  split at h
  · rename_i heq
    obtain ⟨d, hd, rfl⟩ := Option.map_eq_some_iff.mp h
    obtain ⟨bySeq, slot, hgives, horg, huser, hrole, hstatus⟩ := membershipData_iff.mp hd
    exact ⟨heq, bySeq, slot, hgives, .membershipUpsert horg huser hrole hstatus⟩
  split at h
  · rename_i heq
    obtain ⟨d, hd, h⟩ := Option.bind_eq_some_iff.mp h
    obtain ⟨org, hsome, rfl⟩ := Option.map_eq_some_iff.mp h
    obtain ⟨bySeq, slot, hgives, horg, huser, hunit⟩ := userUnitData_iff.mp hd
    rw [hsome] at horg
    exact ⟨heq, bySeq, slot, hgives, .userUnitUpsert horg huser hunit⟩
  split at h
  · rename_i heq
    obtain ⟨d, hd, h⟩ := Option.bind_eq_some_iff.mp h
    obtain ⟨unit, hsome, h⟩ := Option.bind_eq_some_iff.mp h
    obtain ⟨org, hsome', rfl⟩ := Option.map_eq_some_iff.mp h
    obtain ⟨bySeq, slot, hgives, himei, hunit, horg⟩ := unitDeviceData_iff.mp hd
    rw [hsome] at hunit
    rw [hsome'] at horg
    exact ⟨heq, bySeq, slot, hgives, .unitDeviceUpsert himei hunit horg⟩
  split at h
  · rename_i heq
    obtain ⟨d, hd, h⟩ := Option.bind_eq_some_iff.mp h
    obtain ⟨user, hsome, rfl⟩ := Option.map_eq_some_iff.mp h
    obtain ⟨bySeq, slot, hgives, hid, huser, htoken, hplatform, harn, hactive⟩ :=
      userDeviceData_iff.mp hd
    rw [hsome] at huser
    exact ⟨heq, bySeq, slot, hgives, .userDeviceUpsert hid huser htoken hplatform harn hactive⟩
  · cases h

/-- What a DELETE is read as, it says. -/
theorem said_of_deleteEvent {entity : String} {data : Value} {e : Event}
    (h : deleteEvent (serdeDecoder json parseUuid) entity data = some e) :
    entity = e.entity ∧ ∃ bySeq slot, Gives e.fields (json.shape data) bySeq slot ∧
      DataSays json.shape parseUuid slot .delete e := by
  unfold deleteEvent at h
  split at h
  · rename_i heq
    obtain ⟨d, hd, rfl⟩ := Option.map_eq_some_iff.mp h
    obtain ⟨bySeq, slot, hgives, hid, hstatus⟩ := userData_iff.mp hd
    exact ⟨heq, bySeq, slot, hgives, .userDelete hid hstatus⟩
  split at h
  · rename_i heq
    obtain ⟨d, hd, rfl⟩ := Option.map_eq_some_iff.mp h
    obtain ⟨bySeq, slot, hgives, horg, huser, hrole, hstatus⟩ := membershipData_iff.mp hd
    exact ⟨heq, bySeq, slot, hgives, .membershipDelete horg huser hrole hstatus⟩
  split at h
  · rename_i heq
    obtain ⟨d, hd, rfl⟩ := Option.map_eq_some_iff.mp h
    obtain ⟨bySeq, slot, hgives, horg, huser, hunit⟩ := userUnitData_iff.mp hd
    exact ⟨heq, bySeq, slot, hgives, .userUnitDelete horg huser hunit⟩
  split at h
  · rename_i heq
    obtain ⟨d, hd, rfl⟩ := Option.map_eq_some_iff.mp h
    obtain ⟨bySeq, slot, hgives, himei, hunit, horg⟩ := unitDeviceData_iff.mp hd
    exact ⟨heq, bySeq, slot, hgives, .unitDeviceDelete himei hunit horg⟩
  split at h
  · rename_i heq
    obtain ⟨d, hd, rfl⟩ := Option.map_eq_some_iff.mp h
    obtain ⟨bySeq, slot, hgives, hid, huser, htoken, hplatform, harn, hactive⟩ :=
      userDeviceData_iff.mp hd
    exact ⟨heq, bySeq, slot, hgives, .userDeviceDelete hid huser htoken hplatform harn hactive⟩
  · cases h

/-- The event that the fields of the `data` say is read from them. -/
theorem event_of_dataSays {eventType : EventType} {data : Value} {e : Event} {bySeq : Bool}
    {slot : String → Option Value} (hgives : Gives e.fields (json.shape data) bySeq slot) :
    DataSays json.shape parseUuid slot eventType e →
      (match eventType with
        | .upsert => upsertEvent (serdeDecoder json parseUuid) e.entity data
        | .delete => deleteEvent (serdeDecoder json parseUuid) e.entity data) = some e := by
  intro h
  cases h with
  | @userUpsert id status hid hstatus =>
    have hd : UserData.deserialize json.shape parseUuid data = some ⟨id, status⟩ :=
      userData_iff.mpr ⟨bySeq, slot, hgives, hid, hstatus⟩
    simp [upsertEvent, Event.entity, serdeDecoder, hd]
  | @userDelete id status hid hstatus =>
    have hd : UserData.deserialize json.shape parseUuid data = some ⟨id, status⟩ :=
      userData_iff.mpr ⟨bySeq, slot, hgives, hid, hstatus⟩
    simp [deleteEvent, Event.entity, serdeDecoder, hd]
  | @membershipUpsert org user role status horg huser hrole hstatus =>
    have hd : MembershipData.deserialize json.shape parseUuid data =
        some ⟨org, user, role, status⟩ :=
      membershipData_iff.mpr ⟨bySeq, slot, hgives, horg, huser, hrole, hstatus⟩
    simp [upsertEvent, Event.entity, serdeDecoder, hd]
  | @membershipDelete org user role status horg huser hrole hstatus =>
    have hd : MembershipData.deserialize json.shape parseUuid data =
        some ⟨org, user, role, status⟩ :=
      membershipData_iff.mpr ⟨bySeq, slot, hgives, horg, huser, hrole, hstatus⟩
    simp [deleteEvent, Event.entity, serdeDecoder, hd]
  | @userUnitUpsert org user unit horg huser hunit =>
    have hd : UserUnitData.deserialize json.shape parseUuid data = some ⟨some org, user, unit⟩ :=
      userUnitData_iff.mpr ⟨bySeq, slot, hgives, horg, huser, hunit⟩
    simp [upsertEvent, Event.entity, serdeDecoder, hd]
  | @userUnitDelete org user unit horg huser hunit =>
    have hd : UserUnitData.deserialize json.shape parseUuid data = some ⟨org, user, unit⟩ :=
      userUnitData_iff.mpr ⟨bySeq, slot, hgives, horg, huser, hunit⟩
    simp [deleteEvent, Event.entity, serdeDecoder, hd]
  | @unitDeviceUpsert imei unit org himei hunit horg =>
    have hd : UnitDeviceData.deserialize json.shape parseUuid data =
        some ⟨imei, some unit, some org⟩ :=
      unitDeviceData_iff.mpr ⟨bySeq, slot, hgives, himei, hunit, horg⟩
    simp [upsertEvent, Event.entity, serdeDecoder, hd]
  | @unitDeviceDelete imei unit org himei hunit horg =>
    have hd : UnitDeviceData.deserialize json.shape parseUuid data = some ⟨imei, unit, org⟩ :=
      unitDeviceData_iff.mpr ⟨bySeq, slot, hgives, himei, hunit, horg⟩
    simp [deleteEvent, Event.entity, serdeDecoder, hd]
  | @userDeviceUpsert id user token platform arn active hid huser htoken hplatform harn hactive =>
    have hd : UserDeviceData.deserialize json.shape parseUuid data =
        some ⟨id, some user, token, platform, arn, active⟩ :=
      userDeviceData_iff.mpr
        ⟨bySeq, slot, hgives, hid, huser, htoken, hplatform, harn, hactive⟩
    simp [upsertEvent, Event.entity, serdeDecoder, hd, UserDeviceData.device]
  | @userDeviceDelete id user token platform arn active hid huser htoken hplatform harn hactive =>
    have hd : UserDeviceData.deserialize json.shape parseUuid data =
        some ⟨id, user, token, platform, arn, active⟩ :=
      userDeviceData_iff.mpr
        ⟨bySeq, slot, hgives, hid, huser, htoken, hplatform, harn, hactive⟩
    simp [deleteEvent, Event.entity, serdeDecoder, hd]

/-- The check of `apply_event` lets the understood versions through. -/
theorem understood_iff (version : Option UInt32) :
    Understood version ↔ (version.any fun v => v ≠ SCHEMA_VERSION) = false := by
  cases version <;> simp [Understood]

/-- **A message is read as an event if and only if it says the event.** -/
theorem decodeEvent_iff {e : Event} :
    decodeEvent (serdeDecoder json parseUuid) payload = some e ↔
      Says json parseUuid payload e := by
  unfold decodeEvent
  rw [Option.bind_eq_some_iff]
  constructor
  · rintro ⟨⟨eventType, entity, version, data⟩, hdecode, h⟩
    have hmessage := envelope_iff.mp hdecode
    dsimp only at h hmessage
    split at h
    · cases h
    · rename_i hversion
      have hversion := (understood_iff version).mpr (Bool.eq_false_of_not_eq_true hversion)
      cases eventType with
      | upsert =>
        obtain ⟨rfl, bySeq, slot, hgives, hdata⟩ := said_of_upsertEvent h
        exact ⟨_, version, data, bySeq, slot, hmessage, hversion, hgives, hdata⟩
      | delete =>
        obtain ⟨rfl, bySeq, slot, hgives, hdata⟩ := said_of_deleteEvent h
        exact ⟨_, version, data, bySeq, slot, hmessage, hversion, hgives, hdata⟩
  · rintro ⟨eventType, version, data, bySeq, slot, hmessage, hversion, hgives, hdata⟩
    refine ⟨⟨eventType, e.entity, version, data⟩, envelope_iff.mpr hmessage, ?_⟩
    dsimp only
    rw [(understood_iff version).mp hversion, if_neg Bool.false_ne_true]
    exact event_of_dataSays hgives hdata

/-- A payload says at most one event. -/
theorem said_unique {e e' : Event} (h : Says json parseUuid payload e)
    (h' : Says json parseUuid payload e') : e' = e := by
  rw [← decodeEvent_iff] at h h'
  rw [h] at h'
  exact (Option.some.inj h').symm

/-- A message that says an event has an envelope of a known version and entity. -/
theorem envelope_of_said {e : Event} (h : Says json parseUuid payload e) :
    ∃ eventType version data, IsEnvelope json payload eventType e.entity version data ∧
      Understood version := by
  obtain ⟨eventType, version, data, -, -, hmessage, hversion, -⟩ := h
  exact ⟨eventType, version, data, hmessage, hversion⟩

end Message

/-! ## The answers -/

section Answers

variable {Payload Value : Type} {decoder : Decoder Payload Value} (cache : State)
  {payload : Payload} {envelope : Envelope Value}

/-- The answers of a message whose version and entity are known. -/
def Applied.OfKnown (applied : Applied) : Prop :=
  applied = .malformed ∨ ∃ entity, applied = .yes entity

/-- A known entity may be answered with `Malformed`. -/
theorem ofKnown_malformed : Applied.OfKnown .malformed :=
  Or.inl rfl

/-- Or with `Yes`. -/
theorem ofKnown_yes (entity : String) : Applied.OfKnown (.yes entity) :=
  Or.inr ⟨entity, rfl⟩

/-- Without an envelope the answer is `Malformed`. -/
theorem answer_of_no_envelope (h : decoder.envelope payload = none) :
    (applyEvent decoder cache payload).2 = .malformed := by
  unfold applyEvent
  rw [h]

/-- With a version that is not understood it is `UnknownVersion`. -/
theorem answer_of_version (h : decoder.envelope payload = some envelope)
    (hversion : ¬ Understood envelope.schemaVersion) :
    (applyEvent decoder cache payload).2 = .unknownVersion := by
  rw [understood_iff, Bool.not_eq_false] at hversion
  unfold applyEvent
  rw [h]
  dsimp only
  rw [if_pos hversion]

/-- With an entity that is not known it is `UnknownEntity`. -/
theorem answer_of_entity (h : decoder.envelope payload = some envelope)
    (hversion : Understood envelope.schemaVersion) (hentity : envelope.entity ∉ entities) :
    (applyEvent decoder cache payload).2 = .unknownEntity := by
  rw [understood_iff] at hversion
  simp only [entities, List.mem_cons, List.not_mem_nil, or_false, not_or] at hentity
  obtain ⟨huser, hmembership, huserUnit, hunitDevice, huserDevice⟩ := hentity
  unfold applyEvent
  rw [h]
  dsimp only
  rw [hversion, if_neg Bool.false_ne_true, if_neg huser, if_neg hmembership, if_neg huserUnit,
    if_neg hunitDevice, if_neg huserDevice]

/-- With both understood it is neither of the two. -/
theorem answer_of_known (h : decoder.envelope payload = some envelope)
    (hversion : Understood envelope.schemaVersion) (hentity : envelope.entity ∈ entities) :
    Applied.OfKnown (applyEvent decoder cache payload).2 := by
  rw [understood_iff] at hversion
  unfold applyEvent
  rw [h]
  dsimp only
  rw [hversion, if_neg Bool.false_ne_true]
  -- one arm for each entity
  split
  · unfold applyUserEvent
    split
    · exact ofKnown_malformed
    · exact ofKnown_yes _
  split
  · unfold applyMembershipEvent
    split
    · exact ofKnown_malformed
    · split <;> exact ofKnown_yes _
  split
  · unfold applyUserUnitEvent
    split
    · exact ofKnown_malformed
    · split
      · exact ofKnown_yes _
      · exact ofKnown_malformed
      · exact ofKnown_yes _
  split
  · unfold applyUnitDeviceEvent
    split
    · exact ofKnown_malformed
    · split
      · exact ofKnown_yes _
      · exact ofKnown_malformed
      · exact ofKnown_yes _
  split
  · unfold applyUserDeviceEvent
    split
    · exact ofKnown_malformed
    · split
      · exact ofKnown_yes _
      · split
        · exact ofKnown_malformed
        · exact ofKnown_yes _
  · exfalso
    simp_all [entities]

/-- The answer, told from the envelope. -/
theorem answer_eq_unknownVersion_iff :
    (applyEvent decoder cache payload).2 = .unknownVersion ↔
      ∃ envelope, decoder.envelope payload = some envelope ∧
        ¬ Understood envelope.schemaVersion := by
  cases h : decoder.envelope payload with
  | none => simp [answer_of_no_envelope cache h]
  | some envelope =>
    by_cases hversion : Understood envelope.schemaVersion
    · by_cases hentity : envelope.entity ∈ entities
      · obtain hanswer | ⟨entity, hanswer⟩ := answer_of_known cache h hversion hentity
        · simp [hanswer, hversion]
        · simp [hanswer, hversion]
      · simp [answer_of_entity cache h hversion hentity, hversion]
    · simp [answer_of_version cache h hversion, hversion]

/-- `UnknownEntity` is the answer for an understood version and an unknown entity only. -/
theorem answer_eq_unknownEntity_iff :
    (applyEvent decoder cache payload).2 = .unknownEntity ↔
      ∃ envelope, decoder.envelope payload = some envelope ∧
        Understood envelope.schemaVersion ∧ envelope.entity ∉ entities := by
  cases h : decoder.envelope payload with
  | none => simp [answer_of_no_envelope cache h]
  | some envelope =>
    by_cases hversion : Understood envelope.schemaVersion
    · by_cases hentity : envelope.entity ∈ entities
      · obtain hanswer | ⟨entity, hanswer⟩ := answer_of_known cache h hversion hentity
        · simp [hanswer, hentity]
        · simp [hanswer, hentity]
      · simp [answer_of_entity cache h hversion hentity, hversion, hentity]
    · simp [answer_of_version cache h hversion, hversion]

/-- `Malformed` is what remains. -/
theorem answer_eq_malformed_iff :
    (applyEvent decoder cache payload).2 = .malformed ↔
      (∀ envelope, decoder.envelope payload = some envelope →
        Understood envelope.schemaVersion ∧ envelope.entity ∈ entities) ∧
      ∀ entity, (applyEvent decoder cache payload).2 ≠ .yes entity := by
  cases h : decoder.envelope payload with
  | none => simp [answer_of_no_envelope cache h]
  | some envelope =>
    by_cases hversion : Understood envelope.schemaVersion
    · by_cases hentity : envelope.entity ∈ entities
      · obtain hanswer | ⟨entity, hanswer⟩ := answer_of_known cache h hversion hentity
        · simp [hanswer, hversion, hentity]
        · simp [hanswer]
      · simp [answer_of_entity cache h hversion hentity, hentity]
    · simp [answer_of_version cache h hversion, hversion]

end Answers

/-- **`apply_event` does what the message says, and tells why it says nothing.**  A message
that says an event is carried out, and it says one event only.  Any other leaves the cache as
it is: the version is unknown if there is an envelope with another version than 1, the entity
is unknown if its version is understood and its entity is not, and otherwise the message is
malformed.
SRC: kafka/control_plane.rs:89-254 -/
theorem applyEvent_grammar {Payload Raw Value : Type} (json : SerdeJson Payload Raw Value)
    (parseUuid : String → Option Uuid) (cache : State) (payload : Payload) :
    (∀ e, Says json parseUuid payload e →
      applyEvent (serdeDecoder json parseUuid) cache payload =
        (cache.apply e.op, .yes e.entity) ∧
      ∀ e', Says json parseUuid payload e' → e' = e) ∧
    ((∀ e, ¬ Says json parseUuid payload e) →
      (applyEvent (serdeDecoder json parseUuid) cache payload).1 = cache ∧
      ∀ entity, (applyEvent (serdeDecoder json parseUuid) cache payload).2 ≠ .yes entity) ∧
    ((applyEvent (serdeDecoder json parseUuid) cache payload).2 = .unknownVersion ↔
      ∃ eventType entity version data, IsEnvelope json payload eventType entity version data ∧
        ¬ Understood version) ∧
    ((applyEvent (serdeDecoder json parseUuid) cache payload).2 = .unknownEntity ↔
      ∃ eventType entity version data, IsEnvelope json payload eventType entity version data ∧
        Understood version ∧ entity ∉ entities) ∧
    ((applyEvent (serdeDecoder json parseUuid) cache payload).2 = .malformed ↔
      (∀ eventType entity version data, IsEnvelope json payload eventType entity version data →
        Understood version ∧ entity ∈ entities) ∧ ∀ e, ¬ Says json parseUuid payload e) := by
  have hsaid : ∀ e, Says json parseUuid payload e →
      applyEvent (serdeDecoder json parseUuid) cache payload =
        (cache.apply e.op, .yes e.entity) :=
    fun e h => applyEvent_of_decoded cache (decodeEvent_iff.mpr h)
  have hskipped : (∀ e, ¬ Says json parseUuid payload e) →
      (applyEvent (serdeDecoder json parseUuid) cache payload).1 = cache ∧
      ∀ entity, (applyEvent (serdeDecoder json parseUuid) cache payload).2 ≠ .yes entity := by
    intro h
    refine applyEvent_of_not_decoded cache (Option.eq_none_iff_forall_ne_some.mpr ?_)
    exact fun e he => h e (decodeEvent_iff.mp he)
  refine ⟨fun e h => ⟨hsaid e h, fun e' => said_unique h⟩, hskipped, ?_, ?_, ?_⟩
  · rw [answer_eq_unknownVersion_iff]
    exact exists_envelope_iff fun version _ => ¬ Understood version
  · rw [answer_eq_unknownEntity_iff]
    exact exists_envelope_iff fun version entity => Understood version ∧ entity ∉ entities
  · rw [answer_eq_malformed_iff]
    constructor
    · rintro ⟨hall, hnot⟩
      refine ⟨fun eventType entity version data h => ?_, fun e h => ?_⟩
      · exact hall ⟨eventType, entity, version, data⟩ (envelope_iff.mpr h)
      · exact hnot e.entity (congrArg Prod.snd (hsaid e h))
    · rintro ⟨hall, hnone⟩
      exact ⟨fun envelope h => hall _ _ _ _ (envelope_iff.mp h), (hskipped hnone).2⟩

end AlertDistributor.Analysis
