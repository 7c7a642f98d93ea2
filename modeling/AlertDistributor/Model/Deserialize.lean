import AlertDistributor.Library.Serde
import AlertDistributor.Model.AlertEvent
import AlertDistributor.Model.ControlPlane

/-!
# The messages as JSON

What the derived `Deserialize` of the message types reads: the fields under their names, which
of them may be left out, and what each is read as.  Reading a text as JSON, `Uuid::parse_str`
and the RFC 3339 times of chrono are those of their crates and stand as parameters.
-/

set_option autoImplicit false

namespace AlertDistributor.Model

open Serde

/-- `serde_json`: the JSON of a payload, as its reader goes through it; and the `Value` that is
made of a part of it.  A map of the payload may hold a key twice, one of a `Value` does not. -/
structure SerdeJson (Payload Raw Value : Type) where
  read : Payload → Option Raw
  rawShape : Raw → Shape Raw
  toValue : Raw → Option Value
  shape : Value → Shape Value

section Data

variable {Value : Type} (shape : Value → Shape Value) (parseUuid : String → Option Uuid)

/-- SRC: kafka/control_plane.rs:105-110 -/
def UserData.deserialize (v : Value) : Option UserData :=
  (given shape ["id", "status"] v).bind fun g => do
    let id ← g.required "id" (asParsed shape parseUuid)
    let status ← g.defaulted shape "status" (asString shape)
    return { id, status }

/-- SRC: kafka/control_plane.rs:112-120 -/
def MembershipData.deserialize (v : Value) : Option MembershipData :=
  (given shape ["organization_id", "user_id", "role", "status"] v).bind fun g => do
    let organizationId ← g.required "organization_id" (asParsed shape parseUuid)
    let userId ← g.required "user_id" (asParsed shape parseUuid)
    let role ← g.defaulted shape "role" (asString shape)
    let status ← g.defaulted shape "status" (asString shape)
    return { organizationId, userId, role, status }

/-- SRC: kafka/control_plane.rs:122-128 -/
def UserUnitData.deserialize (v : Value) : Option UserUnitData :=
  (given shape ["organization_id", "user_id", "unit_id"] v).bind fun g => do
    let organizationId ← g.defaulted shape "organization_id" (asParsed shape parseUuid)
    let userId ← g.required "user_id" (asParsed shape parseUuid)
    let unitId ← g.required "unit_id" (asParsed shape parseUuid)
    return { organizationId, userId, unitId }

/-- SRC: kafka/control_plane.rs:130-137 -/
def UnitDeviceData.deserialize (v : Value) : Option UnitDeviceData :=
  (given shape ["device_id", "unit_id", "organization_id"] v).bind fun g => do
    let deviceId ← g.required "device_id" (asString shape)
    let unitId ← g.defaulted shape "unit_id" (asParsed shape parseUuid)
    let organizationId ← g.defaulted shape "organization_id" (asParsed shape parseUuid)
    return { deviceId, unitId, organizationId }

/-- SRC: kafka/control_plane.rs:139-151 -/
def UserDeviceData.deserialize (v : Value) : Option UserDeviceData :=
  (given shape ["id", "user_id", "device_token", "platform", "endpoint_arn", "is_active"]
      v).bind fun g => do
    let id ← g.required "id" (asParsed shape parseUuid)
    let userId ← g.defaulted shape "user_id" (asParsed shape parseUuid)
    let deviceToken ← g.defaulted shape "device_token" (asString shape)
    let platform ← g.defaulted shape "platform" (asString shape)
    let endpointArn ← g.defaulted shape "endpoint_arn" (asString shape)
    let isActive ← g.defaulted shape "is_active" (asBool shape)
    return { id, userId, deviceToken, platform, endpointArn, isActive }

end Data

/-- SRC: kafka/control_plane.rs:89-94 -/
def EventType.deserialize {Raw : Type} (shape : Raw → Shape Raw) : Raw → Option EventType :=
  asVariant shape [("UPSERT", .upsert), ("DELETE", .delete)]

section Payload

variable {Payload Raw Value : Type} (json : SerdeJson Payload Raw Value)
  (parseUuid : String → Option Uuid)

/-- SRC: kafka/control_plane.rs:96-103 -/
def Envelope.deserialize (raw : Raw) : Option (Envelope Value) :=
  (given json.rawShape ["event_type", "entity", "schema_version", "data"] raw).bind fun g => do
    let eventType ← g.required "event_type" (EventType.deserialize json.rawShape)
    let entity ← g.required "entity" (asString json.rawShape)
    let schemaVersion ← g.defaulted json.rawShape "schema_version" (asUInt32 json.rawShape)
    let data ← g.required "data" json.toValue
    return { eventType, entity, schemaVersion, data }

/-- What `apply_event` reads its messages with. -/
def serdeDecoder : Decoder Payload Value where
  envelope payload := (json.read payload).bind (Envelope.deserialize json)
  userData := UserData.deserialize json.shape parseUuid
  membershipData := MembershipData.deserialize json.shape parseUuid
  userUnitData := UserUnitData.deserialize json.shape parseUuid
  unitDeviceData := UnitDeviceData.deserialize json.shape parseUuid
  userDeviceData := UserDeviceData.deserialize json.shape parseUuid

/-- SRC: models/alert_event.rs:6-19 -/
def AlertEvent.deserialize {Time : Type} (parseTime : String → Option Time) (raw : Raw) :
    Option (AlertEvent Value Time) :=
  (given json.rawShape ["id", "organization_id", "unit_id", "unit_name", "rule_id",
      "source_type", "source_id", "alert_type", "alert_name", "payload", "occurred_at"]
      raw).bind fun g => do
    let id ← g.required "id" (asParsed json.rawShape parseUuid)
    let organizationId ← g.required "organization_id" (asParsed json.rawShape parseUuid)
    let unitId ← g.required "unit_id" (asString json.rawShape)
    let unitName ← g.optional json.rawShape "unit_name" (asString json.rawShape)
    let ruleId ← g.required "rule_id" (asParsed json.rawShape parseUuid)
    let sourceType ← g.required "source_type" (asString json.rawShape)
    let sourceId ← g.required "source_id" (asParsed json.rawShape parseUuid)
    let alertType ← g.required "alert_type" (asString json.rawShape)
    let alertName ← g.optional json.rawShape "alert_name" (asString json.rawShape)
    let payload ← g.required "payload" json.toValue
    let occurredAt ← g.required "occurred_at" (asParsed json.rawShape parseTime)
    return { id, organizationId, unitId, unitName, ruleId, sourceType, sourceId, alertType,
             alertName, payload, occurredAt }

/-- `serde_json::from_slice::<AlertEvent>`.
SRC: kafka/consumer.rs:74 -/
def alertFromSlice {Time : Type} (parseTime : String → Option Time) (payload : Payload) :
    Option (AlertEvent Value Time) :=
  (json.read payload).bind (AlertEvent.deserialize json parseUuid parseTime)

end Payload

end AlertDistributor.Model
