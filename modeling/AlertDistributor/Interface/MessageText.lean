import AlertDistributor.Interface.MessageGrammar
import AlertDistributor.Model.SnsMessage

/-!
# The texts of the control-plane messages

How a producer writes an event: an envelope with the version, the type and the entity, and
below `data` the whole record of an UPSERT or the key of a DELETE.  Both may have any other
fields, with any values of `JsonText`, whose numbers are integers; the tests of the source
write `event_id`, `timestamp` and `organization_id` into the envelope.
-/

set_option autoImplicit false

namespace AlertDistributor.Interface

open AlertDistributor.Model JsonText Serde

/-! ## `serde_json` on the texts of a codec -/

/-- A JSON value as it is shown; a whole number from 0 to 2^64 - 1 is a `u64`. -/
def valueShape : Value → Shape Value
  | .null => .null
  | .bool b => .bool b
  | .number (.ofNat n) => if n < UInt64.size then .unsigned (UInt64.ofNat n) else .number
  | .number (.negSucc _) => .number
  | .string s => .string s
  | .array items => .seq items
  | .object fields => .map fields

/-- Reading with a codec, which is for texts that hold no key of an object twice. -/
def readingWith (codec : JsonCodec) : SerdeJson String Value Value where
  read := codec.fromStr
  rawShape := valueShape
  toValue := some
  shape := valueShape

/-! ## Writing -/

namespace Event

def eventType : Event → EventType
  | .userUpsert .. | .membershipUpsert .. | .userUnitUpsert .. | .unitDeviceUpsert ..
  | .userDeviceUpsert .. => .upsert
  | _ => .delete

/-- The fields of the `data` of an event. -/
def data (printUuid : Uuid → String) : Event → List (String × Value)
  | .userUpsert id status => [("id", .string (printUuid id)), ("status", .string status)]
  | .userDelete id => [("id", .string (printUuid id))]
  | .membershipUpsert org user role status =>
    [("organization_id", .string (printUuid org)), ("user_id", .string (printUuid user)),
      ("role", .string role), ("status", .string status)]
  | .membershipDelete org user =>
    [("organization_id", .string (printUuid org)), ("user_id", .string (printUuid user))]
  | .userUnitUpsert org user unit =>
    [("organization_id", .string (printUuid org)), ("user_id", .string (printUuid user)),
      ("unit_id", .string (printUuid unit))]
  | .userUnitDelete user unit =>
    [("user_id", .string (printUuid user)), ("unit_id", .string (printUuid unit))]
  | .unitDeviceUpsert imei unit org =>
    [("device_id", .string imei), ("unit_id", .string (printUuid unit)),
      ("organization_id", .string (printUuid org))]
  | .unitDeviceDelete imei => [("device_id", .string imei)]
  | .userDeviceUpsert d =>
    [("id", .string (printUuid d.id)), ("user_id", .string (printUuid d.userId)),
      ("device_token", .string d.deviceToken), ("platform", .string d.platform),
      ("endpoint_arn", .string d.endpointArn), ("is_active", .bool d.isActive)]
  | .userDeviceDelete id => [("id", .string (printUuid id))]

end Event

/-- The name of an event type on the wire. -/
def wireName : EventType → String
  | .upsert => "UPSERT"
  | .delete => "DELETE"

/-- The fields of the envelope. -/
def envelopeFields : List String :=
  ["event_type", "entity", "schema_version", "data"]

/-- More fields, none of which the service reads. -/
structure MoreFields (fields : List String) where
  entries : List (String × Value)
  canonical : ∀ e ∈ entries, e.2.Canonical
  unread : ∀ e ∈ entries, e.1 ∉ fields

/-- A message for an event. -/
structure Message where
  event : Event
  inEnvelope : MoreFields envelopeFields
  inData : MoreFields event.fields

namespace Message

variable (printUuid : Uuid → String) (m : Message)

def dataValue : Value :=
  .ofFields (m.event.data printUuid ++ m.inData.entries)

def envelope : List (String × Value) :=
  [("schema_version", .number 1), ("event_type", .string (wireName m.event.eventType)),
    ("entity", .string m.event.entity), ("data", m.dataValue printUuid)]

def value : Value :=
  .ofFields (m.envelope printUuid ++ m.inEnvelope.entries)

def text (codec : JsonCodec) : String :=
  codec.toString (m.value printUuid)

end Message

/-! ## Alerts -/

/-- What stands for an optional name. -/
def optionValue : Option String → Value
  | none => .null
  | some s => .string s

/-- The fields of an alert, as its derived `Serialize` writes them; a producer may write more.
SRC: models/alert_event.rs:6-19 -/
def alertFields {Time : Type} (printUuid : Uuid → String) (printTime : Time → String)
    (event : AlertEvent Value Time) : List (String × Value) :=
  [("id", .string (printUuid event.id)),
    ("organization_id", .string (printUuid event.organizationId)),
    ("unit_id", .string event.unitId), ("unit_name", optionValue event.unitName),
    ("rule_id", .string (printUuid event.ruleId)), ("source_type", .string event.sourceType),
    ("source_id", .string (printUuid event.sourceId)), ("alert_type", .string event.alertType),
    ("alert_name", optionValue event.alertName), ("payload", event.payload),
    ("occurred_at", .string (printTime event.occurredAt))]

def alertText {Time : Type} (codec : JsonCodec) (printUuid : Uuid → String)
    (printTime : Time → String) (event : AlertEvent Value Time)
    (more : MoreFields alertFieldNames) : String :=
  codec.toString (.ofFields (alertFields printUuid printTime event ++ more.entries))

/-! ## Streams -/

/-- The text of an item of a stream: that of a message, or any other one. -/
def streamText (printUuid : Uuid → String) (codec : JsonCodec) : Message ⊕ String → String
  | .inl m => m.text printUuid codec
  | .inr text => text

/-- The events of the messages of a stream. -/
def streamEvents (stream : List (Message ⊕ String)) : List Event :=
  (stream.filterMap Sum.getLeft?).map Message.event

end AlertDistributor.Interface
