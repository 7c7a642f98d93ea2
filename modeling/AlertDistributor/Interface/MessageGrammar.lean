import AlertDistributor.Interface.Events
import AlertDistributor.Model.Deserialize

/-!
# What a message says

The grammar of `control-plane-events`, stated on the JSON of a message with no reference to
the order in which it is read: an envelope that gives its fields once, and below `data` the
fields of its entity.  A field that the event does not need may be absent or null, but what
stands there must be of its type, in a DELETE too.  The grammar of the alerts comes last.
-/

set_option autoImplicit false

namespace AlertDistributor.Interface

open AlertDistributor.Model Serde

/-- The fields of the `data` of an event. -/
def Event.fields : Event → List String
  | .userUpsert .. | .userDelete .. => ["id", "status"]
  | .membershipUpsert .. | .membershipDelete .. =>
    ["organization_id", "user_id", "role", "status"]
  | .userUnitUpsert .. | .userUnitDelete .. => ["organization_id", "user_id", "unit_id"]
  | .unitDeviceUpsert .. | .unitDeviceDelete .. => ["device_id", "unit_id", "organization_id"]
  | .userDeviceUpsert .. | .userDeviceDelete .. =>
    ["id", "user_id", "device_token", "platform", "endpoint_arn", "is_active"]

section Data

variable {Value : Type} (shape : Value → Shape Value) (parseUuid : String → Option Uuid)
  (slot : String → Option Value)

def HoldsUuid (field : String) (id : Uuid) : Prop :=
  Holds slot (asParsed shape parseUuid) field id

def MayHoldUuid (field : String) (id : Option Uuid) : Prop :=
  MayHold shape slot (asParsed shape parseUuid) field id

def MayHoldString (field : String) (s : Option String) : Prop :=
  MayHold shape slot (asString shape) field s

/-- What the fields of some `data` say, one rule for each kind of event. -/
inductive DataSays : EventType → Event → Prop where
  | userUpsert {id : UserId} {status : Option String}
      (hid : HoldsUuid shape parseUuid slot "id" id)
      (hstatus : MayHoldString shape slot "status" status) :
      DataSays .upsert (.userUpsert id (status.getD ""))
  | userDelete {id : UserId} {status : Option String}
      (hid : HoldsUuid shape parseUuid slot "id" id)
      (hstatus : MayHoldString shape slot "status" status) :
      DataSays .delete (.userDelete id)
  | membershipUpsert {org : OrganizationId} {user : UserId} {role status : Option String}
      (horg : HoldsUuid shape parseUuid slot "organization_id" org)
      (huser : HoldsUuid shape parseUuid slot "user_id" user)
      (hrole : MayHoldString shape slot "role" role)
      (hstatus : MayHoldString shape slot "status" status) :
      DataSays .upsert (.membershipUpsert org user (role.getD "") (status.getD ""))
  | membershipDelete {org : OrganizationId} {user : UserId} {role status : Option String}
      (horg : HoldsUuid shape parseUuid slot "organization_id" org)
      (huser : HoldsUuid shape parseUuid slot "user_id" user)
      (hrole : MayHoldString shape slot "role" role)
      (hstatus : MayHoldString shape slot "status" status) :
      DataSays .delete (.membershipDelete org user)
  | userUnitUpsert {org : OrganizationId} {user : UserId} {unit : UnitId}
      (horg : MayHoldUuid shape parseUuid slot "organization_id" (some org))
      (huser : HoldsUuid shape parseUuid slot "user_id" user)
      (hunit : HoldsUuid shape parseUuid slot "unit_id" unit) :
      DataSays .upsert (.userUnitUpsert org user unit)
  | userUnitDelete {org : Option OrganizationId} {user : UserId} {unit : UnitId}
      (horg : MayHoldUuid shape parseUuid slot "organization_id" org)
      (huser : HoldsUuid shape parseUuid slot "user_id" user)
      (hunit : HoldsUuid shape parseUuid slot "unit_id" unit) :
      DataSays .delete (.userUnitDelete user unit)
  | unitDeviceUpsert {imei : String} {unit : UnitId} {org : OrganizationId}
      (himei : Holds slot (asString shape) "device_id" imei)
      (hunit : MayHoldUuid shape parseUuid slot "unit_id" (some unit))
      (horg : MayHoldUuid shape parseUuid slot "organization_id" (some org)) :
      DataSays .upsert (.unitDeviceUpsert imei unit org)
  | unitDeviceDelete {imei : String} {unit : Option UnitId} {org : Option OrganizationId}
      (himei : Holds slot (asString shape) "device_id" imei)
      (hunit : MayHoldUuid shape parseUuid slot "unit_id" unit)
      (horg : MayHoldUuid shape parseUuid slot "organization_id" org) :
      DataSays .delete (.unitDeviceDelete imei)
  | userDeviceUpsert {id : DeviceId} {user : UserId} {token platform arn : Option String}
      {active : Option Bool}
      (hid : HoldsUuid shape parseUuid slot "id" id)
      (huser : MayHoldUuid shape parseUuid slot "user_id" (some user))
      (htoken : MayHoldString shape slot "device_token" token)
      (hplatform : MayHoldString shape slot "platform" platform)
      (harn : MayHoldString shape slot "endpoint_arn" arn)
      (hactive : MayHold shape slot (asBool shape) "is_active" active) :
      DataSays .upsert (.userDeviceUpsert ⟨id, user, token.getD "", platform.getD "",
        arn.getD "", active.getD false⟩)
  | userDeviceDelete {id : DeviceId} {user : Option UserId} {token platform arn : Option String}
      {active : Option Bool}
      (hid : HoldsUuid shape parseUuid slot "id" id)
      (huser : MayHoldUuid shape parseUuid slot "user_id" user)
      (htoken : MayHoldString shape slot "device_token" token)
      (hplatform : MayHoldString shape slot "platform" platform)
      (harn : MayHoldString shape slot "endpoint_arn" arn)
      (hactive : MayHold shape slot (asBool shape) "is_active" active) :
      DataSays .delete (.userDeviceDelete id)

end Data

section Message

variable {Payload Raw Value : Type} (json : SerdeJson Payload Raw Value)
  (parseUuid : String → Option Uuid)

/-- A payload is an envelope with these contents. -/
def IsEnvelope (payload : Payload) (eventType : EventType) (entity : String)
    (version : Option UInt32) (data : Value) : Prop :=
  ∃ raw bySeq slot, json.read payload = some raw ∧
    Gives ["event_type", "entity", "schema_version", "data"] (json.rawShape raw) bySeq slot ∧
    Holds slot (EventType.deserialize json.rawShape) "event_type" eventType ∧
    Holds slot (asString json.rawShape) "entity" entity ∧
    MayHold json.rawShape slot (asUInt32 json.rawShape) "schema_version" version ∧
    Holds slot json.toValue "data" data

/-- The versions that are understood: 1, or none. -/
def Understood (version : Option UInt32) : Prop :=
  ∀ v ∈ version, v = SCHEMA_VERSION

/-- The message says the event. -/
def Says (payload : Payload) (e : Event) : Prop :=
  ∃ eventType version data bySeq slot,
    IsEnvelope json payload eventType e.entity version data ∧ Understood version ∧
    Gives e.fields (json.shape data) bySeq slot ∧
    DataSays json.shape parseUuid slot eventType e

/-- The five entities. -/
def entities : List String :=
  ["user", "organization_user", "user_unit", "unit_device", "user_device"]

/-- The fields of an alert, as they are given.  The two names may be null, and an object may
leave them out; `unit_id` is any text. -/
structure IsAlert {Time : Type} (parseTime : String → Option Time) (bySeq : Bool)
    (slot : String → Option Raw) (event : AlertEvent Value Time) : Prop where
  id : HoldsUuid json.rawShape parseUuid slot "id" event.id
  organizationId : HoldsUuid json.rawShape parseUuid slot "organization_id" event.organizationId
  unitId : Holds slot (asString json.rawShape) "unit_id" event.unitId
  unitNameGiven : slot "unit_name" = none → bySeq = false
  unitName : MayHoldString json.rawShape slot "unit_name" event.unitName
  ruleId : HoldsUuid json.rawShape parseUuid slot "rule_id" event.ruleId
  sourceType : Holds slot (asString json.rawShape) "source_type" event.sourceType
  sourceId : HoldsUuid json.rawShape parseUuid slot "source_id" event.sourceId
  alertType : Holds slot (asString json.rawShape) "alert_type" event.alertType
  alertNameGiven : slot "alert_name" = none → bySeq = false
  alertName : MayHoldString json.rawShape slot "alert_name" event.alertName
  payload : Holds slot json.toValue "payload" event.payload
  occurredAt : Holds slot (asParsed json.rawShape parseTime) "occurred_at" event.occurredAt

/-- The names of the fields of an alert. -/
def alertFieldNames : List String :=
  ["id", "organization_id", "unit_id", "unit_name", "rule_id", "source_type", "source_id",
    "alert_type", "alert_name", "payload", "occurred_at"]

/-- The payload says the alert. -/
def SaysAlert {Time : Type} (parseTime : String → Option Time) (payload : Payload)
    (event : AlertEvent Value Time) : Prop :=
  ∃ raw bySeq slot, json.read payload = some raw ∧
    Gives alertFieldNames (json.rawShape raw) bySeq slot ∧
    IsAlert json parseUuid parseTime bySeq slot event

end Message

end AlertDistributor.Interface
