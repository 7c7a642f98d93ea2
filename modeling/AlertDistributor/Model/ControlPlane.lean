import AlertDistributor.Model.Cache

/-!
# The control-plane events

`apply_event` of `kafka/control_plane.rs`: one message of `control-plane-events` applied to
the cache.  What `serde_json` makes of the bytes is a `Decoder`: the envelope of a
payload, and the five `data` types of a JSON value, each of them a partial function.
-/

set_option autoImplicit false

namespace AlertDistributor.Model

/-- The version of the `data` of each entity that the service understands.
SRC: kafka/control_plane.rs:37 -/
def SCHEMA_VERSION : UInt32 := 1

/-! ## The events
SRC: kafka/control_plane.rs:89-151 -/

inductive EventType where
  | upsert
  | delete
deriving DecidableEq, Repr

structure Envelope (Value : Type) where
  eventType : EventType
  entity : String
  schemaVersion : Option UInt32
  data : Value

structure UserData where
  id : UserId
  status : Option String

structure MembershipData where
  organizationId : OrganizationId
  userId : UserId
  role : Option String
  status : Option String

structure UserUnitData where
  organizationId : Option OrganizationId
  userId : UserId
  unitId : UnitId

structure UnitDeviceData where
  deviceId : String
  unitId : Option UnitId
  organizationId : Option OrganizationId

structure UserDeviceData where
  id : DeviceId
  userId : Option UserId
  deviceToken : Option String
  platform : Option String
  endpointArn : Option String
  isActive : Option Bool

/-- The device of an UPSERT, with the defaults of its optional fields.
SRC: kafka/control_plane.rs:240-249 -/
def UserDeviceData.device (d : UserDeviceData) (userId : UserId) : UserDevice where
  id := d.id
  userId := userId
  deviceToken := d.deviceToken.getD ""
  platform := d.platform.getD ""
  endpointArn := d.endpointArn.getD ""
  isActive := d.isActive.getD false

/-- `serde_json::from_slice::<Envelope>` and `serde_json::from_value` at the five `data`
types; `none` is a decoding error. -/
structure Decoder (Payload Value : Type) where
  envelope : Payload → Option (Envelope Value)
  userData : Value → Option UserData
  membershipData : Value → Option MembershipData
  userUnitData : Value → Option UserUnitData
  unitDeviceData : Value → Option UnitDeviceData
  userDeviceData : Value → Option UserDeviceData

/-- What `apply_event` did with a message.
SRC: kafka/control_plane.rs:153-160 -/
inductive Applied where
  | yes (entity : String)
  | unknownEntity
  | unknownVersion
  | malformed
deriving DecidableEq, Repr

/-! ## Applying one message -/

section Apply

variable {Payload Value : Type} (decoder : Decoder Payload Value)

/-- Users are not deleted through the API; a DELETE is treated as a deactivation.
SRC: kafka/control_plane.rs:184-194 -/
def applyUserEvent (cache : State) (upsert : Bool) (data : Value) : State × Applied :=
  match decoder.userData data with
  | none => (cache, .malformed)
  | some d =>
    let status := if upsert then d.status.getD "" else ""
    (cache.applyUser d.id status, .yes "user")

/-- SRC: kafka/control_plane.rs:195-210 -/
def applyMembershipEvent (cache : State) (upsert : Bool) (data : Value) : State × Applied :=
  match decoder.membershipData data with
  | none => (cache, .malformed)
  | some d =>
    if upsert then
      (cache.upsertMembership d.organizationId d.userId (d.role.getD "") (d.status.getD ""),
        .yes "organization_user")
    else (cache.deleteMembership d.organizationId d.userId, .yes "organization_user")

/-- SRC: kafka/control_plane.rs:211-219 -/
def applyUserUnitEvent (cache : State) (upsert : Bool) (data : Value) : State × Applied :=
  match decoder.userUnitData data with
  | none => (cache, .malformed)
  | some d =>
    match upsert, d.organizationId with
    | true, some org => (cache.upsertUserUnit org d.userId d.unitId, .yes "user_unit")
    | true, none => (cache, .malformed)
    | false, _ => (cache.deleteUserUnit d.userId d.unitId, .yes "user_unit")

/-- SRC: kafka/control_plane.rs:220-230 -/
def applyUnitDeviceEvent (cache : State) (upsert : Bool) (data : Value) : State × Applied :=
  match decoder.unitDeviceData data with
  | none => (cache, .malformed)
  | some d =>
    match upsert, d.unitId, d.organizationId with
    | true, some unit, some org =>
      (cache.upsertUnitDevice d.deviceId unit org, .yes "unit_device")
    | true, _, _ => (cache, .malformed)
    | false, _, _ => (cache.deleteUnitDevice d.deviceId, .yes "unit_device")

/-- SRC: kafka/control_plane.rs:231-251 -/
def applyUserDeviceEvent (cache : State) (upsert : Bool) (data : Value) : State × Applied :=
  match decoder.userDeviceData data with
  | none => (cache, .malformed)
  | some d =>
    if !upsert then ((cache.deactivateDevice d.id).1, .yes "user_device")
    else
      match d.userId with
      | none => (cache, .malformed)
      | some userId =>
        (cache.upsertUserDevice (d.device userId), .yes "user_device")

/-- Applies a message of the topic to the state.  It never fails: a message it does not
understand is skipped.
SRC: kafka/control_plane.rs:162-254 -/
def applyEvent (cache : State) (payload : Payload) : State × Applied :=
  match decoder.envelope payload with
  | none => (cache, .malformed)
  | some envelope =>
    if envelope.schemaVersion.any fun v => v ≠ SCHEMA_VERSION then (cache, .unknownVersion)
    else
      let upsert := decide (envelope.eventType = .upsert)
      if envelope.entity = "user" then
        applyUserEvent decoder cache upsert envelope.data
      else if envelope.entity = "organization_user" then
        applyMembershipEvent decoder cache upsert envelope.data
      else if envelope.entity = "user_unit" then
        applyUserUnitEvent decoder cache upsert envelope.data
      else if envelope.entity = "unit_device" then
        applyUnitDeviceEvent decoder cache upsert envelope.data
      else if envelope.entity = "user_device" then
        applyUserDeviceEvent decoder cache upsert envelope.data
      else (cache, .unknownEntity)

/-- The consumer's loop: the messages of a stream one after the other.
SRC: kafka/control_plane.rs:364-388 -/
def applyEvents (cache : State) (payloads : List Payload) : State :=
  payloads.foldl (fun cache payload => (applyEvent decoder cache payload).1) cache

end Apply

end AlertDistributor.Model
