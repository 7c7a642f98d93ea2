import AlertDistributor.Interface.Tables
import AlertDistributor.Model.ControlPlane
import AlertDistributor.Model.Loader

/-!
# The events as writes to the tables

An `Event` is what a message of the topic says once it is understood: the full record of
an UPSERT or the key of a DELETE.  `Decoder.event` reads it from a payload, and each event
is one write to one of the five tables, stated here with no reference to the cache.
`Event.op` is the write operation that `apply_event` is expected to call for it.
-/

set_option autoImplicit false

namespace AlertDistributor.Interface

open AlertDistributor.Model LastWrite

/-- A well-formed event. -/
inductive Event where
  | userUpsert (userId : UserId) (status : String)
  | userDelete (userId : UserId)
  | membershipUpsert (organizationId : OrganizationId) (userId : UserId) (role status : String)
  | membershipDelete (organizationId : OrganizationId) (userId : UserId)
  | userUnitUpsert (organizationId : OrganizationId) (userId : UserId) (unitId : UnitId)
  | userUnitDelete (userId : UserId) (unitId : UnitId)
  | unitDeviceUpsert (deviceId : String) (unitId : UnitId) (organizationId : OrganizationId)
  | unitDeviceDelete (deviceId : String)
  | userDeviceUpsert (device : UserDevice)
  | userDeviceDelete (deviceId : DeviceId)
deriving DecidableEq, Repr

/-! ## From a payload to an event -/

section Decode

variable {Payload Value : Type} (decoder : Decoder Payload Value)

/-- An UPSERT: an organization, a unit or a user that the record needs must be there. -/
def upsertEvent (entity : String) (data : Value) : Option Event :=
  if entity = "user" then
    (decoder.userData data).map fun d => .userUpsert d.id (d.status.getD "")
  else if entity = "organization_user" then
    (decoder.membershipData data).map fun d =>
      .membershipUpsert d.organizationId d.userId (d.role.getD "") (d.status.getD "")
  else if entity = "user_unit" then
    (decoder.userUnitData data).bind fun d =>
      d.organizationId.map fun org => .userUnitUpsert org d.userId d.unitId
  else if entity = "unit_device" then
    (decoder.unitDeviceData data).bind fun d => d.unitId.bind fun unit =>
      d.organizationId.map fun org => .unitDeviceUpsert d.deviceId unit org
  else if entity = "user_device" then
    (decoder.userDeviceData data).bind fun d =>
      d.userId.map fun user => .userDeviceUpsert (d.device user)
  else none

/-- A DELETE needs its key only. -/
def deleteEvent (entity : String) (data : Value) : Option Event :=
  if entity = "user" then (decoder.userData data).map fun d => .userDelete d.id
  else if entity = "organization_user" then
    (decoder.membershipData data).map fun d => .membershipDelete d.organizationId d.userId
  else if entity = "user_unit" then
    (decoder.userUnitData data).map fun d => .userUnitDelete d.userId d.unitId
  else if entity = "unit_device" then
    (decoder.unitDeviceData data).map fun d => .unitDeviceDelete d.deviceId
  else if entity = "user_device" then
    (decoder.userDeviceData data).map fun d => .userDeviceDelete d.id
  else none

/-- The event of a payload; `none` if the service does not understand it. -/
def decodeEvent (payload : Payload) : Option Event :=
  (decoder.envelope payload).bind fun envelope =>
    if envelope.schemaVersion.any fun v => v ≠ SCHEMA_VERSION then none
    else match envelope.eventType with
      | .upsert => upsertEvent decoder envelope.entity envelope.data
      | .delete => deleteEvent decoder envelope.entity envelope.data

/-- The events of a stream of payloads. -/
def decodeEvents (payloads : List Payload) : List Event :=
  payloads.filterMap (decodeEvent decoder)

end Decode

/-! ## What an event writes -/

namespace Event

/-- A deleted user is recorded as not active. -/
def userWrite : Event → Option (Write UserId String)
  | .userUpsert userId status => some ⟨userId, some status⟩
  | .userDelete userId => some ⟨userId, some ""⟩
  | _ => none

def membershipWrite : Event → Option (Write (OrganizationId × UserId) (String × String))
  | .membershipUpsert org user role status => some ⟨(org, user), some (role, status)⟩
  | .membershipDelete org user => some ⟨(org, user), none⟩
  | _ => none

def userUnitWrite : Event → Option (Write (UserId × UnitId) OrganizationId)
  | .userUnitUpsert org user unit => some ⟨(user, unit), some org⟩
  | .userUnitDelete user unit => some ⟨(user, unit), none⟩
  | _ => none

def unitDeviceWrite : Event → Option (Write String (UnitId × OrganizationId))
  | .unitDeviceUpsert imei unit org => some ⟨imei, some (unit, org)⟩
  | .unitDeviceDelete imei => some ⟨imei, none⟩
  | _ => none

def userDeviceWrite : Event → Option (Write DeviceId UserDevice)
  | .userDeviceUpsert device => some ⟨device.id, some device⟩
  | .userDeviceDelete deviceId => some ⟨deviceId, none⟩
  | _ => none

/-- The name the topic gives the entity of an event. -/
def entity : Event → String
  | .userUpsert .. | .userDelete .. => "user"
  | .membershipUpsert .. | .membershipDelete .. => "organization_user"
  | .userUnitUpsert .. | .userUnitDelete .. => "user_unit"
  | .unitDeviceUpsert .. | .unitDeviceDelete .. => "unit_device"
  | .userDeviceUpsert .. | .userDeviceDelete .. => "user_device"

/-- The write operation of the cache that carries an event out. -/
def op : Event → WriteOp
  | .userUpsert userId status => .applyUser userId status
  | .userDelete userId => .applyUser userId ""
  | .membershipUpsert org user role status => .upsertMembership org user role status
  | .membershipDelete org user => .deleteMembership org user
  | .userUnitUpsert org user unit => .upsertUserUnit org user unit
  | .userUnitDelete user unit => .deleteUserUnit user unit
  | .unitDeviceUpsert imei unit org => .upsertUnitDevice imei unit org
  | .unitDeviceDelete imei => .deleteUnitDevice imei
  | .userDeviceUpsert device => .upsertUserDevice device
  | .userDeviceDelete deviceId => .deactivateDevice deviceId

/-- What orders two events: the entity and its identifier. -/
inductive Key where
  | user (userId : UserId)
  | membership (organizationId : OrganizationId) (userId : UserId)
  | userUnit (userId : UserId) (unitId : UnitId)
  | unitDevice (deviceId : String)
  | userDevice (deviceId : DeviceId)
deriving DecidableEq, Repr

def key : Event → Key
  | .userUpsert userId _ | .userDelete userId => .user userId
  | .membershipUpsert org user _ _ | .membershipDelete org user => .membership org user
  | .userUnitUpsert _ user unit | .userUnitDelete user unit => .userUnit user unit
  | .unitDeviceUpsert imei _ _ | .unitDeviceDelete imei => .unitDevice imei
  | .userDeviceUpsert device => .userDevice device.id
  | .userDeviceDelete deviceId => .userDevice deviceId

/-- An UPSERT about a unit names the organization `f` gives the unit. -/
def OrgFixed (f : UnitId → OrganizationId) : Event → Prop
  | .userUnitUpsert org _ unit => org = f unit
  | .unitDeviceUpsert _ unit org => org = f unit
  | _ => True

end Event

/-- The tables after a sequence of events: in each, the last event per key. -/
def Tables.ofEvents (events : List Event) : Tables where
  users := tableOf (events.filterMap Event.userWrite)
  memberships := tableOf (events.filterMap Event.membershipWrite)
  userUnits := tableOf (events.filterMap Event.userUnitWrite)
  unitDevices := tableOf (events.filterMap Event.unitDeviceWrite)
  userDevices := tableOf (events.filterMap Event.userDeviceWrite)

/-! ## Messages that are events already -/

/-- A payload that is an event: every field is there. -/
def typedDecoder : Decoder Event Event where
  envelope e := some ⟨match e with
    | .userUpsert .. | .membershipUpsert .. | .userUnitUpsert .. | .unitDeviceUpsert ..
    | .userDeviceUpsert .. => .upsert
    | _ => .delete, e.entity, some SCHEMA_VERSION, e⟩
  userData
    | .userUpsert userId status => some ⟨userId, some status⟩
    | .userDelete userId => some ⟨userId, none⟩
    | _ => none
  membershipData
    | .membershipUpsert org user role status => some ⟨org, user, some role, some status⟩
    | .membershipDelete org user => some ⟨org, user, none, none⟩
    | _ => none
  userUnitData
    | .userUnitUpsert org user unit => some ⟨some org, user, unit⟩
    | .userUnitDelete user unit => some ⟨none, user, unit⟩
    | _ => none
  unitDeviceData
    | .unitDeviceUpsert imei unit org => some ⟨imei, some unit, some org⟩
    | .unitDeviceDelete imei => some ⟨imei, none, none⟩
    | _ => none
  userDeviceData
    | .userDeviceUpsert d => some ⟨d.id, some d.userId, some d.deviceToken, some d.platform,
        some d.endpointArn, some d.isActive⟩
    | .userDeviceDelete deviceId => some ⟨deviceId, none, none, none, none, none⟩
    | _ => none

/-- A payload that is an event is decoded to itself. -/
theorem decodeEvent_typedDecoder (e : Event) : decodeEvent typedDecoder e = some e := by
  cases e <;> rfl

/-- And so is a sequence of them. -/
theorem decodeEvents_typedDecoder (events : List Event) :
    decodeEvents typedDecoder events = events := by
  have hdecode : decodeEvent typedDecoder = some := funext decodeEvent_typedDecoder
  rw [decodeEvents, hdecode, List.filterMap_some]

end AlertDistributor.Interface
