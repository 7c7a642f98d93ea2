import AlertDistributor.Library.LastWrite
import AlertDistributor.Model.Cache

/-!
# The five tables and the visibility rule

What the cache is for, stated without its indexes.  The five entities of the control
plane are five tables that hold the last write per key, and the rule of ADR-008 reads
them directly: an alert of a unit of organization `O` goes to the `ACTIVE` memberships
of `O` that are `owner` or hold a grant on the unit, unless the user is recorded as not
`ACTIVE`.

A `WriteOp` writes one key of one table; `Tables.ofOps` replays a sequence of them.
-/

set_option autoImplicit false

namespace AlertDistributor.Interface

open AlertDistributor.Model LastWrite

/-- A record that the cache keeps: active and with an endpoint. -/
def Pushable (d : UserDevice) : Prop :=
  d.isActive = true ∧ d.endpointArn ≠ ""

instance (d : UserDevice) : Decidable (Pushable d) :=
  inferInstanceAs (Decidable (_ ∧ _))

/-- The five tables of the control plane, keyed as their entities are. -/
@[ext] structure Tables where
  /-- The recorded status of a user. -/
  users : Table UserId String
  /-- Role and status of a membership. -/
  memberships : Table (OrganizationId × UserId) (String × String)
  /-- The organization recorded with a grant. -/
  userUnits : Table (UserId × UnitId) OrganizationId
  /-- The unit and the organization a device is assigned to. -/
  unitDevices : Table String (UnitId × OrganizationId)
  /-- The last record of a mobile device. -/
  userDevices : Table DeviceId UserDevice

namespace Tables

/-- `u` is recorded with a status other than `ACTIVE`. -/
def Inactive (t : Tables) (u : UserId) : Prop :=
  ∃ status, t.users u = some status ∧ status ≠ ACTIVE

/-- `(O, u)` holds an `ACTIVE` membership with this role, and the user is not recorded
as inactive. -/
def Active (t : Tables) (O : OrganizationId) (u : UserId) (role : String) : Prop :=
  t.memberships (O, u) = some (role, ACTIVE) ∧ ¬ t.Inactive u

/-- Some device is assigned to exactly `(U, O)`. -/
def HasDevice (t : Tables) (U : UnitId) (O : OrganizationId) : Prop :=
  ∃ imei, t.unitDevices imei = some (U, O)

/-- `u` holds a grant on `U`, under whatever organization. -/
def Granted (t : Tables) (u : UserId) (U : UnitId) : Prop :=
  ∃ O, t.userUnits (u, U) = some O

/-- The rule: `U` has a device, `(O, u)` is active, and the membership is `owner` or `u`
holds a grant on `U`. -/
def Allowed (t : Tables) (O : OrganizationId) (u : UserId) (U : UnitId) : Prop :=
  (∃ imei O', t.unitDevices imei = some (U, O')) ∧
    ∃ role, t.Active O u role ∧ (role = OWNER ∨ t.Granted u U)

end Tables

/-! ## The tables of a sequence of write operations -/

def userWrite : WriteOp → Option (Write UserId String)
  | .applyUser userId status => some ⟨userId, some status⟩
  | _ => none

def membershipWrite : WriteOp → Option (Write (OrganizationId × UserId) (String × String))
  | .upsertMembership org user role status => some ⟨(org, user), some (role, status)⟩
  | .deleteMembership org user => some ⟨(org, user), none⟩
  | _ => none

def userUnitWrite : WriteOp → Option (Write (UserId × UnitId) OrganizationId)
  | .upsertUserUnit org user unit => some ⟨(user, unit), some org⟩
  | .deleteUserUnit user unit => some ⟨(user, unit), none⟩
  | _ => none

def unitDeviceWrite : WriteOp → Option (Write String (UnitId × OrganizationId))
  | .upsertUnitDevice imei unit org => some ⟨imei, some (unit, org)⟩
  | .deleteUnitDevice imei => some ⟨imei, none⟩
  | _ => none

def userDeviceWrite : WriteOp → Option (Write DeviceId UserDevice)
  | .upsertUserDevice device => some ⟨device.id, some device⟩
  | .deactivateDevice deviceId => some ⟨deviceId, none⟩
  | _ => none

/-- The tables after a sequence of operations: in each, the last write per key. -/
def Tables.replayOps (t : Tables) (ops : List WriteOp) : Tables where
  users := replay t.users (ops.filterMap userWrite)
  memberships := replay t.memberships (ops.filterMap membershipWrite)
  userUnits := replay t.userUnits (ops.filterMap userUnitWrite)
  unitDevices := replay t.unitDevices (ops.filterMap unitDeviceWrite)
  userDevices := replay t.userDevices (ops.filterMap userDeviceWrite)

/-- The tables before any write. -/
def Tables.empty : Tables :=
  ⟨fun _ => none, fun _ => none, fun _ => none, fun _ => none, fun _ => none⟩

/-- The tables of a sequence of operations on the default cache. -/
def Tables.ofOps (ops : List WriteOp) : Tables :=
  Tables.empty.replayOps ops

end AlertDistributor.Interface
