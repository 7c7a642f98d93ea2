import AlertDistributor.Library.FiniteMap
import AlertDistributor.Model.SnsModels
import Mathlib.Data.Finset.Sort
import Mathlib.Data.Prod.Lex

/-!
# The control-plane cache

The read model of `permissions/cache.rs`: eight maps behind one lock, four queries and
nine write operations.  Each method takes the lock once, so each is one function of the
state.  A `HashMap` is a `FiniteMap.HashMap`, a `HashSet` its keys; `usize` counters are
natural numbers, as they never pass the number of stored entries.

`WriteOp` names the nine write operations with their arguments, and `State.run` is the
state after a sequence of them on the default cache.
-/

set_option autoImplicit false

namespace AlertDistributor.Model

open FiniteMap

/-- SRC: permissions/cache.rs:33 -/
def OWNER : String := "owner"

/-- SRC: permissions/cache.rs:34 -/
def ACTIVE : String := "ACTIVE"

/-- SRC: permissions/cache.rs:36-40 -/
structure Membership where
  owner : Bool
  active : Bool
deriving DecidableEq, Repr

/-- The maps behind the lock.
SRC: permissions/cache.rs:42-59 -/
structure State where
  /-- `users.status == ACTIVE`; a user that does not appear counts as active. -/
  userActive : HashMap UserId Bool
  memberships : HashMap OrganizationId (HashMap UserId Membership)
  /-- The grants: user, unit, organization of the unit. -/
  userUnits : HashMap UserId (HashMap UnitId OrganizationId)
  unitUsers : HashMap UnitId (HashSet UserId)
  /-- Device (IMEI) to its unit and the organization of the unit. -/
  unitDevices : HashMap String (UnitId × OrganizationId)
  /-- The units with a device, and how many each has. -/
  unitsByOrg : HashMap OrganizationId (HashMap UnitId ℕ)
  unitOrg : HashMap UnitId OrganizationId
  /-- Only the active devices, by person. -/
  userDevices : HashMap UserId (List UserDevice)

namespace State

/-- `ControlPlaneCache::default()`. -/
def default : State :=
  ⟨∅, ∅, ∅, ∅, ∅, ∅, ∅, ∅⟩

/-! ## Reading -/

/-- SRC: permissions/cache.rs:62-64 -/
def userIsActive (s : State) (userId : UserId) : Bool :=
  (s.userActive.lookup userId).getD true

/-- SRC: permissions/cache.rs:66-71 -/
def activeMembership (s : State) (org : OrganizationId) (user : UserId) : Option Membership :=
  ((s.memberships.lookup org).bind fun members => members.lookup user).filter
    fun m => m.active && s.userIsActive user

/-- The first loop of `users_for_unit`: the active owners of the organization.
SRC: permissions/cache.rs:108-115 -/
def activeOwners (s : State) (org : OrganizationId) : Finset UserId :=
  match s.memberships.lookup org with
  | none => ∅
  | some members =>
    members.keys.filter fun user =>
      (members.lookup user).any fun m => m.owner && m.active && s.userIsActive user

/-- The second loop of `users_for_unit`: the other active members with a grant.
SRC: permissions/cache.rs:116-125 -/
def activeGranted (s : State) (org : OrganizationId) (unitId : UnitId) : Finset UserId :=
  match s.unitUsers.lookup unitId with
  | none => ∅
  | some granted =>
    granted.keys.filter fun user => (s.activeMembership org user).any fun m => !m.owner

/-- The `(organization, user)` pairs that must receive the alerts of `unitId`.
SRC: permissions/cache.rs:101-130 -/
def usersForUnit (s : State) (unitId : UnitId) : List (OrganizationId ×ₗ UserId) :=
  match s.unitOrg.lookup unitId with
  | none => []
  | some org =>
    let users := s.activeOwners org ∪ s.activeGranted org unitId
    (users.image fun user => toLex (org, user)).sort

/-- The owner branch of `units_for`: every unit counted under the organization.
SRC: permissions/cache.rs:139-144 -/
def ownerUnits (s : State) (organizationId : OrganizationId) : Finset UnitId :=
  match s.unitsByOrg.lookup organizationId with
  | none => ∅
  | some units => units.keys

/-- The other branch of `units_for`: the grants recorded under the organization, on units
that have an entry in `unit_org`.
SRC: permissions/cache.rs:145-159 -/
def grantedUnits (s : State) (organizationId : OrganizationId) (userId : UserId) :
    Finset UnitId :=
  match s.userUnits.lookup userId with
  | none => ∅
  | some granted =>
    granted.keys.filter fun unit =>
      granted.lookup unit = some organizationId ∧ unit ∈ s.unitOrg.keys

/-- The units `userId` sees in `organizationId`; the WebSocket subscribes to them.
SRC: permissions/cache.rs:132-162 -/
def unitsFor (s : State) (organizationId : OrganizationId) (userId : UserId) : List UnitId :=
  match s.activeMembership organizationId userId with
  | none => []
  | some membership =>
    let units :=
      if membership.owner then s.ownerUnits organizationId
      else s.grantedUnits organizationId userId
    units.sort

/-- SRC: permissions/cache.rs:164-171 -/
def devicesFor (s : State) (userId : UserId) : List UserDevice :=
  (s.userDevices.lookup userId).getD []

/-! ## Writing -/

/-- SRC: permissions/cache.rs:73-89 -/
def unassignDevice (s : State) (imei : String) : State :=
  match s.unitDevices.lookup imei with
  | none => s
  | some (unit, org) =>
    let s := { s with unitDevices := s.unitDevices.erase imei }
    match s.unitsByOrg.lookup org with
    | none => s
    | some units =>
      let (units, s) := match units.lookup unit with
        | none => (units, s)
        | some count =>
          -- `saturating_sub(1)`, as the subtraction of natural numbers
          if count - 1 = 0 then
            (units.erase unit, { s with unitOrg := s.unitOrg.erase unit })
          else (units.insert unit (count - 1), s)
      if units.keys = ∅ then { s with unitsByOrg := s.unitsByOrg.erase org }
      else { s with unitsByOrg := s.unitsByOrg.insert org units }

/-- SRC: permissions/cache.rs:186-189 -/
def applyUser (s : State) (userId : UserId) (status : String) : State :=
  { s with userActive := s.userActive.insert userId (status = ACTIVE) }

/-- SRC: permissions/cache.rs:191-210 -/
def upsertMembership (s : State) (organizationId : OrganizationId) (userId : UserId)
    (role status : String) : State :=
  { s with memberships :=
      nestedInsert s.memberships organizationId userId ⟨role = OWNER, status = ACTIVE⟩ }

/-- SRC: permissions/cache.rs:212-220 -/
def deleteMembership (s : State) (organizationId : OrganizationId) (userId : UserId) : State :=
  { s with memberships := nestedErase s.memberships organizationId userId }

/-- SRC: permissions/cache.rs:222-235 -/
def upsertUserUnit (s : State) (organizationId : OrganizationId) (userId : UserId)
    (unitId : UnitId) : State :=
  { s with
    userUnits := nestedInsert s.userUnits userId unitId organizationId
    unitUsers := nestedInsert s.unitUsers unitId userId () }

/-- SRC: permissions/cache.rs:237-251 -/
def deleteUserUnit (s : State) (userId : UserId) (unitId : UnitId) : State :=
  { s with
    userUnits := nestedErase s.userUnits userId unitId
    unitUsers := nestedErase s.unitUsers unitId userId }

/-- The current assignment of a device; it replaces the previous one if it moved.
SRC: permissions/cache.rs:253-272 -/
def upsertUnitDevice (s : State) (deviceId : String) (unitId : UnitId)
    (organizationId : OrganizationId) : State :=
  let s := s.unassignDevice deviceId
  { s with
    unitDevices := s.unitDevices.insert deviceId (unitId, organizationId)
    unitsByOrg := nestedInsert s.unitsByOrg organizationId unitId
      ((nestedLookup s.unitsByOrg organizationId unitId).getD 0 + 1)
    unitOrg := s.unitOrg.insert unitId organizationId }

/-- SRC: permissions/cache.rs:274-277 -/
def deleteUnitDevice (s : State) (deviceId : String) : State :=
  s.unassignDevice deviceId

/-- The two passes that take a device out of every list and then drop the empty lists.
SRC: permissions/cache.rs:282-285, 299-304 -/
def withoutDevice (userDevices : HashMap UserId (List UserDevice)) (deviceId : DeviceId) :
    HashMap UserId (List UserDevice) :=
  retain (fun _ devices => !devices.isEmpty)
    (mapValues (fun devices => devices.filter fun d => d.id ≠ deviceId) userDevices)

/-- A new, changed or removed mobile device; an inactive one leaves the map.
SRC: permissions/cache.rs:279-293 -/
def upsertUserDevice (s : State) (device : UserDevice) : State :=
  let userDevices := withoutDevice s.userDevices device.id
  if device.isActive && !device.endpointArn.isEmpty then
    let devices := (userDevices.lookup device.userId).getD []
    { s with userDevices := userDevices.insert device.userId (devices ++ [device]) }
  else { s with userDevices := userDevices }

/-- Used by the SNS worker when an endpoint turns out invalid; tells whether a list lost
the device.
SRC: permissions/cache.rs:295-306 -/
def deactivateDevice (s : State) (deviceId : DeviceId) : State × Bool :=
  ({ s with userDevices := withoutDevice s.userDevices deviceId },
    decide (∃ user ∈ s.userDevices.keys,
      ((s.devicesFor user).filter fun d => d.id ≠ deviceId).length ≠
        (s.devicesFor user).length))

end State

/-! ## Counts -/

/-- SRC: permissions/cache.rs:309-316 -/
structure ControlPlaneCounts where
  users : ℕ
  memberships : ℕ
  userUnits : ℕ
  unitDevices : ℕ
  userDevices : ℕ
deriving DecidableEq, Repr

/-- SRC: permissions/cache.rs:173-182 -/
def State.counts (s : State) : ControlPlaneCounts where
  users := s.userActive.keys.card
  memberships := (s.memberships.entries.map fun e => e.2.keys.card).sum
  userUnits := (s.userUnits.entries.map fun e => e.2.keys.card).sum
  unitDevices := s.unitDevices.keys.card
  userDevices := (s.userDevices.entries.map fun e => e.2.length).sum

/-! ## Runs of write operations -/

/-- A call of one of the write operations of the cache. -/
inductive WriteOp where
  | applyUser (userId : UserId) (status : String)
  | upsertMembership (organizationId : OrganizationId) (userId : UserId) (role status : String)
  | deleteMembership (organizationId : OrganizationId) (userId : UserId)
  | upsertUserUnit (organizationId : OrganizationId) (userId : UserId) (unitId : UnitId)
  | deleteUserUnit (userId : UserId) (unitId : UnitId)
  | upsertUnitDevice (deviceId : String) (unitId : UnitId) (organizationId : OrganizationId)
  | deleteUnitDevice (deviceId : String)
  | upsertUserDevice (device : UserDevice)
  | deactivateDevice (deviceId : DeviceId)
deriving DecidableEq, Repr

namespace State

/-- The state after one call. -/
def apply (s : State) : WriteOp → State
  | .applyUser userId status => s.applyUser userId status
  | .upsertMembership org user role status => s.upsertMembership org user role status
  | .deleteMembership org user => s.deleteMembership org user
  | .upsertUserUnit org user unit => s.upsertUserUnit org user unit
  | .deleteUserUnit user unit => s.deleteUserUnit user unit
  | .upsertUnitDevice imei unit org => s.upsertUnitDevice imei unit org
  | .deleteUnitDevice imei => s.deleteUnitDevice imei
  | .upsertUserDevice device => s.upsertUserDevice device
  | .deactivateDevice deviceId => (s.deactivateDevice deviceId).1

/-- The state after a sequence of calls on a given state. -/
def runFrom (s : State) (ops : List WriteOp) : State :=
  ops.foldl apply s

/-- The state after a sequence of calls on the default cache. -/
def run (ops : List WriteOp) : State :=
  runFrom default ops

/-- Operations in two parts. -/
theorem runFrom_append (s : State) (ops ops' : List WriteOp) :
    s.runFrom (ops ++ ops') = (s.runFrom ops).runFrom ops' := by
  rw [runFrom, List.foldl_append]; rfl

/-- A run goes on from the state it has come to. -/
theorem run_append (ops ops' : List WriteOp) : run (ops ++ ops') = (run ops).runFrom ops' :=
  runFrom_append _ _ _

/-- A run with one more operation. -/
theorem run_concat (ops : List WriteOp) (op : WriteOp) : run (ops ++ [op]) = (run ops).apply op :=
  run_append _ _

end State

end AlertDistributor.Model
