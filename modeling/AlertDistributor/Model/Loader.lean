import AlertDistributor.Model.Cache

/-!
# The snapshot at start-up

`load_control_plane_snapshot` of `permissions/loader.rs`: one query for each of the five
`control_plane.*` views, and every row written to a fresh cache.  `Views` is what the
database answers, each view in the order of its rows; `ViewRows` is the answer to one of the
five queries, for the runs in which the database changes between them.
-/

set_option autoImplicit false

namespace AlertDistributor.Model

/-! ## The rows
SRC: permissions/loader.rs:17-53 -/

structure UserRow where
  id : UserId
  status : String

structure MembershipRow where
  organizationId : OrganizationId
  userId : UserId
  role : String
  status : String

structure UserUnitRow where
  organizationId : OrganizationId
  userId : UserId
  unitId : UnitId

structure UnitDeviceRow where
  deviceId : String
  unitId : UnitId
  organizationId : OrganizationId

structure UserDeviceRow where
  id : DeviceId
  userId : UserId
  deviceToken : String
  platform : String
  endpointArn : Option String
  isActive : Bool
deriving DecidableEq, Repr

/-- The device a row is loaded as.
SRC: permissions/loader.rs:106-113 -/
def UserDeviceRow.device (row : UserDeviceRow) : UserDevice where
  id := row.id
  userId := row.userId
  deviceToken := row.deviceToken
  platform := row.platform
  endpointArn := row.endpointArn.getD ""
  isActive := row.isActive

/-- The five views. -/
structure Views where
  users : List UserRow
  organizationUsers : List MembershipRow
  userUnits : List UserUnitRow
  unitDevices : List UnitDeviceRow
  userDevices : List UserDeviceRow

/-- The last query reads the active devices only.
SRC: permissions/loader.rs:55-118 -/
def loadControlPlaneSnapshot (views : Views) : State :=
  let cache := views.users.foldl
    (fun cache row => cache.applyUser row.id row.status) State.default
  let cache := views.organizationUsers.foldl
    (fun cache row => cache.upsertMembership row.organizationId row.userId row.role row.status)
    cache
  let cache := views.userUnits.foldl
    (fun cache row => cache.upsertUserUnit row.organizationId row.userId row.unitId) cache
  let cache := views.unitDevices.foldl
    (fun cache row => cache.upsertUnitDevice row.deviceId row.unitId row.organizationId) cache
  (views.userDevices.filter UserDeviceRow.isActive).foldl
    (fun cache row => cache.upsertUserDevice row.device) cache

/-! ## One query after the other -/

inductive View where
  | users
  | organizationUsers
  | userUnits
  | unitDevices
  | userDevices
deriving DecidableEq, Repr

/-- The views in the order of their queries. -/
def View.all : List View :=
  [.users, .organizationUsers, .userUnits, .unitDevices, .userDevices]

/-- What the database answers to the query of a view. -/
inductive ViewRows where
  | users (rows : List UserRow)
  | organizationUsers (rows : List MembershipRow)
  | userUnits (rows : List UserUnitRow)
  | unitDevices (rows : List UnitDeviceRow)
  | userDevices (rows : List UserDeviceRow)

namespace ViewRows

def view : ViewRows → View
  | .users _ => .users
  | .organizationUsers _ => .organizationUsers
  | .userUnits _ => .userUnits
  | .unitDevices _ => .unitDevices
  | .userDevices _ => .userDevices

/-- The loop over the rows of one view.
SRC: permissions/loader.rs:58-115 -/
def load (cache : State) : ViewRows → State
  | .users rows => rows.foldl (fun cache row => cache.applyUser row.id row.status) cache
  | .organizationUsers rows =>
    rows.foldl
      (fun cache row => cache.upsertMembership row.organizationId row.userId row.role row.status)
      cache
  | .userUnits rows =>
    rows.foldl
      (fun cache row => cache.upsertUserUnit row.organizationId row.userId row.unitId) cache
  | .unitDevices rows =>
    rows.foldl
      (fun cache row => cache.upsertUnitDevice row.deviceId row.unitId row.organizationId) cache
  | .userDevices rows =>
    (rows.filter UserDeviceRow.isActive).foldl
      (fun cache row => cache.upsertUserDevice row.device) cache

end ViewRows

end AlertDistributor.Model
