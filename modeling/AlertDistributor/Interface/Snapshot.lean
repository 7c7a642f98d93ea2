import AlertDistributor.Interface.Events

/-!
# The views a snapshot reads

Each `control_plane.*` view is read by its own query, so the five of them may stand at five
positions of the log.  `ReadAt` says that each view holds the table of its entity at its
position, in whatever order the database lists the rows.
-/

set_option autoImplicit false

namespace AlertDistributor.Interface

open AlertDistributor.Model LastWrite

/-! ## A row as an entry of its table -/

def userEntry (row : UserRow) : UserId × String :=
  (row.id, row.status)

def membershipEntry (row : MembershipRow) : (OrganizationId × UserId) × (String × String) :=
  ((row.organizationId, row.userId), (row.role, row.status))

def userUnitEntry (row : UserUnitRow) : (UserId × UnitId) × OrganizationId :=
  ((row.userId, row.unitId), row.organizationId)

def unitDeviceEntry (row : UnitDeviceRow) : String × (UnitId × OrganizationId) :=
  (row.deviceId, (row.unitId, row.organizationId))

def userDeviceEntry (row : UserDeviceRow) : DeviceId × UserDevice :=
  (row.id, row.device)

/-- The views hold the last event per key of the log at their five positions. -/
structure ReadAt {Payload Value : Type} (decoder : Decoder Payload Value)
    (log : List Payload) (views : Views) (k₁ k₂ k₃ k₄ k₅ : ℕ) : Prop where
  users : Lists (views.users.map userEntry)
    (Tables.ofEvents (decodeEvents decoder (log.take k₁))).users
  organizationUsers : Lists (views.organizationUsers.map membershipEntry)
    (Tables.ofEvents (decodeEvents decoder (log.take k₂))).memberships
  userUnits : Lists (views.userUnits.map userUnitEntry)
    (Tables.ofEvents (decodeEvents decoder (log.take k₃))).userUnits
  unitDevices : Lists (views.unitDevices.map unitDeviceEntry)
    (Tables.ofEvents (decodeEvents decoder (log.take k₄))).unitDevices
  userDevices : Lists (views.userDevices.map userDeviceEntry)
    (Tables.ofEvents (decodeEvents decoder (log.take k₅))).userDevices

/-- The writes of `load_control_plane_snapshot`, in its order. -/
def snapshotOps (views : Views) : List WriteOp :=
  views.users.map (fun row => .applyUser row.id row.status) ++
    views.organizationUsers.map
      (fun row => .upsertMembership row.organizationId row.userId row.role row.status) ++
    views.userUnits.map
      (fun row => .upsertUserUnit row.organizationId row.userId row.unitId) ++
    views.unitDevices.map
      (fun row => .upsertUnitDevice row.deviceId row.unitId row.organizationId) ++
    (views.userDevices.filter UserDeviceRow.isActive).map
      (fun row => .upsertUserDevice row.device)

/-- Loading a snapshot is a run of writes on the default cache. -/
theorem loadControlPlaneSnapshot_eq (views : Views) :
    loadControlPlaneSnapshot views = State.run (snapshotOps views) := by
  simp only [snapshotOps, State.run, State.runFrom, List.foldl_append, List.foldl_map]
  rfl

end AlertDistributor.Interface
