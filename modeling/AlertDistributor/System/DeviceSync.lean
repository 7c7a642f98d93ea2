import AlertDistributor.Interface.Events
import AlertDistributor.Library.Runs

/-!
# The mobile devices in the database and in the cache

Two writers change a mobile device.  `admin-api` writes the row and appends an UPSERT with
the full row to the topic; the service applies it later.  The SNS worker marks the row
inactive and then takes the device out of the cache, and publishes nothing.  A restart
notes the end of the topic, loads the view and replays from there.  `DeviceSync` is the
database, the topic and the service; a run is any list of enabled actions.
-/

set_option autoImplicit false

namespace AlertDistributor.System

open AlertDistributor.Model AlertDistributor.Interface FiniteMap

structure DeviceSync (Payload : Type) where
  /-- The table `user_devices`. -/
  rows : HashMap DeviceId UserDeviceRow
  /-- The topic, one partition. -/
  log : List Payload
  /-- The next position the service applies. -/
  next : ℕ
  /-- The service has loaded its snapshot. -/
  running : Bool
  cache : State
  /-- The rows a worker has marked inactive and not yet taken out of the cache. -/
  inProgress : List DeviceId

/-- Nothing is written and the service is not running. -/
def DeviceSync.init {Payload : Type} : DeviceSync Payload :=
  ⟨∅, [], 0, false, State.default, []⟩

inductive DeviceAction (Payload : Type) where
  /-- `admin-api` writes a row and appends its UPSERT. -/
  | adminWrite (row : UserDeviceRow) (payload : Payload)
  /-- The consumer applies the next message. -/
  | consume
  /-- `mark_device_inactive`. -/
  | markInactive (id : DeviceId)
  /-- `deactivate_device`, after the row was marked. -/
  | deactivate (id : DeviceId)
  /-- The process starts again and notes the end of the topic. -/
  | noteOffset
  /-- The snapshot is loaded; the last view lists the rows of the table. -/
  | loadViews (views : Views)

/-- `UPDATE user_devices SET is_active = false WHERE id = $1`.
SRC: sns/db_update.rs:7-16 -/
def markDeviceInactive (rows : HashMap DeviceId UserDeviceRow) (id : DeviceId) :
    HashMap DeviceId UserDeviceRow :=
  match rows.lookup id with
  | none => rows
  | some row => rows.insert id { row with isActive := false }

/-- The listing has every row of the table and nothing else. -/
def ListsRows (listing : List UserDeviceRow) (rows : HashMap DeviceId UserDeviceRow) : Prop :=
  (∀ row ∈ listing, rows.lookup row.id = some row) ∧
    ∀ id ∈ rows.keys, ∃ row ∈ listing, row.id = id

instance (listing : List UserDeviceRow) (rows : HashMap DeviceId UserDeviceRow) :
    Decidable (ListsRows listing rows) :=
  -- the instance over the keys, not the one over all the values of a `Uuid`
  letI : Decidable (∀ id ∈ rows.keys, ∃ row ∈ listing, row.id = id) :=
    Finset.decidableDforallFinset
  inferInstanceAs (Decidable (_ ∧ _))

section Step

variable {Payload Json : Type} (decoder : Decoder Payload Json)

/-- One action of one party.
SRC: main.rs:265-288, kafka/control_plane.rs:6-14 -/
def deviceStep (s : DeviceSync Payload) : DeviceAction Payload → Option (DeviceSync Payload)
  | .adminWrite row payload =>
    if decodeEvent decoder payload = some (.userDeviceUpsert row.device) then
      some { s with rows := s.rows.insert row.id row, log := s.log ++ [payload] }
    else none
  | .consume =>
    if s.running then
      match s.log[s.next]? with
      | none => none
      | some payload =>
        some { s with
          cache := (applyEvent decoder s.cache payload).1
          next := s.next + 1 }
    else none
  | .markInactive id =>
    if s.running then
      some { s with
        rows := markDeviceInactive s.rows id
        inProgress := s.inProgress ++ [id] }
    else none
  | .deactivate id =>
    if s.running ∧ id ∈ s.inProgress then
      some { s with
        cache := (s.cache.deactivateDevice id).1
        inProgress := s.inProgress.erase id }
    else none
  | .noteOffset =>
    some { s with
      next := s.log.length
      running := false
      cache := State.default
      inProgress := [] }
  | .loadViews views =>
    if s.running = false ∧ ListsRows views.userDevices s.rows then
      some { s with cache := loadControlPlaneSnapshot views, running := true }
    else none

/-- The state after a run from the start. -/
def deviceRun (actions : List (DeviceAction Payload)) : Option (DeviceSync Payload) :=
  Runs.exec (deviceStep decoder) DeviceSync.init actions

end Step

end AlertDistributor.System
