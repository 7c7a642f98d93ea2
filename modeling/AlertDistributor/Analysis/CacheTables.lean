import AlertDistributor.Analysis.CacheIndexes

/-!
# The cache represents its five tables

`Represents s t` says that every map a write operation addresses by key holds what the
last write to that key put there.  It holds of every run (`represents_run`), with no
assumption on the arguments of the operations; `indexed_run` supplies what the redundant
maps add.  The two recipient queries are then read off the tables, up to the one index
that the tables do not determine: the entry of `unit_org`.
-/

set_option autoImplicit false

namespace AlertDistributor.Analysis

open AlertDistributor.Model AlertDistributor.Interface FiniteMap LastWrite

/-- The maps of the cache hold the tables. -/
structure Represents (s : State) (t : Tables) : Prop where
  userActive : ∀ u, s.userActive.lookup u = (t.users u).map fun status => decide (status = ACTIVE)
  memberships : ∀ O u, nestedLookup s.memberships O u =
    (t.memberships (O, u)).map fun r => ⟨r.1 = OWNER, r.2 = ACTIVE⟩
  userUnits : ∀ u U, nestedLookup s.userUnits u U = t.userUnits (u, U)
  unitDevices : ∀ imei, s.unitDevices.lookup imei = t.unitDevices imei
  userDevices : ∀ d, d ∈ s.devicesFor d.userId ↔ t.userDevices d.id = some d ∧ Pushable d

/-- The empty cache represents the empty tables. -/
theorem represents_default : Represents State.default Tables.empty where
  userActive := by intro u; simp [State.default, Tables.empty]
  memberships := by intro O u; simp [State.default, Tables.empty]
  userUnits := by intro u U; simp [State.default, Tables.empty]
  unitDevices := by intro imei; simp [State.default, Tables.empty]
  userDevices := by intro d; simp [State.default, State.devicesFor, Tables.empty]

/-! ## What each operation leaves in its table -/

/-- Without a device the others are where they were. -/
theorem mem_devicesFor_withoutDevice (s : State) (id : DeviceId) (u : UserId) (d : UserDevice) :
    d ∈ State.devicesFor { s with userDevices := State.withoutDevice s.userDevices id } u ↔
      d ∈ s.devicesFor u ∧ d.id ≠ id := by
  have hfor : State.devicesFor { s with userDevices := State.withoutDevice s.userDevices id } u =
      (s.devicesFor u).filter fun d => d.id ≠ id :=
    getD_lookup_withoutDevice s.userDevices id u
  rw [hfor, List.mem_filter]
  simp

/-- A stored device is where it belongs only, if it can be pushed to. -/
theorem mem_devicesFor_upsertUserDevice (s : State) (device : UserDevice) (u : UserId)
    (d : UserDevice) :
    d ∈ (s.upsertUserDevice device).devicesFor u ↔
      (d ∈ s.devicesFor u ∧ d.id ≠ device.id) ∨
        (Pushable device ∧ u = device.userId ∧ d = device) := by
  unfold State.upsertUserDevice
  dsimp only
  split
  · rename_i hkept
    have hpush : Pushable device := by simpa [Pushable] using hkept
    have hmem := mem_devicesFor_pushDevice
      { s with userDevices := State.withoutDevice s.userDevices device.id } device u d
    rw [mem_devicesFor_withoutDevice] at hmem
    simp only [hpush, true_and]
    exact hmem
  · rename_i hdropped
    have hpush : ¬ Pushable device := by simpa [Pushable] using hdropped
    rw [mem_devicesFor_withoutDevice]
    simp [hpush]

/-- Taking a device off its unit leaves the four other entities alone. -/
theorem unassignDevice_frame {s : State} (h : Indexed s) (imei : String) :
    (s.unassignDevice imei).userActive = s.userActive ∧
      (s.unassignDevice imei).memberships = s.memberships ∧
      (s.unassignDevice imei).userUnits = s.userUnits ∧
      (s.unassignDevice imei).userDevices = s.userDevices := by
  cases hd : s.unitDevices.lookup imei with
  | none => simp [unassignDevice_of_none hd]
  | some p => simp [unassignDevice_eq h hd]

/-- Storing a mobile device leaves the four other entities alone. -/
theorem upsertUserDevice_frame (s : State) (device : UserDevice) :
    (s.upsertUserDevice device).userActive = s.userActive ∧
      (s.upsertUserDevice device).memberships = s.memberships ∧
      (s.upsertUserDevice device).userUnits = s.userUnits ∧
      (s.upsertUserDevice device).unitDevices = s.unitDevices ∧
      (s.upsertUserDevice device).unitOrg = s.unitOrg := by
  unfold State.upsertUserDevice
  dsimp only
  split <;> simp

/-- An assignment changes the entry of its device only. -/
theorem lookup_upsertUnitDevice {s : State} (h : Indexed s) (imei imei' : String)
    (U : UnitId) (O : OrganizationId) :
    (s.upsertUnitDevice imei U O).unitDevices.lookup imei' =
      if imei' = imei then some (U, O) else s.unitDevices.lookup imei' := by
  simp only [State.upsertUnitDevice, lookup_insert_ite, lookup_unassignDevice s h]
  split <;> rfl

/-! ## The simulation -/

/-- Replaying operations is replaying the first, then the others. -/
theorem replayOps_cons (t : Tables) (op : WriteOp) (ops : List WriteOp) :
    t.replayOps (op :: ops) = (t.replayOps [op]).replayOps ops := by
  have hsplit : ∀ {κ ν : Type} [DecidableEq κ] (f : WriteOp → Option (Write κ ν))
      (t : Table κ ν), replay t ((op :: ops).filterMap f) =
        replay (replay t ([op].filterMap f)) (ops.filterMap f) := by
    intro κ ν _ f t
    rw [← replay_append, ← List.filterMap_append, List.singleton_append]
  simp only [Tables.replayOps, hsplit]

/-- What one write leaves under each key of its table. -/
theorem replay_single_apply {κ ν : Type} [DecidableEq κ] (t : Table κ ν) (w : Write κ ν)
    (k : κ) : replay t [w] k = if k = w.key then w.value else t k := by
  rw [replay_cons, replay_nil, Table.write_apply]

/-- A step that touches only `unit_devices` and its indexes. -/
theorem represents_of_unitDevices {s s' : State} {t : Tables} (hr : Represents s t)
    {unitDevices : Table String (UnitId × OrganizationId)}
    (hframe : s'.userActive = s.userActive ∧ s'.memberships = s.memberships ∧
      s'.userUnits = s.userUnits ∧ s'.userDevices = s.userDevices)
    (hdevices : ∀ imei, s'.unitDevices.lookup imei = unitDevices imei) :
    Represents s' { t with unitDevices := unitDevices } := by
  obtain ⟨husers, hmembers, hgrants, hmobile⟩ := hframe
  refine ⟨?_, ?_, ?_, hdevices, ?_⟩
  · rw [husers]; exact hr.userActive
  · rw [hmembers]; exact hr.memberships
  · rw [hgrants]; exact hr.userUnits
  · intro d
    rw [State.devicesFor, hmobile]
    exact hr.userDevices d

/-- A step that touches only the mobile devices. -/
theorem represents_of_userDevices {s s' : State} {t : Tables} (hr : Represents s t)
    {userDevices : Table DeviceId UserDevice}
    (hframe : s'.userActive = s.userActive ∧ s'.memberships = s.memberships ∧
      s'.userUnits = s.userUnits ∧ s'.unitDevices = s.unitDevices)
    (hdevices : ∀ d, d ∈ s'.devicesFor d.userId ↔ userDevices d.id = some d ∧ Pushable d) :
    Represents s' { t with userDevices := userDevices } := by
  obtain ⟨husers, hmembers, hgrants, hunits⟩ := hframe
  refine ⟨?_, ?_, ?_, ?_, hdevices⟩
  · rw [husers]; exact hr.userActive
  · rw [hmembers]; exact hr.memberships
  · rw [hgrants]; exact hr.userUnits
  · rw [hunits]; exact hr.unitDevices

/-- One operation writes its own table and represents it again. -/
theorem represents_apply {s : State} {t : Tables} (h : Indexed s) (hr : Represents s t)
    (op : WriteOp) : Represents (s.apply op) (t.replayOps [op]) := by
  cases op with
  | applyUser u status =>
    refine { hr with userActive := ?_ }
    intro u'
    simp only [State.apply, State.applyUser, lookup_insert_ite, hr.userActive]
    show _ = (replay t.users [⟨u, some status⟩] u').map _
    rw [replay_single_apply]
    split <;> rfl
  | upsertMembership O u role status =>
    refine { hr with memberships := ?_ }
    intro O' u'
    simp only [State.apply, State.upsertMembership, nestedLookup_nestedInsert, hr.memberships]
    show _ = (replay t.memberships [⟨(O, u), some (role, status)⟩] (O', u')).map _
    simp only [replay_single_apply, Prod.mk.injEq]
    split <;> rfl
  | deleteMembership O u =>
    refine { hr with memberships := ?_ }
    intro O' u'
    simp only [State.apply, State.deleteMembership, nestedLookup_nestedErase, hr.memberships]
    show _ = (replay t.memberships [⟨(O, u), none⟩] (O', u')).map _
    simp only [replay_single_apply, Prod.mk.injEq]
    split <;> rfl
  | upsertUserUnit O u U =>
    refine { hr with userUnits := ?_ }
    intro u' U'
    simp only [State.apply, State.upsertUserUnit, nestedLookup_nestedInsert, hr.userUnits]
    show _ = replay t.userUnits [⟨(u, U), some O⟩] (u', U')
    simp only [replay_single_apply, Prod.mk.injEq]
  | deleteUserUnit u U =>
    refine { hr with userUnits := ?_ }
    intro u' U'
    simp only [State.apply, State.deleteUserUnit, nestedLookup_nestedErase, hr.userUnits]
    show _ = replay t.userUnits [⟨(u, U), none⟩] (u', U')
    simp only [replay_single_apply, Prod.mk.injEq]
  | upsertUnitDevice imei U O =>
    refine represents_of_unitDevices hr (unassignDevice_frame h imei) ?_
    intro imei'
    simp only [State.apply, lookup_upsertUnitDevice h, hr.unitDevices]
    exact (replay_single_apply t.unitDevices ⟨imei, some (U, O)⟩ imei').symm
  | deleteUnitDevice imei =>
    refine represents_of_unitDevices hr (unassignDevice_frame h imei) ?_
    intro imei'
    simp only [State.apply, State.deleteUnitDevice, lookup_unassignDevice s h, hr.unitDevices]
    exact (replay_single_apply t.unitDevices ⟨imei, none⟩ imei').symm
  | upsertUserDevice device =>
    obtain ⟨husers, hmembers, hgrants, hunits, -⟩ := upsertUserDevice_frame s device
    refine represents_of_userDevices hr ⟨husers, hmembers, hgrants, hunits⟩ ?_
    intro d
    show d ∈ (s.upsertUserDevice device).devicesFor d.userId ↔
      replay t.userDevices [⟨device.id, some device⟩] d.id = some d ∧ _
    rw [mem_devicesFor_upsertUserDevice, hr.userDevices, replay_single_apply]
    by_cases hid : d.id = device.id
    · simp only [hid, ne_eq, not_true_eq_false, and_false, false_or, if_true, Option.some.injEq]
      constructor
      · rintro ⟨hpush, -, rfl⟩
        exact ⟨rfl, hpush⟩
      · rintro ⟨rfl, hpush⟩
        exact ⟨hpush, rfl, rfl⟩
    · have hne : d ≠ device := fun heq => hid (by rw [heq])
      simp [hid, hne]
  | deactivateDevice id =>
    refine represents_of_userDevices hr ⟨rfl, rfl, rfl, rfl⟩ ?_
    intro d
    show d ∈ State.devicesFor
      { s with userDevices := State.withoutDevice s.userDevices id } d.userId ↔
        replay t.userDevices [⟨id, none⟩] d.id = some d ∧ _
    rw [mem_devicesFor_withoutDevice, hr.userDevices, replay_single_apply]
    by_cases hid : d.id = id
    · simp [hid]
    · simp [hid]

/-- After any sequence of operations the cache represents the replayed tables. -/
theorem represents_runFrom {s : State} {t : Tables} (h : Indexed s) (hr : Represents s t)
    (ops : List WriteOp) : Represents (s.runFrom ops) (t.replayOps ops) := by
  induction ops generalizing s t with
  | nil => exact hr
  | cons op ops ih =>
    rw [replayOps_cons]
    exact ih (indexed_apply h op) (represents_apply h hr op)

/-- **Every reachable cache represents the last write per key.** -/
theorem represents_run (ops : List WriteOp) : Represents (State.run ops) (Tables.ofOps ops) :=
  represents_runFrom indexed_default represents_default ops

/-! ## The queries on the tables -/

/-- `users_for_unit` answers in strict order. -/
theorem usersForUnit_pairwise (s : State) (U : UnitId) :
    (s.usersForUnit U).Pairwise (· < ·) := by
  unfold State.usersForUnit
  cases s.unitOrg.lookup U with
  | none => exact List.Pairwise.nil
  | some org => exact (Finset.sortedLT_sort _).pairwise

/-- And so does `units_for`. -/
theorem unitsFor_pairwise (s : State) (O : OrganizationId) (u : UserId) :
    (s.unitsFor O u).Pairwise (· < ·) := by
  unfold State.unitsFor
  cases s.activeMembership O u with
  | none => exact List.Pairwise.nil
  | some m => exact (Finset.sortedLT_sort _).pairwise

section Queries

variable {s : State} {t : Tables}

/-- A user is active unless the table says otherwise. -/
theorem userIsActive_iff (hr : Represents s t) (u : UserId) :
    s.userIsActive u = true ↔ ¬ t.Inactive u := by
  unfold State.userIsActive Tables.Inactive
  rw [hr.userActive]
  cases t.users u <;> simp

/-- An active membership of the code is one of the tables. -/
theorem activeMembership_eq_some_iff (hr : Represents s t) (O : OrganizationId) (u : UserId)
    (m : Membership) :
    s.activeMembership O u = some m ↔
      ∃ role, t.Active O u role ∧ m = ⟨role = OWNER, true⟩ := by
  have hlookup : ((s.memberships.lookup O).bind fun members => members.lookup u) =
      (t.memberships (O, u)).map fun r => ⟨r.1 = OWNER, r.2 = ACTIVE⟩ := hr.memberships O u
  unfold State.activeMembership Tables.Active
  rw [hlookup, Option.filter_eq_some_iff, Option.map_eq_some_iff]
  simp only [Bool.and_eq_true, userIsActive_iff hr]
  constructor
  · rintro ⟨⟨⟨role, status⟩, hrow, rfl⟩, hactive, huser⟩
    have hstatus : status = ACTIVE := by simpa using hactive
    subst hstatus
    exact ⟨role, ⟨hrow, huser⟩, by simp⟩
  · rintro ⟨role, ⟨hrow, huser⟩, rfl⟩
    exact ⟨⟨(role, ACTIVE), hrow, by simp⟩, rfl, huser⟩

/-- The active owners are the active members that are owners. -/
theorem mem_activeOwners (s : State) (O : OrganizationId) (u : UserId) :
    u ∈ s.activeOwners O ↔ ∃ m, s.activeMembership O u = some m ∧ m.owner = true := by
  unfold State.activeOwners State.activeMembership
  cases s.memberships.lookup O with
  | none => simp
  | some members =>
    simp only [Finset.mem_filter, mem_keys_iff_lookup, Option.bind_some, Option.any_eq_true,
      Bool.and_eq_true, Option.filter_eq_some_iff]
    constructor
    · rintro ⟨-, m, hm, ⟨howner, hactive⟩, huser⟩
      exact ⟨m, ⟨hm, hactive, huser⟩, howner⟩
    · rintro ⟨m, ⟨hm, hactive, huser⟩, howner⟩
      exact ⟨⟨m, hm⟩, m, hm, ⟨howner, hactive⟩, huser⟩

/-- The active granted are the members with the grant that are no owners. -/
theorem mem_activeGranted (s : State) (O : OrganizationId) (U : UnitId) (u : UserId) :
    u ∈ s.activeGranted O U ↔
      (∃ x, nestedLookup s.unitUsers U u = some x) ∧
        ∃ m, s.activeMembership O u = some m ∧ m.owner = false := by
  unfold State.activeGranted nestedLookup
  cases s.unitUsers.lookup U with
  | none => simp
  | some granted =>
    simp only [Finset.mem_filter, mem_keys_iff_lookup, Option.bind_some, Option.any_eq_true,
      Bool.not_eq_true']

/-- The units of an organization are those with a counter. -/
theorem mem_ownerUnits (s : State) (O : OrganizationId) (U : UnitId) :
    U ∈ s.ownerUnits O ↔ ∃ n, nestedLookup s.unitsByOrg O U = some n := by
  unfold State.ownerUnits nestedLookup
  cases s.unitsByOrg.lookup O with
  | none => simp
  | some units => rw [mem_keys_iff_lookup, Option.bind_some]

/-- The granted units are those granted in the organization that some unit entry knows. -/
theorem mem_grantedUnits (s : State) (O : OrganizationId) (u : UserId) (U : UnitId) :
    U ∈ s.grantedUnits O u ↔
      nestedLookup s.userUnits u U = some O ∧ ∃ O', s.unitOrg.lookup U = some O' := by
  unfold State.grantedUnits nestedLookup
  cases s.userUnits.lookup u with
  | none => simp
  | some granted =>
    rw [Finset.mem_filter, mem_keys_iff_lookup, mem_keys_iff_lookup, Option.bind_some]
    constructor
    · rintro ⟨-, hgrant, hentry⟩
      exact ⟨hgrant, hentry⟩
    · rintro ⟨hgrant, hentry⟩
      exact ⟨⟨O, hgrant⟩, hgrant, hentry⟩

/-- Who receives the alerts of a unit, in terms of the memberships and the grants. -/
theorem mem_usersForUnit_iff (h : Indexed s) (O : OrganizationId) (u : UserId) (U : UnitId) :
    toLex (O, u) ∈ s.usersForUnit U ↔
      s.unitOrg.lookup U = some O ∧ ∃ m, s.activeMembership O u = some m ∧
        (m.owner = true ∨ ∃ G, nestedLookup s.userUnits u U = some G) := by
  have hgranted : ∀ u, (∃ x, nestedLookup s.unitUsers U u = some x) ↔
      ∃ G, nestedLookup s.userUnits u U = some G := by
    intro u
    rw [h.unitUsers_eq]
    simp
  unfold State.usersForUnit
  cases hU : s.unitOrg.lookup U with
  | none => simp
  | some org =>
    simp only [Finset.mem_sort, Finset.mem_image, Finset.mem_union, mem_activeOwners,
      mem_activeGranted, hgranted]
    constructor
    · rintro ⟨u', hu', heq⟩
      obtain ⟨rfl, rfl⟩ : org = O ∧ u' = u := by simpa using heq
      refine ⟨rfl, ?_⟩
      rcases hu' with ⟨m, hm, howner⟩ | ⟨hg, m, hm, -⟩
      · exact ⟨m, hm, Or.inl howner⟩
      · exact ⟨m, hm, Or.inr hg⟩
    · rintro ⟨horg, m, hm, hrule⟩
      obtain rfl : org = O := by simpa using horg
      refine ⟨u, ?_, rfl⟩
      cases howner : m.owner with
      | true => exact Or.inl ⟨m, hm, howner⟩
      | false => exact Or.inr ⟨hrule.resolve_left (by simp [howner]), m, hm, howner⟩

/-- Which units a user sees, in terms of the memberships, the counters and the grants. -/
theorem mem_unitsFor_iff (h : Indexed s) (O : OrganizationId) (u : UserId) (U : UnitId) :
    U ∈ s.unitsFor O u ↔
      ∃ m, s.activeMembership O u = some m ∧
        if m.owner = true then ∃ imei, s.unitDevices.lookup imei = some (U, O)
        else nestedLookup s.userUnits u U = some O ∧ ∃ D, s.unitOrg.lookup U = some D := by
  have hcounter : (∃ n, nestedLookup s.unitsByOrg O U = some n) ↔
      ∃ imei, s.unitDevices.lookup imei = some (U, O) := by
    rw [← deviceCount_pos_iff, h.unitsByOrg_eq]
    split
    · rename_i hzero; simp [hzero]
    · rename_i hpos; simp [Nat.pos_of_ne_zero hpos]
  unfold State.unitsFor
  cases hm : s.activeMembership O u with
  | none => simp
  | some m =>
    simp only [Finset.mem_sort, Option.some.injEq, exists_eq_left']
    cases m.owner with
    | true => simp only [if_true, mem_ownerUnits, hcounter]
    | false => simp only [Bool.false_eq_true, if_false, mem_grantedUnits]

/-- **Who receives the alerts of a unit**, read off the tables and `unit_org`. -/
theorem mem_usersForUnit (h : Indexed s) (hr : Represents s t) (O : OrganizationId)
    (u : UserId) (U : UnitId) :
    toLex (O, u) ∈ s.usersForUnit U ↔
      s.unitOrg.lookup U = some O ∧
        ∃ role, t.Active O u role ∧ (role = OWNER ∨ t.Granted u U) := by
  rw [mem_usersForUnit_iff h]
  simp only [activeMembership_eq_some_iff hr, hr.userUnits]
  constructor
  · rintro ⟨hentry, m, ⟨role, hactive, rfl⟩, hrule⟩
    exact ⟨hentry, role, hactive, by simpa [Tables.Granted] using hrule⟩
  · rintro ⟨hentry, role, hactive, hrule⟩
    exact ⟨hentry, _, ⟨role, hactive, rfl⟩, by simpa [Tables.Granted] using hrule⟩

/-- **Which units a user sees**, read off the tables and `unit_org`. -/
theorem mem_unitsFor (h : Indexed s) (hr : Represents s t) (O : OrganizationId)
    (u : UserId) (U : UnitId) :
    U ∈ s.unitsFor O u ↔
      ∃ role, t.Active O u role ∧
        if role = OWNER then t.HasDevice U O
        else t.userUnits (u, U) = some O ∧ ∃ D, s.unitOrg.lookup U = some D := by
  rw [mem_unitsFor_iff h]
  simp only [activeMembership_eq_some_iff hr, hr.userUnits, hr.unitDevices]
  constructor
  · rintro ⟨m, ⟨role, hactive, rfl⟩, hrule⟩
    exact ⟨role, hactive, by simpa [Tables.HasDevice] using hrule⟩
  · rintro ⟨role, hactive, hrule⟩
    exact ⟨_, ⟨role, hactive, rfl⟩, by simpa [Tables.HasDevice] using hrule⟩

end Queries

end AlertDistributor.Analysis
