import AlertDistributor.Interface.Tables

/-!
# The indexes of the cache

`Indexed` collects what the redundant maps of `State` keep of one another in every
history: no inner map is empty, `unit_users` is the inverse of `user_units`,
`units_by_org` counts the devices of every (organization, unit) pair, an entry of
`unit_org` names a pair that still has a device, and the device lists hold each kept
record once, under its own user.  Nothing is assumed about which organizations a unit is
seen under.

The one operation with an argument is `unassignDevice`; `unassignDevice_eq` is its
closed form on an indexed state, and every other proof uses that.
-/

set_option autoImplicit false

namespace AlertDistributor.Analysis

open AlertDistributor.Model AlertDistributor.Interface FiniteMap

/-- The number of devices assigned to exactly `(U, O)`. -/
def deviceCount (s : State) (O : OrganizationId) (U : UnitId) : ℕ :=
  countValue s.unitDevices (U, O)

/-- What the maps of the cache keep of one another. -/
structure Indexed (s : State) : Prop where
  memberships_pruned : Pruned s.memberships
  userUnits_pruned : Pruned s.userUnits
  unitUsers_pruned : Pruned s.unitUsers
  /-- The two grant indexes are inverse of each other. -/
  unitUsers_eq : ∀ U u,
    nestedLookup s.unitUsers U u = (nestedLookup s.userUnits u U).map fun _ => ()
  unitsByOrg_pruned : Pruned s.unitsByOrg
  /-- The counters count, and a zero is not stored. -/
  unitsByOrg_eq : ∀ O U, nestedLookup s.unitsByOrg O U =
    if deviceCount s O U = 0 then none else some (deviceCount s O U)
  /-- An entry of `unit_org` never outlives the last device of its pair. -/
  unitOrg_device : ∀ U O, s.unitOrg.lookup U = some O → 0 < deviceCount s O U
  userDevices_nonempty : ∀ u devices, s.userDevices.lookup u = some devices → devices ≠ []
  userDevices_nodup : ∀ u, (s.devicesFor u).Nodup
  userDevices_kept : ∀ u, ∀ d ∈ s.devicesFor u, d.userId = u ∧ Pushable d
  userDevices_unique : ∀ u u', ∀ d ∈ s.devicesFor u, ∀ d' ∈ s.devicesFor u',
    d.id = d'.id → d = d'

/-- A pair has a positive count when some device is assigned to it. -/
theorem deviceCount_pos_iff (s : State) (O : OrganizationId) (U : UnitId) :
    0 < deviceCount s O U ↔ ∃ imei, s.unitDevices.lookup imei = some (U, O) :=
  countValue_pos_iff _ _

/-- The indexes of the empty cache are empty. -/
theorem indexed_default : Indexed State.default where
  memberships_pruned := pruned_empty
  userUnits_pruned := pruned_empty
  unitUsers_pruned := pruned_empty
  unitUsers_eq := by intro U u; simp [State.default]
  unitsByOrg_pruned := pruned_empty
  unitsByOrg_eq := by intro O U; simp [State.default, deviceCount]
  unitOrg_device := by intro U O h; simp [State.default] at h
  userDevices_nonempty := by intro u devices h; simp [State.default] at h
  userDevices_nodup := by intro u; simp [State.default, State.devicesFor]
  userDevices_kept := by intro u d h; simp [State.default, State.devicesFor] at h
  userDevices_unique := by intro u u' d h; simp [State.default, State.devicesFor] at h

/-! ## Taking a device off its unit -/

/-- A device without an assignment has nothing to take off. -/
theorem unassignDevice_of_none {s : State} {imei : String}
    (h : s.unitDevices.lookup imei = none) : s.unassignDevice imei = s := by
  simp [State.unassignDevice, h]

/-- **`unassign_device` in closed form**: the assignment goes, the counter of its pair
drops by one, and with the last device of the pair both the counter and the unit's
`unit_org` entry go, whatever organization that entry names.
SRC: permissions/cache.rs:73-89 -/
theorem unassignDevice_eq {s : State} (h : Indexed s) {imei : String} {U : UnitId}
    {O : OrganizationId} (hd : s.unitDevices.lookup imei = some (U, O)) :
    s.unassignDevice imei =
      { s with
        unitDevices := s.unitDevices.erase imei
        unitsByOrg :=
          if deviceCount s O U = 1 then nestedErase s.unitsByOrg O U
          else nestedInsert s.unitsByOrg O U (deviceCount s O U - 1)
        unitOrg := if deviceCount s O U = 1 then s.unitOrg.erase U else s.unitOrg } := by
  have hpos : 0 < deviceCount s O U := (deviceCount_pos_iff s O U).mpr ⟨imei, hd⟩
  have hcount : nestedLookup s.unitsByOrg O U = some (deviceCount s O U) := by
    rw [h.unitsByOrg_eq, if_neg (by omega)]
  obtain ⟨units, hunits, hunit⟩ := Option.bind_eq_some_iff.mp hcount
  unfold State.unassignDevice
  by_cases hone : deviceCount s O U = 1
  · have hzero : deviceCount s O U - 1 = 0 := by omega
    simp only [hd, hunits, hunit, if_pos hzero, if_pos hone, nestedErase]
    split <;> rfl
  · have hnonzero : ¬ deviceCount s O U - 1 = 0 := by omega
    have hne : ¬ (units.insert U (deviceCount s O U - 1)).keys = ∅ := by
      rw [keys_eq_empty_iff]
      exact insert_ne_empty _ _ _
    simp only [hd, hunits, hunit, if_neg hnonzero, if_neg hne, if_neg hone, nestedInsert,
      Option.getD_some]

/-- Counting the devices of a pair once one device is taken off. -/
theorem deviceCount_unassignDevice {s : State} (h : Indexed s) {imei : String} {U : UnitId}
    {O : OrganizationId} (hd : s.unitDevices.lookup imei = some (U, O)) (O' : OrganizationId)
    (U' : UnitId) :
    deviceCount (s.unassignDevice imei) O' U' =
      deviceCount s O' U' - if U = U' ∧ O = O' then 1 else 0 := by
  rw [unassignDevice_eq h hd]
  simp only [deviceCount, countValue_erase, hd, Option.some.injEq, Prod.mk.injEq]

/-- After taking a device off, it has no assignment. -/
theorem lookup_unassignDevice (s : State) (h : Indexed s) (imei imei' : String) :
    (s.unassignDevice imei).unitDevices.lookup imei' =
      if imei' = imei then none else s.unitDevices.lookup imei' := by
  cases hd : s.unitDevices.lookup imei with
  | none =>
    rw [unassignDevice_of_none hd]
    split
    · rename_i heq; rw [heq, hd]
    · rfl
  | some p =>
    obtain ⟨U, O⟩ := p
    rw [unassignDevice_eq h hd]
    exact lookup_erase_ite _ _ _

/-- Taking a device off its unit keeps the indexes. -/
theorem indexed_unassignDevice {s : State} (h : Indexed s) (imei : String) :
    Indexed (s.unassignDevice imei) := by
  cases hd : s.unitDevices.lookup imei with
  | none =>
    rw [unassignDevice_of_none hd]
    exact h
  | some p =>
    obtain ⟨U, O⟩ := p
    have hcount := deviceCount_unassignDevice h hd
    rw [unassignDevice_eq h hd] at hcount ⊢
    refine { h with unitsByOrg_pruned := ?_, unitsByOrg_eq := ?_, unitOrg_device := ?_ }
    · dsimp only
      split
      · exact h.unitsByOrg_pruned.nestedErase O U
      · exact h.unitsByOrg_pruned.nestedInsert O U _
    · intro O' U'
      rw [hcount O' U']
      dsimp only
      by_cases hpair : U = U' ∧ O = O'
      · obtain ⟨rfl, rfl⟩ := hpair
        by_cases hone : deviceCount s O U = 1
        · simp [hone, nestedLookup_nestedErase]
        · have hpos : 0 < deviceCount s O U := (deviceCount_pos_iff s O U).mpr ⟨imei, hd⟩
          have hrest : ¬ deviceCount s O U - 1 = 0 := by omega
          simp [hone, hrest, nestedLookup_nestedInsert]
      · have hpair' : ¬ (O' = O ∧ U' = U) := fun heq => hpair ⟨heq.2.symm, heq.1.symm⟩
        rw [if_neg hpair, Nat.sub_zero, ← h.unitsByOrg_eq O' U']
        split
        · rw [nestedLookup_nestedErase, if_neg hpair']
        · rw [nestedLookup_nestedInsert, if_neg hpair']
    · intro U' O' hentry
      rw [hcount O' U']
      dsimp only at hentry
      by_cases hone : deviceCount s O U = 1
      · rw [if_pos hone, lookup_erase_ite] at hentry
        split at hentry
        · cases hentry
        · rename_i hne
          rw [if_neg (fun heq => hne heq.1.symm), Nat.sub_zero]
          exact h.unitOrg_device U' O' hentry
      · rw [if_neg hone] at hentry
        have hpos := h.unitOrg_device U' O' hentry
        split
        · rename_i heq
          obtain ⟨rfl, rfl⟩ := heq
          omega
        · exact hpos

/-- Adding an assignment of a device that has none keeps the indexes. -/
theorem indexed_assign {s : State} (h : Indexed s) {imei : String}
    (hd : s.unitDevices.lookup imei = none) (U : UnitId) (O : OrganizationId) :
    Indexed { s with
      unitDevices := s.unitDevices.insert imei (U, O)
      unitsByOrg := nestedInsert s.unitsByOrg O U ((nestedLookup s.unitsByOrg O U).getD 0 + 1)
      unitOrg := s.unitOrg.insert U O } := by
  have hcount : ∀ O' U',
      countValue (s.unitDevices.insert imei (U, O)) (U', O') =
        deviceCount s O' U' + if U' = U ∧ O' = O then 1 else 0 := by
    intro O' U'
    rw [countValue_insert_of_lookup_none hd]
    simp only [deviceCount, Prod.mk.injEq]
  have hold : (nestedLookup s.unitsByOrg O U).getD 0 = deviceCount s O U := by
    rw [h.unitsByOrg_eq]
    split
    · rename_i hzero; rw [hzero, Option.getD_none]
    · rfl
  refine { h with unitsByOrg_pruned := ?_, unitsByOrg_eq := ?_, unitOrg_device := ?_ }
  · exact h.unitsByOrg_pruned.nestedInsert O U _
  · intro O' U'
    simp only [deviceCount, hcount, nestedLookup_nestedInsert, hold]
    by_cases hpair : U' = U ∧ O' = O
    · obtain ⟨rfl, rfl⟩ := hpair
      simp
    · have hpair' : ¬ (O' = O ∧ U' = U) := fun heq => hpair ⟨heq.2, heq.1⟩
      rw [if_neg hpair, if_neg hpair', Nat.add_zero, h.unitsByOrg_eq]
      rfl
  · intro U' O' hentry
    simp only [deviceCount, hcount]
    obtain ⟨heq, rfl⟩ | ⟨-, hentry⟩ := lookup_insert_eq_some_iff.mp hentry
    · simp [heq]
    · have hpos := h.unitOrg_device U' O' hentry
      unfold deviceCount at hpos
      omega

/-! ## The mobile devices -/

/-- What a user's list holds once a device is taken out. -/
theorem getD_lookup_withoutDevice (m : HashMap UserId (List UserDevice)) (id : DeviceId)
    (u : UserId) :
    ((State.withoutDevice m id).lookup u).getD [] =
      ((m.lookup u).getD []).filter fun d => d.id ≠ id := by
  rw [State.withoutDevice, lookup_retain, lookup_mapValues]
  cases m.lookup u with
  | none => rfl
  | some devices =>
    simp only [Option.map_some, Option.getD_some, Option.filter_some]
    split
    · rfl
    · rename_i hempty
      simpa using hempty

/-- No user is left with an empty list. -/
theorem withoutDevice_nonempty {m : HashMap UserId (List UserDevice)} {id : DeviceId}
    {u : UserId} {devices : List UserDevice}
    (h : (State.withoutDevice m id).lookup u = some devices) : devices ≠ [] := by
  rw [State.withoutDevice, lookup_retain, Option.filter_eq_some_iff] at h
  simpa using h.2

/-- Taking a device out of every list keeps the indexes. -/
theorem indexed_withoutDevice {s : State} (h : Indexed s) (id : DeviceId) :
    Indexed { s with userDevices := State.withoutDevice s.userDevices id } := by
  have hfor : ∀ u, State.devicesFor
      { s with userDevices := State.withoutDevice s.userDevices id } u =
        (s.devicesFor u).filter fun d => d.id ≠ id :=
    fun u => getD_lookup_withoutDevice s.userDevices id u
  refine { h with
    userDevices_nonempty := ?_, userDevices_nodup := ?_, userDevices_kept := ?_,
    userDevices_unique := ?_ }
  · intro u devices hdevices
    exact withoutDevice_nonempty hdevices
  · intro u
    rw [hfor]
    exact (h.userDevices_nodup u).filter _
  · intro u d hd
    rw [hfor] at hd
    exact h.userDevices_kept u d (List.mem_of_mem_filter hd)
  · intro u u' d hd d' hd'
    rw [hfor] at hd hd'
    exact h.userDevices_unique u u' d (List.mem_of_mem_filter hd) d' (List.mem_of_mem_filter hd')

/-- The push at the end of `upsert_user_device`.
SRC: permissions/cache.rs:286-292 -/
def pushDevice (s : State) (device : UserDevice) : State :=
  { s with userDevices :=
      s.userDevices.insert device.userId (s.devicesFor device.userId ++ [device]) }

/-- A device is pushed at the end of the list of its user. -/
theorem devicesFor_pushDevice (s : State) (device : UserDevice) (u : UserId) :
    (pushDevice s device).devicesFor u =
      if u = device.userId then s.devicesFor u ++ [device] else s.devicesFor u := by
  rw [State.devicesFor, pushDevice, lookup_insert_ite]
  split
  · rename_i heq; rw [heq, Option.getD_some]
  · rfl

/-- After a push the list of its user has the device as well. -/
theorem mem_devicesFor_pushDevice (s : State) (device : UserDevice) (u : UserId)
    (d : UserDevice) :
    d ∈ (pushDevice s device).devicesFor u ↔
      d ∈ s.devicesFor u ∨ (u = device.userId ∧ d = device) := by
  rw [devicesFor_pushDevice]
  split
  · rename_i heq; simp [heq]
  · rename_i hne; simp [hne]

/-- Storing a kept record whose id no list holds keeps the indexes. -/
theorem indexed_pushDevice {s : State} (h : Indexed s) {device : UserDevice}
    (hkept : Pushable device) (hfresh : ∀ u, ∀ d ∈ s.devicesFor u, d.id ≠ device.id) :
    Indexed (pushDevice s device) := by
  have hmem := mem_devicesFor_pushDevice s device
  refine { h with
    userDevices_nonempty := ?_, userDevices_nodup := ?_, userDevices_kept := ?_,
    userDevices_unique := ?_ }
  · intro u devices hdevices
    obtain ⟨-, rfl⟩ | ⟨-, hold⟩ := lookup_insert_eq_some_iff.mp hdevices
    · simp
    · exact h.userDevices_nonempty u devices hold
  · intro u
    rw [devicesFor_pushDevice]
    split
    · refine List.nodup_append.mpr ⟨h.userDevices_nodup u, by simp, ?_⟩
      intro d hd d' hd' heq
      obtain rfl := List.mem_singleton.mp hd'
      exact hfresh u d hd (by rw [heq])
    · exact h.userDevices_nodup u
  · intro u d hd
    rcases (hmem u d).mp hd with hold | ⟨rfl, rfl⟩
    · exact h.userDevices_kept u d hold
    · exact ⟨rfl, hkept⟩
  · intro u u' d hd d' hd' hid
    rcases (hmem u d).mp hd with hold | ⟨-, rfl⟩
    · rcases (hmem u' d').mp hd' with hold' | ⟨-, rfl⟩
      · exact h.userDevices_unique u u' d hold d' hold' hid
      · exact absurd hid (hfresh u d hold)
    · rcases (hmem u' d').mp hd' with hold' | ⟨-, rfl⟩
      · exact absurd hid.symm (hfresh u' d' hold')
      · rfl

/-! ## Every write operation keeps the indexes -/

/-- A grant is written into both maps. -/
theorem indexed_upsertUserUnit {s : State} (h : Indexed s) (O : OrganizationId) (u : UserId)
    (U : UnitId) : Indexed (s.upsertUserUnit O u U) := by
  refine { h with userUnits_pruned := ?_, unitUsers_pruned := ?_, unitUsers_eq := ?_ }
  · exact h.userUnits_pruned.nestedInsert u U O
  · exact h.unitUsers_pruned.nestedInsert U u ()
  · intro U' u'
    simp only [State.upsertUserUnit, nestedLookup_nestedInsert, h.unitUsers_eq, and_comm]
    split <;> rfl

/-- And taken out of both. -/
theorem indexed_deleteUserUnit {s : State} (h : Indexed s) (u : UserId) (U : UnitId) :
    Indexed (s.deleteUserUnit u U) := by
  refine { h with userUnits_pruned := ?_, unitUsers_pruned := ?_, unitUsers_eq := ?_ }
  · exact h.userUnits_pruned.nestedErase u U
  · exact h.unitUsers_pruned.nestedErase U u
  · intro U' u'
    simp only [State.deleteUserUnit, nestedLookup_nestedErase, h.unitUsers_eq, and_comm]
    split <;> rfl

/-- Assigning a device keeps the indexes. -/
theorem indexed_upsertUnitDevice {s : State} (h : Indexed s) (imei : String) (U : UnitId)
    (O : OrganizationId) : Indexed (s.upsertUnitDevice imei U O) := by
  have hfree : (s.unassignDevice imei).unitDevices.lookup imei = none := by
    rw [lookup_unassignDevice s h, if_pos rfl]
  exact indexed_assign (indexed_unassignDevice h imei) hfree U O

/-- Storing a mobile device keeps the indexes. -/
theorem indexed_upsertUserDevice {s : State} (h : Indexed s) (device : UserDevice) :
    Indexed (s.upsertUserDevice device) := by
  have hwithout := indexed_withoutDevice h device.id
  unfold State.upsertUserDevice
  dsimp only
  split
  · rename_i hkept
    have hpush : Pushable device := by simpa [Pushable] using hkept
    refine indexed_pushDevice hwithout hpush ?_
    intro u d hd
    have hd' : d ∈ (s.devicesFor u).filter fun d => d.id ≠ device.id :=
      getD_lookup_withoutDevice s.userDevices device.id u ▸ hd
    simpa using (List.mem_filter.mp hd').2
  · exact hwithout

/-- Every operation keeps the indexes. -/
theorem indexed_apply {s : State} (h : Indexed s) (op : WriteOp) : Indexed (s.apply op) := by
  cases op with
  | applyUser u status => exact { h with }
  | upsertMembership O u role status =>
    exact { h with memberships_pruned := h.memberships_pruned.nestedInsert O u _ }
  | deleteMembership O u =>
    exact { h with memberships_pruned := h.memberships_pruned.nestedErase O u }
  | upsertUserUnit O u U => exact indexed_upsertUserUnit h O u U
  | deleteUserUnit u U => exact indexed_deleteUserUnit h u U
  | upsertUnitDevice imei U O => exact indexed_upsertUnitDevice h imei U O
  | deleteUnitDevice imei => exact indexed_unassignDevice h imei
  | upsertUserDevice device => exact indexed_upsertUserDevice h device
  | deactivateDevice id => exact indexed_withoutDevice h id

/-- Every sequence of operations keeps the indexes. -/
theorem indexed_runFrom {s : State} (h : Indexed s) (ops : List WriteOp) :
    Indexed (s.runFrom ops) := by
  induction ops generalizing s with
  | nil => exact h
  | cons op ops ih => exact ih (indexed_apply h op)

/-- **Every reachable cache is indexed.** -/
theorem indexed_run (ops : List WriteOp) : Indexed (State.run ops) :=
  indexed_runFrom indexed_default ops

end AlertDistributor.Analysis
