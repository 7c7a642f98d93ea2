import AlertDistributor.Analysis.ControlPlane

/-!
# One event, one entry

An event names one key of one entity.  `entryAt` is what the cache holds under a key and
`Event.says` what the event puts there; applying an event changes the entry of its key to
that and no other (`entryAt_apply`), and touches the maps of its entity only (`Touches`),
though the writes behind it scan the lists of every user and prune shared maps.  A message
that is not understood changes nothing, so `apply_event` is atomic.
-/

set_option autoImplicit false

namespace AlertDistributor.Analysis

open AlertDistributor.Model AlertDistributor.Interface FiniteMap

/-! ## The stored mobile devices -/

/-- The mobile devices of all users. -/
def storedDevices (s : State) : Multiset UserDevice :=
  s.userDevices.entries.bind fun e => e.2

/-- A device is stored when it is in the list of some user. -/
theorem mem_storedDevices (s : State) (d : UserDevice) :
    d ∈ storedDevices s ↔ ∃ u, d ∈ s.devicesFor u := by
  rw [storedDevices, Multiset.mem_bind]
  constructor
  · rintro ⟨⟨u, devices⟩, hentry, hd⟩
    have hlookup : s.userDevices.lookup u = some devices := Finmap.lookup_eq_some_iff.mpr hentry
    refine ⟨u, ?_⟩
    rw [State.devicesFor, hlookup]
    exact hd
  · rintro ⟨u, hd⟩
    rw [State.devicesFor] at hd
    cases hlookup : s.userDevices.lookup u with
    | none =>
      rw [hlookup] at hd
      cases hd
    | some devices =>
      rw [hlookup] at hd
      exact ⟨⟨u, devices⟩, Finmap.lookup_eq_some_iff.mp hlookup, hd⟩

/-- A device is stored once. -/
theorem nodup_storedDevices {s : State} (h : Indexed s) : (storedDevices s).Nodup := by
  have hlookup : ∀ e ∈ s.userDevices.entries, s.devicesFor e.1 = e.2 := by
    rintro ⟨u, devices⟩ hentry
    rw [State.devicesFor, Finmap.lookup_eq_some_iff.mpr hentry]
    rfl
  have hentries : s.userDevices.entries.Nodup :=
    (Multiset.nodup_keys.mpr s.userDevices.nodupKeys).of_map _
  rw [storedDevices, Multiset.nodup_bind]
  constructor
  · intro e he
    rw [Multiset.coe_nodup, ← hlookup e he]
    exact h.userDevices_nodup e.1
  · refine Multiset.Nodup.pairwise ?_ hentries
    intro e he e' he' hne
    refine Multiset.disjoint_left.mpr fun {d} hd hd' => hne ?_
    rw [Multiset.mem_coe, ← hlookup e he] at hd
    rw [Multiset.mem_coe, ← hlookup e' he'] at hd'
    have hkey : e.1 = e'.1 :=
      (h.userDevices_kept e.1 d hd).1.symm.trans (h.userDevices_kept e'.1 d hd').1
    have hvalue : e.2 = e'.2 := by rw [← hlookup e he, ← hlookup e' he', hkey]
    exact Sigma.ext hkey (heq_of_eq hvalue)

/-- The stored devices with one id, and what they are after a step. -/
theorem filter_storedDevices_eq {s : State} (h : Indexed s) {id : DeviceId}
    {devices : Multiset UserDevice} (hnodup : devices.Nodup)
    (hmem : ∀ d, d ∈ devices ↔ d.id = id ∧ ∃ u, d ∈ s.devicesFor u) :
    (storedDevices s).filter (fun d => d.id = id) = devices := by
  refine (Multiset.Nodup.ext ((nodup_storedDevices h).filter _) hnodup).mpr fun d => ?_
  rw [Multiset.mem_filter, mem_storedDevices, hmem, and_comm]

/-! ## Entries -/

/-- What the cache can hold under a key. -/
inductive Entry where
  | user (active : Option Bool)
  | membership (membership : Option Membership)
  /-- A grant, in the map of its user and in that of its unit. -/
  | userUnit (organizationId : Option OrganizationId) (listed : Option Unit)
  | unitDevice (assigned : Option (UnitId × OrganizationId))
  | userDevice (devices : Multiset UserDevice)

/-- The entry of a key. -/
def entryAt (s : State) : Event.Key → Entry
  | .user u => .user (s.userActive.lookup u)
  | .membership O u => .membership (nestedLookup s.memberships O u)
  | .userUnit u U => .userUnit (nestedLookup s.userUnits u U) (nestedLookup s.unitUsers U u)
  | .unitDevice imei => .unitDevice (s.unitDevices.lookup imei)
  | .userDevice id => .userDevice ((storedDevices s).filter fun d => d.id = id)

/-- The entry an event asks for. -/
def eventSays : Event → Entry
  | .userUpsert _ status => .user (some (status = ACTIVE))
  | .userDelete _ => .user (some false)
  | .membershipUpsert _ _ role status => .membership (some ⟨role = OWNER, status = ACTIVE⟩)
  | .membershipDelete .. => .membership none
  | .userUnitUpsert org _ _ => .userUnit (some org) (some ())
  | .userUnitDelete .. => .userUnit none none
  | .unitDeviceUpsert _ unit org => .unitDevice (some (unit, org))
  | .unitDeviceDelete _ => .unitDevice none
  | .userDeviceUpsert device => .userDevice (if Pushable device then {device} else 0)
  | .userDeviceDelete _ => .userDevice 0

/-- Only the maps of one entity differ. -/
structure Touches (entity : String) (s s' : State) : Prop where
  userActive : entity ≠ "user" → s'.userActive = s.userActive
  memberships : entity ≠ "organization_user" → s'.memberships = s.memberships
  userUnits : entity ≠ "user_unit" → s'.userUnits = s.userUnits ∧ s'.unitUsers = s.unitUsers
  unitDevices : entity ≠ "unit_device" → s'.unitDevices = s.unitDevices ∧
    s'.unitsByOrg = s.unitsByOrg ∧ s'.unitOrg = s.unitOrg
  userDevices : entity ≠ "user_device" → s'.userDevices = s.userDevices

/-- Taking a device off its unit edits three maps. -/
theorem exists_unassignDevice_eq {s : State} (h : Indexed s) (imei : String) :
    ∃ unitDevices unitsByOrg unitOrg, s.unassignDevice imei =
      { s with unitDevices := unitDevices, unitsByOrg := unitsByOrg, unitOrg := unitOrg } := by
  cases hd : s.unitDevices.lookup imei with
  | none => exact ⟨_, _, _, unassignDevice_of_none hd⟩
  | some p => exact ⟨_, _, _, unassignDevice_eq h hd⟩

/-- Storing a mobile device edits one map. -/
theorem exists_upsertUserDevice_eq (s : State) (device : UserDevice) :
    ∃ userDevices, s.upsertUserDevice device = { s with userDevices := userDevices } := by
  unfold State.upsertUserDevice
  dsimp only
  split
  · exact ⟨_, rfl⟩
  · exact ⟨_, rfl⟩

/-- An event touches the maps of its entity only. -/
theorem touches_apply {s : State} (h : Indexed s) (e : Event) :
    Touches e.entity s (s.apply e.op) := by
  cases e with
  | userUpsert u status =>
    constructor <;> simp [Event.entity, Event.op, State.apply, State.applyUser]
  | userDelete u =>
    constructor <;> simp [Event.entity, Event.op, State.apply, State.applyUser]
  | membershipUpsert O u role status =>
    constructor <;> simp [Event.entity, Event.op, State.apply, State.upsertMembership]
  | membershipDelete O u =>
    constructor <;> simp [Event.entity, Event.op, State.apply, State.deleteMembership]
  | userUnitUpsert O u U =>
    constructor <;> simp [Event.entity, Event.op, State.apply, State.upsertUserUnit]
  | userUnitDelete u U =>
    constructor <;> simp [Event.entity, Event.op, State.apply, State.deleteUserUnit]
  | unitDeviceUpsert imei U O =>
    obtain ⟨_, _, _, heq⟩ := exists_unassignDevice_eq h imei
    constructor <;> simp [Event.entity, Event.op, State.apply, State.upsertUnitDevice, heq]
  | unitDeviceDelete imei =>
    obtain ⟨_, _, _, heq⟩ := exists_unassignDevice_eq h imei
    constructor <;> simp [Event.entity, Event.op, State.apply, State.deleteUnitDevice, heq]
  | userDeviceUpsert device =>
    obtain ⟨_, heq⟩ := exists_upsertUserDevice_eq s device
    constructor <;> simp [Event.entity, Event.op, State.apply, heq]
  | userDeviceDelete id =>
    constructor <;> simp [Event.entity, Event.op, State.apply, State.deactivateDevice]

/-- The entity of a key. -/
def keyEntity : Event.Key → String
  | .user _ => "user"
  | .membership .. => "organization_user"
  | .userUnit .. => "user_unit"
  | .unitDevice _ => "unit_device"
  | .userDevice _ => "user_device"

/-- The entries of the other entities are what they were. -/
theorem entryAt_of_touches {entity : String} {s s' : State} (h : Touches entity s s')
    {key : Event.Key} (hkey : entity ≠ keyEntity key) : entryAt s' key = entryAt s key := by
  cases key with
  | user u => rw [entryAt, entryAt, h.userActive hkey]
  | membership O u => rw [entryAt, entryAt, h.memberships hkey]
  | userUnit u U => rw [entryAt, entryAt, (h.userUnits hkey).1, (h.userUnits hkey).2]
  | unitDevice imei => rw [entryAt, entryAt, (h.unitDevices hkey).1]
  | userDevice id => rw [entryAt, entryAt, storedDevices, storedDevices, h.userDevices hkey]

/-! ## The entry of the key, and the other entries of the entity -/

/-- A status is written at its user only. -/
theorem entryAt_applyUser (s : State) (u : UserId) (status : String) (u' : UserId) :
    entryAt (s.applyUser u status) (.user u') =
      if u' = u then .user (some (status = ACTIVE)) else entryAt s (.user u') := by
  simp only [entryAt, State.applyUser, lookup_insert_ite]
  split <;> rfl

/-- A membership is written at its pair only. -/
theorem entryAt_upsertMembership (s : State) (O : OrganizationId) (u : UserId)
    (role status : String) (O' : OrganizationId) (u' : UserId) :
    entryAt (s.upsertMembership O u role status) (.membership O' u') =
      if O' = O ∧ u' = u then .membership (some ⟨role = OWNER, status = ACTIVE⟩)
      else entryAt s (.membership O' u') := by
  simp only [entryAt, State.upsertMembership, nestedLookup_nestedInsert]
  split <;> rfl

/-- And deleted at its pair only. -/
theorem entryAt_deleteMembership (s : State) (O : OrganizationId) (u : UserId)
    (O' : OrganizationId) (u' : UserId) :
    entryAt (s.deleteMembership O u) (.membership O' u') =
      if O' = O ∧ u' = u then .membership none else entryAt s (.membership O' u') := by
  simp only [entryAt, State.deleteMembership, nestedLookup_nestedErase]
  split <;> rfl

/-- A grant is written at its pair only. -/
theorem entryAt_upsertUserUnit (s : State) (O : OrganizationId) (u : UserId) (U : UnitId)
    (u' : UserId) (U' : UnitId) :
    entryAt (s.upsertUserUnit O u U) (.userUnit u' U') =
      if u' = u ∧ U' = U then .userUnit (some O) (some ()) else entryAt s (.userUnit u' U') := by
  simp only [entryAt, State.upsertUserUnit, nestedLookup_nestedInsert, and_comm]
  split <;> rfl

/-- And deleted at its pair only. -/
theorem entryAt_deleteUserUnit (s : State) (u : UserId) (U : UnitId) (u' : UserId)
    (U' : UnitId) :
    entryAt (s.deleteUserUnit u U) (.userUnit u' U') =
      if u' = u ∧ U' = U then .userUnit none none else entryAt s (.userUnit u' U') := by
  simp only [entryAt, State.deleteUserUnit, nestedLookup_nestedErase, and_comm]
  split <;> rfl

section Indexed

variable {s : State} (h : Indexed s)

include h

/-- An assignment is written at its device only. -/
theorem entryAt_upsertUnitDevice (imei : String) (U : UnitId) (O : OrganizationId)
    (imei' : String) :
    entryAt (s.upsertUnitDevice imei U O) (.unitDevice imei') =
      if imei' = imei then .unitDevice (some (U, O)) else entryAt s (.unitDevice imei') := by
  simp only [entryAt, lookup_upsertUnitDevice h]
  split <;> rfl

/-- And deleted at its device only. -/
theorem entryAt_deleteUnitDevice (imei imei' : String) :
    entryAt (s.deleteUnitDevice imei) (.unitDevice imei') =
      if imei' = imei then .unitDevice none else entryAt s (.unitDevice imei') := by
  simp only [entryAt, State.deleteUnitDevice, lookup_unassignDevice s h]
  split <;> rfl

/-- A step of the mobile devices that only changes who holds the device `id`. -/
theorem entryAt_userDevice {s' : State} (h' : Indexed s') {id : DeviceId}
    {devices : Multiset UserDevice} (hnodup : devices.Nodup)
    (hmem : ∀ d u, d ∈ s'.devicesFor u ↔
      (d ∈ s.devicesFor u ∧ d.id ≠ id) ∨ (d ∈ devices ∧ u = d.userId))
    (hid : ∀ d ∈ devices, d.id = id) (id' : DeviceId) :
    entryAt s' (.userDevice id') =
      if id' = id then .userDevice devices else entryAt s (.userDevice id') := by
  have hstored : ∀ d, (∃ u, d ∈ s'.devicesFor u) ↔
      ((∃ u, d ∈ s.devicesFor u) ∧ d.id ≠ id) ∨ d ∈ devices := by
    intro d
    simp only [hmem, exists_or, exists_and_right, exists_and_left, exists_eq, and_true]
  simp only [entryAt]
  split
  · rename_i heq
    subst heq
    rw [filter_storedDevices_eq h' hnodup]
    intro d
    rw [hstored]
    constructor
    · intro hd
      exact ⟨hid d hd, Or.inr hd⟩
    · rintro ⟨heq, ⟨-, hne⟩ | hd⟩
      · exact absurd heq hne
      · exact hd
  · rename_i hne
    have hkept : ((storedDevices s).filter fun d => d.id = id').Nodup :=
      (nodup_storedDevices h).filter _
    rw [filter_storedDevices_eq h' hkept]
    intro d
    rw [Multiset.mem_filter, mem_storedDevices, hstored, and_comm]
    refine and_congr_right fun heq => ?_
    constructor
    · intro hd
      exact Or.inl ⟨hd, fun hid' => hne (heq.symm.trans hid')⟩
    · rintro (⟨hd, -⟩ | hd)
      · exact hd
      · exact absurd (heq.symm.trans (hid d hd)) hne

/-- A mobile device is stored at its id only, and only if it can be pushed to. -/
theorem entryAt_upsertUserDevice (device : UserDevice) (id' : DeviceId) :
    entryAt (s.upsertUserDevice device) (.userDevice id') =
      if id' = device.id then .userDevice (if Pushable device then {device} else 0)
      else entryAt s (.userDevice id') := by
  refine entryAt_userDevice h (indexed_upsertUserDevice h device) ?_ ?_ ?_ id'
  · split
    · exact Multiset.nodup_singleton device
    · exact Multiset.nodup_zero
  · intro d u
    rw [mem_devicesFor_upsertUserDevice]
    refine or_congr_right ?_
    by_cases hpush : Pushable device
    · simp only [hpush, true_and, if_true, Multiset.mem_singleton]
      constructor
      · rintro ⟨rfl, rfl⟩
        exact ⟨rfl, rfl⟩
      · rintro ⟨rfl, rfl⟩
        exact ⟨rfl, rfl⟩
    · simp [hpush]
  · intro d hd
    split at hd
    · rw [Multiset.mem_singleton.mp hd]
    · cases Multiset.notMem_zero d hd

/-- And removed at its id only. -/
theorem entryAt_deactivateDevice (id id' : DeviceId) :
    entryAt (s.deactivateDevice id).1 (.userDevice id') =
      if id' = id then .userDevice 0 else entryAt s (.userDevice id') := by
  refine entryAt_userDevice h (indexed_withoutDevice h id) Multiset.nodup_zero ?_ ?_ id'
  · intro d u
    rw [mem_devicesFor_withoutDevice]
    simp
  · intro d hd
    cases Multiset.notMem_zero d hd

/-- **An event changes one entry**, to what it says. -/
theorem entryAt_apply (e : Event) (key : Event.Key) :
    entryAt (s.apply e.op) key = if key = e.key then eventSays e else entryAt s key := by
  by_cases hentity : e.entity = keyEntity key
  · -- the arms of one entity
    cases e with
    | userUpsert u status =>
      cases key with
      | user u' =>
        simpa [Event.key, Event.op, State.apply, eventSays] using
          entryAt_applyUser s u status u'
      | _ => simp [Event.entity, keyEntity] at hentity
    | userDelete u =>
      cases key with
      | user u' =>
        have hinactive : ("" = ACTIVE) = False := by decide
        simpa [Event.key, Event.op, State.apply, eventSays, hinactive] using
          entryAt_applyUser s u "" u'
      | _ => simp [Event.entity, keyEntity] at hentity
    | membershipUpsert O u role status =>
      cases key with
      | membership O' u' =>
        simpa [Event.key, Event.op, State.apply, eventSays] using
          entryAt_upsertMembership s O u role status O' u'
      | _ => simp [Event.entity, keyEntity] at hentity
    | membershipDelete O u =>
      cases key with
      | membership O' u' =>
        simpa [Event.key, Event.op, State.apply, eventSays] using
          entryAt_deleteMembership s O u O' u'
      | _ => simp [Event.entity, keyEntity] at hentity
    | userUnitUpsert O u U =>
      cases key with
      | userUnit u' U' =>
        simpa [Event.key, Event.op, State.apply, eventSays] using
          entryAt_upsertUserUnit s O u U u' U'
      | _ => simp [Event.entity, keyEntity] at hentity
    | userUnitDelete u U =>
      cases key with
      | userUnit u' U' =>
        simpa [Event.key, Event.op, State.apply, eventSays] using
          entryAt_deleteUserUnit s u U u' U'
      | _ => simp [Event.entity, keyEntity] at hentity
    | unitDeviceUpsert imei U O =>
      cases key with
      | unitDevice imei' =>
        simpa [Event.key, Event.op, State.apply, eventSays] using
          entryAt_upsertUnitDevice h imei U O imei'
      | _ => simp [Event.entity, keyEntity] at hentity
    | unitDeviceDelete imei =>
      cases key with
      | unitDevice imei' =>
        simpa [Event.key, Event.op, State.apply, eventSays] using
          entryAt_deleteUnitDevice h imei imei'
      | _ => simp [Event.entity, keyEntity] at hentity
    | userDeviceUpsert device =>
      cases key with
      | userDevice id' =>
        simpa [Event.key, Event.op, State.apply, eventSays] using
          entryAt_upsertUserDevice h device id'
      | _ => simp [Event.entity, keyEntity] at hentity
    | userDeviceDelete id =>
      cases key with
      | userDevice id' =>
        simpa [Event.key, Event.op, State.apply, eventSays] using
          entryAt_deactivateDevice h id id'
      | _ => simp [Event.entity, keyEntity] at hentity
  · have hne : key ≠ e.key := by
      rintro rfl
      cases e <;> exact hentity rfl
    rw [if_neg hne]
    exact entryAt_of_touches (touches_apply h e) hentity

end Indexed

/-! ## The whole message -/

/-- **`apply_event` is atomic and touches one entry.**  On a reachable cache, a message that
is answered with an error leaves every map as it was.  A message that is answered with
`Yes` is an event of that entity: only the maps of the entity differ, the key of the event
holds what the event says, and every other key holds what it held.  And every message that
is an event is answered with `Yes`.
SRC: kafka/control_plane.rs:89-254, permissions/cache.rs:186-306 -/
theorem applyEvent_atomic {Payload Value : Type} (decoder : Decoder Payload Value)
    (ops : List WriteOp) (payload : Payload) :
    ((applyEvent decoder (State.run ops) payload).2 = .unknownEntity ∨
        (applyEvent decoder (State.run ops) payload).2 = .unknownVersion ∨
        (applyEvent decoder (State.run ops) payload).2 = .malformed →
      (applyEvent decoder (State.run ops) payload).1 = State.run ops) ∧
    (∀ entity, (applyEvent decoder (State.run ops) payload).2 = .yes entity →
      ∃ e, decodeEvent decoder payload = some e ∧ e.entity = entity ∧
        Touches entity (State.run ops) (applyEvent decoder (State.run ops) payload).1 ∧
        entryAt (applyEvent decoder (State.run ops) payload).1 e.key = eventSays e ∧
        ∀ key, key ≠ e.key → entryAt (applyEvent decoder (State.run ops) payload).1 key =
          entryAt (State.run ops) key) ∧
    ∀ e, decodeEvent decoder payload = some e →
      (applyEvent decoder (State.run ops) payload).2 = .yes e.entity := by
  have h : Indexed (State.run ops) := indexed_run ops
  cases hdecode : decodeEvent decoder payload with
  | none =>
    obtain ⟨hsame, hno⟩ := applyEvent_of_not_decoded (State.run ops) hdecode
    refine ⟨fun _ => hsame, ?_, ?_⟩
    · intro entity hyes
      exact absurd hyes (hno entity)
    · intro e he
      cases he
  | some e =>
    rw [applyEvent_of_decoded (State.run ops) hdecode]
    refine ⟨?_, ?_, ?_⟩
    · rintro (herror | herror | herror) <;> cases herror
    · intro entity hyes
      obtain rfl : e.entity = entity := by simpa using hyes
      refine ⟨e, rfl, rfl, touches_apply h e, ?_, ?_⟩
      · rw [entryAt_apply h, if_pos rfl]
      · intro key hkey
        rw [entryAt_apply h, if_neg hkey]
    · intro e' he'
      obtain rfl := Option.some.inj he'
      rfl

/-- User 5 has units 1 and 2. -/
def grantOps : List WriteOp :=
  [.upsertUserUnit 10 5 1, .upsertUserUnit 10 5 2]

/-- The DELETE of one of the two grants is applied, and the other one stays. -/
theorem applyEvent_atomic_delete :
    (applyEvent typedDecoder (State.run grantOps) (.userUnitDelete 5 2)).2 = .yes "user_unit" ∧
    entryAt (applyEvent typedDecoder (State.run grantOps) (.userUnitDelete 5 2)).1
      (.userUnit 5 2) = .userUnit none none ∧
    entryAt (applyEvent typedDecoder (State.run grantOps) (.userUnitDelete 5 2)).1
      (.userUnit 5 1) = .userUnit (some 10) (some ()) := by
  obtain ⟨-, hyes, hevent⟩ :=
    applyEvent_atomic typedDecoder grantOps (.userUnitDelete 5 2)
  have hanswer := hevent _ (decodeEvent_typedDecoder _)
  obtain ⟨e, he, -, -, hsays, hothers⟩ := hyes _ hanswer
  rw [decodeEvent_typedDecoder] at he
  obtain rfl := Option.some.inj he
  refine ⟨hanswer, hsays, (hothers (.userUnit 5 1) (by decide)).trans ?_⟩
  have hgranted : nestedLookup (State.run grantOps).userUnits 5 1 = some 10 ∧
      nestedLookup (State.run grantOps).unitUsers 1 5 = some () := by decide
  rw [entryAt, hgranted.1, hgranted.2]

end AlertDistributor.Analysis
