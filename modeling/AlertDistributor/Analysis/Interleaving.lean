import AlertDistributor.Analysis.Answers

/-!
# Interleavings of the partitions

The consumer merges the partitions of the topic in any order; what is kept is the order of
the events of one key.  The five tables do not depend on the merge (`ofEvents_congr`), and
what the cache derives from them does not either, with the exception of `unit_org`: a unit
that passes through two organizations can be left without its entry by one merge and not
by another.  That shows exactly for the units somebody could see (`sameAnswers_iff`).
-/

set_option autoImplicit false

namespace AlertDistributor.Analysis

open AlertDistributor.Model AlertDistributor.Interface FiniteMap LastWrite

/-- The events of every key come in the same order in both streams. -/
def SamePerKey (events events' : List Event) : Prop :=
  ∀ k, events.filter (fun e => e.key = k) = events'.filter fun e => e.key = k

/-! ## The tables do not depend on the merge -/

/-- The writes to one key of a table are the events of one key. -/
theorem filter_filterMap_eq {κ ν : Type} [DecidableEq κ] {w : Event → Option (Write κ ν)}
    {keyOf : κ → Event.Key} (hkey : ∀ e x, w e = some x → e.key = keyOf x.key)
    (hinj : Function.Injective keyOf) (events : List Event) (a : κ) :
    (events.filterMap w).filter (fun x => x.key = a) =
      (events.filter fun e => e.key = keyOf a).filterMap w := by
  rw [List.filter_filterMap, List.filterMap_filter]
  congr 1
  funext e
  cases hw : w e with
  | none => simp
  | some x =>
    have hiff : x.key = a ↔ e.key = keyOf a := by
      rw [hkey e x hw]
      exact hinj.eq_iff.symm
    by_cases hx : x.key = a
    · simp [hx, hiff.mp hx]
    · have hne : ¬ e.key = keyOf a := fun h => hx (hiff.mpr h)
      simp [hx, hne]

/-- A table depends on the order of the events about each key only. -/
theorem tableOf_congr {κ ν : Type} [DecidableEq κ] {w : Event → Option (Write κ ν)}
    (keyOf : κ → Event.Key) (hkey : ∀ e x, w e = some x → e.key = keyOf x.key)
    (hinj : Function.Injective keyOf) {events events' : List Event}
    (hsame : SamePerKey events events') :
    tableOf (events.filterMap w) = tableOf (events'.filterMap w) := by
  refine replay_congr (fun a => ?_) _
  rw [filter_filterMap_eq hkey hinj, filter_filterMap_eq hkey hinj, hsame (keyOf a)]

/-- An event that writes a user is about that user. -/
theorem key_of_userWrite (e : Event) (x : Write UserId String) (h : e.userWrite = some x) :
    e.key = .user x.key := by
  cases e <;> cases h <;> rfl

/-- One that writes a membership is about it. -/
theorem key_of_membershipWrite (e : Event)
    (x : Write (OrganizationId × UserId) (String × String)) (h : e.membershipWrite = some x) :
    e.key = .membership x.key.1 x.key.2 := by
  cases e <;> cases h <;> rfl

/-- One that writes a grant is about it. -/
theorem key_of_userUnitWrite (e : Event) (x : Write (UserId × UnitId) OrganizationId)
    (h : e.userUnitWrite = some x) : e.key = .userUnit x.key.1 x.key.2 := by
  cases e <;> cases h <;> rfl

/-- One that writes the unit of a device is about the device. -/
theorem key_of_unitDeviceWrite (e : Event) (x : Write String (UnitId × OrganizationId))
    (h : e.unitDeviceWrite = some x) : e.key = .unitDevice x.key := by
  cases e <;> cases h <;> rfl

/-- One that writes a mobile device is about it. -/
theorem key_of_userDeviceWrite (e : Event) (x : Write DeviceId UserDevice)
    (h : e.userDeviceWrite = some x) : e.key = .userDevice x.key := by
  cases e <;> cases h <;> rfl

/-- **The last event per key is the same in every merge.** -/
theorem ofEvents_congr {events events' : List Event} (hsame : SamePerKey events events') :
    Tables.ofEvents events = Tables.ofEvents events' := by
  refine Tables.ext ?_ ?_ ?_ ?_ ?_
  · exact tableOf_congr Event.Key.user key_of_userWrite (by intro a b h; cases h; rfl) hsame
  · exact tableOf_congr (fun p => Event.Key.membership p.1 p.2) key_of_membershipWrite
      (by rintro ⟨a, b⟩ ⟨c, d⟩ h; cases h; rfl) hsame
  · exact tableOf_congr (fun p => Event.Key.userUnit p.1 p.2) key_of_userUnitWrite
      (by rintro ⟨a, b⟩ ⟨c, d⟩ h; cases h; rfl) hsame
  · exact tableOf_congr Event.Key.unitDevice key_of_unitDeviceWrite
      (by intro a b h; cases h; rfl) hsame
  · exact tableOf_congr Event.Key.userDevice key_of_userDeviceWrite
      (by intro a b h; cases h; rfl) hsame

/-! ## The entries of the units -/

/-- All devices of a unit are assigned under one organization. -/
def SingleOrg (t : Tables) : Prop :=
  ∀ U imei imei' O O', t.unitDevices imei = some (U, O) → t.unitDevices imei' = some (U, O') →
    O = O'

/-- `U` has a device, and somebody receives its alerts or sees it by these tables. -/
def Observed (t : Tables) (U : UnitId) : Prop :=
  ∃ imei D, t.unitDevices imei = some (U, D) ∧ ∃ O u role, t.Active O u role ∧
    ((O = D ∧ (role = OWNER ∨ t.Granted u U)) ∨
      (role ≠ OWNER ∧ t.userUnits (u, U) = some O))

section Entries

variable {ops ops' : List WriteOp} {t : Tables}

/-- An entry names an organization under which the unit has a device. -/
theorem device_of_unitOrg (hr : Represents (State.run ops) t) {U : UnitId} {O : OrganizationId}
    (hentry : (State.run ops).unitOrg.lookup U = some O) :
    ∃ imei, t.unitDevices imei = some (U, O) := by
  obtain ⟨imei, hd⟩ :=
    (deviceCount_pos_iff _ O U).mp ((indexed_run ops).unitOrg_device U O hentry)
  rw [hr.unitDevices] at hd
  exact ⟨imei, hd⟩

/-- A unit with a device has the entry of its organization, or none. -/
theorem unitOrg_eq_none_iff (hr : Represents (State.run ops) t) (hone : SingleOrg t)
    {U : UnitId} {imei : String} {D : OrganizationId}
    (hd : t.unitDevices imei = some (U, D)) :
    (State.run ops).unitOrg.lookup U = none ↔ (State.run ops).unitOrg.lookup U ≠ some D := by
  constructor
  · intro hnone hsome
    rw [hnone] at hsome
    cases hsome
  · intro hne
    cases hentry : (State.run ops).unitOrg.lookup U with
    | none => rfl
    | some O =>
      obtain ⟨imei', hd'⟩ := device_of_unitOrg hr hentry
      obtain rfl := hone U imei imei' D O hd hd'
      exact absurd hentry hne

/-- An entry in one run is an entry in the other one, unless that one left the unit
forgotten and this one did not. -/
theorem unitOrg_transfer (hr : Represents (State.run ops) t)
    (hr' : Represents (State.run ops') t) (hone : SingleOrg t) {U : UnitId}
    {O : OrganizationId} (hforgotten : EndsForgotten ops' U → EndsForgotten ops U)
    (hentry : (State.run ops).unitOrg.lookup U = some O) :
    (State.run ops').unitOrg.lookup U = some O := by
  obtain ⟨imei, hd⟩ := device_of_unitOrg hr hentry
  have hdevice := (hr.unitDevices imei).trans hd
  have hdevice' := (hr'.unitDevices imei).trans hd
  by_contra hne
  have hnone' := (unitOrg_eq_none_iff hr' hone hd).mpr hne
  have hends := hforgotten ((unitOrg_eq_none_iff_endsForgotten ops' hdevice').mp hnone')
  rw [(unitOrg_eq_none_iff_endsForgotten ops hdevice).mpr hends] at hentry
  cases hentry

/-! ## When two merges answer alike -/

/-- One half of the comparison: what the first run answers, the second answers too. -/
theorem answers_transfer (hr : Represents (State.run ops) t)
    (hr' : Represents (State.run ops') t) (hone : SingleOrg t)
    (hforgotten : ∀ U, Observed t U → EndsForgotten ops' U → EndsForgotten ops U) :
    (∀ O u U, toLex (O, u) ∈ (State.run ops).usersForUnit U →
        toLex (O, u) ∈ (State.run ops').usersForUnit U) ∧
      ∀ O u U, U ∈ (State.run ops).unitsFor O u → U ∈ (State.run ops').unitsFor O u := by
  constructor
  · intro O u U hmem
    rw [mem_usersForUnit (indexed_run ops) hr] at hmem
    rw [mem_usersForUnit (indexed_run ops') hr']
    obtain ⟨hentry, role, hactive, hrule⟩ := hmem
    obtain ⟨imei, hd⟩ := device_of_unitOrg hr hentry
    have hobserved : Observed t U :=
      ⟨imei, O, hd, O, u, role, hactive, Or.inl ⟨rfl, hrule⟩⟩
    exact ⟨unitOrg_transfer hr hr' hone (hforgotten U hobserved) hentry, role, hactive, hrule⟩
  · intro O u U hmem
    rw [mem_unitsFor (indexed_run ops) hr] at hmem
    rw [mem_unitsFor (indexed_run ops') hr']
    obtain ⟨role, hactive, hseen⟩ := hmem
    refine ⟨role, hactive, ?_⟩
    by_cases hrole : role = OWNER
    · rwa [if_pos hrole] at hseen ⊢
    · rw [if_neg hrole] at hseen ⊢
      obtain ⟨hgrant, D, hentry⟩ := hseen
      obtain ⟨imei, hd⟩ := device_of_unitOrg hr hentry
      have hobserved : Observed t U :=
        ⟨imei, D, hd, O, u, role, hactive, Or.inr ⟨hrole, hgrant⟩⟩
      exact ⟨hgrant, D, unitOrg_transfer hr hr' hone (hforgotten U hobserved) hentry⟩

/-- The push path shows the entry of a unit to a person the rule allows. -/
theorem unitOrg_iff_mem_usersForUnit (hr : Represents (State.run ops) t) {O : OrganizationId}
    {u : UserId} {U : UnitId} {role : String} (hactive : t.Active O u role)
    (hrule : role = OWNER ∨ t.Granted u U) :
    (State.run ops).unitOrg.lookup U = some O ↔
      toLex (O, u) ∈ (State.run ops).usersForUnit U := by
  rw [mem_usersForUnit (indexed_run ops) hr]
  constructor
  · intro hentry
    exact ⟨hentry, role, hactive, hrule⟩
  · intro hmem
    exact hmem.1

/-- The WebSocket path shows it to a member who is not an owner and whose grant names the
organization, whatever organization the devices have. -/
theorem unitOrg_iff_mem_unitsFor (hr : Represents (State.run ops) t) (hone : SingleOrg t)
    {O D : OrganizationId} {u : UserId} {U : UnitId} {imei role : String}
    (hd : t.unitDevices imei = some (U, D)) (hactive : t.Active O u role) (hrole : role ≠ OWNER)
    (hgrant : t.userUnits (u, U) = some O) :
    (State.run ops).unitOrg.lookup U = some D ↔ U ∈ (State.run ops).unitsFor O u := by
  rw [mem_unitsFor (indexed_run ops) hr]
  constructor
  · intro hentry
    refine ⟨role, hactive, ?_⟩
    rw [if_neg hrole]
    exact ⟨hgrant, D, hentry⟩
  · rintro ⟨role', hactive', hseen⟩
    have hrow : some (role', ACTIVE) = some (role, ACTIVE) := hactive'.1.symm.trans hactive.1
    have hsame : role' = role := congrArg Prod.fst (Option.some.inj hrow)
    rw [hsame, if_neg hrole] at hseen
    obtain ⟨-, D', hentry⟩ := hseen
    obtain ⟨imei', hd'⟩ := device_of_unitOrg hr hentry
    have horg : D = D' := hone U imei imei' D D' hd hd'
    rw [horg, hentry]

/-- Equal answers show that an observed unit has an entry in both runs or in none. -/
theorem endsForgotten_iff_of_sameAnswers (hr : Represents (State.run ops) t)
    (hr' : Represents (State.run ops') t) (hone : SingleOrg t)
    (hanswers : SameAnswers (State.run ops) (State.run ops')) {U : UnitId}
    (hobserved : Observed t U) : EndsForgotten ops U ↔ EndsForgotten ops' U := by
  obtain ⟨imei, D, hd, O, u, role, hactive, hseen⟩ := hobserved
  rw [← unitOrg_eq_none_iff_endsForgotten ops ((hr.unitDevices imei).trans hd),
    ← unitOrg_eq_none_iff_endsForgotten ops' ((hr'.unitDevices imei).trans hd),
    unitOrg_eq_none_iff hr hone hd, unitOrg_eq_none_iff hr' hone hd]
  refine not_congr ?_
  rcases hseen with ⟨rfl, hrule⟩ | ⟨hrole, hgrant⟩
  · rw [unitOrg_iff_mem_usersForUnit hr hactive hrule,
      unitOrg_iff_mem_usersForUnit hr' hactive hrule, hanswers.usersForUnit U]
  · rw [unitOrg_iff_mem_unitsFor hr hone hd hactive hrole hgrant,
      unitOrg_iff_mem_unitsFor hr' hone hd hactive hrole hgrant, hanswers.unitsFor O u]

/-- Two runs over the same tables answer alike exactly when every observed unit is left
forgotten by both or by none. -/
theorem sameAnswers_iff (hr : Represents (State.run ops) t)
    (hr' : Represents (State.run ops') t) (hone : SingleOrg t) :
    SameAnswers (State.run ops) (State.run ops') ↔
      ∀ U, Observed t U → (EndsForgotten ops U ↔ EndsForgotten ops' U) := by
  constructor
  · intro hanswers U hobserved
    exact endsForgotten_iff_of_sameAnswers hr hr' hone hanswers hobserved
  · intro hagree
    obtain ⟨husers, hunits⟩ :=
      answers_transfer hr hr' hone fun U hobserved => (hagree U hobserved).mpr
    obtain ⟨husers', hunits'⟩ :=
      answers_transfer hr' hr hone fun U hobserved => (hagree U hobserved).mp
    refine ⟨fun U => ?_, fun O u => ?_, fun u d => ?_⟩
    · refine (usersForUnit_pairwise _ U).eq_of_mem_iff (usersForUnit_pairwise _ U) ?_
      exact fun p => ⟨husers (ofLex p).1 (ofLex p).2 U, husers' (ofLex p).1 (ofLex p).2 U⟩
    · refine (unitsFor_pairwise _ O u).eq_of_mem_iff (unitsFor_pairwise _ O u) ?_
      exact fun U => ⟨hunits O u U, hunits' O u U⟩
    · rw [mem_devicesFor_iff (indexed_run ops) hr, mem_devicesFor_iff (indexed_run ops') hr']

end Entries

/-- The write operations of a stream. -/
def opsOf {Payload Value : Type} (decoder : Decoder Payload Value) (payloads : List Payload) :
    List WriteOp :=
  (decodeEvents decoder payloads).map Event.op

/-- **When the order of the partitions does not matter.**  Two merges of the same keys
whose last events assign each unit under one organization answer every query alike exactly
when, for every unit that these tables let somebody see, both merges end with the unit
forgotten or none does.
SRC: kafka/control_plane.rs:332-393, permissions/cache.rs:73-89 -/
theorem interleavings_agree_iff {Payload Value : Type} (decoder : Decoder Payload Value)
    (payloads payloads' : List Payload)
    (hsame : SamePerKey (decodeEvents decoder payloads) (decodeEvents decoder payloads'))
    (hone : SingleOrg (Tables.ofEvents (decodeEvents decoder payloads))) :
    SameAnswers (applyEvents decoder State.default payloads)
        (applyEvents decoder State.default payloads') ↔
      ∀ U, Observed (Tables.ofEvents (decodeEvents decoder payloads)) U →
        (EndsForgotten (opsOf decoder payloads) U ↔
          EndsForgotten (opsOf decoder payloads') U) := by
  have hr := represents_run (opsOf decoder payloads)
  have hr' := represents_run (opsOf decoder payloads')
  rw [opsOf, ← ofEvents_eq] at hr hr'
  rw [← ofEvents_congr hsame] at hr'
  rw [applyEvents_eq, applyEvents_eq]
  exact sameAnswers_iff hr hr' hone

/-! ## A unit of two organizations -/

/-- Device `a` is assigned to unit 1 under organization 10 and deleted again; then device
`b` is assigned to it under organization 20, which has an owner. -/
def deletedFirst : List Event :=
  [.membershipUpsert 20 5 "owner" "ACTIVE", .unitDeviceUpsert "a" 1 10, .unitDeviceDelete "a",
    .unitDeviceUpsert "b" 1 20]

/-- The same events, with the deletion last. -/
def deletedLast : List Event :=
  [.membershipUpsert 20 5 "owner" "ACTIVE", .unitDeviceUpsert "a" 1 10,
    .unitDeviceUpsert "b" 1 20, .unitDeviceDelete "a"]

/-- The two merges have the same events about each key. -/
theorem samePerKey_deleted : SamePerKey deletedFirst deletedLast := by
  intro k
  by_cases hb : k = .unitDevice "b"
  · subst hb; decide
  · have hne : ¬ Event.Key.unitDevice "b" = k := fun h => hb h.symm
    simp [deletedFirst, deletedLast, List.filter_cons, Event.key, hne]

/-- They leave the unit with one organization. -/
theorem singleOrg_deleted : SingleOrg (Tables.ofEvents deletedFirst) := by
  have honly : ∀ imei U O, (Tables.ofEvents deletedFirst).unitDevices imei = some (U, O) →
      O = 20 := by
    intro imei U O h
    simp only [Tables.ofEvents, deletedFirst, List.filterMap_cons, Event.unitDeviceWrite,
      List.filterMap_nil, tableOf, replay, List.foldl, Table.write_apply] at h
    split at h
    · exact (congrArg Prod.snd (Option.some.inj h)).symm
    · split at h
      · cases h
      · simp at h
  intro U imei imei' O O' h h'
  rw [honly imei U O h, honly imei' U O' h']

/-- So they agree if and only if both forget the unit or neither does. -/
theorem interleavings_agree_iff_deleted :
    SameAnswers (applyEvents typedDecoder State.default deletedFirst)
        (applyEvents typedDecoder State.default deletedLast) ↔
      ∀ U, Observed (Tables.ofEvents (decodeEvents typedDecoder deletedFirst)) U →
        (EndsForgotten (opsOf typedDecoder deletedFirst) U ↔
          EndsForgotten (opsOf typedDecoder deletedLast) U) := by
  refine interleavings_agree_iff typedDecoder deletedFirst deletedLast ?_ ?_
  · rw [decodeEvents_typedDecoder, decodeEvents_typedDecoder]
    exact samePerKey_deleted
  · rw [decodeEvents_typedDecoder]
    exact singleOrg_deleted

/-- Only one of the two merges alerts the owner of organization 20. -/
theorem interleavings_differ :
    SamePerKey (decodeEvents typedDecoder deletedFirst) (decodeEvents typedDecoder deletedLast) ∧
      SingleOrg (Tables.ofEvents (decodeEvents typedDecoder deletedFirst)) ∧
      ¬ SameAnswers (applyEvents typedDecoder State.default deletedFirst)
        (applyEvents typedDecoder State.default deletedLast) := by
  simp only [decodeEvents_typedDecoder]
  refine ⟨samePerKey_deleted, singleOrg_deleted, ?_⟩
  intro hanswers
  have hmem : toLex (20, 5) ∈
      (applyEvents typedDecoder State.default deletedFirst).usersForUnit 1 := by
    rw [applyEvents_eq, decodeEvents_typedDecoder]
    show _ ∈ (State.run _).usersForUnit 1
    rw [mem_usersForUnit_iff (indexed_run _)]
    exact ⟨by decide, ⟨true, true⟩, by decide, Or.inl rfl⟩
  rw [hanswers.usersForUnit 1, applyEvents_eq, decodeEvents_typedDecoder] at hmem
  change _ ∈ (State.run _).usersForUnit 1 at hmem
  obtain ⟨hentry, -⟩ := (mem_usersForUnit_iff (indexed_run _) 20 5 1).mp hmem
  have hnone : (State.run (deletedLast.map Event.op)).unitOrg.lookup 1 = none := by decide
  rw [hnone] at hentry
  cases hentry

end AlertDistributor.Analysis
