import AlertDistributor.Interface.Events
import AlertDistributor.Analysis.Visibility

/-!
# The events on the cache

`apply_event` calls one write operation for an event it understands and none for anything
else (`applyEvent_of_decoded`, `applyEvent_of_not_decoded`), and that operation writes the
tables as the event does (`ofEvents_eq`).  So the cache after a stream of payloads
represents the last event per key, and when every unit keeps one organization the two
recipient queries are read off these tables (`unitOrg_iff_of_orgFixed`).
-/

set_option autoImplicit false

namespace AlertDistributor.Analysis

open AlertDistributor.Model AlertDistributor.Interface FiniteMap LastWrite

section Apply

variable {Payload Value : Type} (decoder : Decoder Payload Value) (cache : State)

/-- The answer of `apply_event`, against the event it should have read. -/
def CarriesOut (answer : State × Applied) : Option Event → Prop
  | some e => answer = (cache.apply e.op, .yes e.entity)
  | none => answer.1 = cache ∧ ∀ entity, answer.2 ≠ .yes entity

/-! ## One arm for each entity -/

/-- A message that is not understood is carried out by changing nothing. -/
theorem carriesOut_skipped (applied : Applied) (h : ∀ entity, applied ≠ .yes entity) :
    CarriesOut cache (cache, applied) none :=
  ⟨rfl, h⟩

/-- The branch of `user` carries out its events. -/
theorem carriesOut_user (data : Value) :
    CarriesOut cache (applyUserEvent decoder cache true data)
        (upsertEvent decoder "user" data) ∧
      CarriesOut cache (applyUserEvent decoder cache false data)
        (deleteEvent decoder "user" data) := by
  unfold applyUserEvent upsertEvent deleteEvent
  cases decoder.userData data with
  | none => simp [CarriesOut]
  | some d => exact ⟨rfl, rfl⟩

/-- The branch of `organization_user` carries out its events. -/
theorem carriesOut_membership (data : Value) :
    CarriesOut cache (applyMembershipEvent decoder cache true data)
        (upsertEvent decoder "organization_user" data) ∧
      CarriesOut cache (applyMembershipEvent decoder cache false data)
        (deleteEvent decoder "organization_user" data) := by
  unfold applyMembershipEvent upsertEvent deleteEvent
  cases decoder.membershipData data with
  | none => simp [CarriesOut]
  | some d => exact ⟨rfl, rfl⟩

/-- The branch of `user_unit` carries out its events. -/
theorem carriesOut_userUnit (data : Value) :
    CarriesOut cache (applyUserUnitEvent decoder cache true data)
        (upsertEvent decoder "user_unit" data) ∧
      CarriesOut cache (applyUserUnitEvent decoder cache false data)
        (deleteEvent decoder "user_unit" data) := by
  unfold applyUserUnitEvent upsertEvent deleteEvent
  cases decoder.userUnitData data with
  | none => simp [CarriesOut]
  | some d =>
    obtain ⟨org, user, unit⟩ := d
    cases org with
    | none => exact ⟨by simp [CarriesOut], rfl⟩
    | some org => exact ⟨rfl, rfl⟩

/-- The branch of `unit_device` carries out its events. -/
theorem carriesOut_unitDevice (data : Value) :
    CarriesOut cache (applyUnitDeviceEvent decoder cache true data)
        (upsertEvent decoder "unit_device" data) ∧
      CarriesOut cache (applyUnitDeviceEvent decoder cache false data)
        (deleteEvent decoder "unit_device" data) := by
  unfold applyUnitDeviceEvent upsertEvent deleteEvent
  cases decoder.unitDeviceData data with
  | none => simp [CarriesOut]
  | some d =>
    obtain ⟨imei, unit, org⟩ := d
    cases unit with
    | none => exact ⟨by simp [CarriesOut], rfl⟩
    | some unit =>
      cases org with
      | none => exact ⟨by simp [CarriesOut], rfl⟩
      | some org => exact ⟨rfl, rfl⟩

/-- The branch of `user_device` carries out its events. -/
theorem carriesOut_userDevice (data : Value) :
    CarriesOut cache (applyUserDeviceEvent decoder cache true data)
        (upsertEvent decoder "user_device" data) ∧
      CarriesOut cache (applyUserDeviceEvent decoder cache false data)
        (deleteEvent decoder "user_device" data) := by
  unfold applyUserDeviceEvent upsertEvent deleteEvent
  cases decoder.userDeviceData data with
  | none => simp [CarriesOut]
  | some d =>
    obtain ⟨id, user, token, platform, arn, active⟩ := d
    cases user with
    | none => exact ⟨by simp [CarriesOut], rfl⟩
    | some user => exact ⟨rfl, rfl⟩

/-! ## The whole message -/

/-- `apply_event` carries out the event of its payload. -/
theorem carriesOut_applyEvent (payload : Payload) :
    CarriesOut cache (applyEvent decoder cache payload) (decodeEvent decoder payload) := by
  unfold applyEvent decodeEvent
  cases decoder.envelope payload with
  | none => simp [CarriesOut]
  | some envelope =>
    obtain ⟨eventType, entity, version, data⟩ := envelope
    simp only [Option.bind_some]
    split
    · exact carriesOut_skipped cache _ (by simp)
    · -- the entity first, then UPSERT or DELETE within its arm
      by_cases huser : entity = "user"
      · subst huser
        cases eventType with
        | upsert => exact (carriesOut_user decoder cache data).1
        | delete => exact (carriesOut_user decoder cache data).2
      by_cases hmembership : entity = "organization_user"
      · subst hmembership
        cases eventType with
        | upsert => exact (carriesOut_membership decoder cache data).1
        | delete => exact (carriesOut_membership decoder cache data).2
      by_cases huserUnit : entity = "user_unit"
      · subst huserUnit
        cases eventType with
        | upsert => exact (carriesOut_userUnit decoder cache data).1
        | delete => exact (carriesOut_userUnit decoder cache data).2
      by_cases hunitDevice : entity = "unit_device"
      · subst hunitDevice
        cases eventType with
        | upsert => exact (carriesOut_unitDevice decoder cache data).1
        | delete => exact (carriesOut_unitDevice decoder cache data).2
      by_cases huserDevice : entity = "user_device"
      · subst huserDevice
        cases eventType with
        | upsert => exact (carriesOut_userDevice decoder cache data).1
        | delete => exact (carriesOut_userDevice decoder cache data).2
      · simp only [huser, hmembership, huserUnit, hunitDevice, huserDevice, if_false]
        cases eventType with
        | upsert =>
          simpa [upsertEvent, huser, hmembership, huserUnit, hunitDevice, huserDevice]
            using carriesOut_skipped cache .unknownEntity (by simp)
        | delete =>
          simpa [deleteEvent, huser, hmembership, huserUnit, hunitDevice, huserDevice]
            using carriesOut_skipped cache .unknownEntity (by simp)

variable {decoder}

/-- A message that is an event is answered with its entity, and carried out. -/
theorem applyEvent_of_decoded {payload : Payload} {e : Event}
    (h : decodeEvent decoder payload = some e) :
    applyEvent decoder cache payload = (cache.apply e.op, .yes e.entity) := by
  have hout := carriesOut_applyEvent decoder cache payload
  rwa [h] at hout

/-- A message that is none changes nothing and is not answered with `Yes`. -/
theorem applyEvent_of_not_decoded {payload : Payload}
    (h : decodeEvent decoder payload = none) :
    (applyEvent decoder cache payload).1 = cache ∧
      ∀ entity, (applyEvent decoder cache payload).2 ≠ .yes entity := by
  have hout := carriesOut_applyEvent decoder cache payload
  rwa [h] at hout

variable (decoder)

/-- **A stream of payloads is a run of write operations**, one for each event in it. -/
theorem applyEvents_eq (payloads : List Payload) :
    applyEvents decoder cache payloads =
      cache.runFrom ((decodeEvents decoder payloads).map Event.op) := by
  induction payloads generalizing cache with
  | nil => rfl
  | cons payload payloads ih =>
    have hcons : applyEvents decoder cache (payload :: payloads) =
        applyEvents decoder (applyEvent decoder cache payload).1 payloads := rfl
    rw [hcons, ih]
    cases h : decodeEvent decoder payload with
    | none =>
      rw [(applyEvent_of_not_decoded cache h).1, decodeEvents, decodeEvents,
        List.filterMap_cons_none h]
    | some e =>
      rw [applyEvent_of_decoded cache h, decodeEvents, decodeEvents,
        List.filterMap_cons_some h]
      rfl

end Apply

/-! ## The tables of a stream -/

/-- The operation of an event writes the user that the event writes. -/
theorem userWrite_op (e : Event) : userWrite e.op = e.userWrite := by
  cases e <;> rfl

/-- It writes the membership that the event writes. -/
theorem membershipWrite_op (e : Event) : membershipWrite e.op = e.membershipWrite := by
  cases e <;> rfl

/-- It writes the grant that the event writes. -/
theorem userUnitWrite_op (e : Event) : userUnitWrite e.op = e.userUnitWrite := by
  cases e <;> rfl

/-- It writes the device of a unit that the event writes. -/
theorem unitDeviceWrite_op (e : Event) : unitDeviceWrite e.op = e.unitDeviceWrite := by
  cases e <;> rfl

/-- It writes the mobile device that the event writes. -/
theorem userDeviceWrite_op (e : Event) : userDeviceWrite e.op = e.userDeviceWrite := by
  cases e <;> rfl

/-- What holds of the writes of an event holds of the writes of a sequence. -/
theorem filterMap_op {β : Type} {w : WriteOp → Option β} {w' : Event → Option β}
    (hw : ∀ e, w e.op = w' e) (events : List Event) :
    (events.map Event.op).filterMap w = events.filterMap w' := by
  have hcomp : w ∘ Event.op = w' := funext hw
  rw [List.filterMap_map, hcomp]

/-- An event writes the tables as its write operation does. -/
theorem ofEvents_eq (events : List Event) :
    Tables.ofEvents events = Tables.ofOps (events.map Event.op) := by
  simp only [Tables.ofEvents, Tables.ofOps, Tables.replayOps, Tables.empty,
    filterMap_op userWrite_op, filterMap_op membershipWrite_op, filterMap_op userUnitWrite_op,
    filterMap_op unitDeviceWrite_op, filterMap_op userDeviceWrite_op]
  rfl

/-! ## One fixed organization for each unit -/

/-- A write about a unit names the organization `f` gives the unit. -/
def OpOrgFixed (f : UnitId → OrganizationId) : WriteOp → Prop
  | .upsertUserUnit org _ unit => org = f unit
  | .upsertUnitDevice _ unit org => org = f unit
  | _ => True

/-- An event with the organization of its unit has an operation with it. -/
theorem opOrgFixed_op {f : UnitId → OrganizationId} {e : Event} (h : e.OrgFixed f) :
    OpOrgFixed f e.op := by
  cases e <;> exact h

/-- What a run leaves in the tables about a unit names the organization of the unit. -/
theorem tables_orgFixed {f : UnitId → OrganizationId} {ops : List WriteOp}
    (hfixed : ∀ op ∈ ops, OpOrgFixed f op) :
    (∀ imei U O, (Tables.ofOps ops).unitDevices imei = some (U, O) → O = f U) ∧
      ∀ u U O, (Tables.ofOps ops).userUnits (u, U) = some O → O = f U := by
  constructor
  · intro imei U O h
    obtain ⟨op, hop, hwrite⟩ := List.mem_filterMap.mp (mem_of_tableOf h)
    cases op <;> simp only [unitDeviceWrite, Option.some.injEq, Write.mk.injEq, Prod.mk.injEq,
      reduceCtorEq, and_false] at hwrite
    obtain ⟨-, rfl, rfl⟩ := hwrite
    exact hfixed _ hop
  · intro u U O h
    obtain ⟨op, hop, hwrite⟩ := List.mem_filterMap.mp (mem_of_tableOf h)
    cases op <;> simp only [userUnitWrite, Option.some.injEq, Write.mk.injEq, Prod.mk.injEq,
      reduceCtorEq, and_false] at hwrite
    obtain ⟨⟨-, rfl⟩, rfl⟩ := hwrite
    exact hfixed _ hop

/-- A unit is carried by its own organization only. -/
theorem carries_orgFixed {f : UnitId → OrganizationId} {ops : List WriteOp}
    (hfixed : ∀ op ∈ ops, OpOrgFixed f op) {U : UnitId} {O : OrganizationId}
    (h : Carries (State.run ops) U O) : O = f U := by
  have hr := represents_run ops
  rcases h with ⟨imei, hd⟩ | ⟨u, hg⟩
  · rw [hr.unitDevices] at hd
    exact (tables_orgFixed hfixed).1 imei U O hd
  · rw [hr.userUnits] at hg
    exact (tables_orgFixed hfixed).2 u U O hg

/-- A run that fixes the organization of every unit keeps one organization per unit. -/
theorem keepsOneOrg_of_orgFixed {f : UnitId → OrganizationId} {ops : List WriteOp}
    (hfixed : ∀ op ∈ ops, OpOrgFixed f op) :
    ∀ pre op post, ops = pre ++ op :: post → KeepsOneOrg (State.run pre) op := by
  rintro pre op post rfl
  have hpre : ∀ op' ∈ pre, OpOrgFixed f op' := fun op' hmem => hfixed op' (by simp [hmem])
  have hop : OpOrgFixed f op := hfixed op (by simp)
  cases op with
  | upsertUnitDevice imei U O =>
    obtain rfl : O = f U := hop
    exact ⟨fun imei' O' _ hd => carries_orgFixed hpre (Or.inl ⟨imei', hd⟩),
      fun u O' hg => carries_orgFixed hpre (Or.inr ⟨u, hg⟩)⟩
  | upsertUserUnit O u U =>
    obtain rfl : O = f U := hop
    exact ⟨fun imei O' hd => carries_orgFixed hpre (Or.inl ⟨imei, hd⟩),
      fun u' O' _ hg => carries_orgFixed hpre (Or.inr ⟨u', hg⟩)⟩
  | _ => exact trivial

/-- The entry of a unit is its organization, as long as the unit has a device. -/
theorem unitOrg_iff_of_orgFixed {f : UnitId → OrganizationId} {ops : List WriteOp}
    (hfixed : ∀ op ∈ ops, OpOrgFixed f op) (U : UnitId) (O : OrganizationId) :
    (State.run ops).unitOrg.lookup U = some O ↔
      O = f U ∧ ∃ imei O', (Tables.ofOps ops).unitDevices imei = some (U, O') := by
  have hr := represents_run ops
  obtain ⟨hentry, hnamed⟩ := (oneOrg_run (keepsOneOrg_of_orgFixed hfixed)).2 U
  simp only [hr.unitDevices] at hentry hnamed
  constructor
  · intro hO
    obtain ⟨imei, hd⟩ := hnamed O hO
    exact ⟨(tables_orgFixed hfixed).1 imei U O hd, imei, O, hd⟩
  · rintro ⟨rfl, hdevice⟩
    obtain ⟨O', hO'⟩ := hentry.mpr hdevice
    obtain ⟨imei, hd⟩ := hnamed O' hO'
    obtain rfl := (tables_orgFixed hfixed).1 imei U O' hd
    exact hO'

/-! ## The queries are the rule -/

section Rule

variable {f : UnitId → OrganizationId} {ops : List WriteOp}

/-- With fixed organizations `users_for_unit` is the rule on the tables. -/
theorem mem_usersForUnit_of_orgFixed (hfixed : ∀ op ∈ ops, OpOrgFixed f op)
    (O : OrganizationId) (u : UserId) (U : UnitId) :
    toLex (O, u) ∈ (State.run ops).usersForUnit U ↔
      O = f U ∧ (Tables.ofOps ops).Allowed O u U := by
  rw [mem_usersForUnit (indexed_run ops) (represents_run ops), unitOrg_iff_of_orgFixed hfixed,
    Tables.Allowed]
  exact and_assoc

/-- And so is `units_for`. -/
theorem mem_unitsFor_of_orgFixed (hfixed : ∀ op ∈ ops, OpOrgFixed f op)
    (O : OrganizationId) (u : UserId) (U : UnitId) :
    U ∈ (State.run ops).unitsFor O u ↔ f U = O ∧ (Tables.ofOps ops).Allowed O u U := by
  obtain ⟨hdevices, hgrants⟩ := tables_orgFixed hfixed
  rw [mem_unitsFor (indexed_run ops) (represents_run ops)]
  simp only [unitOrg_iff_of_orgFixed hfixed]
  constructor
  · rintro ⟨role, hactive, hseen⟩
    by_cases hrole : role = OWNER
    · rw [if_pos hrole] at hseen
      obtain ⟨imei, hd⟩ := hseen
      exact ⟨(hdevices imei U O hd).symm, ⟨imei, O, hd⟩, role, hactive, Or.inl hrole⟩
    · rw [if_neg hrole] at hseen
      obtain ⟨hgrant, D, -, hdevice⟩ := hseen
      exact ⟨(hgrants u U O hgrant).symm, hdevice, role, hactive, Or.inr ⟨O, hgrant⟩⟩
  · rintro ⟨rfl, ⟨imei, O', hd⟩, role, hactive, hrule⟩
    refine ⟨role, hactive, ?_⟩
    split
    · obtain rfl := hdevices imei U O' hd
      exact ⟨imei, hd⟩
    · rename_i hrole
      obtain ⟨G, hgrant⟩ := hrule.resolve_left hrole
      have hG : G = f U := hgrants u U G hgrant
      rw [hG] at hgrant
      exact ⟨hgrant, f U, rfl, imei, O', hd⟩

end Rule

/-- **The cache is the rule over the last event per key.**  When every UPSERT about a unit
names one organization, both queries answer with the strictly increasing list of what the
rule allows, read off the five tables.
SRC: kafka/control_plane.rs:165-254, permissions/cache.rs:102-162 -/
theorem rule_of_events {Payload Value : Type} (decoder : Decoder Payload Value)
    (payloads : List Payload) (f : UnitId → OrganizationId)
    (hfixed : ∀ e ∈ decodeEvents decoder payloads, e.OrgFixed f) :
    (∀ U, ((applyEvents decoder State.default payloads).usersForUnit U).Pairwise (· < ·) ∧
      ∀ O u, toLex (O, u) ∈ (applyEvents decoder State.default payloads).usersForUnit U ↔
        O = f U ∧ (Tables.ofEvents (decodeEvents decoder payloads)).Allowed O u U) ∧
    ∀ O u, ((applyEvents decoder State.default payloads).unitsFor O u).Pairwise (· < ·) ∧
      ∀ U, U ∈ (applyEvents decoder State.default payloads).unitsFor O u ↔
        f U = O ∧ (Tables.ofEvents (decodeEvents decoder payloads)).Allowed O u U := by
  have hops : ∀ op ∈ (decodeEvents decoder payloads).map Event.op, OpOrgFixed f op := by
    intro op hop
    obtain ⟨e, he, rfl⟩ := List.mem_map.mp hop
    exact opOrgFixed_op (hfixed e he)
  rw [applyEvents_eq, ofEvents_eq]
  refine ⟨fun U => ⟨usersForUnit_pairwise _ U, fun O u => ?_⟩,
    fun O u => ⟨unitsFor_pairwise _ O u, fun U => ?_⟩⟩
  · exact mem_usersForUnit_of_orgFixed hops O u U
  · exact mem_unitsFor_of_orgFixed hops O u U

/-- A unit of organization 10 and a member with a grant on it, paused and resumed. -/
def resumedEvents : List Event :=
  [.unitDeviceUpsert "a" 1 10, .membershipUpsert 10 5 "member" "ACTIVE", .userUnitUpsert 10 5 1,
    .membershipUpsert 10 5 "member" "INACTIVE", .membershipUpsert 10 5 "member" "ACTIVE"]

/-- The rule lets the resumed user through. -/
theorem allowed_resumedEvents : (Tables.ofEvents resumedEvents).Allowed 10 5 1 := by
  have hdevice : (Tables.ofEvents resumedEvents).unitDevices "a" = some (1, 10) := by decide
  have hmember : (Tables.ofEvents resumedEvents).memberships (10, 5) =
      some ("member", ACTIVE) := by decide
  have hgrant : (Tables.ofEvents resumedEvents).userUnits (5, 1) = some 10 := by decide
  have huser : (Tables.ofEvents resumedEvents).users 5 = none := by decide
  refine ⟨⟨"a", 10, hdevice⟩, "member", ⟨hmember, ?_⟩, Or.inr ⟨10, hgrant⟩⟩
  rintro ⟨status, hstatus, -⟩
  rw [huser] at hstatus
  cases hstatus

/-- So the cache answers with him. -/
theorem rule_of_events_resumed :
    toLex (10, 5) ∈ (applyEvents typedDecoder State.default resumedEvents).usersForUnit 1 := by
  have hfixed : ∀ e ∈ decodeEvents typedDecoder resumedEvents, e.OrgFixed fun _ => 10 := by
    simp [decodeEvents_typedDecoder, resumedEvents, Event.OrgFixed]
  have hrule := (rule_of_events typedDecoder resumedEvents (fun _ => 10) hfixed).1 1
  rw [decodeEvents_typedDecoder] at hrule
  exact (hrule.2 10 5).mpr ⟨rfl, allowed_resumedEvents⟩

end AlertDistributor.Analysis
