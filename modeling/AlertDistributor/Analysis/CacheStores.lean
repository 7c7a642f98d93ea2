import AlertDistributor.Analysis.CacheTables

/-!
# The redundant stores of the cache

Three parts of the cache edit more than the entry they are called for.  An assignment first
takes the device off its unit, wherever that was, and adjusts two counters; a mobile device
is first taken out of every list; a grant is written to two maps that are pruned apart.  What
a query answers after any sequence of operations is stated here without the passes: a counter
is the number of devices of its pair (`ExactCounters`), a list holds a device exactly when
the last call about it stored it there (`StoredLast`), and the two grant maps are inverse of
each other and hold the last call about each pair (`ExactGrants`).
-/

set_option autoImplicit false

namespace AlertDistributor.Analysis

open AlertDistributor.Model AlertDistributor.Interface FiniteMap LastWrite

/-! ## The device counters -/

/-- What `units_by_org` holds, and what it is for. -/
structure ExactCounters (s : State) : Prop where
  present : ∀ O U, (∃ n, nestedLookup s.unitsByOrg O U = some n) ↔
    ∃ imei, s.unitDevices.lookup imei = some (U, O)
  count : ∀ O U n, nestedLookup s.unitsByOrg O U = some n →
    n = (s.unitDevices.keys.filter fun imei => s.unitDevices.lookup imei = some (U, O)).card
  nonzero : ∀ O U n, nestedLookup s.unitsByOrg O U = some n → n ≠ 0
  pruned : ∀ O units, s.unitsByOrg.lookup O = some units → units ≠ ∅
  /-- Whatever device `unassign_device` is called for, the counter it subtracts from is
  there and is at least one. -/
  subtracts : ∀ imei U O, s.unitDevices.lookup imei = some (U, O) →
    ∃ n, nestedLookup s.unitsByOrg O U = some n ∧ 1 ≤ n
  /-- An active owner sees the units with a device under the organization, in order. -/
  ownerUnits : ∀ O u m, nestedLookup s.memberships O u = some m → m.owner = true →
    m.active = true → s.userIsActive u = true →
      (s.unitsFor O u).Pairwise (· < ·) ∧
        ∀ U, U ∈ s.unitsFor O u ↔ ∃ imei, s.unitDevices.lookup imei = some (U, O)

/-- A stored counter is the number of devices of its pair, and that is positive. -/
theorem counter_eq {s : State} (h : Indexed s) {O : OrganizationId} {U : UnitId} {n : ℕ}
    (hn : nestedLookup s.unitsByOrg O U = some n) : n = deviceCount s O U ∧ n ≠ 0 := by
  rw [h.unitsByOrg_eq] at hn
  split at hn
  · cases hn
  · rename_i hne
    obtain rfl := Option.some.inj hn
    exact ⟨rfl, hne⟩

/-- The counter of a pair with a device is stored. -/
theorem counter_of_device {s : State} (h : Indexed s) {imei : String} {O : OrganizationId}
    {U : UnitId} (hd : s.unitDevices.lookup imei = some (U, O)) :
    nestedLookup s.unitsByOrg O U = some (deviceCount s O U) := by
  have hpos : 0 < deviceCount s O U := (deviceCount_pos_iff s O U).mpr ⟨imei, hd⟩
  rw [h.unitsByOrg_eq, if_neg (by omega)]

/-- **The device counters are exact** in every reachable state.
SRC: permissions/cache.rs:73-89, 132-144, 253-277 -/
theorem exactCounters_run (ops : List WriteOp) : ExactCounters (State.run ops) := by
  have h : Indexed (State.run ops) := indexed_run ops
  refine ⟨?_, ?_, ?_, h.unitsByOrg_pruned, ?_, ?_⟩
  · intro O U
    constructor
    · rintro ⟨n, hn⟩
      obtain ⟨hcount, hne⟩ := counter_eq h hn
      have hpos : 0 < deviceCount (State.run ops) O U := by omega
      exact (deviceCount_pos_iff _ O U).mp hpos
    · rintro ⟨imei, hd⟩
      exact ⟨_, counter_of_device h hd⟩
  · intro O U n hn
    exact (counter_eq h hn).1
  · intro O U n hn
    exact (counter_eq h hn).2
  · intro imei U O hd
    have hn := counter_of_device h hd
    have hne := (counter_eq h hn).2
    exact ⟨_, hn, by omega⟩
  · intro O u m hm howner hactive huser
    have hmember : (State.run ops).activeMembership O u = some m := by
      have hlookup : ((State.run ops).memberships.lookup O).bind
          (fun members => members.lookup u) = some m := hm
      rw [State.activeMembership, hlookup, Option.filter_some, hactive, huser]
      rfl
    refine ⟨unitsFor_pairwise _ O u, fun U => ?_⟩
    rw [mem_unitsFor_iff h]
    constructor
    · rintro ⟨m', hm', hrule⟩
      obtain rfl : m' = m := Option.some.inj (hm'.symm.trans hmember)
      rwa [if_pos howner] at hrule
    · intro hdevice
      exact ⟨m, hmember, by rwa [if_pos howner]⟩

/-! ## The mobile devices -/

/-- The last call about the id of `d` is the upsert of `d`, which the cache keeps. -/
def StoredLast (ops : List WriteOp) (d : UserDevice) : Prop :=
  lastWrite? (ops.filterMap userDeviceWrite) d.id = some ⟨d.id, some d⟩ ∧
    d.isActive = true ∧ d.endpointArn ≠ ""

/-- A list holds a device exactly when the last call about it stored it there. -/
theorem mem_devicesFor_run (ops : List WriteOp) (u : UserId) (d : UserDevice) :
    d ∈ (State.run ops).devicesFor u ↔ StoredLast ops d ∧ d.userId = u := by
  have h : Indexed (State.run ops) := indexed_run ops
  have hrow := (represents_run ops).userDevices d
  have htable : (Tables.ofOps ops).userDevices d.id = some d ↔
      lastWrite? (ops.filterMap userDeviceWrite) d.id = some ⟨d.id, some d⟩ := by
    show tableOf (ops.filterMap userDeviceWrite) d.id = some d ↔ _
    constructor
    · exact lastWrite?_of_tableOf
    · intro hlast
      rw [tableOf_apply, hlast]
      rfl
  rw [htable] at hrow
  constructor
  · intro hd
    obtain rfl := (h.userDevices_kept u d hd).1
    exact ⟨hrow.mp hd, rfl⟩
  · rintro ⟨hlast, rfl⟩
    exact hrow.mpr hlast

/-- The entries of a list that have one id are at most one. -/
theorem filter_devicesFor_id {s : State} (h : Indexed s) {u : UserId} {d : UserDevice}
    (hd : d ∈ s.devicesFor u) : (s.devicesFor u).filter (fun e => e.id = d.id) = [d] := by
  have hnodup : ((s.devicesFor u).filter fun e => e.id = d.id).Nodup :=
    (h.userDevices_nodup u).filter _
  have hmem : ∀ e, e ∈ ((s.devicesFor u).filter fun e => e.id = d.id) ↔ e ∈ [d] := by
    intro e
    rw [List.mem_filter, decide_eq_true_eq, List.mem_singleton]
    constructor
    · rintro ⟨he, hid⟩
      exact h.userDevices_unique u u e he d hd hid
    · rintro rfl
      exact ⟨hd, rfl⟩
  exact List.perm_singleton.mp ((List.perm_ext_iff_of_nodup hnodup (by simp)).mpr hmem)

/-- `deactivate_device` tells whether some list held the device. -/
theorem deactivateDevice_snd {s : State} (id : DeviceId) :
    (s.deactivateDevice id).2 = true ↔ ∃ u, ∃ d ∈ s.devicesFor u, d.id = id := by
  have hshorter : ∀ u, ((s.devicesFor u).filter fun d => d.id ≠ id).length ≠
      (s.devicesFor u).length ↔ ∃ d ∈ s.devicesFor u, d.id = id := by
    intro u
    rw [ne_eq, List.length_filter_eq_length_iff]
    simp
  unfold State.deactivateDevice
  dsimp only
  rw [decide_eq_true_iff]
  constructor
  · rintro ⟨u, -, hd⟩
    exact ⟨u, (hshorter u).mp hd⟩
  · rintro ⟨u, d, hd, hid⟩
    refine ⟨u, ?_, (hshorter u).mpr ⟨d, hd, hid⟩⟩
    rw [mem_keys_iff_lookup]
    cases hlookup : s.userDevices.lookup u with
    | none =>
      rw [State.devicesFor, hlookup] at hd
      cases hd
    | some devices => exact ⟨devices, rfl⟩

/-- **The mobile devices are last-write-wins and duplicate-free.**  After any sequence of
operations a user's list has an entry of a device exactly when the last call about the
device is an upsert of a kept record of that user; the entry is then the only one, and no
other user has one.
SRC: permissions/cache.rs:164-171, 279-306 -/
theorem userDevices_run (ops : List WriteOp) (id : DeviceId) :
    (∀ u, (∃ d ∈ (State.run ops).devicesFor u, d.id = id) ↔
      ∃ d, d.id = id ∧ StoredLast ops d ∧ d.userId = u) ∧
    (∀ d, d.id = id → StoredLast ops d →
      ((State.run ops).devicesFor d.userId).filter (fun e => e.id = id) = [d] ∧
        ∀ u, u ≠ d.userId → ∀ e ∈ (State.run ops).devicesFor u, e.id ≠ id) ∧
    (∀ u devices, (State.run ops).userDevices.lookup u = some devices → devices ≠ []) ∧
    (((State.run ops).deactivateDevice id).2 = true ↔
      ∃ u, ∃ d ∈ (State.run ops).devicesFor u, d.id = id) := by
  have h : Indexed (State.run ops) := indexed_run ops
  refine ⟨?_, ?_, h.userDevices_nonempty, deactivateDevice_snd id⟩
  · intro u
    simp only [mem_devicesFor_run]
    constructor
    · rintro ⟨d, hd, hid⟩
      exact ⟨d, hid, hd⟩
    · rintro ⟨d, hid, hd⟩
      exact ⟨d, hd, hid⟩
  · rintro d rfl hlast
    have hd : d ∈ (State.run ops).devicesFor d.userId :=
      (mem_devicesFor_run ops d.userId d).mpr ⟨hlast, rfl⟩
    refine ⟨filter_devicesFor_id h hd, ?_⟩
    intro u hne e he hid
    obtain rfl := h.userDevices_unique u d.userId e he d hd hid
    exact hne (h.userDevices_kept u e he).1.symm

/-! ## The grants -/

/-- The operation is one of the two calls about the grant of `u` on `U`. -/
def OnGrant (op : WriteOp) (u : UserId) (U : UnitId) : Prop :=
  op = .deleteUserUnit u U ∨ ∃ O, op = .upsertUserUnit O u U

/-- The last call about the grant of `u` on `U` is the upsert under `O`. -/
def GrantedLast (ops : List WriteOp) (u : UserId) (U : UnitId) (O : OrganizationId) : Prop :=
  ∃ before after, ops = before ++ .upsertUserUnit O u U :: after ∧
    ∀ op ∈ after, ¬ OnGrant op u U

/-- What the two grant maps hold after a sequence of operations. -/
structure ExactGrants (ops : List WriteOp) : Prop where
  inverse : ∀ u U,
    (∃ users, (State.run ops).unitUsers.lookup U = some users ∧ u ∈ users.keys) ↔
      ∃ granted, (State.run ops).userUnits.lookup u = some granted ∧ U ∈ granted.keys
  userUnits_nonempty : ∀ u granted,
    (State.run ops).userUnits.lookup u = some granted → granted.keys ≠ ∅
  unitUsers_nonempty : ∀ U users,
    (State.run ops).unitUsers.lookup U = some users → users.keys ≠ ∅
  organization : ∀ u U O,
    nestedLookup (State.run ops).userUnits u U = some O ↔ GrantedLast ops u U O
  /-- Whatever else is called next leaves the pair alone in both maps. -/
  frame : ∀ op u U, ¬ OnGrant op u U →
    nestedLookup ((State.run ops).apply op).userUnits u U =
        nestedLookup (State.run ops).userUnits u U ∧
      nestedLookup ((State.run ops).apply op).unitUsers U u =
        nestedLookup (State.run ops).unitUsers U u

/-- A grant is written by the two calls about it only. -/
theorem key_ne_of_not_onGrant {op : WriteOp} {u : UserId} {U : UnitId}
    (h : ¬ OnGrant op u U) : ∀ w ∈ [op].filterMap userUnitWrite, w.key ≠ (u, U) := by
  intro w hw hkey
  obtain ⟨op', hop', hwrite⟩ := List.mem_filterMap.mp hw
  obtain rfl : op' = op := List.mem_singleton.mp hop'
  cases op' with
  | upsertUserUnit O u' U' =>
    obtain rfl : _ = w := Option.some.inj hwrite
    obtain ⟨rfl, rfl⟩ : u' = u ∧ U' = U := Prod.mk.inj hkey
    exact h (Or.inr ⟨O, rfl⟩)
  | deleteUserUnit u' U' =>
    obtain rfl : _ = w := Option.some.inj hwrite
    obtain ⟨rfl, rfl⟩ : u' = u ∧ U' = U := Prod.mk.inj hkey
    exact h (Or.inl rfl)
  | _ => cases hwrite

/-- One call about another pair, or about another entity, leaves the grant alone. -/
theorem userUnits_apply_of_not_onGrant {s : State} {t : Tables} (h : Indexed s)
    (hr : Represents s t) {op : WriteOp} {u : UserId} {U : UnitId} (hop : ¬ OnGrant op u U) :
    nestedLookup (s.apply op).userUnits u U = nestedLookup s.userUnits u U := by
  rw [(represents_apply h hr op).userUnits, hr.userUnits]
  exact replay_apply_of_free t.userUnits (key_ne_of_not_onGrant hop)

/-- The second map follows the first one. -/
theorem unitUsers_apply_of_not_onGrant {s : State} {t : Tables} (h : Indexed s)
    (hr : Represents s t) {op : WriteOp} {u : UserId} {U : UnitId} (hop : ¬ OnGrant op u U) :
    nestedLookup (s.apply op).unitUsers U u = nestedLookup s.unitUsers U u := by
  rw [(indexed_apply h op).unitUsers_eq, h.unitUsers_eq, userUnits_apply_of_not_onGrant h hr hop]

/-- One more operation: a call about the pair decides, any other one does not count. -/
theorem grantedLast_concat (ops : List WriteOp) (op : WriteOp) (u : UserId) (U : UnitId)
    (O : OrganizationId) :
    GrantedLast (ops ++ [op]) u U O ↔
      op = .upsertUserUnit O u U ∨ (¬ OnGrant op u U ∧ GrantedLast ops u U O) := by
  constructor
  · rintro ⟨before, after, heq, hafter⟩
    rcases List.eq_nil_or_concat' after with rfl | ⟨after', last, rfl⟩
    · have hlast := (List.append_inj' heq rfl).2
      exact Or.inl (List.cons.inj hlast).1
    · have hsplit : ops ++ [op] = (before ++ .upsertUserUnit O u U :: after') ++ [last] := by
        rw [heq, List.append_assoc, List.cons_append]
      obtain ⟨hops, hop⟩ := List.append_inj' hsplit rfl
      obtain rfl : op = last := (List.cons.inj hop).1
      exact Or.inr ⟨hafter op (by simp), before, after', hops,
        fun op' hop' => hafter op' (by simp [hop'])⟩
  · rintro (rfl | ⟨hop, before, after, rfl, hafter⟩)
    · exact ⟨ops, [], rfl, by simp⟩
    · refine ⟨before, after ++ [op], by simp, ?_⟩
      intro op' hop'
      rcases List.mem_append.mp hop' with hin | hlast
      · exact hafter op' hin
      · rwa [List.mem_singleton.mp hlast]

/-- The stored organization is that of the last upsert, and there is none after a delete. -/
theorem userUnits_run_iff (ops : List WriteOp) (u : UserId) (U : UnitId) (O : OrganizationId) :
    nestedLookup (State.run ops).userUnits u U = some O ↔ GrantedLast ops u U O := by
  induction ops using List.reverseRecOn with
  | nil => simp [State.run, State.runFrom, State.default, GrantedLast]
  | append_singleton ops op ih =>
    rw [State.run_concat, grantedLast_concat]
    by_cases hop : OnGrant op u U
    · simp only [hop, not_true_eq_false, false_and, or_false]
      rcases hop with rfl | ⟨O', rfl⟩
      · simp [State.apply, State.deleteUserUnit, nestedLookup_nestedErase]
      · simp [State.apply, State.upsertUserUnit, nestedLookup_nestedInsert]
    · rw [userUnits_apply_of_not_onGrant (indexed_run ops) (represents_run ops) hop, ih]
      have hne : op ≠ .upsertUserUnit O u U := fun heq => hop (Or.inr ⟨O, heq⟩)
      simp [hop, hne]

/-- **The two grant maps are inverse of each other** in every reachable state, neither keeps
an empty inner collection, and each pair is as the last call about it left it.
SRC: permissions/cache.rs:48-50, 222-251 -/
theorem exactGrants_run (ops : List WriteOp) : ExactGrants ops := by
  have h : Indexed (State.run ops) := indexed_run ops
  have hr := represents_run ops
  refine ⟨?_, ?_, ?_, userUnits_run_iff ops, ?_⟩
  · intro u U
    rw [mem_inner_keys_iff, mem_inner_keys_iff, h.unitUsers_eq]
    cases nestedLookup (State.run ops).userUnits u U <;> simp
  · intro u granted hgranted hempty
    exact h.userUnits_pruned u granted hgranted ((keys_eq_empty_iff granted).mp hempty)
  · intro U users husers hempty
    exact h.unitUsers_pruned U users husers ((keys_eq_empty_iff users).mp hempty)
  · intro op u U hop
    exact ⟨userUnits_apply_of_not_onGrant h hr hop, unitUsers_apply_of_not_onGrant h hr hop⟩

end AlertDistributor.Analysis
