import AlertDistributor.Analysis.UnitOrg

/-!
# The two recipient queries against the rule

`users_for_unit` (the push path) never goes outside the rule, in any history.  `units_for`
(the WebSocket path) does: its branch for members that are not owners accepts a grant
recorded under `O` on any unit with an entry in `unit_org`, whatever organization that
entry names.  `StrayGrant` and `OrgAgrees` say for which queries that shows; a run that
never puts a unit under two organizations at once (`KeepsOneOrg`) has none of them.
-/

set_option autoImplicit false

namespace AlertDistributor.Analysis

open AlertDistributor.Model AlertDistributor.Interface FiniteMap LastWrite

/-! ## The push path -/

/-- **No push outside the rule.**  Whatever the history, a pair that receives the alerts of
`U` is of the one organization `U` has an entry for, under which some device of `U` is
assigned; its membership was last written `ACTIVE`, its user was not last written
otherwise, and the membership is owner or the grant was last written by an upsert.
SRC: permissions/cache.rs:61-130 -/
theorem push_within_rule (ops : List WriteOp) (O : OrganizationId) (u : UserId) (U : UnitId)
    (hmem : toLex (O, u) ∈ (State.run ops).usersForUnit U) :
    (∃ imei, (State.run ops).unitDevices.lookup imei = some (U, O)) ∧
    (∀ p ∈ (State.run ops).usersForUnit U, (ofLex p).1 = O) ∧
    ((State.run ops).usersForUnit U).Nodup ∧
    (∀ status, lastWrite? (ops.filterMap userWrite) u = some ⟨u, some status⟩ →
      status = ACTIVE) ∧
    ∃ role, lastWrite? (ops.filterMap membershipWrite) (O, u) =
        some ⟨(O, u), some (role, ACTIVE)⟩ ∧
      (role = OWNER ∨ ∃ G, lastWrite? (ops.filterMap userUnitWrite) (u, U) =
        some ⟨(u, U), some G⟩) := by
  have h := indexed_run ops
  have hr := represents_run ops
  obtain ⟨hentry, role, ⟨hrow, huser⟩, hrule⟩ := (mem_usersForUnit h hr O u U).mp hmem
  refine ⟨?_, ?_, (usersForUnit_pairwise _ U).nodup, ?_, role, lastWrite?_of_tableOf hrow, ?_⟩
  · exact (deviceCount_pos_iff _ O U).mp (h.unitOrg_device U O hentry)
  · intro p hp
    obtain ⟨hentry', -⟩ := (mem_usersForUnit h hr (ofLex p).1 (ofLex p).2 U).mp hp
    exact Option.some.inj (hentry'.symm.trans hentry)
  · intro status hlast
    by_contra hother
    refine huser ⟨status, ?_, hother⟩
    show tableOf (ops.filterMap userWrite) u = some status
    rw [tableOf_apply, hlast, Option.bind_some]
  · rcases hrule with howner | ⟨G, hG⟩
    · exact Or.inl howner
    · exact Or.inr ⟨G, lastWrite?_of_tableOf hG⟩

/-- One device, and a member with a grant: the member's alerts stay within the rule. -/
theorem push_within_rule_granted :
    ∃ imei, (State.run [.upsertUnitDevice "a" 1 10, .upsertMembership 10 5 "member" "ACTIVE",
      .upsertUserUnit 10 5 1]).unitDevices.lookup imei = some (1, 10) := by
  refine (push_within_rule [.upsertUnitDevice "a" 1 10,
    .upsertMembership 10 5 "member" "ACTIVE", .upsertUserUnit 10 5 1] 10 5 1 ?_).1
  rw [mem_usersForUnit_iff (indexed_run _)]
  exact ⟨by decide, ⟨false, true⟩, by decide, Or.inr ⟨10, by decide⟩⟩

/-! ## One organization per unit -/

/-- `U` appears under `O`: by a device or by a grant. -/
def Carries (s : State) (U : UnitId) (O : OrganizationId) : Prop :=
  (∃ imei, s.unitDevices.lookup imei = some (U, O)) ∨
    ∃ u, nestedLookup s.userUnits u U = some O

/-- No unit appears under two organizations. -/
def OneOrg (s : State) : Prop :=
  ∀ U O O', Carries s U O → Carries s U O' → O = O'

/-- The call writes a unit under the organization that everything else about the unit
carries: the other devices assigned to it and the other grants on it. -/
def KeepsOneOrg (s : State) : WriteOp → Prop
  | .upsertUnitDevice imei U O =>
    (∀ imei' O', imei' ≠ imei → s.unitDevices.lookup imei' = some (U, O') → O' = O) ∧
      ∀ u O', nestedLookup s.userUnits u U = some O' → O' = O
  | .upsertUserUnit O u U =>
    (∀ imei O', s.unitDevices.lookup imei = some (U, O') → O' = O) ∧
      ∀ u' O', u' ≠ u → nestedLookup s.userUnits u' U = some O' → O' = O
  | _ => True

/-- The empty cache has no unit with two organizations. -/
theorem oneOrg_default : OneOrg State.default := by
  intro U O O' h
  simp [Carries, State.default] at h

/-- The call writes `U` under `O`: it assigns a device to it or records a grant on it. -/
def Writes (op : WriteOp) (U : UnitId) (O : OrganizationId) : Prop :=
  (∃ imei, op = .upsertUnitDevice imei U O) ∨ ∃ u, op = .upsertUserUnit O u U

/-- What a unit carries after a call was written by it or carried before. -/
theorem carries_apply {s : State} (h : Indexed s) {op : WriteOp} {U : UnitId}
    {O : OrganizationId} (hcarries : Carries (s.apply op) U O) :
    Writes op U O ∨ Carries s U O := by
  obtain ⟨imei, hd⟩ | ⟨u, hg⟩ := hcarries
  · obtain rfl | ⟨hold, -⟩ := device_apply_cases h hd
    · exact Or.inl (Or.inl ⟨imei, rfl⟩)
    · exact Or.inr (Or.inl ⟨imei, hold⟩)
  · obtain rfl | ⟨hold, -⟩ := grant_apply_cases h hg
    · exact Or.inl (Or.inr ⟨u, rfl⟩)
    · exact Or.inr (Or.inr ⟨u, hold⟩)

/-- A unit that a call writes carries the organization of the call and no other. -/
theorem eq_of_writes {s : State} (h : Indexed s) {op : WriteOp} (hkeeps : KeepsOneOrg s op)
    {U : UnitId} {O O' : OrganizationId} (hwrites : Writes op U O)
    (hcarries : Carries (s.apply op) U O') : O' = O := by
  obtain ⟨imei, rfl⟩ | ⟨u, rfl⟩ := hwrites
  · obtain ⟨hdevices, hgrants⟩ := hkeeps
    obtain ⟨imei', hd⟩ | ⟨u, hg⟩ := hcarries
    · obtain heq | ⟨hold, hnot, -⟩ := device_apply_cases h hd
      · exact (WriteOp.upsertUnitDevice.inj heq).2.2.symm
      · have hne : imei' ≠ imei := by
          rintro rfl
          exact hnot U O rfl
        exact hdevices imei' O' hne hold
    · obtain heq | ⟨hold, -⟩ := grant_apply_cases h hg
      · cases heq
      · exact hgrants u O' hold
  · obtain ⟨hdevices, hgrants⟩ := hkeeps
    obtain ⟨imei, hd⟩ | ⟨u', hg⟩ := hcarries
    · obtain heq | ⟨hold, -⟩ := device_apply_cases h hd
      · cases heq
      · exact hdevices imei O' hold
    · obtain heq | ⟨hold, hnot⟩ := grant_apply_cases h hg
      · exact (WriteOp.upsertUserUnit.inj heq).1.symm
      · have hne : u' ≠ u := by
          rintro rfl
          exact hnot O rfl
        exact hgrants u' O' hne hold

/-- An operation that keeps one organization per unit does. -/
theorem oneOrg_apply {s : State} (h : Indexed s) (hone : OneOrg s) {op : WriteOp}
    (hkeeps : KeepsOneOrg s op) : OneOrg (s.apply op) := by
  intro U O O' hO hO'
  obtain hwrites | hold := carries_apply h hO
  · exact (eq_of_writes h hkeeps hwrites hO').symm
  obtain hwrites' | hold' := carries_apply h hO'
  · exact eq_of_writes h hkeeps hwrites' hO
  · exact hone U O O' hold hold'

/-- A state without two organizations on a unit has no unit to forget. -/
theorem not_forgets_of_oneOrg {s : State} (hone : OneOrg s) (op : WriteOp) :
    ¬ ∃ U, ForgetsUnit s op U := by
  rintro ⟨U, imei, O, -, hd, -, imei', O', hother, hd'⟩
  exact hother (hone U O' O (Or.inl ⟨imei', hd'⟩) (Or.inl ⟨imei, hd⟩))

/-- **A run whose calls keep one organization per unit** reaches only states where that
holds and every unit with a device has its entry. -/
theorem oneOrg_run {ops : List WriteOp}
    (hkeeps : ∀ pre op post, ops = pre ++ op :: post → KeepsOneOrg (State.run pre) op) :
    OneOrg (State.run ops) ∧ KnowsUnits (State.run ops) := by
  induction ops using List.reverseRecOn with
  | nil => exact ⟨oneOrg_default, knowsUnits_default⟩
  | append_singleton ops op ih =>
    obtain ⟨hone, hknows⟩ := ih fun pre op' post heq =>
      hkeeps pre op' (post ++ [op]) (by rw [heq, List.append_assoc, List.cons_append])
    have hindexed := indexed_run ops
    rw [State.run_concat]
    exact ⟨oneOrg_apply hindexed hone (hkeeps ops op [] rfl),
      (knowsUnits_apply_iff hindexed hknows op).mpr (not_forgets_of_oneOrg hone op)⟩

/-! ## The WebSocket path -/

/-- What the rule asks before `u` may see `U` through `O`: a device of `U` under `O`, an
active membership, a user not recorded as inactive, and ownership or a grant recorded
for `O`. -/
def WithinRule (s : State) (O : OrganizationId) (u : UserId) (U : UnitId) : Prop :=
  (∃ imei, s.unitDevices.lookup imei = some (U, O)) ∧
    ∃ m, nestedLookup s.memberships O u = some m ∧ m.active = true ∧
      s.userActive.lookup u ≠ some false ∧
      (m.owner = true ∨ nestedLookup s.userUnits u U = some O)

/-- `u` is an active member of `O`, not an owner, with a grant recorded under `O` on a unit
that has an entry in `unit_org` but no device under `O`. -/
def StrayGrant (s : State) (O : OrganizationId) (u : UserId) (U : UnitId) : Prop :=
  (∃ m, s.activeMembership O u = some m ∧ m.owner = false) ∧
    nestedLookup s.userUnits u U = some O ∧ (∃ D, s.unitOrg.lookup U = some D) ∧
    ∀ imei, s.unitDevices.lookup imei ≠ some (U, O)

/-- A membership counts when it is active and its user is not inactive. -/
theorem activeMembership_iff (s : State) (O : OrganizationId) (u : UserId) (m : Membership) :
    s.activeMembership O u = some m ↔
      nestedLookup s.memberships O u = some m ∧ m.active = true ∧
        s.userActive.lookup u ≠ some false := by
  have huser : s.userIsActive u = true ↔ s.userActive.lookup u ≠ some false := by
    unfold State.userIsActive
    cases s.userActive.lookup u with
    | none => simp
    | some active => cases active <;> simp
  unfold State.activeMembership nestedLookup
  rw [Option.filter_eq_some_iff, Bool.and_eq_true, huser]

/-- `units_for` stays within the rule unless it meets a stray grant. -/
theorem view_within_rule_iff_not_strayGrant {s : State} (h : Indexed s) (O : OrganizationId)
    (u : UserId) (U : UnitId) :
    (U ∈ s.unitsFor O u → WithinRule s O u U) ↔ ¬ StrayGrant s O u U := by
  rw [mem_unitsFor_iff h]
  constructor
  · rintro hrule ⟨⟨m, hm, howner⟩, hgrant, hentry, hnone⟩
    obtain ⟨⟨imei, hd⟩, -⟩ :=
      hrule ⟨m, hm, by simpa [howner] using ⟨hgrant, hentry⟩⟩
    exact hnone imei hd
  · rintro hstray ⟨m, hm, hseen⟩
    obtain ⟨hrow, hactive, huser⟩ := (activeMembership_iff s O u m).mp hm
    cases howner : m.owner with
    | true =>
      rw [if_pos howner] at hseen
      exact ⟨hseen, m, hrow, hactive, huser, Or.inl howner⟩
    | false =>
      rw [if_neg (by simp [howner])] at hseen
      obtain ⟨hgrant, hentry⟩ := hseen
      refine ⟨?_, m, hrow, hactive, huser, Or.inr hgrant⟩
      by_contra hnone
      exact hstray ⟨⟨m, hm, howner⟩, hgrant, hentry, not_exists.mp hnone⟩

/-- Under one organization per unit a grant is recorded where the devices are. -/
theorem not_strayGrant_of_oneOrg {s : State} (h : Indexed s) (hone : OneOrg s)
    (O : OrganizationId) (u : UserId) (U : UnitId) : ¬ StrayGrant s O u U := by
  rintro ⟨-, hgrant, ⟨D, hD⟩, hnone⟩
  obtain ⟨imei, hd⟩ := (deviceCount_pos_iff s D U).mp (h.unitOrg_device U D hD)
  obtain rfl := hone U D O (Or.inl ⟨imei, hd⟩) (Or.inr ⟨u, hgrant⟩)
  exact hnone imei hd

/-- **When the WebSocket view stays within its organization.**  In every reachable state
and for every query, seeing `U` through `O` implies the rule exactly unless the query meets
a stray grant; and no run that keeps one organization per unit has one.
SRC: permissions/cache.rs:132-162 -/
theorem view_within_rule_iff (ops : List WriteOp) :
    (∀ O u U, (U ∈ (State.run ops).unitsFor O u → WithinRule (State.run ops) O u U) ↔
      ¬ StrayGrant (State.run ops) O u U) ∧
    ((∀ pre op post, ops = pre ++ op :: post → KeepsOneOrg (State.run pre) op) →
      ∀ O u U, U ∈ (State.run ops).unitsFor O u → WithinRule (State.run ops) O u U) := by
  have h := indexed_run ops
  refine ⟨view_within_rule_iff_not_strayGrant h, ?_⟩
  intro hkeeps O u U
  exact (view_within_rule_iff_not_strayGrant h O u U).mpr
    (not_strayGrant_of_oneOrg h (oneOrg_run hkeeps).1 O u U)

/-- A member of organization 10 holds a grant recorded there on unit 1, whose only device
is assigned under organization 20. -/
def strayGrantRun : List WriteOp :=
  [.upsertUnitDevice "a" 1 20, .upsertMembership 10 5 "member" "ACTIVE", .upsertUserUnit 10 5 1]

/-- With the stray grant the unit is visible. -/
theorem mem_unitsFor_strayGrantRun : 1 ∈ (State.run strayGrantRun).unitsFor 10 5 := by
  rw [mem_unitsFor_iff (indexed_run strayGrantRun)]
  exact ⟨⟨false, true⟩, by decide, by decide, 20, by decide⟩

/-- The unit is seen through organization 10, under which it has no device. -/
theorem view_outside_organization :
    ¬ (1 ∈ (State.run strayGrantRun).unitsFor 10 5 →
      WithinRule (State.run strayGrantRun) 10 5 1) := by
  intro hrule
  obtain ⟨⟨imei, hd⟩, -⟩ := hrule mem_unitsFor_strayGrantRun
  have hnone : deviceCount (State.run strayGrantRun) 10 1 = 0 := by decide
  have hpos := (deviceCount_pos_iff (State.run strayGrantRun) 10 1).mpr ⟨imei, hd⟩
  omega

/-! ## One rule for both paths -/

/-- What the indexes say about `(O, u, U)` does not depend on the path that asks: for an
active owner, a device under `O` comes with an entry that names `O`; for another active
member with a grant, the grant and the entry name `O` together or not at all. -/
def OrgAgrees (s : State) (O : OrganizationId) (u : UserId) (U : UnitId) : Prop :=
  ∀ m, s.activeMembership O u = some m →
    if m.owner = true then
      ∀ imei, s.unitDevices.lookup imei = some (U, O) → s.unitOrg.lookup U = some O
    else ∀ G D, nestedLookup s.userUnits u U = some G → s.unitOrg.lookup U = some D →
      (G = O ↔ D = O)

/-- The two queries agree exactly where the stored organizations do. -/
theorem same_visibility_iff_orgAgrees {s : State} (h : Indexed s) (O : OrganizationId)
    (u : UserId) (U : UnitId) :
    (toLex (O, u) ∈ s.usersForUnit U ↔ U ∈ s.unitsFor O u) ↔ OrgAgrees s O u U := by
  rw [mem_usersForUnit_iff h, mem_unitsFor_iff h, OrgAgrees]
  cases hm : s.activeMembership O u with
  | none => simp
  | some m =>
    simp only [Option.some.injEq, exists_eq_left', forall_eq']
    cases m.owner with
    | true =>
      simp only [true_or, and_true, if_true]
      constructor
      · intro hsame imei hd
        exact hsame.mpr ⟨imei, hd⟩
      · intro hagrees
        constructor
        · intro hentry
          exact (deviceCount_pos_iff s O U).mp (h.unitOrg_device U O hentry)
        · rintro ⟨imei, hd⟩
          exact hagrees imei hd
    | false =>
      simp only [Bool.false_eq_true, false_or, if_false]
      cases nestedLookup s.userUnits u U with
      | none => simp
      | some G =>
        cases s.unitOrg.lookup U with
        | none => simp
        | some D =>
          simp only [Option.some.injEq, exists_eq', and_true]
          constructor
          · rintro hsame G' D' rfl rfl
            exact hsame.symm
          · intro hagrees
            exact (hagrees G D rfl rfl).symm

/-- Under one organization per unit the entry, the devices and the grants agree. -/
theorem orgAgrees_of_oneOrg {s : State} (h : Indexed s) (hone : OneOrg s)
    (hknows : KnowsUnits s) (O : OrganizationId) (u : UserId) (U : UnitId) :
    OrgAgrees s O u U := by
  intro m _
  split
  · intro imei hd
    obtain ⟨O', hentry⟩ := (knowsUnits_iff h).mp hknows U imei O hd
    obtain ⟨imei', hd'⟩ := (deviceCount_pos_iff s O' U).mp (h.unitOrg_device U O' hentry)
    rwa [hone U O' O (Or.inl ⟨imei', hd'⟩) (Or.inl ⟨imei, hd⟩)] at hentry
  · intro G D hgrant hentry
    obtain ⟨imei, hd⟩ := (deviceCount_pos_iff s D U).mp (h.unitOrg_device U D hentry)
    rw [hone U G D (Or.inr ⟨u, hgrant⟩) (Or.inl ⟨imei, hd⟩)]

/-- **When both paths apply one rule.**  In every reachable state and for every query, the
push path and the WebSocket path answer alike exactly when the indexes agree on it; and in
a run that keeps one organization per unit they answer alike on everything.
SRC: permissions/cache.rs:102-162 -/
theorem same_visibility_iff (ops : List WriteOp) :
    (∀ O u U, (toLex (O, u) ∈ (State.run ops).usersForUnit U ↔
        U ∈ (State.run ops).unitsFor O u) ↔ OrgAgrees (State.run ops) O u U) ∧
    ((∀ pre op post, ops = pre ++ op :: post → KeepsOneOrg (State.run pre) op) →
      ∀ O u U, toLex (O, u) ∈ (State.run ops).usersForUnit U ↔
        U ∈ (State.run ops).unitsFor O u) := by
  have h := indexed_run ops
  refine ⟨same_visibility_iff_orgAgrees h, ?_⟩
  intro hkeeps O u U
  obtain ⟨hone, hknows⟩ := oneOrg_run hkeeps
  exact (same_visibility_iff_orgAgrees h O u U).mpr (orgAgrees_of_oneOrg h hone hknows O u U)

/-- The WebSocket path shows the unit to a member whom the push path leaves out. -/
theorem visibility_differs :
    ¬ (toLex (10, 5) ∈ (State.run strayGrantRun).usersForUnit 1 ↔
      1 ∈ (State.run strayGrantRun).unitsFor 10 5) := by
  intro hsame
  have hmem := hsame.mpr mem_unitsFor_strayGrantRun
  obtain ⟨hentry, -⟩ := (mem_usersForUnit_iff (indexed_run strayGrantRun) 10 5 1).mp hmem
  have hother : (State.run strayGrantRun).unitOrg.lookup 1 = some 20 := by decide
  rw [hother] at hentry
  exact absurd hentry (by decide)

end AlertDistributor.Analysis
