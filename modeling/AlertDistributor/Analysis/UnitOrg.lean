import AlertDistributor.Analysis.CacheTables
import AlertDistributor.Library.Runs

/-!
# Which units the push path knows

`users_for_unit` starts from the entry of `unit_org`, so a unit without one gets no push.
`unassign_device` drops that entry when it takes away the last device of one
(unit, organization) pair, without looking at the devices the unit keeps under other
organizations.  `ForgetsUnit` is that step, and it is the only way to leave the invariant
"an entry exactly for the units with a device" (`knowsUnits_apply_iff`).
-/

set_option autoImplicit false

namespace AlertDistributor.Analysis

open AlertDistributor.Model AlertDistributor.Interface FiniteMap

/-- An entry in `unit_org` exactly for the units with a device, naming an organization
under which the unit has one. -/
def KnowsUnits (s : State) : Prop :=
  ∀ U,
    ((∃ O, s.unitOrg.lookup U = some O) ↔
      ∃ imei O, s.unitDevices.lookup imei = some (U, O)) ∧
    ∀ O, s.unitOrg.lookup U = some O → ∃ imei, s.unitDevices.lookup imei = some (U, O)

/-- The call takes the device off `U`: it deletes it or moves it to another unit. -/
def Leaves (op : WriteOp) (imei : String) (U : UnitId) : Prop :=
  op = .deleteUnitDevice imei ∨ ∃ U' O', op = .upsertUnitDevice imei U' O' ∧ U' ≠ U

/-- The call assigns a device to `U`. -/
def Assigns (op : WriteOp) (U : UnitId) : Prop :=
  ∃ imei O, op = .upsertUnitDevice imei U O

/-- The call takes the last device of `(U, O)` off `U`, which keeps a device under another
organization. -/
def ForgetsUnit (s : State) (op : WriteOp) (U : UnitId) : Prop :=
  ∃ imei O, Leaves op imei U ∧ s.unitDevices.lookup imei = some (U, O) ∧
    (∀ imei', s.unitDevices.lookup imei' = some (U, O) → imei' = imei) ∧
    ∃ imei' O', O' ≠ O ∧ s.unitDevices.lookup imei' = some (U, O')

/-! ## What one call adds -/

/-- A device that is assigned after a call was assigned by it, or before and the call does
not write it. -/
theorem device_apply_cases {s : State} (h : Indexed s) {op : WriteOp} {imei : String}
    {U : UnitId} {O : OrganizationId}
    (hd : (s.apply op).unitDevices.lookup imei = some (U, O)) :
    op = .upsertUnitDevice imei U O ∨ (s.unitDevices.lookup imei = some (U, O) ∧
      (∀ U' O', op ≠ .upsertUnitDevice imei U' O') ∧ op ≠ .deleteUnitDevice imei) := by
  cases op with
  | upsertUnitDevice imei₀ U₀ O₀ =>
    simp only [State.apply] at hd
    rw [lookup_upsertUnitDevice h] at hd
    split at hd
    · rename_i heq
      obtain ⟨rfl, rfl⟩ := Prod.mk.inj (Option.some.inj hd)
      exact Or.inl (by rw [heq])
    · rename_i hne
      refine Or.inr ⟨hd, ?_, by simp⟩
      intro U' O' heq
      exact hne (WriteOp.upsertUnitDevice.inj heq).1.symm
  | deleteUnitDevice imei₀ =>
    simp only [State.apply, State.deleteUnitDevice] at hd
    rw [lookup_unassignDevice s h] at hd
    split at hd
    · cases hd
    · rename_i hne
      refine Or.inr ⟨hd, by simp, ?_⟩
      intro heq
      exact hne (WriteOp.deleteUnitDevice.inj heq).symm
  | upsertUserDevice device =>
    obtain ⟨-, -, -, hunits, -⟩ := upsertUserDevice_frame s device
    simp only [State.apply, hunits] at hd
    exact Or.inr ⟨hd, by simp, by simp⟩
  | _ => exact Or.inr ⟨hd, by simp, by simp⟩

/-- A grant that is recorded after a call was recorded by it, or before and the call does
not write it. -/
theorem grant_apply_cases {s : State} (h : Indexed s) {op : WriteOp} {u : UserId} {U : UnitId}
    {O : OrganizationId} (hg : nestedLookup (s.apply op).userUnits u U = some O) :
    op = .upsertUserUnit O u U ∨
      (nestedLookup s.userUnits u U = some O ∧ ∀ O', op ≠ .upsertUserUnit O' u U) := by
  cases op with
  | upsertUserUnit O₀ u₀ U₀ =>
    simp only [State.apply, State.upsertUserUnit, nestedLookup_nestedInsert] at hg
    split at hg
    · rename_i heq
      obtain rfl := Option.some.inj hg
      exact Or.inl (by rw [heq.1, heq.2])
    · rename_i hne
      refine Or.inr ⟨hg, ?_⟩
      intro O' heq
      obtain ⟨-, hu, hU⟩ := WriteOp.upsertUserUnit.inj heq
      exact hne ⟨hu.symm, hU.symm⟩
  | deleteUserUnit u₀ U₀ =>
    simp only [State.apply, State.deleteUserUnit, nestedLookup_nestedErase] at hg
    split at hg
    · cases hg
    · exact Or.inr ⟨hg, by simp⟩
  | upsertUnitDevice imei U₀ O₀ =>
    have hgrants : (s.upsertUnitDevice imei U₀ O₀).userUnits = s.userUnits :=
      (unassignDevice_frame h imei).2.2.1
    simp only [State.apply, hgrants] at hg
    exact Or.inr ⟨hg, by simp⟩
  | deleteUnitDevice imei =>
    have hgrants : (s.deleteUnitDevice imei).userUnits = s.userUnits :=
      (unassignDevice_frame h imei).2.2.1
    simp only [State.apply, hgrants] at hg
    exact Or.inr ⟨hg, by simp⟩
  | upsertUserDevice device =>
    obtain ⟨-, -, hgrants, -, -⟩ := upsertUserDevice_frame s device
    simp only [State.apply, hgrants] at hg
    exact Or.inr ⟨hg, by simp⟩
  | _ => exact Or.inr ⟨hg, by simp⟩

/-! ## What one step does to the entry of a unit -/

/-- A device is alone when every device of its pair is it. -/
theorem deviceCount_eq_one_iff {s : State} {imei : String} {U : UnitId} {O : OrganizationId}
    (hd : s.unitDevices.lookup imei = some (U, O)) :
    deviceCount s O U = 1 ↔
      ∀ imei', s.unitDevices.lookup imei' = some (U, O) → imei' = imei :=
  countValue_eq_one_iff hd

/-- The last device of a pair takes the entry of the unit with it. -/
theorem unitOrg_unassignDevice {s : State} (h : Indexed s) {imei : String} {U : UnitId}
    {O : OrganizationId} (hd : s.unitDevices.lookup imei = some (U, O)) (V : UnitId) :
    (s.unassignDevice imei).unitOrg.lookup V =
      if V = U ∧ deviceCount s O U = 1 then none else s.unitOrg.lookup V := by
  rw [unassignDevice_eq h hd]
  dsimp only
  by_cases hlast : deviceCount s O U = 1
  · rw [if_pos hlast, lookup_erase_ite]
    simp only [hlast, and_true]
  · rw [if_neg hlast, if_neg fun hboth => hlast hboth.2]

/-- An assignment writes the entry of its unit. -/
theorem unitOrg_upsertUnitDevice (s : State) (imei : String) (U V : UnitId)
    (O : OrganizationId) :
    (s.upsertUnitDevice imei U O).unitOrg.lookup V =
      if V = U then some O else (s.unassignDevice imei).unitOrg.lookup V := by
  rw [State.upsertUnitDevice, lookup_insert_ite]

/-- On an indexed state, knowing the units is having an entry for each unit with a device. -/
theorem knowsUnits_iff {s : State} (h : Indexed s) :
    KnowsUnits s ↔
      ∀ U imei O, s.unitDevices.lookup imei = some (U, O) → ∃ O', s.unitOrg.lookup U = some O' := by
  have hsound : ∀ U O, s.unitOrg.lookup U = some O →
      ∃ imei, s.unitDevices.lookup imei = some (U, O) :=
    fun U O hentry => (deviceCount_pos_iff s O U).mp (h.unitOrg_device U O hentry)
  constructor
  · intro hknows U imei O hd
    exact (hknows U).1.mpr ⟨imei, O, hd⟩
  · intro hentry U
    refine ⟨⟨?_, ?_⟩, hsound U⟩
    · rintro ⟨O, hO⟩
      obtain ⟨imei, hd⟩ := hsound U O hO
      exact ⟨imei, O, hd⟩
    · rintro ⟨imei, O, hd⟩
      exact hentry U imei O hd

/-- Taking a device off keeps the entry of a unit that keeps another one, unless it was
the last of its pair. -/
theorem unitOrg_unassignDevice_of_kept {s : State} (h : Indexed s) {imei imei' : String}
    {U : UnitId} {O : OrganizationId} (hd : s.unitDevices.lookup imei' = some (U, O))
    (hne : imei' ≠ imei)
    (hgood : ∀ O₀, s.unitDevices.lookup imei = some (U, O₀) → O ≠ O₀ →
      deviceCount s O₀ U ≠ 1) :
    (s.unassignDevice imei).unitOrg.lookup U = s.unitOrg.lookup U := by
  cases hassigned : s.unitDevices.lookup imei with
  | none => rw [unassignDevice_of_none hassigned]
  | some p =>
    obtain ⟨U₀, O₀⟩ := p
    rw [unitOrg_unassignDevice h hassigned]
    refine if_neg ?_
    rintro ⟨rfl, hone⟩
    have hother : O ≠ O₀ := by
      rintro rfl
      exact hne ((deviceCount_eq_one_iff hassigned).mp hone imei' hd)
    exact hgood O₀ hassigned hother hone

/-- A call that neither forgets `U` nor assigns a device to it leaves the entry of `U`
alone, as long as `U` has a device afterwards. -/
theorem unitOrg_apply_of_not_forgets {s : State} (h : Indexed s) {op : WriteOp} {U : UnitId}
    (hgood : ¬ ForgetsUnit s op U) (hassigns : ¬ Assigns op U) {imei : String}
    {O : OrganizationId} (hd : (s.apply op).unitDevices.lookup imei = some (U, O)) :
    (s.apply op).unitOrg.lookup U = s.unitOrg.lookup U := by
  -- a device of `U` that the call does not move keeps the entry alive
  have hkept : ∀ imei₀, Leaves op imei₀ U → imei ≠ imei₀ →
      s.unitDevices.lookup imei = some (U, O) →
      (s.unassignDevice imei₀).unitOrg.lookup U = s.unitOrg.lookup U := by
    intro imei₀ hleaves hne hold
    refine unitOrg_unassignDevice_of_kept h hold hne ?_
    intro O₀ hassigned hother hone
    exact hgood ⟨imei₀, O₀, hleaves, hassigned, (deviceCount_eq_one_iff hassigned).mp hone,
      imei, O, hother, hold⟩
  obtain rfl | ⟨hold, hnotUpsert, hnotDelete⟩ := device_apply_cases h hd
  · exact absurd ⟨imei, O, rfl⟩ hassigns
  cases op with
  | upsertUnitDevice imei₀ U₁ O₁ =>
    have hU : U ≠ U₁ := by
      rintro rfl
      exact hassigns ⟨imei₀, O₁, rfl⟩
    have hne : imei ≠ imei₀ := by
      rintro rfl
      exact hnotUpsert U₁ O₁ rfl
    simp only [State.apply]
    rw [unitOrg_upsertUnitDevice, if_neg hU]
    exact hkept imei₀ (Or.inr ⟨U₁, O₁, rfl, Ne.symm hU⟩) hne hold
  | deleteUnitDevice imei₀ =>
    have hne : imei ≠ imei₀ := by
      rintro rfl
      exact hnotDelete rfl
    exact hkept imei₀ (Or.inl rfl) hne hold
  | upsertUserDevice device =>
    obtain ⟨-, -, -, -, hentries⟩ := upsertUserDevice_frame s device
    simp only [State.apply, hentries]
  | _ => rfl

/-- A call that assigns a device to `U` gives `U` an entry. -/
theorem unitOrg_apply_of_assigns (s : State) {op : WriteOp} {U : UnitId}
    (hassigns : Assigns op U) : ∃ O, (s.apply op).unitOrg.lookup U = some O := by
  obtain ⟨imei, O, rfl⟩ := hassigns
  refine ⟨O, ?_⟩
  simp only [State.apply]
  rw [unitOrg_upsertUnitDevice, if_pos rfl]

/-- A device of `U` after a call that assigns none to it was there before. -/
theorem device_of_not_assigns {s : State} (h : Indexed s) {op : WriteOp} {U : UnitId}
    (hassigns : ¬ Assigns op U) {imei : String} {O : OrganizationId}
    (hd : (s.apply op).unitDevices.lookup imei = some (U, O)) :
    s.unitDevices.lookup imei = some (U, O) := by
  obtain rfl | ⟨hold, -⟩ := device_apply_cases h hd
  · exact absurd ⟨imei, O, rfl⟩ hassigns
  · exact hold

/-- A call that forgets a unit leaves it with a device and without an entry. -/
theorem entry_apply_of_forgets {s : State} (h : Indexed s) {op : WriteOp} {U : UnitId}
    (hbad : ForgetsUnit s op U) :
    (∃ imei O, (s.apply op).unitDevices.lookup imei = some (U, O)) ∧
      (s.apply op).unitOrg.lookup U = none := by
  obtain ⟨imei, O, hleaves, hd, hlast, imei', O', hother, hd'⟩ := hbad
  have hne : imei' ≠ imei := by
    rintro rfl
    rw [hd] at hd'
    exact hother (congrArg Prod.snd (Option.some.inj hd')).symm
  have hdropped : (s.unassignDevice imei).unitOrg.lookup U = none := by
    rw [unitOrg_unassignDevice h hd, if_pos ⟨rfl, (deviceCount_eq_one_iff hd).mpr hlast⟩]
  rcases hleaves with rfl | ⟨U₁, O₁, rfl, hU⟩
  · refine ⟨⟨imei', O', ?_⟩, hdropped⟩
    simp only [State.apply, State.deleteUnitDevice]
    rw [lookup_unassignDevice s h, if_neg hne, hd']
  · refine ⟨⟨imei', O', ?_⟩, ?_⟩
    · simp only [State.apply]
      rw [lookup_upsertUnitDevice h, if_neg hne, hd']
    · simp only [State.apply]
      rw [unitOrg_upsertUnitDevice, if_neg (Ne.symm hU), hdropped]

/-- One step keeps the invariant exactly when it forgets no unit. -/
theorem knowsUnits_apply_iff {s : State} (h : Indexed s) (hknows : KnowsUnits s)
    (op : WriteOp) : KnowsUnits (s.apply op) ↔ ¬ ∃ U, ForgetsUnit s op U := by
  rw [knowsUnits_iff (indexed_apply h op)]
  constructor
  · rintro hnext ⟨U, hbad⟩
    obtain ⟨⟨imei, O, hd⟩, hnone⟩ := entry_apply_of_forgets h hbad
    obtain ⟨O', hO'⟩ := hnext U imei O hd
    rw [hnone] at hO'
    cases hO'
  · intro hgood U imei O hd
    by_cases hassigns : Assigns op U
    · exact unitOrg_apply_of_assigns s hassigns
    · rw [unitOrg_apply_of_not_forgets h (fun hbad => hgood ⟨U, hbad⟩) hassigns hd]
      exact (knowsUnits_iff h).mp hknows U imei O (device_of_not_assigns h hassigns hd)

/-- The empty cache has no device. -/
theorem knowsUnits_default : KnowsUnits State.default := by
  intro U
  simp [State.default]

/-- **A run knows its units in every state it reaches exactly when no call of it takes the
last device of a (unit, organization) pair off a unit that keeps a device under another
organization.**
SRC: permissions/cache.rs:73-89, 253-277 -/
theorem knows_units_iff (ops : List WriteOp) :
    (∀ pre post, ops = pre ++ post → KnowsUnits (State.run pre)) ↔
      ∀ pre op post, ops = pre ++ op :: post → ¬ ∃ U, ForgetsUnit (State.run pre) op U :=
  Runs.forall_prefix_iff indexed_default knowsUnits_default
    (fun _ op h => indexed_apply h op)
    (fun _ op h hknows => knowsUnits_apply_iff h hknows op) ops

/-- A unit of two organizations, forgotten when the device of the first one is deleted:
device `b` is still assigned to it. -/
theorem knows_units_fails :
    ¬ KnowsUnits (State.run
      [.upsertUnitDevice "a" 1 10, .upsertUnitDevice "b" 1 20, .deleteUnitDevice "a"]) := by
  intro hknows
  obtain ⟨O, hO⟩ := (hknows 1).1.mpr ⟨"b", 20, by decide⟩
  have hnone : (State.run [.upsertUnitDevice "a" 1 10, .upsertUnitDevice "b" 1 20,
      .deleteUnitDevice "a"]).unitOrg.lookup 1 = none := by decide
  rw [hnone] at hO
  cases hO

/-! ## Which units a run leaves forgotten -/

/-- Some call of the run forgets `U` and no later call assigns a device to it. -/
def EndsForgotten (ops : List WriteOp) (U : UnitId) : Prop :=
  ∃ pre op post, ops = pre ++ op :: post ∧ ForgetsUnit (State.run pre) op U ∧
    ∀ op' ∈ post, ¬ Assigns op' U

/-- The last call forgets the unit, or it was forgotten before and is not assigned again. -/
theorem endsForgotten_concat (ops : List WriteOp) (op : WriteOp) (U : UnitId) :
    EndsForgotten (ops ++ [op]) U ↔
      ForgetsUnit (State.run ops) op U ∨ (EndsForgotten ops U ∧ ¬ Assigns op U) := by
  constructor
  · rintro ⟨pre, op', post, heq, hbad, hpost⟩
    obtain ⟨rfl, rfl, -⟩ | ⟨rest, rfl, hops⟩ := Runs.concat_eq_append_cons_iff.mp heq
    · exact Or.inl hbad
    · have hrest : ∀ op'' ∈ rest, ¬ Assigns op'' U :=
        fun op'' hmem => hpost op'' (List.mem_append_left _ hmem)
      have hlast : ¬ Assigns op U := hpost op (List.mem_append_right _ (List.mem_singleton_self _))
      exact Or.inr ⟨⟨pre, op', rest, hops, hbad, hrest⟩, hlast⟩
  · rintro (hbad | ⟨⟨pre, op', post, rfl, hbad, hpost⟩, hlast⟩)
    · exact ⟨ops, op, [], rfl, hbad, by simp⟩
    · refine ⟨pre, op', post ++ [op], by simp, hbad, ?_⟩
      intro op'' hmem
      rcases List.mem_append.mp hmem with hmem | hmem
      · exact hpost op'' hmem
      · obtain rfl := List.mem_singleton.mp hmem
        exact hlast

/-- **A unit with a device has no entry exactly when the run leaves it forgotten.** -/
theorem unitOrg_eq_none_iff_endsForgotten (ops : List WriteOp) {U : UnitId} {imei : String}
    {O : OrganizationId} (hd : (State.run ops).unitDevices.lookup imei = some (U, O)) :
    (State.run ops).unitOrg.lookup U = none ↔ EndsForgotten ops U := by
  induction ops using List.reverseRecOn generalizing imei O with
  | nil => simp [State.run, State.runFrom, State.default] at hd
  | append_singleton ops op ih =>
    have h := indexed_run ops
    rw [endsForgotten_concat]
    rw [State.run_concat] at hd ⊢
    by_cases hbad : ForgetsUnit (State.run ops) op U
    · simp only [hbad, true_or, iff_true]
      exact (entry_apply_of_forgets h hbad).2
    · by_cases hassigns : Assigns op U
      · obtain ⟨O', hO'⟩ := unitOrg_apply_of_assigns (State.run ops) hassigns
        simp [hbad, hassigns, hO']
      · rw [unitOrg_apply_of_not_forgets h hbad hassigns hd]
        simp only [hbad, hassigns, false_or, not_false_eq_true, and_true]
        exact ih (device_of_not_assigns h hassigns hd)

end AlertDistributor.Analysis
