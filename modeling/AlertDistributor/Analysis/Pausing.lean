import AlertDistributor.Analysis.CacheTables

/-!
# Pausing and resuming

Access needs two switches: the user is active, and the membership is.  Turning either one
off cuts the recipient queries at once, and turning it on again gives back what the queries
would have answered without the pause, whatever other operations came in between.  The
second part is a commutation: a write of the user, or of the membership, commutes with
every operation that writes another key (`apply_applyUser`, `apply_upsertMembership`),
so the pause can be moved to the end of the run, next to the write that ends it.
-/

set_option autoImplicit false

namespace AlertDistributor.Analysis

open AlertDistributor.Model AlertDistributor.Interface FiniteMap LastWrite

/-! ## The two switches and the other maps -/

/-- The state with other users and memberships. -/
def withSwitches (s : State) (userActive : HashMap UserId Bool)
    (memberships : HashMap OrganizationId (HashMap UserId Membership)) : State :=
  { s with userActive := userActive, memberships := memberships }

/-- The indexes do not depend on the switches. -/
theorem indexed_withSwitches {s : State} (h : Indexed s) (userActive : HashMap UserId Bool)
    {memberships : HashMap OrganizationId (HashMap UserId Membership)}
    (hpruned : Pruned memberships) : Indexed (withSwitches s userActive memberships) :=
  { h with memberships_pruned := hpruned }

/-- Taking a device off its unit does not look at the switches. -/
theorem unassignDevice_withSwitches {s : State} (h : Indexed s)
    (userActive : HashMap UserId Bool)
    {memberships : HashMap OrganizationId (HashMap UserId Membership)}
    (hpruned : Pruned memberships) (imei : String) :
    (withSwitches s userActive memberships).unassignDevice imei =
      withSwitches (s.unassignDevice imei) userActive memberships := by
  have h' := indexed_withSwitches h userActive hpruned
  cases hd : s.unitDevices.lookup imei with
  | none =>
    have hd' : (withSwitches s userActive memberships).unitDevices.lookup imei = none := hd
    rw [unassignDevice_of_none hd, unassignDevice_of_none hd']
  | some p =>
    have hd' : (withSwitches s userActive memberships).unitDevices.lookup imei = some p := hd
    rw [unassignDevice_eq h hd, unassignDevice_eq h' hd']
    rfl

/-- Neither does storing a mobile device. -/
theorem upsertUserDevice_withSwitches (s : State) (userActive : HashMap UserId Bool)
    (memberships : HashMap OrganizationId (HashMap UserId Membership)) (device : UserDevice) :
    (withSwitches s userActive memberships).upsertUserDevice device =
      withSwitches (s.upsertUserDevice device) userActive memberships := by
  unfold State.upsertUserDevice withSwitches
  dsimp only
  split <;> rfl

/-- An operation that writes neither a user nor a membership. -/
theorem apply_withSwitches {s : State} (h : Indexed s) (userActive : HashMap UserId Bool)
    {memberships : HashMap OrganizationId (HashMap UserId Membership)}
    (hpruned : Pruned memberships) {op : WriteOp} (huser : userWrite op = none)
    (hmembership : membershipWrite op = none) :
    (withSwitches s userActive memberships).apply op =
      withSwitches (s.apply op) userActive memberships := by
  cases op with
  | applyUser u status => cases huser
  | upsertMembership O u role status => cases hmembership
  | deleteMembership O u => cases hmembership
  | upsertUserUnit O u U => rfl
  | deleteUserUnit u U => rfl
  | upsertUnitDevice imei U O =>
    simp only [State.apply, State.upsertUnitDevice,
      unassignDevice_withSwitches h userActive hpruned]
    rfl
  | deleteUnitDevice imei =>
    simp only [State.apply, State.deleteUnitDevice,
      unassignDevice_withSwitches h userActive hpruned]
  | upsertUserDevice device =>
    simp only [State.apply, upsertUserDevice_withSwitches]
  | deactivateDevice id => rfl

/-! ## A switch commutes with the operations on other keys -/

/-- An operation that writes neither a user nor a membership leaves both maps alone. -/
theorem switches_apply {s : State} (h : Indexed s) {op : WriteOp} (huser : userWrite op = none)
    (hmembership : membershipWrite op = none) :
    (s.apply op).userActive = s.userActive ∧ (s.apply op).memberships = s.memberships := by
  have hswitches := apply_withSwitches h s.userActive h.memberships_pruned huser hmembership
  have hself : withSwitches s s.userActive s.memberships = s := rfl
  rw [hself] at hswitches
  rw [hswitches]
  exact ⟨rfl, rfl⟩

/-- A status commutes with every operation that does not write the user. -/
theorem apply_applyUser {s : State} (h : Indexed s) {u : UserId} {op : WriteOp}
    (hop : ∀ w, userWrite op = some w → w.key ≠ u) (status : String) :
    (s.applyUser u status).apply op = (s.apply op).applyUser u status := by
  have hother : userWrite op = none → membershipWrite op = none →
      (s.applyUser u status).apply op = (s.apply op).applyUser u status := by
    intro huser hmembership
    obtain ⟨husers, hmembers⟩ := switches_apply h huser hmembership
    have hswitches := apply_withSwitches h (s.userActive.insert u (status = ACTIVE))
      h.memberships_pruned huser hmembership
    calc (s.applyUser u status).apply op
        = withSwitches (s.apply op) (s.userActive.insert u (status = ACTIVE)) s.memberships :=
          hswitches
      _ = (s.apply op).applyUser u status := by
          rw [State.applyUser, husers, ← hmembers]
          rfl
  cases op with
  | applyUser v status' =>
    have hne : v ≠ u := hop ⟨v, some status'⟩ rfl
    simp only [State.apply, State.applyUser, Finmap.insert_insert_of_ne _ hne.symm]
  | upsertMembership O v role status' => rfl
  | deleteMembership O v => rfl
  | _ => exact hother rfl rfl

/-- A membership commutes with every operation that does not write it. -/
theorem apply_upsertMembership {s : State} (h : Indexed s) {O : OrganizationId} {u : UserId}
    {op : WriteOp} (hop : ∀ w, membershipWrite op = some w → w.key ≠ (O, u))
    (role status : String) :
    (s.upsertMembership O u role status).apply op =
      (s.apply op).upsertMembership O u role status := by
  have hother : userWrite op = none → membershipWrite op = none →
      (s.upsertMembership O u role status).apply op =
        (s.apply op).upsertMembership O u role status := by
    intro huser hmembership
    obtain ⟨husers, hmembers⟩ := switches_apply h huser hmembership
    have hpruned : Pruned (nestedInsert s.memberships O u
        (⟨role = OWNER, status = ACTIVE⟩ : Membership)) :=
      h.memberships_pruned.nestedInsert O u _
    have hswitches := apply_withSwitches h s.userActive hpruned huser hmembership
    calc (s.upsertMembership O u role status).apply op
        = withSwitches (s.apply op) s.userActive
            (nestedInsert s.memberships O u ⟨role = OWNER, status = ACTIVE⟩) := hswitches
      _ = (s.apply op).upsertMembership O u role status := by
          rw [State.upsertMembership, hmembers, ← husers]
          rfl
  cases op with
  | applyUser v status' => rfl
  | upsertMembership O' v role' status' =>
    have hne : (O', v) ≠ (O, u) := hop ⟨(O', v), some (role', status')⟩ rfl
    simp only [State.apply, State.upsertMembership,
      nestedInsert_comm h.memberships_pruned hne.symm]
  | deleteMembership O' v =>
    have hne : (O', v) ≠ (O, u) := hop ⟨(O', v), none⟩ rfl
    simp only [State.apply, State.upsertMembership, State.deleteMembership,
      nestedErase_nestedInsert_comm h.memberships_pruned hne.symm]
  | _ => exact hother rfl rfl

/-- One of the two switches that decide access. -/
inductive Switch where
  | user (userId : UserId)
  | membership (organizationId : OrganizationId) (userId : UserId) (role : String)

namespace Switch

/-- The operation that sets the switch. -/
def write (status : String) : Switch → WriteOp
  | .user u => .applyUser u status
  | .membership O u role => .upsertMembership O u role status

/-- The user is active, or the membership exists with the role and is. -/
def On (s : State) : Switch → Prop
  | .user u => s.userIsActive u = true
  | .membership O u role => nestedLookup s.memberships O u = some ⟨role = OWNER, true⟩

/-- The operation does not write the user, or the membership. -/
def Spares (op : WriteOp) : Switch → Prop
  | .user u => ∀ w, userWrite op = some w → w.key ≠ u
  | .membership O u _ => ∀ w, membershipWrite op = some w → w.key ≠ (O, u)

/-- The switch decides the access of the pair. -/
def Decides (O : OrganizationId) (u : UserId) : Switch → Prop
  | .user v => u = v
  | .membership O' v _ => O = O' ∧ u = v

/-- No query lets a pair of the switch through. -/
def Cut (s : State) (sw : Switch) : Prop :=
  ∀ O u, sw.Decides O u → (∀ U, toLex (O, u) ∉ s.usersForUnit U) ∧ s.unitsFor O u = []

/-- **A switch commutes with the operations that spare it.** -/
theorem apply_write {s : State} (h : Indexed s) {sw : Switch} {op : WriteOp}
    (hop : sw.Spares op) (status : String) :
    (s.apply (sw.write status)).apply op = (s.apply op).apply (sw.write status) := by
  cases sw with
  | user u => exact apply_applyUser h hop status
  | membership O u role => exact apply_upsertMembership h hop role status

/-- So it can be moved to the end of the run. -/
theorem runFrom_write {s : State} (h : Indexed s) {sw : Switch} {ws : List WriteOp}
    (hws : ∀ op ∈ ws, sw.Spares op) (status : String) :
    (s.apply (sw.write status)).runFrom ws = (s.runFrom ws).apply (sw.write status) := by
  induction ws generalizing s with
  | nil => rfl
  | cons op ws ih =>
    have hop : sw.Spares op := hws op List.mem_cons_self
    have hrest : ∀ op ∈ ws, sw.Spares op :=
      fun op' hop' => hws op' (List.mem_cons_of_mem op hop')
    calc (s.apply (sw.write status)).runFrom (op :: ws)
        = ((s.apply (sw.write status)).apply op).runFrom ws := rfl
      _ = ((s.apply op).apply (sw.write status)).runFrom ws := by rw [apply_write h hop]
      _ = ((s.apply op).runFrom ws).apply (sw.write status) := ih (indexed_apply h op) hrest

/-- An operation that spares the switch leaves it as it is. -/
theorem on_run_append {sw : Switch} {ops ws : List WriteOp} (hon : sw.On (State.run ops))
    (hws : ∀ op ∈ ws, sw.Spares op) : sw.On (State.run (ops ++ ws)) := by
  have hbefore := represents_run ops
  have hafter := represents_runFrom (indexed_run ops) hbefore ws
  rw [State.run_append]
  cases sw with
  | user u =>
    have hfree : ∀ w ∈ ws.filterMap userWrite, w.key ≠ u := by
      intro w hw
      obtain ⟨op, hop, hwrite⟩ := List.mem_filterMap.mp hw
      exact hws op hop w hwrite
    have hsame : (Tables.replayOps (Tables.ofOps ops) ws).users u = (Tables.ofOps ops).users u :=
      replay_apply_of_free _ hfree
    show State.userIsActive _ u = true
    rw [State.userIsActive, hafter.userActive, hsame, ← hbefore.userActive]
    exact hon
  | membership O u role =>
    have hfree : ∀ w ∈ ws.filterMap membershipWrite, w.key ≠ (O, u) := by
      intro w hw
      obtain ⟨op, hop, hwrite⟩ := List.mem_filterMap.mp hw
      exact hws op hop w hwrite
    have hsame : (Tables.replayOps (Tables.ofOps ops) ws).memberships (O, u) =
        (Tables.ofOps ops).memberships (O, u) := replay_apply_of_free _ hfree
    show nestedLookup _ O u = _
    rw [hafter.memberships, hsame, ← hbefore.memberships]
    exact hon

/-! ## The queries while a switch is off -/

/-- A switch that is off leaves no active membership. -/
theorem activeMembership_write (s : State) {sw : Switch} {status : String}
    (hpaused : status ≠ ACTIVE) {O : OrganizationId} {u : UserId} (hpair : sw.Decides O u) :
    (s.apply (sw.write status)).activeMembership O u = none := by
  have hstatus : decide (status = ACTIVE) = false := decide_eq_false hpaused
  cases sw with
  | user v =>
    obtain rfl : u = v := hpair
    have huser : (s.applyUser u status).userIsActive u = false := by
      simp [State.userIsActive, State.applyUser, hstatus]
    show (s.applyUser u status).activeMembership O u = none
    rw [State.activeMembership, Option.filter_eq_none_iff]
    intro m _
    simp [huser]
  | membership O' v role =>
    obtain ⟨rfl, rfl⟩ : O = O' ∧ u = v := hpair
    have hmember : nestedLookup (s.upsertMembership O u role status).memberships O u =
        some ⟨role = OWNER, false⟩ := by
      simp [State.upsertMembership, nestedLookup_nestedInsert, hstatus]
    show (s.upsertMembership O u role status).activeMembership O u = none
    rw [State.activeMembership, Option.filter_eq_none_iff]
    intro m hm
    obtain rfl := Option.some.inj (hmember.symm.trans hm)
    simp

/-- **A switch that is off cuts its pairs.** -/
theorem cut_write {s : State} (h : Indexed s) {sw : Switch} {status : String}
    (hpaused : status ≠ ACTIVE) : sw.Cut (s.apply (sw.write status)) := by
  intro O u hpair
  have hnone := activeMembership_write s hpaused hpair
  constructor
  · intro U hmem
    obtain ⟨-, m, hm, -⟩ := (mem_usersForUnit_iff (indexed_apply h _) O u U).mp hmem
    rw [hnone] at hm
    cases hm
  · rw [State.unitsFor, hnone]

end Switch

/-- The queries answer the same lists. -/
structure EqualAnswers (s s' : State) : Prop where
  usersForUnit : ∀ U, s.usersForUnit U = s'.usersForUnit U
  unitsFor : ∀ O u, s.unitsFor O u = s'.unitsFor O u
  devicesFor : ∀ u, s.devicesFor u = s'.devicesFor u

/-- Recording a user as active who counts as active anyway. -/
theorem equalAnswers_applyUser {s : State} {u : UserId} (h : s.userIsActive u = true) :
    EqualAnswers (s.applyUser u ACTIVE) s := by
  have hsame : ∀ v, (s.applyUser u ACTIVE).userIsActive v = s.userIsActive v := by
    intro v
    by_cases hv : v = u
    · subst hv
      rw [h]
      simp [State.userIsActive, State.applyUser]
    · simp [State.userIsActive, State.applyUser, hv]
  have hactive : ∀ O v, (s.applyUser u ACTIVE).activeMembership O v = s.activeMembership O v := by
    intro O v
    simp only [State.activeMembership, hsame]
    rfl
  have howners : ∀ O, (s.applyUser u ACTIVE).activeOwners O = s.activeOwners O := by
    intro O
    ext v
    rw [mem_activeOwners, mem_activeOwners, hactive]
  have hgranted : ∀ O U, (s.applyUser u ACTIVE).activeGranted O U = s.activeGranted O U := by
    intro O U
    ext v
    rw [mem_activeGranted, mem_activeGranted, hactive]
    rfl
  refine ⟨?_, ?_, fun v => rfl⟩
  · intro U
    simp only [State.usersForUnit, howners, hgranted]
    rfl
  · intro O v
    simp only [State.unitsFor, hactive]
    rfl

/-- Switching on again after a pause answers what the state without the pause answers. -/
theorem equalAnswers_resume {s : State} (h : Indexed s) {sw : Switch} (hon : sw.On s)
    (status : String) :
    EqualAnswers ((s.apply (sw.write status)).apply (sw.write ACTIVE)) s := by
  cases sw with
  | user u =>
    have htwice : (s.applyUser u status).applyUser u ACTIVE = s.applyUser u ACTIVE := by
      simp only [State.applyUser, Finmap.insert_insert]
    show EqualAnswers ((s.applyUser u status).applyUser u ACTIVE) s
    rw [htwice]
    exact equalAnswers_applyUser hon
  | membership O u role =>
    have hrow : nestedLookup s.memberships O u = some ⟨role = OWNER, true⟩ := hon
    have htwice : nestedInsert (nestedInsert s.memberships O u ⟨role = OWNER, status = ACTIVE⟩)
        O u (⟨role = OWNER, ACTIVE = ACTIVE⟩ : Membership) = s.memberships := by
      rw [nestedInsert_nestedInsert h.memberships_pruned]
      exact nestedInsert_eq_self h.memberships_pruned (by simpa using hrow)
    have hself : (s.upsertMembership O u role status).upsertMembership O u role ACTIVE = s := by
      unfold State.upsertMembership
      dsimp only
      rw [htwice]
    show EqualAnswers ((s.upsertMembership O u role status).upsertMembership O u role ACTIVE) s
    rw [hself]
    exact ⟨fun _ => rfl, fun _ _ => rfl, fun _ => rfl⟩

/-- **Pausing cuts everything and resuming gives everything back.**  In a reachable state
where the user is active, or the membership is, write another status to it, then any
operations that do not write it: after each of them no query lets its pairs through.  Then
write `ACTIVE`: every query answers what it answers after the same operations without the
pause.
SRC: permissions/cache.rs:61-162, 186-220, docs/eventos-de-control.md:29-32 -/
theorem pause_resume (ops ws : List WriteOp) (sw : Switch) (status : String)
    (hon : sw.On (State.run ops)) (hpaused : status ≠ ACTIVE)
    (hws : ∀ op ∈ ws, sw.Spares op) :
    (∀ pre post, ws = pre ++ post → sw.Cut (State.run (ops ++ sw.write status :: pre))) ∧
      EqualAnswers (State.run (ops ++ sw.write status :: (ws ++ [sw.write ACTIVE])))
        (State.run (ops ++ ws)) := by
  have hmoved : ∀ pre, (∀ op ∈ pre, sw.Spares op) →
      State.run (ops ++ sw.write status :: pre) =
        (State.run (ops ++ pre)).apply (sw.write status) := by
    intro pre hpre
    rw [State.run_append, State.run_append]
    exact Switch.runFrom_write (indexed_run ops) hpre status
  constructor
  · rintro pre post rfl
    rw [hmoved pre fun op hop => hws op (List.mem_append_left post hop)]
    exact Switch.cut_write (indexed_run _) hpaused
  · rw [← List.cons_append, ← List.append_assoc, State.run_concat, hmoved ws hws]
    exact equalAnswers_resume (indexed_run _) (Switch.on_run_append hon hws) status

/-- User 5 is an owner of organization 10, whose unit 1 has a device. -/
def teamOps : List WriteOp :=
  [.upsertMembership 10 5 "owner" "ACTIVE", .upsertUnitDevice "a" 1 10]

/-- The device goes, and unit 2 gets one. -/
def refitOps : List WriteOp :=
  [.deleteUnitDevice "a", .upsertUnitDevice "b" 2 10]

/-- What an owner sees of the only unit of the organization. -/
theorem unitsFor_of_owner {s : State} {O : OrganizationId} {u : UserId} {U : UnitId}
    (hactive : s.activeMembership O u = some ⟨true, true⟩) (howner : s.ownerUnits O = {U}) :
    s.unitsFor O u = [U] := by
  unfold State.unitsFor
  rw [hactive]
  simp only [if_true, howner, Finset.sort_singleton]

/-- Before the pause the owner sees unit 1. -/
theorem unitsFor_teamOps : (State.run teamOps).unitsFor 10 5 = [1] :=
  unitsFor_of_owner (by decide) (by decide)

/-- Without the pause he sees unit 2 after the refit. -/
theorem unitsFor_refitOps : (State.run (teamOps ++ refitOps)).unitsFor 10 5 = [2] :=
  unitsFor_of_owner (by decide) (by decide)

/-- Nothing of the refit writes a user or a membership. -/
theorem spares_refitOps (sw : Switch) : ∀ op ∈ refitOps, sw.Spares op := by
  intro op hop
  obtain rfl | rfl : op = .deleteUnitDevice "a" ∨ op = .upsertUnitDevice "b" 2 10 := by
    simpa [refitOps] using hop
  all_goals
    cases sw with
    | user u => intro w hw; cases hw
    | membership O u role => intro w hw; cases hw

/-- The owner sees unit 1, is paused, by either switch, while the unit is refitted, sees
nothing meanwhile and afterwards unit 2, as without the pause. -/
theorem pause_resume_owner :
    (State.run teamOps).unitsFor 10 5 = [1] ∧
    ∀ sw ∈ [Switch.user 5, Switch.membership 10 5 "owner"],
      sw.Cut (State.run (teamOps ++ sw.write "INACTIVE" :: refitOps)) ∧
      (State.run (teamOps ++ sw.write "INACTIVE" :: (refitOps ++ [sw.write ACTIVE]))).unitsFor
        10 5 = [2] := by
  refine ⟨unitsFor_teamOps, fun sw hsw => ?_⟩
  have hon : sw.On (State.run teamOps) := by
    obtain rfl | rfl : sw = .user 5 ∨ sw = .membership 10 5 "owner" := by simpa using hsw
    · show State.userIsActive _ 5 = true
      decide
    · show nestedLookup _ 10 5 = _
      decide
  have hpause := pause_resume teamOps refitOps sw "INACTIVE" hon (by decide) (spares_refitOps sw)
  refine ⟨hpause.1 refitOps [] (List.append_nil _).symm, ?_⟩
  rw [hpause.2.unitsFor]
  exact unitsFor_refitOps

end AlertDistributor.Analysis
