import AlertDistributor.Analysis.Answers
import AlertDistributor.Interface.Snapshot

/-!
# Snapshot and replay

At start-up the service loads the five views and then replays the log from a position
noted before the first query.  The views may be later than that position, each by its own
amount, so part of the log is applied twice.  Nothing shows it (`reload_tables`): the cache
answers and counts as if it had applied the whole log once.
-/

set_option autoImplicit false

namespace AlertDistributor.Analysis

open AlertDistributor.Model AlertDistributor.Interface FiniteMap LastWrite

/-! ## What the snapshot writes to each table -/

section Writes

variable (views : Views)

/-- The users that a snapshot writes are those of its view. -/
theorem snapshotOps_userWrite : (snapshotOps views).filterMap userWrite =
    (views.users.map userEntry).map fun r => ⟨r.1, some r.2⟩ := by
  simp [snapshotOps, List.filterMap_append, List.filterMap_map, Function.comp_def, userWrite,
    userEntry]

/-- So are the memberships. -/
theorem snapshotOps_membershipWrite : (snapshotOps views).filterMap membershipWrite =
    (views.organizationUsers.map membershipEntry).map fun r => ⟨r.1, some r.2⟩ := by
  simp [snapshotOps, List.filterMap_append, List.filterMap_map, Function.comp_def,
    membershipWrite, membershipEntry]

/-- So are the grants. -/
theorem snapshotOps_userUnitWrite : (snapshotOps views).filterMap userUnitWrite =
    (views.userUnits.map userUnitEntry).map fun r => ⟨r.1, some r.2⟩ := by
  simp [snapshotOps, List.filterMap_append, List.filterMap_map, Function.comp_def,
    userUnitWrite, userUnitEntry]

/-- So are the devices of the units. -/
theorem snapshotOps_unitDeviceWrite : (snapshotOps views).filterMap unitDeviceWrite =
    (views.unitDevices.map unitDeviceEntry).map fun r => ⟨r.1, some r.2⟩ := by
  simp [snapshotOps, List.filterMap_append, List.filterMap_map, Function.comp_def,
    unitDeviceWrite, unitDeviceEntry]

/-- The last query leaves out the rows that are not active. -/
theorem snapshotOps_userDeviceWrite : (snapshotOps views).filterMap userDeviceWrite =
    ((views.userDevices.map userDeviceEntry).filter fun r => r.2.isActive).map
      fun r => ⟨r.1, some r.2⟩ := by
  simp [snapshotOps, List.filterMap_append, List.filterMap_map, Function.comp_def,
    userDeviceWrite, userDeviceEntry, List.filter_map, UserDeviceRow.device]

end Writes

/-! ## The tables after snapshot and replay -/

section Reload

variable {Payload Value : Type} {decoder : Decoder Payload Value} {log : List Payload}
  {views : Views} {j k₁ k₂ k₃ k₄ k₅ : ℕ}

/-- The writes of a restart: the snapshot, then the log from `j` on. -/
def reloadOps (decoder : Decoder Payload Value) (log : List Payload) (views : Views) (j : ℕ) :
    List WriteOp :=
  snapshotOps views ++ (decodeEvents decoder (log.drop j)).map Event.op

/-- A reload is a run of the rows and then of the replayed events. -/
theorem reload_eq_run (decoder : Decoder Payload Value) (log : List Payload) (views : Views)
    (j : ℕ) : applyEvents decoder (loadControlPlaneSnapshot views) (log.drop j) =
      State.run (reloadOps decoder log views j) := by
  rw [applyEvents_eq, loadControlPlaneSnapshot_eq, reloadOps, State.run_append]

/-- Replaying from before the position of a view gives the table of the whole log. -/
theorem replay_decodeEvents_drop {κ ν : Type} [DecidableEq κ]
    (w : Event → Option (Write κ ν)) {k : ℕ} (hjk : j ≤ k) :
    replay (tableOf ((decodeEvents decoder (log.take k)).filterMap w))
        ((decodeEvents decoder (log.drop j)).filterMap w) =
      tableOf ((decodeEvents decoder log).filterMap w) := by
  simp only [decodeEvents, List.filterMap_filterMap]
  exact replay_snapshot log _ hjk

section Table

variable {κ ν : Type} [DecidableEq κ] {w : WriteOp → Option (Write κ ν)}
  {w' : Event → Option (Write κ ν)}

/-- One table after a restart, if the snapshot holds it as of position `k`. -/
theorem reload_table (hw : ∀ e, w e.op = w' e) {k : ℕ} (hjk : j ≤ k)
    (hsnap : tableOf ((snapshotOps views).filterMap w) =
      tableOf ((decodeEvents decoder (log.take k)).filterMap w')) :
    tableOf ((reloadOps decoder log views j).filterMap w) =
      tableOf ((decodeEvents decoder log).filterMap w') := by
  rw [reloadOps, List.filterMap_append, filterMap_op hw, tableOf_append, hsnap,
    replay_decodeEvents_drop w' hjk]

/-- The same for the values that pass a test: the snapshot may leave out the others. -/
theorem reload_table_filter (hw : ∀ e, w e.op = w' e) {k : ℕ} (hjk : j ≤ k) (p : ν → Bool)
    (hsnap : ∀ a, (tableOf ((snapshotOps views).filterMap w) a).filter p =
      (tableOf ((decodeEvents decoder (log.take k)).filterMap w') a).filter p) (a : κ) :
    (tableOf ((reloadOps decoder log views j).filterMap w) a).filter p =
      (tableOf ((decodeEvents decoder log).filterMap w') a).filter p := by
  rw [reloadOps, List.filterMap_append, filterMap_op hw, tableOf_append,
    replay_filter_congr p hsnap, replay_decodeEvents_drop w' hjk]

end Table

/-- What the views hold about the units names the organization of the unit. -/
theorem snapshotOps_orgFixed {f : UnitId → OrganizationId}
    (hread : ReadAt decoder log views k₁ k₂ k₃ k₄ k₅)
    (hfixed : ∀ e ∈ decodeEvents decoder log, e.OrgFixed f) :
    ∀ op ∈ snapshotOps views, OpOrgFixed f op := by
  have htables : ∀ k, (∀ imei U O, (Tables.ofEvents (decodeEvents decoder
        (log.take k))).unitDevices imei = some (U, O) → O = f U) ∧
      ∀ u U O, (Tables.ofEvents (decodeEvents decoder (log.take k))).userUnits (u, U) =
        some O → O = f U := by
    intro k
    rw [ofEvents_eq]
    refine tables_orgFixed fun op hop => ?_
    obtain ⟨e, he, rfl⟩ := List.mem_map.mp hop
    obtain ⟨payload, hpayload, hdecode⟩ := List.mem_filterMap.mp he
    exact opOrgFixed_op (hfixed e
      (List.mem_filterMap.mpr ⟨payload, List.mem_of_mem_take hpayload, hdecode⟩))
  intro op hop
  simp only [snapshotOps, List.mem_append, List.mem_map] at hop
  rcases hop with (((⟨row, -, rfl⟩ | ⟨row, -, rfl⟩) | ⟨row, hrow, rfl⟩) | ⟨row, hrow, rfl⟩) |
    ⟨row, -, rfl⟩
  · exact trivial
  · exact trivial
  · exact (htables k₃).2 row.userId row.unitId row.organizationId
      ((hread.userUnits _ _).mp (List.mem_map.mpr ⟨row, hrow, rfl⟩))
  · exact (htables k₄).1 row.deviceId row.unitId row.organizationId
      ((hread.unitDevices _ _).mp (List.mem_map.mpr ⟨row, hrow, rfl⟩))
  · exact trivial

/-- After a restart the tables are those of the log, up to the devices that the cache does
not keep. -/
theorem reload_tables (hread : ReadAt decoder log views k₁ k₂ k₃ k₄ k₅) (h₁ : j ≤ k₁)
    (h₂ : j ≤ k₂) (h₃ : j ≤ k₃) (h₄ : j ≤ k₄) (h₅ : j ≤ k₅) :
    pushableOnly (Tables.ofOps (reloadOps decoder log views j)) =
      pushableOnly (Tables.ofEvents (decodeEvents decoder log)) := by
  have hkept : (fun d : UserDevice => d.isActive && decide (Pushable d)) =
      fun d => decide (Pushable d) := by
    funext d
    cases hactive : d.isActive <;> simp [Pushable, hactive]
  refine Tables.ext ?_ ?_ ?_ ?_ ?_
  · refine reload_table userWrite_op h₁ ?_
    rw [snapshotOps_userWrite, replay_rows hread.users]
    rfl
  · refine reload_table membershipWrite_op h₂ ?_
    rw [snapshotOps_membershipWrite, replay_rows hread.organizationUsers]
    rfl
  · refine reload_table userUnitWrite_op h₃ ?_
    rw [snapshotOps_userUnitWrite, replay_rows hread.userUnits]
    rfl
  · refine reload_table unitDeviceWrite_op h₄ ?_
    rw [snapshotOps_unitDeviceWrite, replay_rows hread.unitDevices]
    rfl
  · funext id
    refine reload_table_filter userDeviceWrite_op h₅ _ (fun id => ?_) id
    -- a device the query leaves out is not one the cache would keep
    rw [snapshotOps_userDeviceWrite, replay_rows (hread.userDevices.filter fun d => d.isActive),
      Option.filter_filter, hkept]
    rfl

/-- **Snapshot and replay converge.**  The five views stand at any positions from `j` on,
their rows come in any order, and the log is applied from `j` on: the cache answers every
query and counts as if the whole log had been applied to the default cache.
SRC: permissions/loader.rs:55-118, kafka/control_plane.rs:165-254 -/
theorem snapshot_then_replay (decoder : Decoder Payload Value) (log : List Payload)
    (f : UnitId → OrganizationId) (views : Views) (j k₁ k₂ k₃ k₄ k₅ : ℕ)
    (hfixed : ∀ e ∈ decodeEvents decoder log, e.OrgFixed f)
    (hread : ReadAt decoder log views k₁ k₂ k₃ k₄ k₅)
    (h₁ : j ≤ k₁) (h₂ : j ≤ k₂) (h₃ : j ≤ k₃) (h₄ : j ≤ k₄) (h₅ : j ≤ k₅) :
    SameAnswers (applyEvents decoder (loadControlPlaneSnapshot views) (log.drop j))
        (applyEvents decoder State.default log) ∧
      (applyEvents decoder (loadControlPlaneSnapshot views) (log.drop j)).counts =
        (applyEvents decoder State.default log).counts := by
  have hevents : ∀ op ∈ (decodeEvents decoder log).map Event.op, OpOrgFixed f op := by
    intro op hop
    obtain ⟨e, he, rfl⟩ := List.mem_map.mp hop
    exact opOrgFixed_op (hfixed e he)
  have hreload : ∀ op ∈ reloadOps decoder log views j, OpOrgFixed f op := by
    intro op hop
    rcases List.mem_append.mp hop with hop | hop
    · exact snapshotOps_orgFixed hread hfixed op hop
    · refine hevents op (List.map_subset _ ?_ hop)
      exact List.filterMap_subset _ (List.drop_subset j log)
  have htables := reload_tables hread h₁ h₂ h₃ h₄ h₅
  have hr := represents_pushableOnly (represents_run (reloadOps decoder log views j))
  have hr' := represents_pushableOnly (represents_run ((decodeEvents decoder log).map Event.op))
  rw [htables, ofEvents_eq] at hr
  rw [reload_eq_run, applyEvents_eq]
  refine ⟨sameAnswers_of_represents (indexed_run _) (indexed_run _) hr hr' ?_,
    counts_eq_of_represents (indexed_run _) (indexed_run _) hr hr'⟩
  intro U O
  have hdevices : (Tables.ofOps (reloadOps decoder log views j)).unitDevices =
      (Tables.ofOps ((decodeEvents decoder log).map Event.op)).unitDevices := by
    rw [ofEvents_eq] at htables
    have hunits := congrArg Tables.unitDevices htables
    exact hunits
  show _ ↔ (State.run _).unitOrg.lookup U = some O
  rw [unitOrg_iff_of_orgFixed hreload, unitOrg_iff_of_orgFixed hevents, hdevices]

end Reload

/-- Three events; the view of the devices stands at the end of the log, the view of the
memberships before its last event, and the replay starts after the first one. -/
def overlapLog : List Event :=
  [.unitDeviceUpsert "a" 1 10, .membershipUpsert 10 5 "owner" "ACTIVE",
    .unitDeviceUpsert "b" 2 10]

def overlapViews : Views :=
  ⟨[], [⟨10, 5, "owner", "ACTIVE"⟩], [], [⟨"b", 2, 10⟩, ⟨"a", 1, 10⟩], []⟩

/-- The views of the example are read at these positions. -/
theorem readAt_overlapViews : ReadAt typedDecoder overlapLog overlapViews 1 2 1 3 1 := by
  have hdecode := decodeEvents_typedDecoder
  refine ⟨?_, ?_, ?_, ?_, ?_⟩
  · intro u status
    simp [hdecode, List.filterMap_cons, overlapViews, overlapLog, Tables.ofEvents,
      Event.userWrite, tableOf]
  · rintro ⟨O, u⟩ ⟨role, status⟩
    simp [hdecode, List.filterMap_cons, overlapViews, overlapLog, Tables.ofEvents,
      Event.membershipWrite, membershipEntry, tableOf, replay, Table.write_apply]
    tauto
  · rintro ⟨u, U⟩ O
    simp [hdecode, List.filterMap_cons, overlapViews, overlapLog, Tables.ofEvents,
      Event.userUnitWrite, tableOf]
  · rintro imei ⟨U, O⟩
    simp [hdecode, List.filterMap_cons, overlapViews, overlapLog, Tables.ofEvents,
      Event.unitDeviceWrite, unitDeviceEntry, tableOf, replay, Table.write_apply]
    by_cases hb : imei = "b"
    · simp [hb, eq_comm]
    · by_cases ha : imei = "a"
      · simp [ha, eq_comm]
      · simp [ha, hb]
  · intro id device
    simp [hdecode, List.filterMap_cons, overlapViews, overlapLog, Tables.ofEvents,
      Event.userDeviceWrite, tableOf]

/-- So the overlap does not count anything twice. -/
theorem snapshot_then_replay_overlap :
    (applyEvents typedDecoder (loadControlPlaneSnapshot overlapViews)
        (overlapLog.drop 1)).counts =
      (applyEvents typedDecoder State.default overlapLog).counts := by
  have hfixed : ∀ e ∈ decodeEvents typedDecoder overlapLog, e.OrgFixed fun _ => 10 := by
    simp [decodeEvents_typedDecoder, overlapLog, Event.OrgFixed]
  exact (snapshot_then_replay typedDecoder overlapLog (fun _ => 10) overlapViews 1 1 2 1 3 1 hfixed
    readAt_overlapViews (by omega) (by omega) (by omega) (by omega) (by omega)).2

end AlertDistributor.Analysis
