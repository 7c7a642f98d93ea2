import AlertDistributor.Analysis.SnapshotReplay
import AlertDistributor.System.DeviceSync

/-!
# When the cache and the database agree on the mobile devices

For each device about which no event is pending and no removal is in progress, the cache
should hold what its row says (`DeviceWise`).  Two steps break that: a removal that comes
after the row was reactivated, and an UPSERT that is applied after the row was marked
inactive and its removal is over.  `deviceWise_deviceStep` says that no other step does, so
a run agrees in every state exactly when it has no step of these two kinds.
-/

set_option autoImplicit false

namespace AlertDistributor.Analysis

open AlertDistributor.Model AlertDistributor.Interface AlertDistributor.System FiniteMap LastWrite

variable {Payload Json : Type} {decoder : Decoder Payload Json}

/-! ## Agreement, device by device -/

/-- The devices of the UPSERT messages that the service has not applied. -/
def pendingDevices (decoder : Decoder Payload Json) (s : DeviceSync Payload) :
    List UserDevice :=
  (s.log.drop s.next).filterMap fun payload =>
    match decodeEvent decoder payload with
    | some (.userDeviceUpsert d) => some d
    | _ => none

/-- Some message about the device is not applied yet. -/
def Pending (decoder : Decoder Payload Json) (s : DeviceSync Payload) (id : DeviceId) : Prop :=
  ∃ d ∈ pendingDevices decoder s, d.id = id

/-- The row of the device is active and has an endpoint. -/
def RowPushable (s : DeviceSync Payload) (id : DeviceId) : Prop :=
  ∃ row, s.rows.lookup id = some row ∧ Pushable row.device

/-- The cache holds the device exactly as its row says. -/
def Agrees (s : DeviceSync Payload) (id : DeviceId) : Prop :=
  ∀ u d, d.id = id → (d ∈ s.cache.devicesFor u ↔
    d.userId = u ∧ ∃ row, s.rows.lookup id = some row ∧ row.device = d ∧ Pushable d)

/-- Every device about which nothing is pending and no removal is in progress agrees. -/
def DeviceWise (decoder : Decoder Payload Json) (s : DeviceSync Payload) : Prop :=
  s.running = true → ∀ id, ¬ Pending decoder s id → id ∉ s.inProgress → Agrees s id

/-- The last removal of a device whose row is active again, with nothing pending about it. -/
def RemovesReactivated (decoder : Decoder Payload Json) (s : DeviceSync Payload)
    (id : DeviceId) : Prop :=
  ¬ Pending decoder s id ∧ id ∉ s.inProgress.erase id ∧ RowPushable s id

/-- The last pending UPSERT of a device, active and with an endpoint, while its row is not
and no removal is in progress. -/
def RevivesInactive (decoder : Decoder Payload Json) (s : DeviceSync Payload) : Prop :=
  ∃ d rest, pendingDevices decoder s = d :: rest ∧ Pushable d ∧ (∀ d' ∈ rest, d'.id ≠ d.id) ∧
    d.id ∉ s.inProgress ∧ ¬ RowPushable s d.id

/-- The steps after which the cache and the row disagree. -/
def Disagrees (decoder : Decoder Payload Json) (s : DeviceSync Payload) :
    DeviceAction Payload → Prop
  | .deactivate id => RemovesReactivated decoder s id
  | .consume => RevivesInactive decoder s
  | _ => False

/-! ## What holds in every state -/

/-- The invariant of every run. -/
structure Consistent (decoder : Decoder Payload Json) (s : DeviceSync Payload) : Prop where
  indexed : Indexed s.cache
  next_le : s.next ≤ s.log.length
  row_id : ∀ id row, s.rows.lookup id = some row → row.id = id
  /-- Every message of the topic is an UPSERT of a device. -/
  log_upsert : ∀ payload ∈ s.log, ∃ d, decodeEvent decoder payload = some (.userDeviceUpsert d)
  /-- An active row is what the last pending message about it says. -/
  last_pending : ∀ pre d post, pendingDevices decoder s = pre ++ d :: post →
    (∀ d' ∈ post, d'.id ≠ d.id) →
    ∀ row, s.rows.lookup d.id = some row → Pushable row.device → row.device = d

/-- At the start there are no rows and no messages. -/
theorem consistent_init : Consistent decoder (DeviceSync.init : DeviceSync Payload) where
  indexed := indexed_default
  next_le := Nat.le_refl _
  row_id := by intro id row h; simp [DeviceSync.init] at h
  log_upsert := by intro payload h; simp [DeviceSync.init] at h
  last_pending := by
    intro pre d post h
    simp [DeviceSync.init, pendingDevices] at h

/-- A written row is the last unapplied device. -/
theorem pendingDevices_adminWrite {s s' : DeviceSync Payload} (h : Consistent decoder s)
    {payload : Payload} {d : UserDevice}
    (hdecode : decodeEvent decoder payload = some (.userDeviceUpsert d))
    (hlog : s'.log = s.log ++ [payload]) (hnext : s'.next = s.next) :
    pendingDevices decoder s' = pendingDevices decoder s ++ [d] := by
  unfold pendingDevices
  rw [hlog, hnext, List.drop_append_of_le_length h.next_le, List.filterMap_append]
  simp [hdecode]

/-- Consuming a message takes the first unapplied device off. -/
theorem pendingDevices_consume {s s' : DeviceSync Payload} {payload : Payload}
    {d : UserDevice} (hpayload : s.log[s.next]? = some payload)
    (hdecode : decodeEvent decoder payload = some (.userDeviceUpsert d))
    (hlog : s'.log = s.log) (hnext : s'.next = s.next + 1) :
    pendingDevices decoder s = d :: pendingDevices decoder s' := by
  obtain ⟨hlt, rfl⟩ := List.getElem?_eq_some_iff.mp hpayload
  unfold pendingDevices
  rw [hlog, hnext, List.drop_eq_getElem_cons hlt, List.filterMap_cons_some]
  simp only [hdecode]

/-- Marking a device changes its own row only, and of that the flag only. -/
theorem lookup_markDeviceInactive (rows : HashMap DeviceId UserDeviceRow) (id id' : DeviceId) :
    (markDeviceInactive rows id).lookup id' =
      if id' = id then (rows.lookup id).map fun row => { row with isActive := false }
      else rows.lookup id' := by
  unfold markDeviceInactive
  cases hid : rows.lookup id with
  | none =>
    by_cases heq : id' = id
    · rw [if_pos heq, heq, hid]; rfl
    · rw [if_neg heq]
  | some row => exact lookup_insert_ite _ _ _ _

/-- A step that leaves the topic and the rows alone, and at most applies messages. -/
theorem Consistent.of_frame {s s' : DeviceSync Payload} (h : Consistent decoder s)
    (hindexed : Indexed s'.cache) (hlog : s'.log = s.log) (hrows : s'.rows = s.rows)
    (hnext : s'.next ≤ s.log.length)
    (hpending : ∃ applied, pendingDevices decoder s = applied ++ pendingDevices decoder s') :
    Consistent decoder s' := by
  refine ⟨hindexed, ?_, ?_, ?_, ?_⟩
  · rw [hlog]; exact hnext
  · rw [hrows]; exact h.row_id
  · rw [hlog]; exact h.log_upsert
  · intro pre d post hsplit hlast
    obtain ⟨applied, happlied⟩ := hpending
    rw [hrows]
    refine h.last_pending (applied ++ pre) d post ?_ hlast
    rw [happlied, hsplit, List.append_assoc]

/-! ### What each step can do -/

/-- A write of `admin-api` changes the row and publishes it. -/
theorem adminWrite_cases {s s' : DeviceSync Payload} (h : Consistent decoder s)
    {row : UserDeviceRow} {payload : Payload}
    (hstep : deviceStep decoder s (.adminWrite row payload) = some s') :
    s'.rows = s.rows.insert row.id row ∧ s'.cache = s.cache ∧ s'.inProgress = s.inProgress ∧
      s'.running = s.running ∧ s'.log = s.log ++ [payload] ∧ s'.next = s.next ∧
      decodeEvent decoder payload = some (.userDeviceUpsert row.device) ∧
      pendingDevices decoder s' = pendingDevices decoder s ++ [row.device] := by
  simp only [deviceStep] at hstep
  split at hstep
  · rename_i hdecode
    obtain rfl := Option.some.inj hstep
    exact ⟨rfl, rfl, rfl, rfl, rfl, rfl, hdecode, pendingDevices_adminWrite h hdecode rfl rfl⟩
  · cases hstep

/-- The consumer applies the first unapplied device. -/
theorem consume_cases {s s' : DeviceSync Payload} (h : Consistent decoder s)
    (hstep : deviceStep decoder s .consume = some s') :
    ∃ d, pendingDevices decoder s = d :: pendingDevices decoder s' ∧
      s'.cache = s.cache.upsertUserDevice d ∧ s'.rows = s.rows ∧
      s'.inProgress = s.inProgress ∧ s.running = true ∧ s'.running = true ∧
      s'.log = s.log ∧ s'.next ≤ s.log.length := by
  simp only [deviceStep] at hstep
  split at hstep
  · rename_i hrunning
    split at hstep
    · cases hstep
    · rename_i payload hpayload
      obtain ⟨d, hdecode⟩ := h.log_upsert payload (List.mem_of_getElem? hpayload)
      rw [applyEvent_of_decoded s.cache hdecode] at hstep
      obtain rfl := Option.some.inj hstep
      exact ⟨d, pendingDevices_consume hpayload hdecode rfl rfl, rfl, rfl, rfl, hrunning,
        hrunning, rfl, (List.getElem?_eq_some_iff.mp hpayload).1⟩
  · cases hstep

/-- The worker marks the row and has the removal in progress. -/
theorem markInactive_cases {s s' : DeviceSync Payload} {id : DeviceId}
    (hstep : deviceStep decoder s (.markInactive id) = some s') :
    s'.rows = markDeviceInactive s.rows id ∧ s'.cache = s.cache ∧
      s'.inProgress = s.inProgress ++ [id] ∧ s'.running = s.running ∧ s'.log = s.log ∧
      s'.next = s.next := by
  simp only [deviceStep] at hstep
  split at hstep
  · obtain rfl := Option.some.inj hstep
    exact ⟨rfl, rfl, rfl, rfl, rfl, rfl⟩
  · cases hstep

/-- The worker carries out a removal that is in progress. -/
theorem deactivate_cases {s s' : DeviceSync Payload} {id : DeviceId}
    (hstep : deviceStep decoder s (.deactivate id) = some s') :
    s'.cache = (s.cache.deactivateDevice id).1 ∧ s'.inProgress = s.inProgress.erase id ∧
      s'.rows = s.rows ∧ s'.running = true ∧ s.running = true ∧ s'.log = s.log ∧
      s'.next = s.next := by
  simp only [deviceStep] at hstep
  split at hstep
  · rename_i hready
    obtain rfl := Option.some.inj hstep
    exact ⟨rfl, rfl, rfl, hready.1, hready.1, rfl, rfl⟩
  · cases hstep

/-- A start loads what the rows list, from the offset that was noted. -/
theorem loadViews_cases {s s' : DeviceSync Payload} {views : Views}
    (hstep : deviceStep decoder s (.loadViews views) = some s') :
    ListsRows views.userDevices s.rows ∧ s'.cache = loadControlPlaneSnapshot views ∧
      s'.rows = s.rows ∧ s'.log = s.log ∧ s'.next = s.next := by
  simp only [deviceStep] at hstep
  split at hstep
  · rename_i hready
    obtain rfl := Option.some.inj hstep
    exact ⟨hready.2, rfl, rfl, rfl, rfl⟩
  · cases hstep

/-- The unapplied devices depend on the log and the position only. -/
theorem pendingDevices_congr {s s' : DeviceSync Payload} (hlog : s'.log = s.log)
    (hnext : s'.next = s.next) : pendingDevices decoder s' = pendingDevices decoder s := by
  rw [pendingDevices, pendingDevices, hlog, hnext]

/-! ### The invariant is kept -/

/-- A write publishes the row that it writes. -/
theorem consistent_adminWrite {s s' : DeviceSync Payload} (h : Consistent decoder s)
    {row : UserDeviceRow} {payload : Payload}
    (hstep : deviceStep decoder s (.adminWrite row payload) = some s') :
    Consistent decoder s' := by
  obtain ⟨hrows, hcache, -, -, hlog, hnext, hdecode, hpending⟩ := adminWrite_cases h hstep
  refine ⟨?_, ?_, ?_, ?_, ?_⟩
  · rw [hcache]; exact h.indexed
  · rw [hnext, hlog, List.length_append]
    exact Nat.le_add_right_of_le h.next_le
  · intro id row' hrow
    rw [hrows] at hrow
    obtain ⟨heq, rfl⟩ | ⟨-, hold⟩ := lookup_insert_eq_some_iff.mp hrow
    · exact heq.symm
    · exact h.row_id id row' hold
  · intro payload' hmem
    rw [hlog] at hmem
    rcases List.mem_append.mp hmem with hmem | hmem
    · exact h.log_upsert payload' hmem
    · obtain rfl := List.mem_singleton.mp hmem
      exact ⟨row.device, hdecode⟩
  · intro pre d post hsplit hlast row' hrow hpush
    rw [hpending] at hsplit
    rw [hrows, lookup_insert_ite] at hrow
    -- the last message about a device is the new one, or it was the last one before
    obtain ⟨-, rfl, -⟩ | ⟨rest, rfl, hold⟩ := Runs.concat_eq_append_cons_iff.mp hsplit
    · have hid : row.device.id = row.id := rfl
      rw [if_pos hid] at hrow
      rw [Option.some.inj hrow]
    · have hne : d.id ≠ row.id :=
        fun heq => hlast row.device (List.mem_append_right _ (List.mem_singleton_self _)) heq.symm
      rw [if_neg hne] at hrow
      exact h.last_pending pre d rest hold
        (fun d' hd' => hlast d' (List.mem_append_left _ hd')) row' hrow hpush

/-- A marked row is not active, so nothing is asked of it. -/
theorem consistent_markInactive {s s' : DeviceSync Payload} (h : Consistent decoder s)
    {id : DeviceId} (hstep : deviceStep decoder s (.markInactive id) = some s') :
    Consistent decoder s' := by
  obtain ⟨hrows, hcache, -, -, hlog, hnext⟩ := markInactive_cases hstep
  refine ⟨?_, ?_, ?_, ?_, ?_⟩
  · rw [hcache]; exact h.indexed
  · rw [hnext, hlog]; exact h.next_le
  · intro id' row hrow
    rw [hrows, lookup_markDeviceInactive] at hrow
    split at hrow
    · rename_i heq
      obtain ⟨row', hrow', rfl⟩ := Option.map_eq_some_iff.mp hrow
      rw [heq]
      exact h.row_id id row' hrow'
    · exact h.row_id id' row hrow
  · rw [hlog]; exact h.log_upsert
  · intro pre d post hsplit hlast row hrow hpush
    rw [pendingDevices_congr hlog hnext] at hsplit
    rw [hrows, lookup_markDeviceInactive] at hrow
    split at hrow
    · obtain ⟨row', -, rfl⟩ := Option.map_eq_some_iff.mp hrow
      cases hpush.1
    · exact h.last_pending pre d post hsplit hlast row hrow hpush

/-- Every step keeps the rows, the log and the positions consistent. -/
theorem consistent_deviceStep {s s' : DeviceSync Payload} (h : Consistent decoder s)
    {a : DeviceAction Payload} (hstep : deviceStep decoder s a = some s') :
    Consistent decoder s' := by
  cases a with
  | adminWrite row payload => exact consistent_adminWrite h hstep
  | consume =>
    obtain ⟨d, hpending, hcache, hrows, -, -, -, hlog, hnext⟩ := consume_cases h hstep
    refine h.of_frame ?_ hlog hrows hnext ⟨[d], hpending⟩
    rw [hcache]
    exact indexed_upsertUserDevice h.indexed d
  | markInactive id => exact consistent_markInactive h hstep
  | deactivate id =>
    obtain ⟨hcache, -, hrows, -, -, hlog, hnext⟩ := deactivate_cases hstep
    refine h.of_frame ?_ hlog hrows (hnext.trans_le h.next_le)
      ⟨[], (pendingDevices_congr hlog hnext).symm⟩
    rw [hcache]
    exact indexed_withoutDevice h.indexed id
  | noteOffset =>
    obtain rfl := Option.some.inj hstep
    refine h.of_frame indexed_default rfl rfl (Nat.le_refl _) ⟨pendingDevices decoder s, ?_⟩
    simp [pendingDevices]
  | loadViews views =>
    obtain ⟨-, hcache, hrows, hlog, hnext⟩ := loadViews_cases hstep
    refine h.of_frame ?_ hlog hrows (hnext.trans_le h.next_le)
      ⟨[], (pendingDevices_congr hlog hnext).symm⟩
    rw [hcache, loadControlPlaneSnapshot_eq]
    exact indexed_run _

/-! ## What a snapshot holds -/

/-- The loaded cache holds the rows that can be pushed to. -/
theorem mem_devicesFor_load {views : Views} {rows : HashMap DeviceId UserDeviceRow}
    (hlist : ListsRows views.userDevices rows) (u : UserId) (d : UserDevice) :
    d ∈ (loadControlPlaneSnapshot views).devicesFor u ↔
      d.userId = u ∧ ∃ row, rows.lookup d.id = some row ∧ row.device = d ∧ Pushable d := by
  have hrows : Lists (views.userDevices.map userDeviceEntry)
      fun id => (rows.lookup id).map UserDeviceRow.device := by
    intro id device
    rw [List.mem_map, Option.map_eq_some_iff]
    constructor
    · rintro ⟨row, hmem, heq⟩
      obtain ⟨rfl, rfl⟩ := Prod.mk.inj heq
      exact ⟨row, hlist.1 row hmem, rfl⟩
    · rintro ⟨row, hrow, rfl⟩
      obtain ⟨row', hmem, rfl⟩ := hlist.2 id ((mem_keys_iff_lookup _ _).mpr ⟨row, hrow⟩)
      obtain rfl := Option.some.inj ((hlist.1 row' hmem).symm.trans hrow)
      exact ⟨row', hmem, rfl⟩
  have htable : (Tables.ofOps (snapshotOps views)).userDevices =
      fun id => ((rows.lookup id).map UserDeviceRow.device).filter fun d => d.isActive :=
    (congrArg tableOf (snapshotOps_userDeviceWrite views)).trans
      (replay_rows (hrows.filter fun d => d.isActive))
  rw [loadControlPlaneSnapshot_eq, mem_devicesFor_iff (indexed_run _) (represents_run _), htable,
    Option.filter_eq_some_iff, Option.map_eq_some_iff]
  constructor
  · rintro ⟨hu, ⟨⟨row, hrow, hdevice⟩, -⟩, hpush⟩
    exact ⟨hu, row, hrow, hdevice, hpush⟩
  · rintro ⟨hu, row, hrow, hdevice, hpush⟩
    exact ⟨hu, ⟨⟨row, hrow, hdevice⟩, hpush.1⟩, hpush⟩

/-! ## What one step does to the agreement -/

/-- A device that a step does not touch agrees as it did before. -/
theorem agrees_of_frame {s s' : DeviceSync Payload} {id : DeviceId} (h : Agrees s id)
    (hrows : s'.rows.lookup id = s.rows.lookup id)
    (hcache : ∀ u d, d.id = id → (d ∈ s'.cache.devicesFor u ↔ d ∈ s.cache.devicesFor u)) :
    Agrees s' id := by
  intro u d hd
  rw [hcache u d hd, hrows]
  exact h u d hd

/-- A device without pending messages had none before, if none about it was consumed. -/
theorem not_pending_of_mem {s s' : DeviceSync Payload} {id : DeviceId}
    (h : ¬ Pending decoder s' id)
    (hmem : ∀ d ∈ pendingDevices decoder s, d.id = id → d ∈ pendingDevices decoder s') :
    ¬ Pending decoder s id := by
  rintro ⟨d, hd, hid⟩
  exact h ⟨d, hmem d hd hid, hid⟩

/-- A written row is pending, so nothing is asked of its device. -/
theorem deviceWise_adminWrite {s s' : DeviceSync Payload} (h : Consistent decoder s)
    (hwise : DeviceWise decoder s) {row : UserDeviceRow} {payload : Payload}
    (hstep : deviceStep decoder s (.adminWrite row payload) = some s') :
    DeviceWise decoder s' := by
  obtain ⟨hrows, hcache, hprogress, hrunning, -, -, -, hpending⟩ := adminWrite_cases h hstep
  rw [DeviceWise, hrunning, hprogress]
  intro hrun id hnone hid
  have hne : id ≠ row.id := by
    rintro rfl
    exact hnone ⟨row.device, by rw [hpending]; simp, rfl⟩
  have hnone' : ¬ Pending decoder s id := by
    refine not_pending_of_mem hnone fun d hd _ => ?_
    rw [hpending]
    exact List.mem_append_left _ hd
  refine agrees_of_frame (hwise hrun id hnone' hid) ?_ fun u d _ => by rw [hcache]
  rw [hrows, lookup_insert_ite, if_neg hne]

/-- The last message about a device leaves it in agreement unless it brings back a device
whose row is not active any more: an active row says what the message says. -/
theorem agrees_applied_iff {s s' : DeviceSync Payload} (h : Consistent decoder s)
    {d : UserDevice} (hpending : pendingDevices decoder s = d :: pendingDevices decoder s')
    (hcache : s'.cache = s.cache.upsertUserDevice d) (hrows : s'.rows = s.rows)
    (hrest : ∀ d' ∈ pendingDevices decoder s', d'.id ≠ d.id) :
    Agrees s' d.id ↔ (Pushable d → RowPushable s d.id) := by
  have hrow := h.last_pending [] d _ hpending hrest
  constructor
  · intro hagrees hpush
    have hcached : d ∈ s'.cache.devicesFor d.userId := by
      rw [hcache, mem_devicesFor_upsertUserDevice]
      exact Or.inr ⟨hpush, rfl, rfl⟩
    obtain ⟨-, row, hlookup, hdevice, -⟩ := (hagrees d.userId d rfl).mp hcached
    rw [hrows] at hlookup
    rw [← hdevice] at hpush
    exact ⟨row, hlookup, hpush⟩
  · intro hkept u d' hid
    rw [hcache, hrows, mem_devicesFor_upsertUserDevice]
    constructor
    · rintro (⟨-, hne⟩ | ⟨hpush, rfl, rfl⟩)
      · exact absurd hid hne
      · obtain ⟨row, hlookup, hrowPush⟩ := hkept hpush
        exact ⟨rfl, row, hlookup, hrow row hlookup hrowPush, hpush⟩
    · rintro ⟨rfl, row, hlookup, rfl, hpush⟩
      have hdevice : row.device = d := hrow row hlookup hpush
      rw [hdevice] at hpush ⊢
      exact Or.inr ⟨hpush, rfl, rfl⟩

/-- Consuming keeps the agreement unless the message revives a device that was marked. -/
theorem deviceWise_consume {s s' : DeviceSync Payload} (h : Consistent decoder s)
    (hwise : DeviceWise decoder s) (hstep : deviceStep decoder s .consume = some s') :
    DeviceWise decoder s' ↔ ¬ RevivesInactive decoder s := by
  obtain ⟨d, hpending, hcache, hrows, hprogress, hrun, hrun', -, -⟩ := consume_cases h hstep
  constructor
  · rintro hnext ⟨d', rest, hsplit, hpush, hrest, hid, hrow⟩
    rw [hpending] at hsplit
    obtain ⟨rfl, rfl⟩ := List.cons.inj hsplit
    have hnone : ¬ Pending decoder s' d.id := by
      rintro ⟨d', hd', heq⟩
      exact hrest d' hd' heq
    rw [← hprogress] at hid
    have hagrees : Agrees s' d.id := hnext hrun' d.id hnone hid
    exact hrow ((agrees_applied_iff h hpending hcache hrows hrest).mp hagrees hpush)
  · intro hgood _ id hnone hid
    rw [hprogress] at hid
    by_cases heq : id = d.id
    · subst heq
      have hrest : ∀ d' ∈ pendingDevices decoder s', d'.id ≠ d.id :=
        fun d' hd' heq => hnone ⟨d', hd', heq⟩
      refine (agrees_applied_iff h hpending hcache hrows hrest).mpr ?_
      intro hpush
      by_contra hnot
      exact hgood ⟨d, _, hpending, hpush, hrest, hid, hnot⟩
    · have hnone' : ¬ Pending decoder s id := by
        refine not_pending_of_mem hnone fun d' hd' hid' => ?_
        rw [hpending] at hd'
        rcases List.mem_cons.mp hd' with rfl | hd'
        · exact absurd hid'.symm heq
        · exact hd'
      refine agrees_of_frame (hwise hrun id hnone' hid) (by rw [hrows]) ?_
      intro u d' hd'
      have hne : d'.id ≠ d.id := by rw [hd']; exact heq
      have hne' : d' ≠ d := fun h => hne (by rw [h])
      rw [hcache, mem_devicesFor_upsertUserDevice]
      simp [hne, hne']

/-- A marked device has its removal in progress, so nothing is asked of it. -/
theorem deviceWise_markInactive {s s' : DeviceSync Payload} (hwise : DeviceWise decoder s)
    {id : DeviceId} (hstep : deviceStep decoder s (.markInactive id) = some s') :
    DeviceWise decoder s' := by
  obtain ⟨hrows, hcache, hprogress, hrunning, hlog, hnext⟩ := markInactive_cases hstep
  rw [DeviceWise, hrunning, hprogress]
  intro hrun id' hnone hid
  have hne : id' ≠ id := by
    rintro rfl
    exact hid (List.mem_append_right _ (List.mem_singleton_self _))
  have hnone' : ¬ Pending decoder s id' := by
    refine not_pending_of_mem hnone fun d hd _ => ?_
    rwa [pendingDevices_congr hlog hnext]
  have hid' : id' ∉ s.inProgress := fun h => hid (List.mem_append_left _ h)
  refine agrees_of_frame (hwise hrun id' hnone' hid') ?_ fun u d _ => by rw [hcache]
  rw [hrows, lookup_markDeviceInactive, if_neg hne]

/-- A removal keeps the agreement unless the row was reactivated. -/
theorem deviceWise_deactivate {s s' : DeviceSync Payload} (h : Consistent decoder s)
    (hwise : DeviceWise decoder s) {id : DeviceId}
    (hstep : deviceStep decoder s (.deactivate id) = some s') :
    DeviceWise decoder s' ↔ ¬ RemovesReactivated decoder s id := by
  obtain ⟨hcache, hprogress, hrows, hrun', hrun, hlog, hnext⟩ := deactivate_cases hstep
  have hpending := @pendingDevices_congr _ _ decoder _ _ hlog hnext
  have hmem : ∀ u d, d ∈ s'.cache.devicesFor u ↔ d ∈ s.cache.devicesFor u ∧ d.id ≠ id := by
    rw [hcache]
    exact mem_devicesFor_withoutDevice s.cache id
  constructor
  · rintro hwise' ⟨hnone, hid, row, hlookup, hpush⟩
    have hnone' : ¬ Pending decoder s' id :=
      not_pending_of_mem hnone fun d hd _ => by rwa [← hpending]
    rw [← hprogress] at hid
    have hrowId : row.device.id = id := h.row_id id row hlookup
    have hcached := (hwise' hrun' id hnone' hid row.userId row.device hrowId).mpr
      ⟨rfl, row, by rw [hrows]; exact hlookup, rfl, hpush⟩
    exact ((hmem _ _).mp hcached).2 hrowId
  · intro hgood _ id' hnone hid
    have hnone' : ¬ Pending decoder s id' :=
      not_pending_of_mem hnone fun d hd _ => by rwa [hpending]
    rw [hprogress] at hid
    by_cases heq : id' = id
    · subst heq
      have hrow : ¬ RowPushable s id' := fun hrow => hgood ⟨hnone', hid, hrow⟩
      intro u d hd
      rw [hmem, hrows]
      constructor
      · rintro ⟨-, hne⟩
        exact absurd hd hne
      · rintro ⟨-, row, hlookup, rfl, hpush⟩
        exact absurd ⟨row, hlookup, hpush⟩ hrow
    · have hid' : id' ∉ s.inProgress := fun h => hid ((List.mem_erase_of_ne heq).mpr h)
      refine agrees_of_frame (hwise hrun id' hnone' hid') (by rw [hrows]) ?_
      intro u d hd
      rw [hmem, hd]
      exact ⟨fun h => h.1, fun h => ⟨h, heq⟩⟩

/-- **One step keeps the agreement exactly when it is neither a late removal nor a stale
UPSERT.** -/
theorem deviceWise_deviceStep {s s' : DeviceSync Payload} (h : Consistent decoder s)
    (hwise : DeviceWise decoder s) {a : DeviceAction Payload}
    (hstep : deviceStep decoder s a = some s') :
    DeviceWise decoder s' ↔ ¬ Disagrees decoder s a := by
  cases a with
  | adminWrite row payload =>
    exact iff_of_true (deviceWise_adminWrite h hwise hstep) not_false
  | consume => exact deviceWise_consume h hwise hstep
  | markInactive id => exact iff_of_true (deviceWise_markInactive hwise hstep) not_false
  | deactivate id => exact deviceWise_deactivate h hwise hstep
  | noteOffset =>
    obtain rfl := Option.some.inj hstep
    exact iff_of_true (fun hrun => by cases hrun) not_false
  | loadViews views =>
    obtain ⟨hlist, hcache, hrows, -, -⟩ := loadViews_cases hstep
    refine iff_of_true ?_ not_false
    rintro - id - - u d rfl
    rw [hcache, hrows]
    exact mem_devicesFor_load hlist u d

/-! ## Whole runs -/

/-- No message is unapplied and no removal is in progress. -/
def Settled (s : DeviceSync Payload) : Prop :=
  s.running = true ∧ s.next = s.log.length ∧ s.inProgress = []

/-- The cache holds exactly the active rows with an endpoint, with their data. -/
def CacheIsRows (s : DeviceSync Payload) : Prop :=
  ∀ u d, d ∈ s.cache.devicesFor u ↔
    d.userId = u ∧ ∃ row, s.rows.lookup d.id = some row ∧ row.device = d ∧ Pushable d

/-- No step of the run is a late removal or a stale UPSERT. -/
def NoneDisagrees (decoder : Decoder Payload Json) (actions : List (DeviceAction Payload)) :
    Prop :=
  ∀ pre a post mid, actions = pre ++ a :: post → deviceRun decoder pre = some mid →
    ¬ Disagrees decoder mid a

/-- **When the cache and the database agree.**  The devices about which nothing is pending
and no removal is in progress agree in every state of a run exactly when no step of it is a
late removal or a stale UPSERT; and then the cache is the active rows in every settled
state.
SRC: main.rs:265-288, permissions/cache.rs:279-306 -/
theorem cache_agrees_with_rows (decoder : Decoder Payload Json)
    (actions : List (DeviceAction Payload)) (s : DeviceSync Payload)
    (hrun : deviceRun decoder actions = some s) :
    ((∀ pre post mid, actions = pre ++ post → deviceRun decoder pre = some mid →
        DeviceWise decoder mid) ↔ NoneDisagrees decoder actions) ∧
      (NoneDisagrees decoder actions → Settled s → CacheIsRows s) := by
  have hwise_init : DeviceWise decoder (DeviceSync.init : DeviceSync Payload) :=
    fun hrunning => by cases hrunning
  have hiff : (∀ pre post mid, actions = pre ++ post → deviceRun decoder pre = some mid →
      DeviceWise decoder mid) ↔ NoneDisagrees decoder actions :=
    Runs.forall_state_iff consistent_init hwise_init
      (fun _ _ _ h hstep => consistent_deviceStep h hstep)
      (fun _ _ _ h hwise hstep => deviceWise_deviceStep h hwise hstep) hrun
  refine ⟨hiff, ?_⟩
  rintro hnone ⟨hrunning, hnext, hprogress⟩ u d
  have hwise : DeviceWise decoder s := hiff.mpr hnone actions [] s (by simp) hrun
  have hpending : ¬ Pending decoder s d.id := by
    rintro ⟨d', hd', -⟩
    simp [pendingDevices, hnext] at hd'
  exact hwise hrunning d.id hpending (by simp [hprogress]) u d rfl

/-- A phone of user 5. -/
def phoneRow : UserDeviceRow :=
  ⟨7, 5, "t", "ios", some "e/APNS/x", true⟩

/-- The service starts on an empty database and the phone is registered. -/
def registeredRun : List (DeviceAction Event) :=
  [.noteOffset, .loadViews ⟨[], [], [], [], []⟩,
    .adminWrite phoneRow (.userDeviceUpsert phoneRow.device), .consume]

/-- When the UPSERT is applied the row is still what it says. -/
theorem noneDisagrees_registeredRun : NoneDisagrees typedDecoder registeredRun := by
  intro pre a post mid heq hrun
  match pre with
  | [] => cases heq; exact not_false
  | [_] => cases heq; exact not_false
  | [_, _] => cases heq; exact not_false
  | [_, _, _] =>
    cases heq
    have hpending := congrArg (Option.map (pendingDevices typedDecoder)) hrun
    have hrow := congrArg (Option.map fun s => s.rows.lookup 7) hrun
    rintro ⟨d, rest, hd, -, -, -, hnot⟩
    have hdevice : [phoneRow.device] = d :: rest := by
      rw [← hd]
      exact Option.some.inj hpending
    have hlookup : some phoneRow = mid.rows.lookup 7 := Option.some.inj hrow
    obtain ⟨rfl, -⟩ := List.cons.inj hdevice
    exact hnot ⟨phoneRow, hlookup.symm, by decide⟩
  | _ :: _ :: _ :: _ :: rest => simp [registeredRun] at heq

/-- In the run of one registration the settled cache is the rows. -/
theorem cache_agrees_with_rows_registered :
    ∃ s, deviceRun typedDecoder registeredRun = some s ∧ Settled s ∧ CacheIsRows s := by
  have hrun : ∃ s, deviceRun typedDecoder registeredRun = some s ∧ Settled s :=
    ⟨_, rfl, rfl, rfl, rfl⟩
  obtain ⟨s, hs, hsettled⟩ := hrun
  have hrows := (cache_agrees_with_rows typedDecoder registeredRun s hs).2
  exact ⟨s, hs, hsettled, hrows noneDisagrees_registeredRun hsettled⟩

/-- A worker marks the phone inactive, the user opens the app again, and the worker's
second step comes after the UPSERT. -/
def lateRemovalRun : List (DeviceAction Event) :=
  registeredRun ++ [.markInactive 7,
    .adminWrite phoneRow (.userDeviceUpsert phoneRow.device), .consume, .deactivate 7]

/-- Everything has settled, the row is active, and the cache does not have the phone. -/
theorem late_removal_disagrees :
    ∃ s, deviceRun typedDecoder lateRemovalRun = some s ∧ Settled s ∧ ¬ CacheIsRows s := by
  have hrun : ∃ s, deviceRun typedDecoder lateRemovalRun = some s ∧ Settled s ∧
      s.rows.lookup 7 = some phoneRow ∧ s.cache.devicesFor 5 = [] :=
    ⟨_, rfl, ⟨rfl, rfl, rfl⟩, by decide, by decide⟩
  obtain ⟨s, hs, hsettled, hrow, hcache⟩ := hrun
  refine ⟨s, hs, hsettled, ?_⟩
  intro hrows
  have hcached := (hrows 5 phoneRow.device).mpr
    ⟨rfl, phoneRow, hrow, rfl, by decide⟩
  rw [hcache] at hcached
  cases hcached

end AlertDistributor.Analysis
