import AlertDistributor.Analysis.CacheTables
import AlertDistributor.Library.Runs
import AlertDistributor.Model.Registry

/-!
# The indexes of the connection registry

`by_unit` and `by_user` are inverses of `connections`: each list names every live connection
of its unit, or of its pair of organization and user, exactly once and nothing else.  That a
connection is not listed twice rests on its unit list, which `units_for` answers without
repetition, so `addConnection` is looked at for such lists only.
-/

set_option autoImplicit false

namespace AlertDistributor.Analysis

open AlertDistributor.Model FiniteMap LastWrite

section Indexes

variable {Sender : Type} {r : RegistryState Sender}

/-- What the indexes keep of the connections. -/
structure ExactIndexes (r : RegistryState Sender) : Prop where
  ids : ∀ id c, r.connections.lookup id = some c → c.connectionId = id
  byUnit_nodup : ∀ U, (listAt r.byUnit U).Nodup
  mem_byUnit : ∀ U id, id ∈ listAt r.byUnit U ↔
    ∃ c, r.connections.lookup id = some c ∧ U ∈ c.unitIds
  byUnit_filled : Filled r.byUnit
  byUser_nodup : ∀ O u, (listAt r.byUser (O, u)).Nodup
  mem_byUser : ∀ O u id, id ∈ listAt r.byUser (O, u) ↔
    ∃ c, r.connections.lookup id = some c ∧ c.organizationId = O ∧ c.userId = u
  byUser_filled : Filled r.byUser

/-- The indexes of a new registry are empty. -/
theorem exactIndexes_new : ExactIndexes (RegistryState.new : RegistryState Sender) where
  ids := by intro id c h; simp [RegistryState.new] at h
  byUnit_nodup := by intro U; simp [RegistryState.new]
  mem_byUnit := by intro U id; simp [RegistryState.new]
  byUnit_filled := filled_empty
  byUser_nodup := by intro O u; simp [RegistryState.new]
  mem_byUser := by intro O u id; simp [RegistryState.new]
  byUser_filled := filled_empty

/-- The connections that have a property, after one was added under a fresh id. -/
theorem exists_lookup_addConnection {context : ConnectionContext Sender}
    (hfresh : r.connections.lookup context.connectionId = none)
    (P : ConnectionContext Sender → Prop) (id : ConnectionId) :
    (∃ c, (r.addConnection context).connections.lookup id = some c ∧ P c) ↔
      (∃ c, r.connections.lookup id = some c ∧ P c) ∨
        (id = context.connectionId ∧ P context) := by
  have hlookup : (r.addConnection context).connections.lookup id =
      if id = context.connectionId then some context else r.connections.lookup id :=
    lookup_insert_ite _ _ _ _
  rw [hlookup]
  by_cases hid : id = context.connectionId
  · subst hid
    simp [hfresh]
  · simp [hid]

/-- Registering a connection under a fresh id, with a unit list without repetition. -/
theorem exactIndexes_addConnection (h : ExactIndexes r) {context : ConnectionContext Sender}
    (hfresh : r.connections.lookup context.connectionId = none)
    (hunits : context.unitIds.Nodup) : ExactIndexes (r.addConnection context) where
  ids := by
    intro id c hc
    obtain ⟨c', hc', rfl⟩ | ⟨rfl, rfl⟩ :=
      (exists_lookup_addConnection hfresh (· = c) id).mp ⟨c, hc, rfl⟩
    · exact h.ids id c' hc'
    · rfl
  byUnit_nodup := by
    intro U
    simp only [RegistryState.addConnection, listAt_foldl_pushAt hunits]
    split
    · rw [← List.concat_eq_append]
      refine (h.byUnit_nodup U).concat fun hmem => ?_
      -- a fresh id is in no list
      obtain ⟨c, hc, -⟩ := (h.mem_byUnit U _).mp hmem
      rw [hfresh] at hc
      cases hc
    · exact h.byUnit_nodup U
  mem_byUnit := by
    intro U id
    rw [exists_lookup_addConnection hfresh]
    simp only [RegistryState.addConnection, mem_listAt_foldl_pushAt, h.mem_byUnit, and_comm]
  byUnit_filled := Filled.foldl (fun m U hm => hm.pushAt U _) _ h.byUnit_filled
  byUser_nodup := by
    intro O u
    simp only [RegistryState.addConnection, listAt_pushAt]
    split
    · rename_i hpair
      rw [← hpair, ← List.concat_eq_append]
      refine (h.byUser_nodup O u).concat fun hmem => ?_
      obtain ⟨c, hc, -⟩ := (h.mem_byUser O u _).mp hmem
      rw [hfresh] at hc
      cases hc
    · exact h.byUser_nodup O u
  mem_byUser := by
    intro O u id
    rw [exists_lookup_addConnection hfresh, ← h.mem_byUser]
    simp only [RegistryState.addConnection, listAt_pushAt, Prod.mk.injEq]
    by_cases hpair : O = context.organizationId ∧ u = context.userId
    · obtain ⟨rfl, rfl⟩ := hpair
      simp
    · have hpair' : ¬ (context.organizationId = O ∧ context.userId = u) :=
        fun heq => hpair ⟨heq.1.symm, heq.2.symm⟩
      simp [hpair, hpair']
  byUser_filled := h.byUser_filled.pushAt _ _

/-- After `remove_connection` the id has no connection, and every other id has what it had. -/
theorem lookup_removeConnection (r : RegistryState Sender) (id id' : ConnectionId) :
    (r.removeConnection id).1.connections.lookup id' =
      if id' = id then none else r.connections.lookup id' := by
  unfold RegistryState.removeConnection
  cases hid : r.connections.lookup id with
  | none =>
    by_cases heq : id' = id
    · rw [if_pos heq, heq, hid]
    · rw [if_neg heq]
  | some removed => exact lookup_erase_ite _ _ _

/-- The connections that have a property, after one was removed. -/
theorem exists_lookup_erase {connections : HashMap ConnectionId (ConnectionContext Sender)}
    (P : ConnectionContext Sender → Prop) (id id' : ConnectionId) :
    (∃ c, (connections.erase id).lookup id' = some c ∧ P c) ↔
      id' ≠ id ∧ ∃ c, connections.lookup id' = some c ∧ P c := by
  rw [lookup_erase_ite]
  by_cases hid : id' = id
  · simp [hid]
  · simp [hid]

/-- Removing a live connection: its id goes out of the lists that had it. -/
theorem exactIndexes_removeLive (h : ExactIndexes r) {id : ConnectionId}
    {removed : ConnectionContext Sender} (hremoved : r.connections.lookup id = some removed) :
    ExactIndexes
      ({ connections := r.connections.erase id
         byUnit := removed.unitIds.foldl (fun byUnit U => dropAt byUnit U id) r.byUnit
         byUser := dropAt r.byUser (removed.organizationId, removed.userId) id } :
        RegistryState Sender) where
  ids := by
    intro id' c hc
    rw [lookup_erase_ite] at hc
    split at hc
    · cases hc
    · exact h.ids id' c hc
  byUnit_nodup := by
    intro U
    rw [listAt_foldl_dropAt]
    split
    · exact (h.byUnit_nodup U).filter _
    · exact h.byUnit_nodup U
  mem_byUnit := by
    intro U id'
    rw [exists_lookup_erase, mem_listAt_foldl_dropAt, h.mem_byUnit]
    constructor
    · rintro ⟨⟨c, hc, hU⟩, hkept⟩
      refine ⟨?_, c, hc, hU⟩
      rintro rfl
      obtain rfl : removed = c := Option.some.inj (hremoved.symm.trans hc)
      exact hkept ⟨hU, rfl⟩
    · rintro ⟨hne, c, hc, hU⟩
      exact ⟨⟨c, hc, hU⟩, fun heq => hne heq.2⟩
  byUnit_filled := Filled.foldl (fun m U hm => hm.dropAt U _) _ h.byUnit_filled
  byUser_nodup := by
    intro O u
    rw [listAt_dropAt]
    split
    · rename_i hpair
      rw [← hpair]
      exact (h.byUser_nodup O u).filter _
    · exact h.byUser_nodup O u
  mem_byUser := by
    intro O u id'
    rw [exists_lookup_erase, ← h.mem_byUser, listAt_dropAt]
    by_cases hpair : (O, u) = (removed.organizationId, removed.userId)
    · rw [if_pos hpair, ← hpair, List.mem_filter, decide_eq_true_eq, and_comm]
    · rw [if_neg hpair]
      constructor
      · intro hmem
        refine ⟨?_, hmem⟩
        rintro rfl
        obtain ⟨c, hc, rfl, rfl⟩ := (h.mem_byUser O u _).mp hmem
        obtain rfl : removed = c := Option.some.inj (hremoved.symm.trans hc)
        exact hpair rfl
      · exact fun hmem => hmem.2
  byUser_filled := h.byUser_filled.dropAt _ _

/-- Removing a connection, whether it is live or not. -/
theorem exactIndexes_removeConnection (h : ExactIndexes r) (id : ConnectionId) :
    ExactIndexes (r.removeConnection id).1 := by
  unfold RegistryState.removeConnection
  cases hremoved : r.connections.lookup id with
  | none => exact h
  | some removed => exact exactIndexes_removeLive h hremoved

/-! ## What the queries answer -/

/-- Looking up what a list names, when every name is found. -/
theorem map_fst_filterMap {α β γ : Type} {f : α → Option γ} {key : γ → α} {value : γ → β}
    {as : List α} (h : ∀ a ∈ as, ∃ c, f a = some c ∧ key c = a) :
    (as.filterMap fun a => (f a).map fun c => (key c, value c)).map Prod.fst = as := by
  induction as with
  | nil => rfl
  | cons a as ih =>
    obtain ⟨c, hc, hkey⟩ := h a List.mem_cons_self
    have hrest := ih fun b hb => h b (List.mem_cons_of_mem a hb)
    rw [List.filterMap_cons, hc, Option.map_some]
    simp only [List.map_cons, hkey, hrest]

/-- `senders_for_unit` skips no listed id. -/
theorem map_fst_sendersForUnit (h : ExactIndexes r) (U : UnitId) :
    (r.sendersForUnit U).map Prod.fst = listAt r.byUnit U := by
  have hfound : ∀ id ∈ listAt r.byUnit U, ∃ c, r.connections.lookup id = some c ∧
      c.connectionId = id := by
    intro id hid
    obtain ⟨c, hc, -⟩ := (h.mem_byUnit U id).mp hid
    exact ⟨c, hc, h.ids id c hc⟩
  unfold listAt at hfound ⊢
  unfold RegistryState.sendersForUnit
  cases hU : r.byUnit.lookup U with
  | none => rfl
  | some ids =>
    rw [hU] at hfound
    exact map_fst_filterMap hfound

/-- The senders of a unit are those of the connections that its list names. -/
theorem mem_sendersForUnit (r : RegistryState Sender) {U : UnitId}
    {p : ConnectionId × Sender} :
    p ∈ r.sendersForUnit U ↔
      ∃ id ∈ listAt r.byUnit U, ∃ c, r.connections.lookup id = some c ∧
        p = (c.connectionId, c.sender) := by
  unfold RegistryState.sendersForUnit listAt
  cases r.byUnit.lookup U with
  | none => simp
  | some ids => simp [List.mem_filterMap, eq_comm]

/-- The senders of a unit are those of the live connections that have the unit. -/
theorem mem_sendersForUnit_iff (h : ExactIndexes r) (U : UnitId) (id : ConnectionId)
    (sender : Sender) :
    (id, sender) ∈ r.sendersForUnit U ↔
      ∃ c, r.connections.lookup id = some c ∧ U ∈ c.unitIds ∧ c.sender = sender := by
  rw [mem_sendersForUnit]
  constructor
  · rintro ⟨id', hid', c, hc, heq⟩
    obtain ⟨rfl, rfl⟩ := Prod.mk.inj heq
    obtain rfl := h.ids id' c hc
    obtain ⟨c', hc', hU⟩ := (h.mem_byUnit U _).mp hid'
    obtain rfl : c' = c := Option.some.inj (hc'.symm.trans hc)
    exact ⟨c', hc, hU, rfl⟩
  · rintro ⟨c, hc, hU, rfl⟩
    exact ⟨id, (h.mem_byUnit U id).mpr ⟨c, hc, hU⟩, c, hc, by rw [h.ids id c hc]⟩

end Indexes

/-! ## Runs of the registry -/

/-- A call of `add_connection` or `remove_connection`; the unit list of a new connection is
what `units_for` answered on some state of the cache. -/
inductive RegistryAction (Sender : Type) where
  | add (context : ConnectionContext Sender) (cache : State)
  | remove (connectionId : ConnectionId)

/-- A connection is added under an id that no live connection has. -/
def registryStep {Sender : Type} (r : RegistryState Sender) :
    RegistryAction Sender → Option (RegistryState Sender)
  | .add context cache =>
    if r.connections.lookup context.connectionId = none ∧
        context.unitIds = cache.unitsFor context.organizationId context.userId then
      some (r.addConnection context)
    else none
  | .remove connectionId => some (r.removeConnection connectionId).1

/-- What a call says of its id: `add_connection` that it is the id of this connection,
`remove_connection` that it has none. -/
def connectionWrite {Sender : Type} :
    RegistryAction Sender → Write ConnectionId (ConnectionContext Sender)
  | .add context _ => ⟨context.connectionId, some context⟩
  | .remove connectionId => ⟨connectionId, none⟩

/-- Both branches of `units_for` list a unit once. -/
theorem unitsFor_nodup (cache : State) (O : OrganizationId) (u : UserId) :
    (cache.unitsFor O u).Nodup :=
  (unitsFor_pairwise cache O u).imp fun hlt => ne_of_lt hlt

section RegistryRuns

variable {Sender : Type}

/-- Both calls keep the indexes exact. -/
theorem exactIndexes_registryStep {r r' : RegistryState Sender} (h : ExactIndexes r)
    {a : RegistryAction Sender} (hstep : registryStep r a = some r') : ExactIndexes r' := by
  cases a with
  | add context cache =>
    rw [registryStep] at hstep
    split at hstep
    · rename_i hguard
      obtain rfl := Option.some.inj hstep
      refine exactIndexes_addConnection h hguard.1 ?_
      rw [hguard.2]
      exact unitsFor_nodup cache _ _
    · cases hstep
  | remove id =>
    obtain rfl := Option.some.inj hstep
    exact exactIndexes_removeConnection h id

/-- A call changes what its own id has, and nothing else. -/
theorem lookup_registryStep {r r' : RegistryState Sender} {a : RegistryAction Sender}
    (hstep : registryStep r a = some r') (id : ConnectionId) :
    r'.connections.lookup id =
      if id = (connectionWrite a).key then (connectionWrite a).value
      else r.connections.lookup id := by
  cases a with
  | add context cache =>
    rw [registryStep] at hstep
    split at hstep
    · obtain rfl := Option.some.inj hstep
      exact lookup_insert_ite _ _ _ _
    · cases hstep
  | remove removed =>
    obtain rfl := Option.some.inj hstep
    exact lookup_removeConnection r removed id

/-- The live connections, which are those in `connections`: the last call about the id is the
`add_connection` that put the connection there. -/
def HoldsLive (actions : List (RegistryAction Sender)) (r : RegistryState Sender) : Prop :=
  ∀ id, r.connections.lookup id = tableOf (actions.map connectionWrite) id

/-- **The live connections are those added and not removed since.** -/
theorem holdsLive_registryRun {actions : List (RegistryAction Sender)}
    {r : RegistryState Sender}
    (hrun : Runs.exec registryStep RegistryState.new actions = some r) : HoldsLive actions r := by
  have hempty : HoldsLive [] (RegistryState.new : RegistryState Sender) :=
    fun id => Finmap.lookup_empty id
  refine Runs.history_of_step hempty ?_ hrun
  intro actions mid a s' _ ih hstep id
  rw [lookup_registryStep hstep, List.map_append, tableOf_append, List.map_singleton,
    replay_cons, replay_nil, Table.write_apply, ih id]

/-- **The indexes are exact inverses of the connections.**  After any sequence of
`add_connection` and `remove_connection` each list of `by_unit` and of `by_user` names the
live connections of its key once and nothing else, and is not empty; so the senders of a
unit are those of its live subscribers, once each, and the connections of a user are his
live ones.  Live are those that were added and not removed since (`holdsLive_registryRun`).
SRC: websocket/registry.rs:42-141 -/
theorem exactIndexes_run (actions : List (RegistryAction Sender)) (r : RegistryState Sender)
    (hrun : Runs.exec registryStep RegistryState.new actions = some r) :
    ExactIndexes r ∧
    (∀ U, ((r.sendersForUnit U).map Prod.fst).Nodup ∧
      ∀ id sender, (id, sender) ∈ r.sendersForUnit U ↔
        ∃ c, r.connections.lookup id = some c ∧ U ∈ c.unitIds ∧ c.sender = sender) ∧
    (∀ O u, (r.connectionsForUser O u).Nodup ∧
      ∀ id, id ∈ r.connectionsForUser O u ↔
        ∃ c, r.connections.lookup id = some c ∧ c.organizationId = O ∧ c.userId = u) := by
  have h : ExactIndexes r :=
    Runs.invariant_of_step exactIndexes_new
      (fun _ _ _ hinv hstep => exactIndexes_registryStep hinv hstep) hrun
  refine ⟨h, ?_, ?_⟩
  · intro U
    refine ⟨?_, fun id sender => mem_sendersForUnit_iff h U id sender⟩
    rw [map_fst_sendersForUnit h]
    exact h.byUnit_nodup U
  · intro O u
    exact ⟨h.byUser_nodup O u, fun id => h.mem_byUser O u id⟩

end RegistryRuns

/-- Unit 1 has a device under organization 10, of which user 5 is an owner. -/
def ownerCache : State :=
  State.run [.upsertUnitDevice "a" 1 10, .upsertMembership 10 5 "owner" "ACTIVE"]

/-- The owner sees unit 1. -/
theorem unitsFor_ownerCache : ownerCache.unitsFor 10 5 = [1] := by
  have hactive : ownerCache.activeMembership 10 5 = some ⟨true, true⟩ := by decide
  have howner : ownerCache.ownerUnits 10 = {1} := by decide
  unfold State.unitsFor
  rw [hactive]
  simp only [if_true, howner, Finset.sort_singleton]

/-- The owner connects twice; the first connection is removed, and removed again. -/
def ownerConnections : List (RegistryAction ℕ) :=
  [.add ⟨77, 5, 10, [1], 0⟩ ownerCache, .add ⟨78, 5, 10, [1], 1⟩ ownerCache, .remove 77,
    .remove 77]

/-- Only the second connection is left to the unit and to its user. -/
theorem exactIndexes_run_ownerConnections :
    ∃ r, Runs.exec registryStep RegistryState.new ownerConnections = some r ∧
      (78, 1) ∈ r.sendersForUnit 1 ∧ (∀ sender, (77, sender) ∉ r.sendersForUnit 1) ∧
      78 ∈ r.connectionsForUser 10 5 ∧ 77 ∉ r.connectionsForUser 10 5 := by
  have hrun : ∃ r, Runs.exec registryStep RegistryState.new ownerConnections = some r := by
    simp only [ownerConnections, Runs.exec_cons, registryStep, unitsFor_ownerCache]
    exact ⟨_, rfl⟩
  obtain ⟨r, hr⟩ := hrun
  obtain ⟨-, hunit, huser⟩ := exactIndexes_run ownerConnections r hr
  have hlive : r.connections.lookup 78 = some ⟨78, 5, 10, [1], 1⟩ := by
    rw [holdsLive_registryRun hr 78]
    rfl
  have hgone : r.connections.lookup 77 = none := by
    rw [holdsLive_registryRun hr 77]
    rfl
  refine ⟨r, hr, ?_, ?_, ?_, ?_⟩
  · exact ((hunit 1).2 78 1).mpr ⟨_, hlive, List.mem_singleton_self 1, rfl⟩
  · intro sender hmem
    obtain ⟨c, hc, -⟩ := ((hunit 1).2 77 sender).mp hmem
    rw [hgone] at hc
    cases hc
  · exact ((huser 10 5).2 78).mpr ⟨_, hlive, rfl, rfl⟩
  · intro hmem
    obtain ⟨c, hc, -⟩ := ((huser 10 5).2 77).mp hmem
    rw [hgone] at hc
    cases hc

end AlertDistributor.Analysis
