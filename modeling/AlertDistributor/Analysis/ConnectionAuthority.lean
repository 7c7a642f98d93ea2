import AlertDistributor.Analysis.RegistryIndexes
import AlertDistributor.Analysis.WebSocketSteps
import AlertDistributor.Interface.Events

/-!
# What a connection is authorized for

The unit list of a connection is read once, at the handshake, and the registry subscribes
the connection to it.  `Subscribed` ties the two indexes and the dispatch under way to the
connections that were opened, and `FromHandshake` ties each connection to the one handshake
that it was opened for.
So an alert is only enqueued on a connection whose user could see the unit when it
connected; a later revocation is not looked at.
-/

set_option autoImplicit false

namespace AlertDistributor.Analysis

open AlertDistributor.Model AlertDistributor.Interface AlertDistributor.System FiniteMap

/-! ## The registry -/

section Registry

variable {Sender : Type} (r : RegistryState Sender)

/-- A removal adds nobody to a unit. -/
theorem mem_byUnit_of_removeConnection {id id' : ConnectionId} {U : UnitId}
    (h : id' ∈ listAt (r.removeConnection id).1.byUnit U) : id' ∈ listAt r.byUnit U := by
  unfold RegistryState.removeConnection at h
  cases hid : r.connections.lookup id with
  | none => simpa only [hid] using h
  | some removed =>
    simp only [hid] at h
    exact ((mem_listAt_foldl_dropAt _ _ _ _ _).mp h).1

end Registry

/-! ## The connections that were opened -/

section Invariant

variable {Payload Json Time : Type} {env : WsEnv Payload Json}

/-- What the registry and the dispatch under way know about the opened connections. -/
structure Subscribed (s : WsState Json Time) : Prop where
  ids : (s.opened.map ConnectionContext.connectionId).Nodup
  senders : s.opened.map ConnectionContext.sender = List.range s.opened.length
  registered : ∀ id c, s.registry.connections.lookup id = some c →
    c ∈ s.opened ∧ c.connectionId = id
  listed : ∀ U, ∀ id ∈ listAt s.registry.byUnit U,
    ∃ c ∈ s.opened, c.connectionId = id ∧ U ∈ c.unitIds
  targets : ∀ d, s.dispatch = some d → ∀ p ∈ d.targets,
    ∃ c ∈ s.opened, c.connectionId = p.1 ∧ c.sender = p.2 ∧ d.unitId ∈ c.unitIds

/-- Nobody is subscribed at the start. -/
theorem subscribed_init : Subscribed (WsState.init : WsState Json Time) where
  ids := List.nodup_nil
  senders := rfl
  registered := by intro id c h; simp [WsState.init, RegistryState.new] at h
  listed := by intro U id h; simp [WsState.init, RegistryState.new] at h
  targets := by intro d h; cases h

/-- A step that opens no connection and at most takes entries off the registry and targets
off the dispatch. -/
theorem Subscribed.of_fewer {s s' : WsState Json Time} (h : Subscribed s)
    (hopened : s'.opened = s.opened)
    (hregistered : ∀ id c, s'.registry.connections.lookup id = some c →
      s.registry.connections.lookup id = some c)
    (hlisted : ∀ U, ∀ id ∈ listAt s'.registry.byUnit U, id ∈ listAt s.registry.byUnit U)
    (htargets : ∀ d', s'.dispatch = some d' → ∃ d, s.dispatch = some d ∧
      d.unitId = d'.unitId ∧ ∀ p ∈ d'.targets, p ∈ d.targets) : Subscribed s' := by
  refine ⟨?_, ?_, ?_, ?_, ?_⟩
  · rw [hopened]
    exact h.ids
  · rw [hopened]
    exact h.senders
  · intro id c hc
    rw [hopened]
    exact h.registered id c (hregistered id c hc)
  · intro U id hid
    rw [hopened]
    exact h.listed U id (hlisted U id hid)
  · intro d' hd' p hp
    obtain ⟨d, hd, hunit, hsub⟩ := htargets d' hd'
    rw [hopened, ← hunit]
    exact h.targets d hd p (hsub p hp)

/-- A step that leaves the registry alone. -/
theorem Subscribed.of_targets {s s' : WsState Json Time} (h : Subscribed s)
    (hopened : s'.opened = s.opened) (hregistry : s'.registry = s.registry)
    (htargets : ∀ d', s'.dispatch = some d' → ∃ d, s.dispatch = some d ∧
      d.unitId = d'.unitId ∧ ∀ p ∈ d'.targets, p ∈ d.targets) : Subscribed s' := by
  refine h.of_fewer hopened ?_ ?_ htargets
  · rw [hregistry]
    exact fun id c hc => hc
  · rw [hregistry]
    exact fun U id hid => hid

/-- Removing a connection only takes entries away. -/
theorem Subscribed.of_removeConnection {s s' : WsState Json Time} (h : Subscribed s)
    (id : ConnectionId) (hopened : s'.opened = s.opened)
    (hregistry : s'.registry = (s.registry.removeConnection id).1)
    (htargets : ∀ d', s'.dispatch = some d' → ∃ d, s.dispatch = some d ∧
      d.unitId = d'.unitId ∧ ∀ p ∈ d'.targets, p ∈ d.targets) : Subscribed s' := by
  refine h.of_fewer hopened ?_ ?_ htargets
  · intro id' c hc
    rw [hregistry, lookup_removeConnection] at hc
    split at hc
    · cases hc
    · exact hc
  · intro U id' hid'
    rw [hregistry] at hid'
    exact mem_byUnit_of_removeConnection _ hid'

/-- A connection that is opened with a fresh id. -/
theorem subscribed_handleSocket {s s' : WsState Json Time} (h : Subscribed s) {i : ℕ}
    {id : ConnectionId} (hstep : handleSocket env s i id = some s') : Subscribed s' := by
  obtain ⟨up, context, -, hnew, hcontext, rfl⟩ := handleSocket_cases hstep
  have hid : context.connectionId = id := by rw [hcontext]
  have hsender : context.sender = s.opened.length := by rw [hcontext]
  refine ⟨?_, ?_, ?_, ?_, ?_⟩
  · rw [List.map_append, List.nodup_append]
    refine ⟨h.ids, List.nodup_singleton _, ?_⟩
    intro a ha b hb
    rw [List.map_singleton, List.mem_singleton, hid] at hb
    rintro rfl
    rw [hb] at ha
    exact hnew ha
  · rw [List.map_append, h.senders, List.map_singleton, hsender, List.length_append,
      List.length_singleton, List.range_succ]
  · intro id' c hc
    obtain ⟨heq, rfl⟩ | ⟨-, hold⟩ := lookup_insert_eq_some_iff.mp hc
    · exact ⟨List.mem_append_right _ (List.mem_singleton_self _), heq.symm⟩
    · obtain ⟨hmem, hid'⟩ := h.registered id' c hold
      exact ⟨List.mem_append_left _ hmem, hid'⟩
  · intro U id' hlisted
    simp only [RegistryState.addConnection, mem_listAt_foldl_pushAt] at hlisted
    rcases hlisted with hold | ⟨hU, rfl⟩
    · obtain ⟨c, hmem, hid', hunit⟩ := h.listed U id' hold
      exact ⟨c, List.mem_append_left _ hmem, hid', hunit⟩
    · exact ⟨context, List.mem_append_right _ (List.mem_singleton_self _), rfl, hU⟩
  · intro d hd p hp
    obtain ⟨c, hmem, hrest⟩ := h.targets d hd p hp
    exact ⟨c, List.mem_append_left _ hmem, hrest⟩

/-- Two opened connections with one id are the same. -/
theorem Subscribed.eq_of_id {s : WsState Json Time} (h : Subscribed s)
    {c c' : ConnectionContext ChannelId} (hc : c ∈ s.opened) (hc' : c' ∈ s.opened)
    (hid : c.connectionId = c'.connectionId) : c = c' :=
  List.inj_on_of_nodup_map h.ids hc hc' hid

/-- Two opened connections with one channel are the same. -/
theorem Subscribed.eq_of_sender {s : WsState Json Time} (h : Subscribed s)
    {c c' : ConnectionContext ChannelId} (hc : c ∈ s.opened) (hc' : c' ∈ s.opened)
    (hsender : c.sender = c'.sender) : c = c' := by
  have hnodup : (s.opened.map ConnectionContext.sender).Nodup := by
    rw [h.senders]
    exact List.nodup_range
  exact List.inj_on_of_nodup_map hnodup hc hc' hsender

/-- The targets of a new dispatch are subscribed to its unit. -/
theorem subscribed_dispatchEvent {s s' : WsState Json Time} (h : Subscribed s)
    {event : AlertEvent Json Time} (hstep : dispatchEvent env s event = some s') :
    Subscribed s' := by
  obtain ⟨-, ⟨-, rfl⟩ | ⟨U, -, rfl⟩⟩ := startDispatch_cases hstep
  · exact h
  · refine ⟨h.ids, h.senders, h.registered, h.listed, ?_⟩
    intro d hd p hp
    obtain rfl := Option.some.inj hd
    obtain ⟨id, hid, c, hc, rfl⟩ := (mem_sendersForUnit _).mp hp
    obtain ⟨hmem, rfl⟩ := h.registered id c hc
    obtain ⟨c', hmem', hsame, hunits⟩ := h.listed U _ hid
    obtain rfl := h.eq_of_id hmem' hmem hsame
    exact ⟨c', hmem, rfl, rfl, hunits⟩

/-- A send to a target subscribes nobody. -/
theorem subscribed_trySendNext {s s' : WsState Json Time} (h : Subscribed s)
    (hstep : trySendNext s = some s') : Subscribed s' := by
  obtain ⟨U, message, id, sender, rest, channel, hd, -, hsent⟩ := trySendNext_cases hstep
  have htaken : ∀ closed, ∀ d', some (⟨U, message, rest, closed⟩ : Dispatch Json Time) =
      some d' → ∃ d, s.dispatch = some d ∧ d.unitId = d'.unitId ∧
        ∀ p ∈ d'.targets, p ∈ d.targets := by
    intro closed d' heq
    obtain rfl := Option.some.inj heq
    exact ⟨_, hd, rfl, fun p hp => List.mem_cons_of_mem _ hp⟩
  obtain ⟨c, -, rfl⟩ | ⟨-, rfl⟩ | ⟨-, rfl⟩ := hsent
  · exact h.of_targets rfl rfl (htaken none)
  · exact h.of_targets rfl rfl (htaken none)
  · exact h.of_targets rfl rfl (htaken (some id))

/-- Neither does the removal of a closed target. -/
theorem subscribed_removeClosedTarget {s s' : WsState Json Time} (h : Subscribed s)
    (hstep : removeClosedTarget s = some s') : Subscribed s' := by
  obtain ⟨U, message, rest, id, hd, rfl⟩ := removeClosedTarget_cases hstep
  refine h.of_removeConnection id rfl rfl ?_
  intro d' heq
  obtain rfl := Option.some.inj heq
  exact ⟨_, hd, rfl, fun p hp => hp⟩

/-- Every step keeps the subscriptions those of the opened connections. -/
theorem subscribed_wsStep {s s' : WsState Json Time} (h : Subscribed s)
    {a : WsAction Payload Json Time} (hstep : wsStep env s a = some s') : Subscribed s' := by
  have hkept : ∀ d', s.dispatch = some d' → ∃ d, s.dispatch = some d ∧
      d.unitId = d'.unitId ∧ ∀ p ∈ d'.targets, p ∈ d.targets :=
    fun d' hd' => ⟨d', hd', rfl, fun p hp => hp⟩
  cases a with
  | controlEvent payload =>
    obtain rfl := Option.some.inj hstep
    exact h.of_targets rfl rfl hkept
  | handshake O u =>
    obtain rfl := Option.some.inj hstep
    obtain ⟨-, heq⟩ | ⟨-, heq⟩ := wsHandler_cases s O u
    · rw [heq]
      exact h
    · rw [heq]
      exact h.of_targets rfl rfl hkept
  | openSocket i id => exact subscribed_handleSocket h hstep
  | receive channel =>
    obtain ⟨_, _, _, -, -, rfl⟩ := receive_cases hstep
    exact h.of_targets rfl rfl hkept
  | leave id =>
    obtain rfl := Option.some.inj hstep
    exact h.of_removeConnection id rfl rfl hkept
  | dropReceiver channel =>
    obtain ⟨_, -, rfl⟩ := dropReceiver_cases hstep
    exact h.of_targets rfl rfl hkept
  | dispatchEvent event => exact subscribed_dispatchEvent h hstep
  | trySend => exact subscribed_trySendNext h hstep
  | removeClosed => exact subscribed_removeClosedTarget h hstep
  | dispatchDone =>
    obtain ⟨_, _, -, rfl⟩ := dispatchDone_cases hstep
    refine h.of_targets rfl rfl ?_
    intro d' heq
    cases heq

/-- So they are in every run. -/
theorem subscribed_wsRun {actions : List (WsAction Payload Json Time)}
    {s : WsState Json Time} (hrun : wsRun env actions = some s) : Subscribed s :=
  Runs.invariant_of_step subscribed_init (fun _ _ _ h hstep => subscribed_wsStep h hstep) hrun

/-! ## Where the unit lists come from -/

/-- The place of a waiting handshake after one more action: it moves up when an earlier one
gets its socket, and it is gone when it gets its own. -/
def nextPlace (place : ℕ) : WsAction Payload Json Time → Option ℕ
  | .openSocket i _ =>
    if i = place then none else if i < place then some (place - 1) else some place
  | _ => some place

/-- In this run a handshake read these units, and it waits for its socket at this place: it
was accepted behind those that were waiting at its moment, and has moved up since. -/
def WaitsAt (env : WsEnv Payload Json) (actions : List (WsAction Payload Json Time))
    (upgrade : Upgrade) (place : ℕ) : Prop :=
  ∃ before after s, actions =
      before ++ .handshake upgrade.organizationId upgrade.userId :: after ∧
    wsRun env before = some s ∧
    upgrade.unitIds = s.cache.unitsFor upgrade.organizationId upgrade.userId ∧
    upgrade.unitIds ≠ [] ∧ Runs.exec nextPlace s.upgrades.length after = some place

/-- The connection was opened for a handshake of its user and organization: its `openSocket`
took the place at which that handshake was waiting. -/
def HandshakeOf (env : WsEnv Payload Json) (actions : List (WsAction Payload Json Time))
    (c : ConnectionContext ChannelId) : Prop :=
  ∃ before i after s, actions = before ++ .openSocket i c.connectionId :: after ∧
    wsRun env before = some s ∧ c.sender = s.opened.length ∧
    s.upgrades[i]? = some ⟨c.organizationId, c.userId, c.unitIds⟩ ∧
    WaitsAt env before ⟨c.organizationId, c.userId, c.unitIds⟩ i

/-- A waiting handshake after one more action. -/
theorem WaitsAt.concat {actions : List (WsAction Payload Json Time)} {upgrade : Upgrade}
    {place place' : ℕ} (h : WaitsAt env actions upgrade place) {a : WsAction Payload Json Time}
    (ha : nextPlace place a = some place') : WaitsAt env (actions ++ [a]) upgrade place' := by
  obtain ⟨before, after, s, rfl, hrun, hunits, hsome, hplace⟩ := h
  refine ⟨before, after ++ [a], s, by simp, hrun, hunits, hsome, ?_⟩
  exact Runs.exec_concat_eq_some.mpr ⟨place, hplace, ha⟩

/-- A connection keeps its handshake. -/
theorem HandshakeOf.concat {actions : List (WsAction Payload Json Time)}
    {c : ConnectionContext ChannelId} (h : HandshakeOf env actions c)
    (a : WsAction Payload Json Time) : HandshakeOf env (actions ++ [a]) c := by
  obtain ⟨before, i, after, s, rfl, hrun⟩ := h
  exact ⟨before, i, after ++ [a], s, by simp, hrun⟩

/-- Only an `openSocket` moves the waiting handshakes. -/
theorem nextPlace_of_ne {a : WsAction Payload Json Time} (ha : ∀ i id, a ≠ .openSocket i id)
    (place : ℕ) : nextPlace place a = some place := by
  cases a with
  | openSocket i id => exact absurd rfl (ha i id)
  | controlEvent | handshake | receive | leave | dropReceiver | dispatchEvent | trySend
  | removeClosed | dispatchDone => rfl

/-- The handshakes behind the one that gets its socket move up. -/
theorem exists_place_of_eraseIdx {upgrades : List Upgrade} {i place : ℕ} {upgrade : Upgrade}
    (h : (upgrades.eraseIdx i)[place]? = some upgrade) (id : ConnectionId) :
    ∃ old, upgrades[old]? = some upgrade ∧
      nextPlace old (.openSocket i id : WsAction Payload Json Time) = some place := by
  rw [List.getElem?_eraseIdx] at h
  split at h
  · rename_i hlt
    refine ⟨place, h, ?_⟩
    simp only [nextPlace]
    rw [if_neg (by omega), if_neg (by omega)]
  · rename_i hge
    refine ⟨place + 1, h, ?_⟩
    simp only [nextPlace]
    rw [if_neg (by omega), if_pos (by omega), Nat.add_sub_cancel]

/-- Every accepted handshake waits at its place, and every connection has its own. -/
structure FromHandshake (env : WsEnv Payload Json) (actions : List (WsAction Payload Json Time))
    (s : WsState Json Time) : Prop where
  upgrades : ∀ place upgrade, s.upgrades[place]? = some upgrade →
    WaitsAt env actions upgrade place
  opened : ∀ c ∈ s.opened, HandshakeOf env actions c

/-- A handshake that is accepted waits behind the others. -/
theorem fromHandshake_handshake {actions : List (WsAction Payload Json Time)}
    {s : WsState Json Time} (hrun : wsRun env actions = some s)
    (h : FromHandshake env actions s) {O : OrganizationId} {u : UserId}
    (hunits : s.cache.unitsFor O u ≠ []) :
    FromHandshake env (actions ++ [.handshake O u])
      { s with upgrades := s.upgrades ++ [⟨O, u, s.cache.unitsFor O u⟩] } := by
  refine ⟨?_, fun c hc => (h.opened c hc).concat _⟩
  intro place upgrade hplace
  rw [List.getElem?_append] at hplace
  split at hplace
  · exact (h.upgrades place upgrade hplace).concat rfl
  · rename_i hge
    rw [List.getElem?_singleton] at hplace
    split at hplace
    · rename_i hzero
      obtain rfl := Option.some.inj hplace
      have hlast : s.upgrades.length = place := by omega
      exact ⟨actions, [], s, rfl, hrun, rfl, hunits, congrArg some hlast⟩
    · cases hplace

/-- A socket is opened for the handshake at its place, and those behind it move up. -/
theorem fromHandshake_openSocket {actions : List (WsAction Payload Json Time)}
    {s s' : WsState Json Time} (hrun : wsRun env actions = some s)
    (h : FromHandshake env actions s) {i : ℕ} {id : ConnectionId}
    (hopen : handleSocket env s i id = some s') :
    FromHandshake env (actions ++ [.openSocket i id]) s' := by
  obtain ⟨up, context, hup, -, rfl, rfl⟩ := handleSocket_cases hopen
  refine ⟨?_, ?_⟩
  · intro place upgrade hplace
    obtain ⟨old, hold, hmoved⟩ := exists_place_of_eraseIdx hplace id
    exact (h.upgrades old upgrade hold).concat hmoved
  · intro c hc
    obtain hc | hc := List.mem_append.mp hc
    · exact (h.opened c hc).concat _
    · -- the connection takes over what its handshake read
      obtain rfl := List.mem_singleton.mp hc
      exact ⟨actions, i, [], s, rfl, hrun, rfl, hup, h.upgrades i up hup⟩

/-- Every step keeps the connections tied to their handshakes. -/
theorem fromHandshake_wsStep {actions : List (WsAction Payload Json Time)}
    {s s' : WsState Json Time} (hrun : wsRun env actions = some s)
    (h : FromHandshake env actions s) {a : WsAction Payload Json Time}
    (hstep : wsStep env s a = some s') : FromHandshake env (actions ++ [a]) s' := by
  obtain ⟨O, u, rfl, hunits, rfl⟩ | ⟨i, id, rfl, hopen⟩ | ⟨hupgrades, hopened, -⟩ :=
    clients_cases hstep
  · exact fromHandshake_handshake hrun h hunits
  · exact fromHandshake_openSocket hrun h hopen
  · have hne : ∀ i id, a ≠ .openSocket i id := ne_openSocket_of_opened hstep hopened
    refine ⟨?_, ?_⟩
    · rw [hupgrades]
      exact fun place upgrade hplace =>
        (h.upgrades place upgrade hplace).concat (nextPlace_of_ne hne place)
    · rw [hopened]
      exact fun c hc => (h.opened c hc).concat a

/-- So they are in every run. -/
theorem fromHandshake_wsRun {actions : List (WsAction Payload Json Time)}
    {s : WsState Json Time} (hrun : wsRun env actions = some s) :
    FromHandshake env actions s := by
  refine Runs.history_of_step ?_ ?_ hrun
  · exact ⟨by intro place up hup; simp [WsState.init] at hup,
      by intro c hc; simp [WsState.init] at hc⟩
  · intro actions mid a s' hmid h hstep
    exact fromHandshake_wsStep hmid h hstep

/-! ## What is enqueued -/

/-- The next `try_send` puts an alert of `U` on the channel. -/
def Enqueues (s : WsState Json Time) (U : UnitId) (channel : ChannelId) : Prop :=
  ∃ message connectionId rest c c',
    s.dispatch = some ⟨U, message, (connectionId, channel) :: rest, none⟩ ∧
      s.channels.lookup channel = some c ∧ c.trySend message = .ok c'

/-- **An alert is enqueued only on a connection that was authorized when it was opened.**
In every run, when an alert of `U` is enqueued, the channel belongs to one connection, its
own handshake read its unit list from the cache of that moment, and `U` is in the list.
SRC: websocket/handler.rs:70-103, websocket/dispatcher.rs:35-80 -/
theorem authorized_at_handshake (env : WsEnv Payload Json)
    (actions : List (WsAction Payload Json Time)) (s : WsState Json Time)
    (hrun : wsRun env actions = some s) (U : UnitId) (channel : ChannelId)
    (henqueues : Enqueues s U channel) :
    ∃ c ∈ s.opened, c.sender = channel ∧ (∀ c' ∈ s.opened, c'.sender = channel → c' = c) ∧
      HandshakeOf env actions c ∧ U ∈ c.unitIds := by
  obtain ⟨message, id, rest, -, -, hdispatch, -, -⟩ := henqueues
  have h := subscribed_wsRun hrun
  obtain ⟨c, hc, -, hsender, hunit⟩ :=
    h.targets _ hdispatch (id, channel) List.mem_cons_self
  refine ⟨c, hc, hsender, ?_, (fromHandshake_wsRun hrun).opened c hc, hunit⟩
  intro c' hc' hsender'
  exact h.eq_of_sender hc' hc (hsender'.trans hsender.symm)

end Invariant

/-! ## A revocation after the handshake -/

/-- Messages are events, one unit id is known, and a channel holds eight messages. -/
def sampleEnv : WsEnv Event Event where
  decoder := typedDecoder
  parseUuid s := if s = "00000000-0000-0000-0000-000000000001" then some 1 else none
  channelCapacity := 8

/-- An alert of unit 1. -/
def sampleAlert : AlertEvent Event ℕ where
  id := 900
  organizationId := 10
  unitId := "00000000-0000-0000-0000-000000000001"
  unitName := some "Unit"
  ruleId := 901
  sourceType := "event"
  sourceId := 902
  alertType := "Engine OFF"
  alertName := none
  payload := .userDelete 0
  occurredAt := 0

/-- Unit 1 has a device under organization 10, of which user 5 is an owner. -/
def ownerOps : List Event :=
  [.unitDeviceUpsert "a" 1 10, .membershipUpsert 10 5 "owner" "ACTIVE"]

/-- The owner sees unit 1 at the handshake. -/
theorem unitsFor_ownerOps : (State.run (ownerOps.map Event.op)).unitsFor 10 5 = [1] :=
  unitsFor_ownerCache

/-- The handshake of the owner is accepted for unit 1. -/
theorem wsRun_ownerOps_handshake :
    wsRun sampleEnv ((ownerOps.map fun e => .controlEvent e) ++
      [.handshake 10 5] : List (WsAction Event Event ℕ)) =
        some { (WsState.init : WsState Event ℕ) with
          cache := State.run (ownerOps.map Event.op), upgrades := [⟨10, 5, [1]⟩] } := by
  refine Runs.exec_concat_eq_some.mpr ⟨{ (WsState.init : WsState Event ℕ) with
    cache := State.run (ownerOps.map Event.op) }, rfl, ?_⟩
  simp only [wsStep, wsHandler, unitsFor_ownerOps]
  rfl

/-- The owner connects, the membership is deleted, and an alert of the unit arrives. -/
def revokedRun : List (WsAction Event Event ℕ) :=
  (ownerOps.map fun e => .controlEvent e) ++
    [.handshake 10 5, .openSocket 0 77, .controlEvent (.membershipDelete 10 5),
      .dispatchEvent sampleAlert]

/-- After the revocation an alert of unit 1 is still put on the channel. -/
theorem revokedRun_enqueues :
    ∃ s, wsRun sampleEnv revokedRun = some s ∧ s.opened = [⟨77, 5, 10, [1], 0⟩] ∧
      s.cache = (State.run (ownerOps.map Event.op)).deleteMembership 10 5 ∧
      Enqueues s 1 0 := by
  have hsplit : revokedRun = ((ownerOps.map fun e => .controlEvent e) ++ [.handshake 10 5]) ++
      [.openSocket 0 77, .controlEvent (.membershipDelete 10 5),
        .dispatchEvent sampleAlert] := rfl
  have hconnected := wsRun_ownerOps_handshake
  rw [wsRun] at hconnected
  rw [hsplit, wsRun, Runs.exec_append, hconnected]
  exact ⟨_, rfl, rfl, rfl, _, 77, [], _, _, rfl, rfl, rfl⟩

/-- The alert is enqueued on a connection of user 5 for organization 10, who does not see
the unit any more. -/
theorem revoked_still_delivered :
    ∃ s, wsRun sampleEnv revokedRun = some s ∧
      ∃ c ∈ s.opened, c.organizationId = 10 ∧ c.userId = 5 ∧ Enqueues s 1 c.sender ∧
        1 ∉ s.cache.unitsFor c.organizationId c.userId := by
  obtain ⟨s, hs, hopened, hcache, henqueues⟩ := revokedRun_enqueues
  refine ⟨s, hs, ⟨77, 5, 10, [1], 0⟩, ?_, rfl, rfl, henqueues, ?_⟩
  · rw [hopened]
    exact List.mem_singleton_self _
  · have hrevoked : s.cache.activeMembership 10 5 = none := by
      rw [hcache]
      decide
    simp [State.unitsFor, hrevoked]

/-! ## A new handshake after the revocation -/

/-- Unit 2 has a device under organization 10, of which user 5 is an owner. -/
def beforeReconnect : List Event :=
  [.unitDeviceUpsert "a" 2 10, .membershipUpsert 10 5 "owner" "ACTIVE"]

/-- The membership is deleted, the device moves to unit 1, and the membership is restored. -/
def restoredOps : List Event :=
  beforeReconnect ++
    [.membershipDelete 10 5, .unitDeviceUpsert "a" 1 10, .membershipUpsert 10 5 "owner" "ACTIVE"]

/-- At the first handshake the owner sees unit 2. -/
theorem unitsFor_beforeReconnect :
    (State.run (beforeReconnect.map Event.op)).unitsFor 10 5 = [2] := by
  have hactive : (State.run (beforeReconnect.map Event.op)).activeMembership 10 5 =
      some ⟨true, true⟩ := by decide
  have howner : (State.run (beforeReconnect.map Event.op)).ownerUnits 10 = {2} := by decide
  unfold State.unitsFor
  rw [hactive]
  simp only [if_true, howner, Finset.sort_singleton]

/-- At the second one unit 1. -/
theorem unitsFor_restoredOps :
    (State.run (restoredOps.map Event.op)).unitsFor 10 5 = [1] := by
  have hactive : (State.run (restoredOps.map Event.op)).activeMembership 10 5 =
      some ⟨true, true⟩ := by decide
  have howner : (State.run (restoredOps.map Event.op)).ownerUnits 10 = {1} := by decide
  unfold State.unitsFor
  rw [hactive]
  simp only [if_true, howner, Finset.sort_singleton]

/-- The owner connects, is revoked and turned away, and connects again. -/
def reconnectedRun : List (WsAction Event Event ℕ) :=
  (beforeReconnect.map fun e => .controlEvent e) ++ [.handshake 10 5] ++
    [.openSocket 0 77, .controlEvent (.membershipDelete 10 5), .handshake 10 5,
      .controlEvent (.unitDeviceUpsert "a" 1 10),
      .controlEvent (.membershipUpsert 10 5 "owner" "ACTIVE")] ++
    [.handshake 10 5] ++ [.openSocket 0 78, .dispatchEvent sampleAlert]

/-- The service with the first connection open and the membership restored. -/
def reconnected (upgrades : List Upgrade) : WsState Event ℕ :=
  { (WsState.init : WsState Event ℕ) with
    cache := State.run (restoredOps.map Event.op)
    registry := RegistryState.new.addConnection ⟨77, 5, 10, [2], 0⟩
    channels := (∅ : HashMap ChannelId _).insert 0 (Channel.new 8)
    opened := [⟨77, 5, 10, [2], 0⟩]
    upgrades }

/-- The run up to the second handshake. -/
theorem wsRun_revoked :
    wsRun sampleEnv ((beforeReconnect.map fun e => .controlEvent e) ++ [.handshake 10 5] ++
      [.openSocket 0 77, .controlEvent (.membershipDelete 10 5), .handshake 10 5,
        .controlEvent (.unitDeviceUpsert "a" 1 10),
        .controlEvent (.membershipUpsert 10 5 "owner" "ACTIVE")] :
      List (WsAction Event Event ℕ)) = some (reconnected []) := by
  have hfirst : wsRun sampleEnv ((beforeReconnect.map fun e => .controlEvent e) ++
      [.handshake 10 5] : List (WsAction Event Event ℕ)) =
        some { (WsState.init : WsState Event ℕ) with
          cache := State.run (beforeReconnect.map Event.op), upgrades := [⟨10, 5, [2]⟩] } :=
    Runs.exec_concat_eq_some.mpr ⟨{ (WsState.init : WsState Event ℕ) with
      cache := State.run (beforeReconnect.map Event.op) }, rfl,
        wsStep_handshake unitsFor_beforeReconnect (List.cons_ne_nil _ _)⟩
  rw [wsRun] at hfirst ⊢
  rw [Runs.exec_append, hfirst]
  rfl

/-- The alert of unit 1 goes to the second connection. -/
theorem reconnectedRun_enqueues :
    ∃ s, wsRun sampleEnv reconnectedRun = some s ∧
      s.opened = [⟨77, 5, 10, [2], 0⟩, ⟨78, 5, 10, [1], 1⟩] ∧ Enqueues s 1 1 := by
  have hreconnected : wsRun sampleEnv ((beforeReconnect.map fun e => .controlEvent e) ++
      [.handshake 10 5] ++ [.openSocket 0 77, .controlEvent (.membershipDelete 10 5),
        .handshake 10 5, .controlEvent (.unitDeviceUpsert "a" 1 10),
        .controlEvent (.membershipUpsert 10 5 "owner" "ACTIVE")] ++ [.handshake 10 5] :
      List (WsAction Event Event ℕ)) = some (reconnected [⟨10, 5, [1]⟩]) :=
    Runs.exec_concat_eq_some.mpr ⟨_, wsRun_revoked,
      wsStep_handshake unitsFor_restoredOps (List.cons_ne_nil _ _)⟩
  rw [wsRun] at hreconnected
  rw [reconnectedRun, wsRun, Runs.exec_append, hreconnected]
  exact ⟨_, rfl, rfl, _, 78, [], _, _, rfl, rfl, rfl⟩

/-- The alert of unit 1 goes to the second connection, and the list that it is found in was
read at the second handshake: the first one read another. -/
theorem authorized_at_handshake_revoked :
    ∃ s, wsRun sampleEnv reconnectedRun = some s ∧
      s.opened = [⟨77, 5, 10, [2], 0⟩, ⟨78, 5, 10, [1], 1⟩] ∧
      HandshakeOf sampleEnv reconnectedRun ⟨78, 5, 10, [1], 1⟩ := by
  obtain ⟨s, hs, hopened, henqueues⟩ := reconnectedRun_enqueues
  obtain ⟨c, hc, hsender, -, hhandshake, -⟩ :=
    authorized_at_handshake sampleEnv reconnectedRun s hs 1 1 henqueues
  refine ⟨s, hs, hopened, ?_⟩
  rw [hopened] at hc
  simp only [List.mem_cons, List.not_mem_nil, or_false] at hc
  obtain rfl | rfl := hc
  · cases hsender
  · exact hhandshake

end AlertDistributor.Analysis
