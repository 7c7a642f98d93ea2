import AlertDistributor.Analysis.Authentication
import AlertDistributor.Analysis.Delivery

/-!
# The tasks of the connections

`Station` is what the station of a task says about its connection: it is registered from
`add_connection` up to `remove_connection`, and its channel has a receiver until the task is
over.  So the registry holds the connections whose task is live and those whose task has
panicked at its heartbeat; a task never finds its own channel closed, and a target that the
dispatcher finds closed has left the registry before, unless its task has panicked
(`serves_serverRun`).
-/

set_option autoImplicit false

namespace AlertDistributor.Analysis

open AlertDistributor.Model AlertDistributor.Interface AlertDistributor.System FiniteMap

/-! ## Stations -/

section Stations

variable {Payload Json Time HeaderValue : Type} {env : ServerEnv Payload Json HeaderValue}
  {ws ws' : WsState Json Time} {c : ConnectionContext ChannelId} {phase : SocketPhase}

/-- The heartbeat of the server fails at this time: it has no interval, or the clock ends. -/
def HeartbeatFails (env : ServerEnv Payload Json HeaderValue) (now : ℕ) : Prop :=
  env.state.heartbeatInterval = 0 ∨ ClockEnds env.timer env.state.heartbeatInterval now

/-- A task at some station, and what it knows of its connection. -/
structure Station (env : ServerEnv Payload Json HeaderValue) (ws : WsState Json Time)
    (c : ConnectionContext ChannelId) (phase : SocketPhase) : Prop where
  live : phase.isLive = true → ws.registry.connections.lookup c.connectionId = some c
  gone : phase.isLive = false → phase.panickedAt = none →
    ws.registry.connections.lookup c.connectionId = none
  receiver : phase.isOver = false →
    ∃ channel, ws.channels.lookup c.sender = some channel ∧ channel.receiver = true
  panicked : ∀ now, phase.panickedAt = some now → HeartbeatFails env now
  exit : phase.exit ≠ some .channelClosed

/-- A step that touches neither the registry entry nor the receiver. -/
theorem Station.of_same (h : Station env ws c phase)
    (hregistry : ws'.registry.connections.lookup c.connectionId =
      ws.registry.connections.lookup c.connectionId)
    (hreceiver : ∀ channel, ws.channels.lookup c.sender = some channel →
      ∃ channel', ws'.channels.lookup c.sender = some channel' ∧
        channel'.receiver = channel.receiver) : Station env ws' c phase where
  live hlive := hregistry.trans (h.live hlive)
  gone hleft hnot := hregistry.trans (h.gone hleft hnot)
  receiver hover := by
    obtain ⟨channel, hchannel, hopen⟩ := h.receiver hover
    obtain ⟨channel', hchannel', hsame⟩ := hreceiver channel hchannel
    exact ⟨channel', hchannel', hsame.trans hopen⟩
  panicked := h.panicked
  exit := h.exit

/-- The station of a live task: it is registered and its channel has a receiver. -/
theorem Station.of_live (hlive : phase.isLive = true)
    (hregistered : ws.registry.connections.lookup c.connectionId = some c)
    (hreceiver : ∃ channel, ws.channels.lookup c.sender = some channel ∧ channel.receiver = true)
    (hexit : phase.exit ≠ some .channelClosed) : Station env ws c phase where
  live _ := hregistered
  gone hleft := by
    rw [hlive] at hleft
    cases hleft
  receiver _ := hreceiver
  panicked now hnow := by
    cases phase with
    | registered | running lastPong deadline | leaving exit | removed exit | returned exit =>
      cases hnow
    | panicked now => cases hlive
  exit := hexit

/-- The registry holds a sending end of the channel of a live task. -/
theorem Station.hasSender (h : Station env ws c phase) (hlive : phase.isLive = true) :
    ws.hasSender c.sender = true := by
  unfold WsState.hasSender
  apply Bool.or_eq_true_iff.mpr
  apply Or.inl
  apply decide_eq_true
  refine ⟨c.connectionId, (mem_keys_iff_lookup _ _).mpr ⟨c, h.live hlive⟩, ?_⟩
  rw [h.live hlive]
  simp

end Stations

section Tasks

variable {Payload Json Time HeaderValue : Type} {env : ServerEnv Payload Json HeaderValue}
  {s s' : ServerState Json Time}

/-- Each connection has its task, and what was found closed is over. -/
structure Attended (env : ServerEnv Payload Json HeaderValue) (s : ServerState Json Time) :
    Prop where
  station : ∀ c ∈ s.ws.opened, ∃ phase, s.sockets.lookup (handleOf c) = some phase ∧
    Station env s.ws c phase
  served : ∀ handle phase, s.sockets.lookup handle = some phase →
    ∃ c ∈ s.ws.opened, handleOf c = handle
  closed : ∀ d id, s.ws.dispatch = some d → d.closed = some id →
    ∃ c ∈ s.ws.opened, c.connectionId = id ∧
      ∃ phase, s.sockets.lookup (handleOf c) = some phase ∧ phase.isOver = true

/-- At the start there is neither a connection nor a task. -/
theorem attended_init : Attended env (ServerState.init : ServerState Json Time) where
  station := by intro c hc; simp [ServerState.init, WsState.init] at hc
  served := by intro handle phase h; simp [ServerState.init] at h
  closed := by intro d id h; cases h

/-- The station of a task, and the connection that it serves. -/
theorem Attended.lookup (h : Attended env s) {handle : SocketHandle} {phase : SocketPhase}
    (hphase : s.sockets.lookup handle = some phase) :
    ∃ c ∈ s.ws.opened, handleOf c = handle ∧ Station env s.ws c phase := by
  obtain ⟨c, hc, rfl⟩ := h.served handle phase hphase
  obtain ⟨phase', hphase', hstation⟩ := h.station c hc
  obtain rfl := Option.some.inj (hphase.symm.trans hphase')
  exact ⟨c, hc, rfl, hstation⟩

/-- An opened connection is where the phase of its task says. -/
theorem Attended.lookup_of_mem (h : Attended env s) {c : ConnectionContext ChannelId}
    (hc : c ∈ s.ws.opened) {phase : SocketPhase}
    (hphase : s.sockets.lookup (handleOf c) = some phase) :
    Station env s.ws c phase := by
  obtain ⟨phase', hphase', hstation⟩ := h.station c hc
  obtain rfl := Option.some.inj (hphase.symm.trans hphase')
  exact hstation

/-! ### Steps of the other tasks -/

/-- A step that moves no task. -/
theorem Attended.of_frame (h : Attended env s) {ws' : WsState Json Time}
    (hopened : ws'.opened = s.ws.opened)
    (hstation : ∀ c ∈ s.ws.opened, ∀ phase, s.sockets.lookup (handleOf c) = some phase →
      Station env s.ws c phase →
        Station env ws' c phase)
    (hclosed : ∀ d id, ws'.dispatch = some d → d.closed = some id →
      ∃ c ∈ s.ws.opened, c.connectionId = id ∧
        ∃ phase, s.sockets.lookup (handleOf c) = some phase ∧ phase.isOver = true) :
    Attended env { s with ws := ws' } where
  station := by
    intro c hc
    rw [hopened] at hc
    obtain ⟨phase, hphase, hold⟩ := h.station c hc
    exact ⟨phase, hphase, hstation c hc phase hphase hold⟩
  served := by
    intro handle phase hphase
    rw [hopened]
    exact h.served handle phase hphase
  closed := by
    intro d id hd hid
    rw [hopened]
    exact hclosed d id hd hid

/-- A channel that is written keeps its receiver. -/
theorem receiver_insert {channels : HashMap ChannelId (Channel (ClientAlertMessage Json Time))}
    {sender : ChannelId} {before after : Channel (ClientAlertMessage Json Time)}
    (hbefore : channels.lookup sender = some before) (hsame : after.receiver = before.receiver)
    (other : ChannelId) (channel : Channel (ClientAlertMessage Json Time))
    (hchannel : channels.lookup other = some channel) :
    ∃ channel', (channels.insert sender after).lookup other = some channel' ∧
      channel'.receiver = channel.receiver := by
  by_cases heq : other = sender
  · subst heq
    obtain rfl := Option.some.inj (hbefore.symm.trans hchannel)
    exact ⟨after, lookup_insert_eq_some_iff.mpr (Or.inl ⟨rfl, rfl⟩), hsame⟩
  · exact ⟨channel, lookup_insert_eq_some_iff.mpr (Or.inr ⟨heq, hchannel⟩), rfl⟩

/-- A channel that answers `Closed` is that of a task that is over. -/
theorem Attended.over_of_closed (h : Attended env s) (hsub : Subscribed s.ws)
    {d : Dispatch Json Time} (hd : s.ws.dispatch = some d) {id : ConnectionId}
    {sender : ChannelId} (htarget : (id, sender) ∈ d.targets)
    {channel : Channel (ClientAlertMessage Json Time)}
    (hchannel : s.ws.channels.lookup sender = some channel)
    {message : ClientAlertMessage Json Time} (hclosed : channel.trySend message = .closed) :
    ∃ c ∈ s.ws.opened, c.connectionId = id ∧
      ∃ phase, s.sockets.lookup (handleOf c) = some phase ∧ phase.isOver = true := by
  obtain ⟨c, hc, hid, rfl, -⟩ := hsub.targets d hd (id, sender) htarget
  obtain ⟨phase, hphase, hstation⟩ := h.station c hc
  refine ⟨c, hc, hid, phase, hphase, ?_⟩
  by_contra hover
  obtain ⟨channel', hchannel', hopen⟩ := hstation.receiver (Bool.eq_false_iff.mpr hover)
  obtain rfl := Option.some.inj (hchannel.symm.trans hchannel')
  have hdropped : channel.receiver = false := by
    rw [← Channel.outcome_eq_closed_iff, ← Channel.trySend_eq_closed_iff channel message]
    exact hclosed
  rw [hdropped] at hopen
  cases hopen

/-- A send changes no task, and finds a closed channel only after the end of its task. -/
theorem attended_trySendNext (h : Attended env s) (hsub : Subscribed s.ws)
    {ws' : WsState Json Time} (hstep : trySendNext s.ws = some ws') :
    Attended env { s with ws := ws' } := by
  obtain ⟨U, message, id, sender, rest, channel, hd, hchannel, hsent⟩ := trySendNext_cases hstep
  obtain ⟨after, hok, rfl⟩ | ⟨-, rfl⟩ | ⟨hclosed, rfl⟩ := hsent
  · have hsame : after.receiver = channel.receiver := by
      rw [((Channel.trySend_eq_ok_iff _ _ _).mp hok).2]
    refine h.of_frame rfl ?_ (fun d id' hd' hid' => ?_)
    · intro c _ phase _ hstation
      exact hstation.of_same rfl (receiver_insert hchannel hsame c.sender)
    · obtain rfl := Option.some.inj hd'
      cases hid'
  · refine h.of_frame rfl (fun c _ phase _ hstation => ?_) (fun d id' hd' hid' => ?_)
    · exact hstation.of_same rfl fun channel hchannel => ⟨channel, hchannel, rfl⟩
    · obtain rfl := Option.some.inj hd'
      cases hid'
  · refine h.of_frame rfl (fun c _ phase _ hstation => ?_) (fun d id' hd' hid' => ?_)
    · exact hstation.of_same rfl fun channel hchannel => ⟨channel, hchannel, rfl⟩
    · obtain rfl := Option.some.inj hd'
      obtain rfl := Option.some.inj hid'
      exact h.over_of_closed hsub hd List.mem_cons_self hchannel hclosed

/-- The connection of a live task stays registered: what is removed belongs to another. -/
theorem attended_removeClosedTarget (h : Attended env s) (hsub : Subscribed s.ws)
    {ws' : WsState Json Time} (hstep : removeClosedTarget s.ws = some ws') :
    Attended env { s with ws := ws' } := by
  obtain ⟨U, message, rest, id, hd, rfl⟩ := removeClosedTarget_cases hstep
  obtain ⟨closed, hmem, rfl, phaseOver, hphaseOver, hisOver⟩ := h.closed _ id hd rfl
  refine h.of_frame rfl ?_ (fun d id' hd' hid' => ?_)
  · intro c hc phase hphase hstation
    refine ⟨fun hlive => ?_, fun hleft hnot => ?_, hstation.receiver, hstation.panicked,
      hstation.exit⟩
    · rw [lookup_removeConnection, if_neg]
      · exact hstation.live hlive
      · intro heq
        obtain rfl := hsub.eq_of_id hc hmem heq
        obtain rfl := Option.some.inj (hphase.symm.trans hphaseOver)
        cases phase <;> cases hlive <;> cases hisOver
    · rw [lookup_removeConnection]
      split
      · rfl
      · exact hstation.gone hleft hnot
  · obtain rfl := Option.some.inj hd'
    cases hid'

/-- What the other tasks do leaves the connections where they are. -/
theorem attended_other (h : Attended env s) (hsub : Subscribed s.ws)
    {action : WsAction Payload Json Time}
    (hstep : serverStep env s (.other action : ServerAction Payload Json Time HeaderValue) =
      some s') : Attended env s' := by
  obtain ⟨hother, ws, hws, rfl⟩ := other_cases hstep
  have hkept : ∀ ws' : WsState Json Time, ws'.registry = s.ws.registry →
      ws'.channels = s.ws.channels → ∀ c ∈ s.ws.opened, ∀ phase,
        s.sockets.lookup (handleOf c) = some phase →
        Station env s.ws c phase →
          Station env ws' c phase := by
    intro ws' hregistry hchannels c _ phase _ hstation
    refine hstation.of_same (by rw [hregistry]) ?_
    rw [hchannels]
    exact fun channel hchannel => ⟨channel, hchannel, rfl⟩
  cases action with
  | controlEvent payload =>
    obtain rfl := Option.some.inj hws
    exact h.of_frame rfl (hkept _ rfl rfl) h.closed
  | dispatchEvent event =>
    obtain ⟨-, ⟨-, rfl⟩ | ⟨U, -, rfl⟩⟩ := startDispatch_cases hws
    · exact h
    · refine h.of_frame rfl (hkept _ rfl rfl) (fun d id hd hid => ?_)
      obtain rfl := Option.some.inj hd
      cases hid
  | trySend => exact attended_trySendNext h hsub hws
  | removeClosed => exact attended_removeClosedTarget h hsub hws
  | dispatchDone =>
    obtain ⟨_, _, -, rfl⟩ := dispatchDone_cases hws
    refine h.of_frame rfl (hkept _ rfl rfl) (fun d id hd hid => ?_)
    cases hd
  | handshake O u | openSocket i id | receive channel | leave id | dropReceiver channel =>
    cases hother

/-! ### Steps of a task -/

/-- A task comes to another station; it touches its own connection only. -/
theorem Attended.moved (h : Attended env s) (hsub : Subscribed s.ws)
    {c : ConnectionContext ChannelId} (hc : c ∈ s.ws.opened) {before phase : SocketPhase}
    (hbefore : s.sockets.lookup (handleOf c) = some before) (hnot : before.isOver = false)
    {ws : WsState Json Time} (hopened : ws.opened = s.ws.opened)
    (hdispatch : ws.dispatch = s.ws.dispatch)
    (hregistry : ∀ id ≠ c.connectionId,
      ws.registry.connections.lookup id = s.ws.registry.connections.lookup id)
    (hchannels : ∀ sender ≠ c.sender, ws.channels.lookup sender = s.ws.channels.lookup sender)
    (hstation : Station env ws c phase) :
    Attended env (s.moved (handleOf c) phase ws) where
  station := by
    intro c' hc'
    replace hc' : c' ∈ s.ws.opened := hopened ▸ hc'
    by_cases heq : c' = c
    · subst heq
      exact ⟨phase, lookup_insert_eq_some_iff.mpr (Or.inl ⟨rfl, rfl⟩), hstation⟩
    · obtain ⟨phase', hphase', hother⟩ := h.station c' hc'
      have hid : c'.connectionId ≠ c.connectionId := fun hid => heq (hsub.eq_of_id hc' hc hid)
      have hsender : c'.sender ≠ c.sender := fun hsender =>
        heq (hsub.eq_of_sender hc' hc hsender)
      refine ⟨phase', lookup_insert_eq_some_iff.mpr (Or.inr ⟨?_, hphase'⟩), ?_⟩
      · exact fun hhandle => hid (congrArg SocketHandle.connectionId hhandle)
      · refine hother.of_same (hregistry _ hid) fun channel hchannel => ⟨channel, ?_, rfl⟩
        exact (hchannels _ hsender).trans hchannel
  served := by
    intro handle phase' hphase'
    show ∃ c' ∈ ws.opened, handleOf c' = handle
    rw [hopened]
    obtain ⟨rfl, -⟩ | ⟨-, hold⟩ := lookup_insert_eq_some_iff.mp hphase'
    · exact ⟨c, hc, rfl⟩
    · exact h.served handle phase' hold
  closed := by
    intro d id hd hid
    show ∃ c' ∈ ws.opened, _
    rw [hopened]
    obtain ⟨c', hc', hid', phase', hphase', hover⟩ :=
      h.closed d id (hdispatch.symm.trans hd) hid
    refine ⟨c', hc', hid', phase', lookup_insert_eq_some_iff.mpr (Or.inr ⟨?_, hphase'⟩), hover⟩
    intro hhandle
    rw [hhandle, hbefore] at hphase'
    obtain rfl := Option.some.inj hphase'
    rw [hnot] at hover
    cases hover

/-- A socket that is opened has its task, before the heartbeat. -/
theorem attended_openSocket (h : Attended env s) (hsub : Subscribed s.ws) {i : ℕ}
    {id : ConnectionId} (hstep : serverStep env s (.openSocket i id : ServerAction Payload Json
      Time HeaderValue) = some s') : Attended env s' := by
  obtain ⟨-, upgrade, -, rfl⟩ | ⟨-, ws, hopen, rfl⟩ := serverOpen_cases hstep
  · refine h.of_frame rfl (fun c _ phase _ hstation => ?_) h.closed
    exact hstation.of_same rfl fun channel hchannel => ⟨channel, hchannel, rfl⟩
  obtain ⟨up, context, -, hnew, hcontext, rfl⟩ := handleSocket_cases hopen
  have hid : context.connectionId = id := by rw [hcontext]
  have hsender : context.sender = s.ws.opened.length := by rw [hcontext]
  have hother : ∀ c ∈ s.ws.opened, c.connectionId ≠ id ∧ c.sender ≠ s.ws.opened.length := by
    intro c hc
    refine ⟨fun heq => hnew (heq ▸ List.mem_map_of_mem hc), fun heq => ?_⟩
    have hmem : c.sender ∈ s.ws.opened.map ConnectionContext.sender := List.mem_map_of_mem hc
    rw [hsub.senders, List.mem_range, heq] at hmem
    exact Nat.lt_irrefl _ hmem
  have hold : ∀ c ∈ s.ws.opened, ∀ phase, s.sockets.lookup (handleOf c) = some phase →
      (s.sockets.insert ⟨id, s.ws.opened.length⟩ .registered).lookup (handleOf c) =
        some phase := by
    intro c hc phase hphase
    refine lookup_insert_eq_some_iff.mpr (Or.inr ⟨fun heq => ?_, hphase⟩)
    exact (hother c hc).1 (congrArg SocketHandle.connectionId heq)
  refine ⟨?_, ?_, ?_⟩
  · intro c hc
    obtain hc | hc := List.mem_append.mp hc
    · obtain ⟨phase, hphase, hstation⟩ := h.station c hc
      refine ⟨phase, hold c hc phase hphase, hstation.of_same ?_ fun channel hchannel => ?_⟩
      · refine (lookup_insert_ite _ _ _ _).trans (if_neg ?_)
        rw [hid]
        exact (hother c hc).1
      · exact ⟨channel, lookup_insert_eq_some_iff.mpr (Or.inr ⟨(hother c hc).2, hchannel⟩), rfl⟩
    · obtain rfl := List.mem_singleton.mp hc
      refine ⟨.registered, ?_, ?_⟩
      · rw [handleOf, hid, hsender]
        exact lookup_insert_eq_some_iff.mpr (Or.inl ⟨rfl, rfl⟩)
      · apply Station.of_live rfl
        · exact lookup_insert_eq_some_iff.mpr (Or.inl ⟨rfl, rfl⟩)
        · rw [hsender]
          exact ⟨_, lookup_insert_eq_some_iff.mpr (Or.inl ⟨rfl, rfl⟩), rfl⟩
        · intro heq
          cases heq
  · intro handle phase hphase
    obtain ⟨rfl, -⟩ | ⟨-, hphase⟩ := lookup_insert_eq_some_iff.mp hphase
    · refine ⟨context, List.mem_append_right _ (List.mem_singleton_self _), ?_⟩
      rw [handleOf, hid, hsender]
    · obtain ⟨c, hc, hhandle⟩ := h.served handle phase hphase
      exact ⟨c, List.mem_append_left _ hc, hhandle⟩
  · intro d closed hd hclosed
    obtain ⟨c, hc, hid', phase, hphase, hover⟩ := h.closed d closed hd hclosed
    exact ⟨c, List.mem_append_left _ hc, hid', phase, hold c hc phase hphase, hover⟩

/-- A task that panics at its heartbeat drops its receiver and stays registered. -/
theorem Attended.panicked (h : Attended env s) (hsub : Subscribed s.ws)
    {c : ConnectionContext ChannelId} (hc : c ∈ s.ws.opened) {before : SocketPhase}
    (hbefore : s.sockets.lookup (handleOf c) = some before) (hnot : before.isOver = false)
    {now : ℕ} (hfails : HeartbeatFails env now) {ws : WsState Json Time}
    (hws : wsStep env.ws s.ws (.dropReceiver c.sender) = some ws) :
    Attended env (s.moved (handleOf c) (.panicked now) ws) := by
  obtain ⟨channel, -, rfl⟩ := dropReceiver_cases hws
  refine h.moved hsub hc hbefore hnot rfl rfl (fun _ _ => rfl) ?_ ?_
  · intro sender hne
    exact (lookup_insert_ite _ _ _ _).trans (if_neg hne)
  · refine ⟨fun hlive => ?_, fun _ hnever => ?_, fun hrunning => ?_, fun now' hnow => ?_, ?_⟩
    · cases hlive
    · cases hnever
    · cases hrunning
    · exact Option.some.inj hnow ▸ hfails
    · intro heq
      cases heq

/-- The heartbeat starts, or the task panics. -/
theorem attended_start (h : Attended env s) (hsub : Subscribed s.ws) {handle : SocketHandle}
    {now : ℕ} (hstep : serverStep env s (.start handle now : ServerAction Payload Json Time
      HeaderValue) = some s') : Attended env s' := by
  obtain ⟨hphase, hcases⟩ := heartbeatStart_cases hstep
  obtain ⟨c, hc, rfl, hstation⟩ := h.lookup hphase
  obtain ⟨hzero, ws, hws, rfl⟩ | ⟨-, rfl⟩ := hcases
  · exact h.panicked hsub hc hphase rfl (Or.inl hzero) hws
  · refine h.moved hsub hc hphase rfl rfl rfl (fun _ _ => rfl) (fun _ _ => rfl) ?_
    apply Station.of_live rfl (hstation.live rfl) (hstation.receiver rfl)
    intro heq
    cases heq

/-- The loop is left for a closed channel by the branch that finds it closed only. -/
theorem socketTurn_eq_channelClosed {timeout lastPong now : ℕ} {event : SocketEvent}
    (h : socketTurn timeout lastPong now event = .error .channelClosed) :
    event = .outbound none := by
  revert h
  fun_cases socketTurn timeout lastPong now event <;> simp

/-- The station after a turn of the loop. -/
theorem station_ofTurn {ws ws' : WsState Json Time} {c : ConnectionContext ChannelId}
    {lastPong deadline next : ℕ} (h : Station env ws c (.running lastPong deadline))
    (hregistry : ws'.registry = ws.registry)
    (hreceiver : ∃ channel, ws'.channels.lookup c.sender = some channel ∧
      channel.receiver = true)
    {turned : Except SocketExit ℕ} (hturned : turned ≠ .error .channelClosed) :
    Station env ws' c (.ofTurn next turned) := by
  have hregistered : ws'.registry.connections.lookup c.connectionId = some c := by
    rw [hregistry]
    exact h.live rfl
  cases turned with
  | ok lastPong' =>
    apply Station.of_live rfl hregistered hreceiver
    intro heq
    cases heq
  | error exit =>
    apply Station.of_live rfl hregistered hreceiver
    intro heq
    obtain rfl := Option.some.inj heq
    exact hturned rfl

/-- **A task in its loop does not find its channel closed**: the registry still has a sending
end. -/
theorem attended_turn (h : Attended env s) (hsub : Subscribed s.ws) {handle : SocketHandle}
    {now : ℕ} {event : SocketEvent} (hstep : serverStep env s (.turn handle now event :
      ServerAction Payload Json Time HeaderValue) = some s') : Attended env s' := by
  obtain ⟨lastPong, deadline, hphase, hturn⟩ := turn_cases hstep
  obtain ⟨c, hc, rfl, hstation⟩ := h.lookup hphase
  have hopen := hstation.receiver rfl
  have hturned : (∀ message, event = .outbound message → message ≠ none) →
      socketTurn env.state.heartbeatTimeout lastPong now event ≠ .error .channelClosed :=
    fun hsome heq => hsome none (socketTurn_eq_channelClosed heq) rfl
  obtain ⟨hdue, ⟨hpanic, ws, hws, rfl⟩ | ⟨next, ws, -, htake, rfl⟩⟩ := loopTurn_cases hturn
  · exact h.panicked hsub hc hphase rfl (Or.inr (clockEnds_of_turnDeadline hdue hpanic)) hws
  obtain ⟨message, rfl, hws⟩ | ⟨-, hclosed, rfl⟩ | ⟨hquiet, rfl⟩ := takeOutbound_cases htake
  · obtain ⟨before, taken, rest, hbefore, hrecv, rfl⟩ := receive_cases hws
    have hsame : rest.receiver = before.receiver := by
      rw [((Channel.recv_eq_some_iff _ _ _).mp hrecv).2.2]
    refine h.moved hsub hc hphase rfl rfl rfl (fun _ _ => rfl) ?_ ?_
    · intro sender hne
      exact (lookup_insert_ite _ _ _ _).trans (if_neg hne)
    · apply station_ofTurn hstation
      · rfl
      · obtain ⟨channel, hchannel, hreceiver⟩ := hopen
        obtain rfl := Option.some.inj (hbefore.symm.trans hchannel)
        exact ⟨rest, lookup_insert_eq_some_iff.mpr (Or.inl ⟨rfl, rfl⟩), hsame.trans hreceiver⟩
      · apply hturned
        rintro message' heq rfl
        cases heq
  · have hsender : s.ws.hasSender c.sender = true := hstation.hasSender rfl
    have hnone : s.ws.hasSender c.sender = false := hclosed
    rw [hsender] at hnone
    cases hnone
  · refine h.moved hsub hc hphase rfl rfl rfl (fun _ _ => rfl) (fun _ _ => rfl) ?_
    exact station_ofTurn hstation rfl hopen (hturned fun message heq => absurd heq (hquiet message))

/-- A task that leaves its loop removes its connection. -/
theorem attended_removeConnection (h : Attended env s) (hsub : Subscribed s.ws)
    {handle : SocketHandle} (hstep : serverStep env s (.removeConnection handle :
      ServerAction Payload Json Time HeaderValue) = some s') : Attended env s' := by
  obtain ⟨exit, hphase, rfl⟩ := removeConnection_cases hstep
  obtain ⟨c, hc, rfl, hstation⟩ := h.lookup hphase
  refine h.moved hsub hc hphase rfl rfl rfl ?_ (fun _ _ => rfl) ?_
  · intro id hne
    exact (lookup_removeConnection _ _ _).trans (if_neg hne)
  · refine ⟨fun hlive => ?_, fun _ _ => ?_, fun _ => hstation.receiver rfl, fun now hnow => ?_,
      hstation.exit⟩
    · cases hlive
    · exact (lookup_removeConnection _ _ _).trans (if_pos rfl)
    · cases hnow

/-- A task that returns drops its receiver. -/
theorem attended_finish (h : Attended env s) (hsub : Subscribed s.ws) {handle : SocketHandle}
    (hstep : serverStep env s (.finish handle : ServerAction Payload Json Time HeaderValue) =
      some s') : Attended env s' := by
  obtain ⟨exit, ws, hphase, hws, rfl⟩ := finish_cases hstep
  obtain ⟨c, hc, rfl, hstation⟩ := h.lookup hphase
  obtain ⟨channel, -, rfl⟩ := dropReceiver_cases hws
  refine h.moved hsub hc hphase rfl rfl rfl (fun _ _ => rfl) ?_ ?_
  · intro sender hne
    exact (lookup_insert_ite _ _ _ _).trans (if_neg hne)
  · refine ⟨fun hlive => ?_, fun _ _ => hstation.gone rfl rfl, fun hnot => ?_,
      fun now hnow => ?_, hstation.exit⟩
    · cases hlive
    · cases hnot
    · cases hnow

/-- Every step keeps the connections attended. -/
theorem attended_serverStep (h : Attended env s) (hsub : Subscribed s.ws)
    {a : ServerAction Payload Json Time HeaderValue} (hstep : serverStep env s a = some s') :
    Attended env s' := by
  cases a with
  | request now authorization =>
    obtain ⟨-, rfl⟩ | ⟨upgrade, -, rfl⟩ := request_cases hstep
    · exact h
    · refine h.of_frame rfl (fun c _ phase _ hstation => ?_) h.closed
      exact hstation.of_same rfl fun channel hchannel => ⟨channel, hchannel, rfl⟩
  | openSocket i id => exact attended_openSocket h hsub hstep
  | start handle now => exact attended_start h hsub hstep
  | turn handle now event => exact attended_turn h hsub hstep
  | removeConnection handle => exact attended_removeConnection h hsub hstep
  | finish handle => exact attended_finish h hsub hstep
  | other action => exact attended_other h hsub hstep

/-- A handshake that is used up is none of the registry's business. -/
theorem RegistryExact.of_eraseIdx {ws : WsState Json Time} (h : RegistryExact ws) (i : ℕ) :
    RegistryExact { ws with upgrades := ws.upgrades.eraseIdx i } where
  subscribed := h.subscribed.of_targets rfl rfl fun d hd => ⟨d, hd, rfl, fun _ hp => hp⟩
  exact := h.exact
  unitIds up hup := h.unitIds up (List.mem_of_mem_eraseIdx hup)

/-- The registry is exact in every run of the server. -/
theorem registryExact_serverRun {actions : List (ServerAction Payload Json Time HeaderValue)}
    (hrun : serverRun env actions = some s) : RegistryExact s.ws := by
  have hinit : RegistryExact (ServerState.init : ServerState Json Time).ws := registryExact_init
  refine @Runs.invariant_of_step _ _ _ (fun s => RegistryExact s.ws) _ hinit ?_ _ _ hrun
  intro s a s' h hstep
  obtain hsame | ⟨b, -, hws⟩ | ⟨-, i, id, -, hlost⟩ := wsStep_of_serverStep hstep
  · exact hsame ▸ h
  · exact registryExact_wsStep h hws
  · exact hlost ▸ h.of_eraseIdx i

/-- The connections are attended in every run. -/
theorem attended_of_run {actions : List (ServerAction Payload Json Time HeaderValue)}
    (hrun : serverRun env actions = some s) : Attended env s := by
  have hinit : Attended env (ServerState.init : ServerState Json Time) := attended_init
  refine @Runs.history_of_step _ _ _ (fun _ s => Attended env s) _ hinit ?_ _ _ hrun
  intro actions s a s' hmid h hstep
  exact attended_serverStep h (registryExact_serverRun hmid).subscribed hstep

/-! ## What every run keeps -/

/-- What the tasks, the registry and the dispatcher know of each other. -/
structure Serves (env : ServerEnv Payload Json HeaderValue) (s : ServerState Json Time) :
    Prop where
  /-- Each connection has a task; it never leaves its loop for a closed channel, and it
  panics only at a heartbeat that fails. -/
  task : ∀ c ∈ s.ws.opened, ∃ phase, s.sockets.lookup (handleOf c) = some phase ∧
    phase.exit ≠ some .channelClosed ∧
      ∀ now, phase.panickedAt = some now → HeartbeatFails env now
  /-- A dispatch finds the connections whose task is live. -/
  live : ∀ c ∈ s.ws.opened, ∀ phase, s.sockets.lookup (handleOf c) = some phase →
    phase.isLive = true → ∀ U ∈ c.unitIds,
      (c.connectionId, c.sender) ∈ s.ws.registry.sendersForUnit U
  /-- It finds no other, apart from those whose task has panicked. -/
  targets : ∀ U, ∀ p ∈ s.ws.registry.sendersForUnit U, ∃ c ∈ s.ws.opened,
    p = (c.connectionId, c.sender) ∧ U ∈ c.unitIds ∧
      ∃ phase, s.sockets.lookup (handleOf c) = some phase ∧
        (phase.isLive = true ∨ phase.panickedAt ≠ none)
  /-- What it finds closed belongs to a task that is over, and unless that one has panicked
  there is nothing left to remove. -/
  closed : ∀ d id, s.ws.dispatch = some d → d.closed = some id →
    ∃ c ∈ s.ws.opened, c.connectionId = id ∧
      ∃ phase, s.sockets.lookup (handleOf c) = some phase ∧ phase.isOver = true ∧
        (phase.panickedAt = none → (s.ws.registry.removeConnection id).1 = s.ws.registry)

/-- **The registry follows the tasks.**  In every run a dispatch finds a connection exactly
as long as its task stands between `add_connection` and `remove_connection`, or has panicked
at its heartbeat, for want of an interval or of a time for the next tick; no task finds its own
channel closed; and the removal of a target that was found closed changes nothing, unless its
task has panicked.
SRC: websocket/handler.rs:97-189, websocket/dispatcher.rs:50-78, websocket/registry.rs:42-123 -/
theorem serves_serverRun (env : ServerEnv Payload Json HeaderValue)
    (actions : List (ServerAction Payload Json Time HeaderValue)) (s : ServerState Json Time)
    (hrun : serverRun env actions = some s) : Serves env s := by
  have h : Attended env s := attended_of_run hrun
  obtain ⟨hsub, hexact, -⟩ := registryExact_serverRun hrun
  refine ⟨?_, ?_, ?_, ?_⟩
  · intro c hc
    obtain ⟨phase, hphase, hstation⟩ := h.station c hc
    exact ⟨phase, hphase, hstation.exit, hstation.panicked⟩
  · intro c hc phase hphase hlive U hU
    have hregistered := (h.lookup_of_mem hc hphase).live hlive
    exact (mem_sendersForUnit_iff hexact U _ _).mpr ⟨c, hregistered, hU, rfl⟩
  · rintro U ⟨id, sender⟩ hp
    obtain ⟨c, hregistered, hU, rfl⟩ := (mem_sendersForUnit_iff hexact U id sender).mp hp
    obtain ⟨hc, rfl⟩ := hsub.registered id c hregistered
    obtain ⟨phase, hphase, hstation⟩ := h.station c hc
    refine ⟨c, hc, rfl, hU, phase, hphase, ?_⟩
    by_contra hneither
    obtain ⟨hnot, hpanicked⟩ := not_or.mp hneither
    rw [hstation.gone (Bool.eq_false_iff.mpr hnot) (not_not.mp hpanicked)] at hregistered
    cases hregistered
  · intro d id hd hid
    obtain ⟨c, hc, rfl, phase, hphase, hover⟩ := h.closed d id hd hid
    refine ⟨c, hc, rfl, phase, hphase, hover, fun hpanicked => ?_⟩
    have hnot : phase.isLive = false := by cases phase <;> first | rfl | cases hover
    have hgone := (h.lookup_of_mem hc hphase).gone hnot hpanicked
    rw [RegistryState.removeConnection, hgone]

end Tasks

/-- The owner connects and leaves while an alert of the unit is on its way. -/
def leavingRun : List (ServerAction Event Event ℕ String) :=
  acceptedRun ++ [.openSocket 0 77, .start ⟨77, 0⟩ 0, .other (.dispatchEvent sampleAlert),
    .turn ⟨77, 0⟩ 5 (.incoming (some (.ok .close))), .removeConnection ⟨77, 0⟩,
    .finish ⟨77, 0⟩, .other .trySend]

/-- The dispatcher finds the channel closed, and has nothing to remove. -/
theorem serves_serverRun_leaving :
    ∃ (s : ServerState Event ℕ) (d : Dispatch Event ℕ),
      serverRun sampleServerEnv leavingRun = some s ∧ s.ws.dispatch = some d ∧
        d.closed = some 77 ∧
        s.sockets.lookup ⟨77, 0⟩ = some (.returned .closeFrame) ∧
        (s.ws.registry.removeConnection 77).1 = s.ws.registry := by
  have haccepted := serverRun_acceptedRun
  rw [serverRun] at haccepted
  obtain ⟨s, d, hs, hd, hclosed, hopened, hreturned⟩ : ∃ (s : ServerState Event ℕ)
      (d : Dispatch Event ℕ), serverRun sampleServerEnv leavingRun = some s ∧
        s.ws.dispatch = some d ∧ d.closed = some 77 ∧ s.ws.opened = [⟨77, 5, 10, [1], 0⟩] ∧
        s.sockets.lookup ⟨77, 0⟩ = some (.returned .closeFrame) := by
    rw [leavingRun, serverRun, Runs.exec_append, haccepted]
    exact ⟨_, _, rfl, rfl, rfl, rfl, rfl⟩
  obtain ⟨c, hc, -, phase, hphase, -, hnothing⟩ :=
    (serves_serverRun sampleServerEnv leavingRun s hs).closed d 77 hd hclosed
  rw [hopened, List.mem_singleton] at hc
  subst hc
  obtain rfl := Option.some.inj (hreturned.symm.trans hphase)
  exact ⟨s, d, hs, hd, hclosed, hreturned, hnothing rfl⟩

end AlertDistributor.Analysis
