import AlertDistributor.Analysis.WebSocketSteps
import AlertDistributor.Interface.ServerLedger

/-!
# What each action of the server does

One inversion lemma for every action of `serverStep`, and what the action is on the WebSocket
side (`wsStep_of_serverStep`).  A server whose channels can be made runs there as that side
does (`wsRun_of_serverRun`); otherwise handshakes are lost, and nothing else differs.
-/

set_option autoImplicit false

namespace AlertDistributor.Analysis

open AlertDistributor.Model AlertDistributor.Interface AlertDistributor.System FiniteMap

variable {Payload Json Time HeaderValue : Type} {env : ServerEnv Payload Json HeaderValue}
  {s s' : ServerState Json Time}

/-- What the request does to the server, whether it is accepted or not. -/
theorem request_cases {now : ℕ} {authorization : Option HeaderValue}
    (hstep : serverStep env s (.request now authorization : ServerAction Payload Json Time
      HeaderValue) = some s') :
    ((env.wsHandler s.ws.cache now authorization).toOption = none ∧ s' = s) ∨
      ∃ upgrade, env.wsHandler s.ws.cache now authorization = .ok upgrade ∧
        s' = { s with ws := { s.ws with upgrades := s.ws.upgrades ++ [upgrade] } } := by
  simp only [serverStep] at hstep
  split at hstep
  · rename_i code hcode
    exact Or.inl ⟨by rw [hcode]; rfl, (Option.some.inj hstep).symm⟩
  · rename_i upgrade hupgrade
    exact Or.inr ⟨upgrade, hupgrade, (Option.some.inj hstep).symm⟩

/-- A handshake is used up: without a connection when the channel cannot be made. -/
theorem serverOpen_cases {i : ℕ} {id : ConnectionId}
    (hstep : serverStep env s (.openSocket i id : ServerAction Payload Json Time
      HeaderValue) = some s') :
    (RefusesChannels env ∧ ∃ upgrade, s.ws.upgrades[i]? = some upgrade ∧
        s' = { s with ws := { s.ws with upgrades := s.ws.upgrades.eraseIdx i } }) ∨
      (¬ RefusesChannels env ∧ ∃ ws, handleSocket env.ws s.ws i id = some ws ∧
        s' = s.moved ⟨id, s.ws.opened.length⟩ .registered ws) := by
  simp only [serverStep] at hstep
  split at hstep
  · rename_i hbad
    obtain ⟨upgrade, hupgrade, rfl⟩ := Option.map_eq_some_iff.mp hstep
    exact Or.inl ⟨hbad, upgrade, hupgrade, rfl⟩
  · rename_i hgood
    obtain ⟨ws, hws, rfl⟩ := Option.map_eq_some_iff.mp hstep
    exact Or.inr ⟨hgood, ws, hws, rfl⟩

/-- The heartbeat starts, or the task panics at it. -/
theorem heartbeatStart_cases {handle : SocketHandle} {now : ℕ}
    (hstep : serverStep env s (.start handle now : ServerAction Payload Json Time
      HeaderValue) = some s') :
    s.sockets.lookup handle = some .registered ∧
      ((env.state.heartbeatInterval = 0 ∧ ∃ ws,
          wsStep env.ws s.ws (.dropReceiver handle.receiver) = some ws ∧
          s' = s.moved handle (.panicked now) ws) ∨
        (env.state.heartbeatInterval ≠ 0 ∧ s' = s.moved handle (.running now now) s.ws)) := by
  simp only [serverStep] at hstep
  split at hstep
  · rename_i hphase
    refine ⟨hphase, ?_⟩
    split at hstep
    · rename_i hzero
      obtain ⟨ws, hws, rfl⟩ := Option.map_eq_some_iff.mp hstep
      exact Or.inl ⟨hzero, ws, hws, rfl⟩
    · rename_i hpos
      exact Or.inr ⟨hpos, (Option.some.inj hstep).symm⟩
  · cases hstep

/-- A turn comes to its end, or its tick panics. -/
theorem loopTurn_cases {handle : SocketHandle} {lastPong deadline now : ℕ} {event : SocketEvent}
    (hstep : loopTurn env s handle lastPong deadline now event = some s') :
    (event.isTick = true → deadline ≤ now) ∧
      ((turnDeadline env.timer env.state deadline now event = none ∧ ∃ ws,
          wsStep env.ws s.ws (.dropReceiver handle.receiver) = some ws ∧
          s' = s.moved handle (.panicked now) ws) ∨
        ∃ next ws, turnDeadline env.timer env.state deadline now event = some next ∧
          takeOutbound env s.ws handle.receiver event = some ws ∧
          s' = s.moved handle
            (.ofTurn next (socketTurn env.state.heartbeatTimeout lastPong now event)) ws) := by
  unfold loopTurn at hstep
  split at hstep
  · cases hstep
  · rename_i hready
    refine ⟨fun htick => Nat.le_of_not_lt fun hearly => hready ⟨htick, hearly⟩, ?_⟩
    split at hstep
    · rename_i hpanic
      obtain ⟨ws, hws, rfl⟩ := Option.map_eq_some_iff.mp hstep
      exact Or.inl ⟨hpanic, ws, hws, rfl⟩
    · rename_i next hnext
      obtain ⟨ws, hws, rfl⟩ := Option.map_eq_some_iff.mp hstep
      exact Or.inr ⟨next, ws, hnext, hws, rfl⟩

/-- Only a task in its loop takes a turn. -/
theorem turn_cases {handle : SocketHandle} {now : ℕ} {event : SocketEvent}
    (hstep : serverStep env s (.turn handle now event : ServerAction Payload Json Time
      HeaderValue) = some s') :
    ∃ lastPong deadline, s.sockets.lookup handle = some (.running lastPong deadline) ∧
      loopTurn env s handle lastPong deadline now event = some s' := by
  simp only [serverStep] at hstep
  split at hstep
  · rename_i lastPong deadline hphase
    exact ⟨lastPong, deadline, hphase, hstep⟩
  · cases hstep

/-- A task that has left its loop removes its connection. -/
theorem removeConnection_cases {handle : SocketHandle}
    (hstep : serverStep env s (.removeConnection handle : ServerAction Payload Json Time
      HeaderValue) = some s') :
    ∃ exit, s.sockets.lookup handle = some (.leaving exit) ∧
      s' = s.moved handle (.removed exit)
        { s.ws with registry := (s.ws.registry.removeConnection handle.connectionId).1 } := by
  simp only [serverStep] at hstep
  split at hstep
  · rename_i exit hphase
    exact ⟨exit, hphase, (Option.some.inj hstep).symm⟩
  · cases hstep

/-- A task that has removed its connection returns, and its receiver is gone. -/
theorem finish_cases {handle : SocketHandle}
    (hstep : serverStep env s (.finish handle : ServerAction Payload Json Time
      HeaderValue) = some s') :
    ∃ exit ws, s.sockets.lookup handle = some (.removed exit) ∧
      wsStep env.ws s.ws (.dropReceiver handle.receiver) = some ws ∧
      s' = s.moved handle (.returned exit) ws := by
  simp only [serverStep] at hstep
  split at hstep
  · rename_i exit hphase
    obtain ⟨ws, hws, rfl⟩ := Option.map_eq_some_iff.mp hstep
    exact ⟨exit, ws, hphase, hws, rfl⟩
  · cases hstep

/-- The other tasks act on the WebSocket side. -/
theorem other_cases {action : WsAction Payload Json Time}
    (hstep : serverStep env s (.other action : ServerAction Payload Json Time
      HeaderValue) = some s') :
    action.isOther = true ∧ ∃ ws, wsStep env.ws s.ws action = some ws ∧ s' = { s with ws } := by
  simp only [serverStep] at hstep
  split at hstep
  · rename_i hother
    obtain ⟨ws, hws, rfl⟩ := Option.map_eq_some_iff.mp hstep
    exact ⟨hother, ws, hws, rfl⟩
  · cases hstep

/-- A turn takes a message from the channel, or it leaves the WebSocket side alone. -/
theorem takeOutbound_cases {ws ws' : WsState Json Time} {receiver : ChannelId}
    {event : SocketEvent} (h : takeOutbound env ws receiver event = some ws') :
    (∃ message, event = .outbound (some message) ∧
        wsStep env.ws ws (.receive receiver) = some ws') ∨
      (event = .outbound none ∧ ws.hasSender receiver = false ∧ ws' = ws) ∨
      ((∀ message, event ≠ .outbound message) ∧ ws' = ws) := by
  unfold takeOutbound at h
  split at h
  · rename_i message
    exact Or.inl ⟨message, rfl, h⟩
  · split at h
    · cases h
    · split at h
      · rename_i hclosed
        simp only [Bool.and_eq_true, Bool.not_eq_true'] at hclosed
        exact Or.inr (Or.inl ⟨rfl, hclosed.2, (Option.some.inj h).symm⟩)
      · cases h
  · rename_i hsome hnone
    refine Or.inr (Or.inr ⟨?_, (Option.some.inj h).symm⟩)
    rintro (_ | message) rfl
    · exact hnone rfl
    · exact hsome message rfl

/-- An authenticated request is the handshake of its user. -/
theorem handshake_of_request {now : ℕ} {authorization : Option HeaderValue}
    (hstep : serverStep env s (.request now authorization : ServerAction Payload Json Time
      HeaderValue) = some s') :
    s'.ws = s.ws ∨ ∃ O u, s'.ws = wsHandler s.ws O u := by
  simp only [serverStep, ServerEnv.wsHandler] at hstep
  cases hheader : authorization.bind env.toStr with
  | none =>
    rw [hheader] at hstep
    obtain rfl := Option.some.inj hstep
    exact Or.inl rfl
  | some header =>
    simp only [hheader] at hstep
    cases hauth : env.jwtValidator.validateBearer now header with
    | error e =>
      rw [hauth] at hstep
      obtain rfl := Option.some.inj hstep
      exact Or.inl rfl
    | ok auth =>
      rw [hauth] at hstep
      refine Or.inr ⟨auth.organizationId, auth.userId, ?_⟩
      unfold wsHandler
      dsimp only at hstep ⊢
      split
      · rename_i hunits
        rw [if_pos hunits] at hstep
        rw [← Option.some.inj hstep]
      · rename_i hunits
        rw [if_neg hunits] at hstep
        rw [← Option.some.inj hstep]

/-- **A step of the server is a step of its WebSocket side, or leaves it alone**, or it uses up
a handshake whose channel cannot be made. -/
theorem wsStep_of_serverStep {a : ServerAction Payload Json Time HeaderValue}
    (hstep : serverStep env s a = some s') :
    s'.ws = s.ws ∨ (∃ b, OnWsSide b a ∧ wsStep env.ws s.ws b = some s'.ws) ∨
      (RefusesChannels env ∧ ∃ i id, a = .openSocket i id ∧
        s'.ws = { s.ws with upgrades := s.ws.upgrades.eraseIdx i }) := by
  cases a with
  | request now authorization =>
    obtain hsame | ⟨O, u, hws⟩ := handshake_of_request hstep
    · exact Or.inl hsame
    · exact Or.inr (Or.inl ⟨.handshake O u, ⟨O, u, rfl⟩, by rw [hws]; rfl⟩)
  | openSocket i id =>
    obtain ⟨hbad, upgrade, -, rfl⟩ | ⟨-, ws, hws, rfl⟩ := serverOpen_cases hstep
    · exact Or.inr (Or.inr ⟨hbad, i, id, rfl, rfl⟩)
    · exact Or.inr (Or.inl ⟨_, rfl, hws⟩)
  | start handle now =>
    obtain ⟨-, ⟨-, ws, hws, rfl⟩ | ⟨-, rfl⟩⟩ := heartbeatStart_cases hstep
    · exact Or.inr (Or.inl ⟨_, rfl, hws⟩)
    · exact Or.inl rfl
  | turn handle now event =>
    obtain ⟨lastPong, deadline, -, hturn⟩ := turn_cases hstep
    obtain ⟨-, ⟨-, ws, hws, rfl⟩ | ⟨next, ws, -, htake, rfl⟩⟩ := loopTurn_cases hturn
    · exact Or.inr (Or.inl ⟨_, Or.inr rfl, hws⟩)
    · obtain ⟨message, -, hws⟩ | ⟨-, -, rfl⟩ | ⟨-, rfl⟩ := takeOutbound_cases htake
      · exact Or.inr (Or.inl ⟨_, Or.inl rfl, hws⟩)
      · exact Or.inl rfl
      · exact Or.inl rfl
  | removeConnection handle =>
    obtain ⟨exit, -, rfl⟩ := removeConnection_cases hstep
    exact Or.inr (Or.inl ⟨_, rfl, rfl⟩)
  | finish handle =>
    obtain ⟨exit, ws, -, hws, rfl⟩ := finish_cases hstep
    exact Or.inr (Or.inl ⟨_, rfl, hws⟩)
  | other action =>
    obtain ⟨-, ws, hws, rfl⟩ := other_cases hstep
    exact Or.inr (Or.inl ⟨_, rfl, hws⟩)

/-- **A run of the server is a run of its WebSocket side**, when the channels can be made. -/
theorem wsRun_of_serverRun {actions : List (ServerAction Payload Json Time HeaderValue)}
    {s : ServerState Json Time} (hgood : ¬ RefusesChannels env)
    (hrun : serverRun env actions = some s) : ∃ steps, wsRun env.ws steps = some s.ws := by
  have hinit : ∃ steps, wsRun env.ws steps = some (ServerState.init : ServerState Json Time).ws :=
    ⟨[], rfl⟩
  refine @Runs.invariant_of_step _ _ _ (fun s => ∃ steps, wsRun env.ws steps = some s.ws) _ hinit
    ?_ _ _ hrun
  rintro s a s' ⟨steps, hsteps⟩ hstep
  obtain hsame | ⟨b, -, hws⟩ | ⟨hbad, -⟩ := wsStep_of_serverStep hstep
  · exact ⟨steps, hsame ▸ hsteps⟩
  · exact ⟨steps ++ [b], Runs.exec_concat_eq_some.mpr ⟨s.ws, hsteps, hws⟩⟩
  · exact absurd hbad hgood

/-- The request or the opening that a handshake or an opening of the WebSocket side is. -/
theorem client_of_onWsSide {a : ServerAction Payload Json Time HeaderValue}
    {b : WsAction Payload Json Time} (hstep : serverStep env s a = some s') (hside : OnWsSide b a)
    (hclient : (∃ O u, b = .handshake O u) ∨ ∃ i id, b = .openSocket i id) :
    (∃ now authorization, a = .request now authorization) ∨ ∃ i id, a = .openSocket i id := by
  cases a with
  | request now authorization => exact Or.inl ⟨now, authorization, rfl⟩
  | openSocket i id => exact Or.inr ⟨i, id, rfl⟩
  | start handle now | removeConnection handle | finish handle =>
    obtain rfl := hside
    obtain ⟨O, u, hb⟩ | ⟨i, id, hb⟩ := hclient <;> cases hb
  | turn handle now event =>
    obtain rfl | rfl := hside <;> obtain ⟨O, u, hb⟩ | ⟨i, id, hb⟩ := hclient <;> cases hb
  | other action =>
    obtain rfl := hside
    have hother := (other_cases hstep).1
    obtain ⟨O, u, rfl⟩ | ⟨i, id, rfl⟩ := hclient <;> cases hother

/-- Requests and the opening of sockets apart, nobody is let in and no connection opened. -/
theorem clients_of_serverStep {a : ServerAction Payload Json Time HeaderValue}
    (hstep : serverStep env s a = some s') :
    (∃ now authorization, a = .request now authorization) ∨ (∃ i id, a = .openSocket i id) ∨
      (s'.ws.upgrades = s.ws.upgrades ∧ s'.ws.opened = s.ws.opened) := by
  obtain hsame | ⟨b, hside, hws⟩ | ⟨-, i, id, rfl, -⟩ := wsStep_of_serverStep hstep
  · exact Or.inr (Or.inr (by rw [hsame]; exact ⟨rfl, rfl⟩))
  · obtain ⟨O, u, rfl, -⟩ | ⟨i, id, rfl, -⟩ | ⟨hupgrades, hopened, -⟩ := clients_cases hws
    · obtain hrequest | hopen := client_of_onWsSide hstep hside (Or.inl ⟨O, u, rfl⟩)
      · exact Or.inl hrequest
      · exact Or.inr (Or.inl hopen)
    · obtain hrequest | hopen := client_of_onWsSide hstep hside (Or.inr ⟨i, id, rfl⟩)
      · exact Or.inl hrequest
      · exact Or.inr (Or.inl hopen)
    · exact Or.inr (Or.inr ⟨hupgrades, hopened⟩)
  · exact Or.inr (Or.inl ⟨i, id, rfl⟩)

end AlertDistributor.Analysis
