import AlertDistributor.System.WebSocket

/-!
# What each action of the WebSocket side does

One inversion lemma for every action of `wsStep` that has a guard: when it is enabled, and
the state it leaves.  The invariants of the runs are derived from these alone.
-/

set_option autoImplicit false

namespace AlertDistributor.Analysis

open AlertDistributor.Model AlertDistributor.System FiniteMap

variable {Payload Json Time : Type} {env : WsEnv Payload Json} {s s' : WsState Json Time}

/-! ## Clients -/

/-- A handshake of a user without units changes nothing. -/
theorem wsHandler_cases (s : WsState Json Time) (O : OrganizationId) (u : UserId) :
    (s.cache.unitsFor O u = [] ∧ wsHandler s O u = s) ∨
      (s.cache.unitsFor O u ≠ [] ∧ wsHandler s O u =
        { s with upgrades := s.upgrades ++ [⟨O, u, s.cache.unitsFor O u⟩] }) := by
  unfold wsHandler
  cases h : s.cache.unitsFor O u with
  | nil => exact Or.inl ⟨rfl, rfl⟩
  | cons U units => exact Or.inr ⟨List.cons_ne_nil U units, rfl⟩

/-- The handshake of a user with units is accepted. -/
theorem wsStep_handshake {O : OrganizationId} {u : UserId} {units : List UnitId}
    (hunits : s.cache.unitsFor O u = units) (hsome : units ≠ []) :
    wsStep env s (.handshake O u) =
      some { s with upgrades := s.upgrades ++ [⟨O, u, units⟩] } := by
  subst hunits
  obtain ⟨hnone, -⟩ | ⟨-, heq⟩ := wsHandler_cases s O u
  · exact absurd hnone hsome
  · exact congrArg some heq

/-- A socket is opened for an accepted handshake, under an id that no connection had. -/
theorem handleSocket_cases {i : ℕ} {id : ConnectionId}
    (hstep : handleSocket env s i id = some s') :
    ∃ up context, s.upgrades[i]? = some up ∧
      id ∉ s.opened.map ConnectionContext.connectionId ∧
      context = ⟨id, up.userId, up.organizationId, up.unitIds, s.opened.length⟩ ∧
      s' = { s with
        upgrades := s.upgrades.eraseIdx i
        channels := s.channels.insert s.opened.length (Channel.new env.channelCapacity)
        registry := s.registry.addConnection context
        opened := s.opened ++ [context] } := by
  rw [handleSocket] at hstep
  split at hstep
  · cases hstep
  · rename_i up hup
    split at hstep
    · cases hstep
    · rename_i hfresh
      have hnew : id ∉ s.opened.map ConnectionContext.connectionId := by
        simpa [List.any_eq_true, List.mem_map] using hfresh
      exact ⟨up, _, hup, hnew, rfl, (Option.some.inj hstep).symm⟩

/-- A connection receives the first message of its channel. -/
theorem receive_cases {channel : ChannelId}
    (hstep : wsStep env s (.receive channel : WsAction Payload Json Time) = some s') :
    ∃ c message rest, s.channels.lookup channel = some c ∧ c.recv = some (message, rest) ∧
      s' = { s with channels := s.channels.insert channel rest } := by
  simp only [wsStep] at hstep
  split at hstep
  · cases hstep
  · rename_i message rest hread
    obtain ⟨c, hc, hrecv⟩ := Option.bind_eq_some_iff.mp hread
    exact ⟨c, message, rest, hc, hrecv, (Option.some.inj hstep).symm⟩

/-- A connection that ends drops the receiver of its channel. -/
theorem dropReceiver_cases {channel : ChannelId}
    (hstep : wsStep env s (.dropReceiver channel : WsAction Payload Json Time) = some s') :
    ∃ c, s.channels.lookup channel = some c ∧
      s' = { s with channels := s.channels.insert channel c.dropReceiver } := by
  simp only [wsStep] at hstep
  split at hstep
  · cases hstep
  · rename_i c hc
    exact ⟨c, hc, (Option.some.inj hstep).symm⟩

/-! ## The dispatcher -/

/-- An alert is dispatched to the senders of its unit at that moment, if its unit id is a
UUID. -/
theorem startDispatch_cases {event : AlertEvent Json Time}
    (hstep : dispatchEvent env s event = some s') :
    s.dispatch = none ∧ ((env.parseUuid event.unitId = none ∧ s' = s) ∨
      ∃ U, env.parseUuid event.unitId = some U ∧ s' = { s with
        dispatch := some ⟨U, ClientAlertMessage.ofEvent event,
          s.registry.sendersForUnit U, none⟩ }) := by
  rw [dispatchEvent] at hstep
  split at hstep
  · cases hstep
  · rename_i hnone
    split at hstep
    · rename_i hunit
      exact ⟨hnone, Or.inl ⟨hunit, (Option.some.inj hstep).symm⟩⟩
    · rename_i U hunit
      exact ⟨hnone, Or.inr ⟨U, hunit, (Option.some.inj hstep).symm⟩⟩

/-- Whatever the channel answers, one target is taken off. -/
theorem trySendNext_cases (hstep : trySendNext s = some s') :
    ∃ U message id sender rest channel,
      s.dispatch = some ⟨U, message, (id, sender) :: rest, none⟩ ∧
      s.channels.lookup sender = some channel ∧
      ((∃ c, channel.trySend message = .ok c ∧ s' = { s with
          channels := s.channels.insert sender c
          dispatch := some ⟨U, message, rest, none⟩ }) ∨
        (channel.trySend message = .full ∧
          s' = { s with dispatch := some ⟨U, message, rest, none⟩ }) ∨
        (channel.trySend message = .closed ∧
          s' = { s with dispatch := some ⟨U, message, rest, some id⟩ })) := by
  rw [trySendNext] at hstep
  split at hstep
  · rename_i U message id sender rest hdispatch
    split at hstep
    · cases hstep
    · rename_i channel hchannel
      refine ⟨U, message, id, sender, rest, channel, hdispatch, hchannel, ?_⟩
      split at hstep
      · rename_i c hsent
        exact Or.inl ⟨c, hsent, (Option.some.inj hstep).symm⟩
      · rename_i hsent
        exact Or.inr (Or.inl ⟨hsent, (Option.some.inj hstep).symm⟩)
      · rename_i hsent
        exact Or.inr (Or.inr ⟨hsent, (Option.some.inj hstep).symm⟩)
  · cases hstep

/-- A target that was found closed is removed from the registry. -/
theorem removeClosedTarget_cases (hstep : removeClosedTarget s = some s') :
    ∃ U message rest id, s.dispatch = some ⟨U, message, rest, some id⟩ ∧ s' = { s with
      registry := (s.registry.removeConnection id).1
      dispatch := some ⟨U, message, rest, none⟩ } := by
  rw [removeClosedTarget] at hstep
  split at hstep
  · rename_i U message rest id hdispatch
    exact ⟨U, message, rest, id, hdispatch, (Option.some.inj hstep).symm⟩
  · cases hstep

/-- A dispatch without a target left is over. -/
theorem dispatchDone_cases
    (hstep : wsStep env s (.dispatchDone : WsAction Payload Json Time) = some s') :
    ∃ U message, s.dispatch = some ⟨U, message, [], none⟩ ∧
      s' = { s with dispatch := none } := by
  simp only [wsStep] at hstep
  split at hstep
  · rename_i U message hdispatch
    exact ⟨U, message, hdispatch, (Option.some.inj hstep).symm⟩
  · cases hstep

/-! ## The clients of a step -/

/-- A step that opens no connection is no `openSocket`. -/
theorem ne_openSocket_of_opened {a : WsAction Payload Json Time}
    (hstep : wsStep env s a = some s') (hopened : s'.opened = s.opened) (i : ℕ)
    (id : ConnectionId) : a ≠ .openSocket i id := by
  rintro rfl
  obtain ⟨up, context, -, -, -, rfl⟩ := handleSocket_cases hstep
  simp at hopened

/-- **Who is connected changes in few ways**: a handshake is accepted, a socket is opened, or
at most an entry leaves the registry. -/
theorem clients_cases {a : WsAction Payload Json Time} (hstep : wsStep env s a = some s') :
    (∃ O u, a = .handshake O u ∧ s.cache.unitsFor O u ≠ [] ∧
        s' = { s with upgrades := s.upgrades ++ [⟨O, u, s.cache.unitsFor O u⟩] }) ∨
      (∃ i id, a = .openSocket i id ∧ handleSocket env s i id = some s') ∨
      (s'.upgrades = s.upgrades ∧ s'.opened = s.opened ∧
        (s'.registry = s.registry ∨ ∃ id, s'.registry = (s.registry.removeConnection id).1)) := by
  cases a with
  | handshake O u =>
    obtain rfl := Option.some.inj hstep
    obtain ⟨-, heq⟩ | ⟨hunits, heq⟩ := wsHandler_cases s O u
    · rw [heq]
      exact Or.inr (Or.inr ⟨rfl, rfl, Or.inl rfl⟩)
    · exact Or.inl ⟨O, u, rfl, hunits, heq⟩
  | openSocket i id => exact Or.inr (Or.inl ⟨i, id, rfl, hstep⟩)
  | controlEvent payload =>
    obtain rfl := Option.some.inj hstep
    exact Or.inr (Or.inr ⟨rfl, rfl, Or.inl rfl⟩)
  | leave id =>
    obtain rfl := Option.some.inj hstep
    exact Or.inr (Or.inr ⟨rfl, rfl, Or.inr ⟨id, rfl⟩⟩)
  | receive channel =>
    obtain ⟨_, _, _, -, -, rfl⟩ := receive_cases hstep
    exact Or.inr (Or.inr ⟨rfl, rfl, Or.inl rfl⟩)
  | dropReceiver channel =>
    obtain ⟨_, -, rfl⟩ := dropReceiver_cases hstep
    exact Or.inr (Or.inr ⟨rfl, rfl, Or.inl rfl⟩)
  | dispatchEvent event =>
    obtain ⟨-, ⟨-, rfl⟩ | ⟨U, -, rfl⟩⟩ := startDispatch_cases hstep
    · exact Or.inr (Or.inr ⟨rfl, rfl, Or.inl rfl⟩)
    · exact Or.inr (Or.inr ⟨rfl, rfl, Or.inl rfl⟩)
  | trySend =>
    obtain ⟨_, _, _, _, _, _, -, -, hsent⟩ := trySendNext_cases hstep
    obtain ⟨_, -, rfl⟩ | ⟨-, rfl⟩ | ⟨-, rfl⟩ := hsent
    · exact Or.inr (Or.inr ⟨rfl, rfl, Or.inl rfl⟩)
    · exact Or.inr (Or.inr ⟨rfl, rfl, Or.inl rfl⟩)
    · exact Or.inr (Or.inr ⟨rfl, rfl, Or.inl rfl⟩)
  | removeClosed =>
    obtain ⟨_, _, _, id, -, rfl⟩ := removeClosedTarget_cases hstep
    exact Or.inr (Or.inr ⟨rfl, rfl, Or.inr ⟨id, rfl⟩⟩)
  | dispatchDone =>
    obtain ⟨_, _, -, rfl⟩ := dispatchDone_cases hstep
    exact Or.inr (Or.inr ⟨rfl, rfl, Or.inl rfl⟩)

end AlertDistributor.Analysis
