import AlertDistributor.Analysis.ConnectionAuthority
import AlertDistributor.Interface.Ledger

/-!
# What a WebSocket connection receives

An alert is offered once to every connection that was registered for its unit when the
dispatch read the registry, and a channel is a bounded queue.  So what a handler receives is
a part of the alerts dispatched to its units, in their order, and an alert is missing only
where the queue was full or the receiver gone.  `Recorded` is the invariant between the
ledger of a run and its state: the dispatch under way has tried the first part of its
targets, and what was put on a channel is what was received followed by what is queued.
-/

set_option autoImplicit false

namespace AlertDistributor.Analysis

open AlertDistributor.Model AlertDistributor.Interface AlertDistributor.System FiniteMap

variable {Payload Json Time : Type} {env : WsEnv Payload Json}

/-! ## The registry of a run -/

/-- The indexes of the registry are exact, and no unit list in the system repeats a unit. -/
structure RegistryExact (s : WsState Json Time) : Prop where
  subscribed : Subscribed s
  exact : ExactIndexes s.registry
  unitIds : ∀ up ∈ s.upgrades, up.unitIds.Nodup

/-- The registry is empty at the start. -/
theorem registryExact_init : RegistryExact (WsState.init : WsState Json Time) where
  subscribed := subscribed_init
  exact := exactIndexes_new
  unitIds := by intro up hup; simp [WsState.init] at hup

/-- Every step keeps the registry exact. -/
theorem registryExact_wsStep {s s' : WsState Json Time} (h : RegistryExact s)
    {a : WsAction Payload Json Time} (hstep : wsStep env s a = some s') : RegistryExact s' := by
  have hsubscribed : Subscribed s' := subscribed_wsStep h.subscribed hstep
  obtain ⟨O, u, rfl, -, rfl⟩ | ⟨i, id, rfl, hopen⟩ | ⟨hupgrades, -, hregistry⟩ :=
    clients_cases hstep
  · refine ⟨hsubscribed, h.exact, ?_⟩
    intro up hup
    rw [List.mem_append, List.mem_singleton] at hup
    obtain hold | rfl := hup
    · exact h.unitIds up hold
    · exact unitsFor_nodup s.cache O u
  · obtain ⟨up, context, hup, hnew, hcontext, rfl⟩ := handleSocket_cases hopen
    have hid : context.connectionId = id := by rw [hcontext]
    have hunits : context.unitIds = up.unitIds := by rw [hcontext]
    refine ⟨hsubscribed, exactIndexes_addConnection h.exact ?_ ?_, ?_⟩
    · -- the id is fresh, so the registry does not have it
      cases hlookup : s.registry.connections.lookup context.connectionId with
      | none => rfl
      | some c =>
        obtain ⟨hmem, hsame⟩ := h.subscribed.registered _ c hlookup
        exact absurd (List.mem_map.mpr ⟨c, hmem, hsame.trans hid⟩) hnew
    · rw [hunits]
      exact h.unitIds up (List.mem_of_getElem? hup)
    · intro up' hup'
      exact h.unitIds up' (List.mem_of_mem_eraseIdx hup')
  · refine ⟨hsubscribed, ?_, hupgrades ▸ h.unitIds⟩
    obtain hkept | ⟨id, hremoved⟩ := hregistry
    · exact hkept ▸ h.exact
    · exact hremoved ▸ exactIndexes_removeConnection h.exact id

/-! ## The ledger -/

section Ledger

variable {l : Ledger Json Time}

/-- What the dispatches so far put on a channel, and what the one under way did. -/
theorem accepted_eq (l : Ledger Json Time) (channel : ChannelId) :
    l.accepted channel =
      (l.finished.filter fun r => r.AcceptedOn channel).map DispatchRecord.message ++
        (l.current.toList.filter fun r => r.AcceptedOn channel).map DispatchRecord.message := by
  rw [Ledger.accepted, Ledger.dispatches, List.filter_append, List.map_append]

/-- A record that accepts on the same channels and has the same message counts the same. -/
theorem accepted_congr {r : DispatchRecord Json Time} (hr : l.current = some r)
    (r' : DispatchRecord Json Time) (hmessage : r'.message = r.message) {channel : ChannelId}
    (haccepted : r'.AcceptedOn channel ↔ r.AcceptedOn channel) :
    Ledger.accepted { l with current := some r' } channel = l.accepted channel := by
  rw [accepted_eq, accepted_eq, hr]
  by_cases h : r.AcceptedOn channel
  · simp [h, haccepted.mpr h, hmessage]
  · simp [h, mt haccepted.mp h]

/-- A record that accepts on one more channel adds its alert there. -/
theorem accepted_grows {r : DispatchRecord Json Time} (hr : l.current = some r)
    (r' : DispatchRecord Json Time) (hmessage : r'.message = r.message) {channel : ChannelId}
    (hold : ¬ r.AcceptedOn channel) (hnew : r'.AcceptedOn channel) :
    Ledger.accepted { l with current := some r' } channel = l.accepted channel ++ [r.message] := by
  rw [accepted_eq, accepted_eq, hr]
  simp [hold, hnew, hmessage]

/-- The dispatch under way and its record. -/
structure InHand (r : DispatchRecord Json Time) (d : Dispatch Json Time) : Prop where
  unitId : d.unitId = r.unitId
  message : d.message = r.message
  /-- The targets that were tried, then those that are left. -/
  targets : r.targets = r.attempts.map Attempt.target ++ d.targets
  /-- A target found closed is removed before the next one is tried. -/
  removed : r.closedTargets = r.removed ++ d.closed.toList

/-- The registry that a dispatch read. -/
structure WellRead (opened : List (ConnectionContext ChannelId))
    (r : DispatchRecord Json Time) : Prop where
  exact : ExactIndexes r.registry
  opened : ∀ id c, r.registry.connections.lookup id = some c → c ∈ opened

/-- What went through a channel. -/
structure ChannelLaw (env : WsEnv Payload Json) (l : Ledger Json Time) (channel : ChannelId)
    (c : Channel (ClientAlertMessage Json Time)) : Prop where
  capacity : c.capacity = env.channelCapacity
  fifo : c.receiver = true → l.accepted channel = l.received channel ++ c.queue
  dropped : c.receiver = false → l.received channel <+: l.accepted channel

/-- What the ledger of a run knows of its state. -/
structure Recorded (env : WsEnv Payload Json) (p : Ledger Json Time × WsState Json Time) :
    Prop where
  idle : p.2.dispatch = none → p.1.current = none
  current : ∀ d, p.2.dispatch = some d → ∃ r, p.1.current = some r ∧ InHand r d
  finished : ∀ r ∈ p.1.finished, r.attempts.map Attempt.target = r.targets ∧
    r.removed = r.closedTargets
  read : ∀ r ∈ p.1.dispatches, WellRead p.2.opened r
  found : ∀ r ∈ p.1.dispatches, ∀ a ∈ r.attempts, a.found.capacity = env.channelCapacity
  channels : ∀ channel c, p.2.channels.lookup channel = some c → ChannelLaw env p.1 channel c
  unused : ∀ channel, p.2.channels.lookup channel = none →
    p.1.accepted channel = [] ∧ p.1.received channel = []
  opened : ∀ channel, channel < p.2.opened.length ↔ ∃ c, p.2.channels.lookup channel = some c

/-- At the start nothing is recorded and nothing has happened. -/
theorem recorded_empty : Recorded env (Ledger.empty, (WsState.init : WsState Json Time)) where
  idle := by intro _; rfl
  current := by intro d h; cases h
  finished := by intro r hr; cases hr
  read := by intro r hr; cases hr
  found := by intro r hr; cases hr
  channels := by intro channel c h; simp [WsState.init] at h
  unused := by intro channel _; exact ⟨rfl, rfl⟩
  opened := by intro channel; simp [WsState.init]

/-- A step that leaves the dispatch, the channels and the opened connections alone, and of
which nothing is noted. -/
theorem Recorded.of_frame {s s' : WsState Json Time} (h : Recorded env (l, s))
    (hdispatch : s'.dispatch = s.dispatch) (hchannels : s'.channels = s.channels)
    (hopened : s'.opened = s.opened) : Recorded env (l, s') where
  idle := by intro hnone; exact h.idle (hdispatch ▸ hnone)
  current := by intro d hd; exact h.current d (hdispatch ▸ hd)
  finished := h.finished
  read := by
    intro r hr
    show WellRead s'.opened r
    rw [hopened]
    exact h.read r hr
  found := h.found
  channels := by intro channel c hc; exact h.channels channel c (hchannels ▸ hc)
  unused := by intro channel hc; exact h.unused channel (hchannels ▸ hc)
  opened := by
    intro channel
    show channel < s'.opened.length ↔ ∃ c, s'.channels.lookup channel = some c
    rw [hopened, hchannels]
    exact h.opened channel

/-- A dispatch is finished or under way. -/
theorem mem_dispatches {r : DispatchRecord Json Time} :
    r ∈ l.dispatches ↔ r ∈ l.finished ∨ l.current = some r := by
  rw [Ledger.dispatches, List.mem_append, Option.mem_toList]

/-- The dispatches, when the record of the one under way is new. -/
theorem mem_dispatches_current {r r' : DispatchRecord Json Time}
    (hr : r ∈ Ledger.dispatches { l with current := some r' }) : r ∈ l.dispatches ∨ r = r' := by
  obtain hold | hnew := mem_dispatches.mp hr
  · exact .inl (mem_dispatches.mpr (.inl hold))
  · exact .inr (Option.some.inj hnew).symm

/-- A channel of which nothing is noted keeps its law. -/
theorem ChannelLaw.congr {l' : Ledger Json Time} {channel : ChannelId}
    {c : Channel (ClientAlertMessage Json Time)} (h : ChannelLaw env l channel c)
    (haccepted : l'.accepted channel = l.accepted channel)
    (hreceived : l'.received channel = l.received channel) : ChannelLaw env l' channel c where
  capacity := h.capacity
  fifo := by rw [haccepted, hreceived]; exact h.fifo
  dropped := by rw [haccepted, hreceived]; exact h.dropped

/-! ## The tasks of the clients -/

section Clients

variable {s s' : WsState Json Time}

/-- A new channel has carried nothing. -/
theorem recorded_openSocket (h : Recorded env (l, s)) {i : ℕ} {id : ConnectionId}
    (hstep : handleSocket env s i id = some s') : Recorded env (l, s') := by
  obtain ⟨up, context, -, -, -, rfl⟩ := handleSocket_cases hstep
  have hfresh : s.channels.lookup s.opened.length = none := by
    cases hlookup : s.channels.lookup s.opened.length with
    | none => rfl
    | some c =>
      have hlt : s.opened.length < s.opened.length := (h.opened _).mpr ⟨c, hlookup⟩
      omega
  obtain ⟨haccepted, hreceived⟩ := h.unused _ hfresh
  refine { h with read := ?_, channels := ?_, unused := ?_, opened := ?_ }
  · intro r hr
    refine ⟨(h.read r hr).exact, fun id' c hc => ?_⟩
    exact List.mem_append_left _ ((h.read r hr).opened id' c hc)
  · intro channel c hc
    obtain ⟨rfl, rfl⟩ | ⟨-, hold⟩ := lookup_insert_eq_some_iff.mp hc
    · -- nothing went through the new channel
      refine ⟨rfl, fun _ => ?_, fun hdropped => ?_⟩
      · rw [haccepted, hreceived]
        rfl
      · cases hdropped
    · exact h.channels channel c hold
  · intro channel hc
    exact h.unused channel (lookup_insert_eq_none_iff.mp hc).2
  · intro channel
    rw [List.length_append, List.length_singleton, lookup_insert_ite]
    split
    · rename_i heq
      simp [heq]
    · rename_i hne
      rw [← h.opened channel]
      show channel < s.opened.length + 1 ↔ channel < s.opened.length
      have hne' : channel ≠ s.opened.length := hne
      omega

/-- The channels after one of them has changed. -/
theorem Recorded.of_channel {l' : Ledger Json Time} (h : Recorded env (l, s))
    {channel : ChannelId} {c c' : Channel (ClientAlertMessage Json Time)}
    (hc : s.channels.lookup channel = some c)
    (hfinished : l'.finished = l.finished) (hcurrent : l'.current = l.current)
    (hreceived : ∀ other, other ≠ channel → l'.received other = l.received other)
    (hlaw : ChannelLaw env l' channel c') :
    Recorded env (l', { s with channels := s.channels.insert channel c' }) := by
  have hdispatches : l'.dispatches = l.dispatches := by
    rw [Ledger.dispatches, Ledger.dispatches, hfinished, hcurrent]
  have haccepted : ∀ other, l'.accepted other = l.accepted other := by
    intro other
    rw [Ledger.accepted, Ledger.accepted, hdispatches]
  refine ⟨?_, ?_, ?_, ?_, ?_, ?_, ?_, ?_⟩
  · intro hnone
    exact hcurrent.trans (h.idle hnone)
  · intro d hd
    obtain ⟨r, hr, hhand⟩ := h.current d hd
    exact ⟨r, hcurrent.trans hr, hhand⟩
  · intro r hr
    exact h.finished r (hfinished ▸ hr)
  · intro r hr
    exact h.read r (hdispatches ▸ hr)
  · intro r hr
    exact h.found r (hdispatches ▸ hr)
  · intro other d hd
    obtain ⟨rfl, rfl⟩ | ⟨hne, hold⟩ := lookup_insert_eq_some_iff.mp hd
    · exact hlaw
    · exact (h.channels other d hold).congr (haccepted other) (hreceived other hne)
  · intro other hd
    obtain ⟨hne, hold⟩ := lookup_insert_eq_none_iff.mp hd
    obtain ⟨hnone, hnone'⟩ := h.unused other hold
    exact ⟨(haccepted other).trans hnone, (hreceived other hne).trans hnone'⟩
  · intro other
    show other < s.opened.length ↔ _
    rw [h.opened other, lookup_insert_ite]
    split
    · rename_i heq
      rw [heq, hc]
      simp
    · rfl

/-- A message that is received leaves its channel. -/
theorem recorded_receive (h : Recorded env (l, s)) {channel : ChannelId}
    (hstep : wsStep env s (.receive channel : WsAction Payload Json Time) = some s') :
    Recorded env (l.note env s (.receive channel : WsAction Payload Json Time), s') := by
  obtain ⟨c, message, rest, hc, hrecv, rfl⟩ := receive_cases hstep
  have hnote : l.note env s (.receive channel : WsAction Payload Json Time) =
      { l with received :=
        Function.update l.received channel (l.received channel ++ [message]) } := by
    simp only [Ledger.note, hc, Option.bind_some, hrecv]
  obtain ⟨hreceiver, hqueue, hrest⟩ := (Channel.recv_eq_some_iff c rest message).mp hrecv
  have hlaw := h.channels channel c hc
  rw [hnote]
  refine h.of_channel hc rfl rfl ?_ ⟨?_, ?_, ?_⟩
  · intro other hne
    exact Function.update_of_ne hne _ _
  · rw [hrest]
    exact hlaw.capacity
  · intro _
    -- the head of the queue moves to the end of what was received
    show l.accepted channel = Function.update l.received channel
      (l.received channel ++ [message]) channel ++ rest.queue
    rw [Function.update_self, hlaw.fifo hreceiver, hqueue, List.append_assoc,
      List.singleton_append]
  · intro hdropped
    rw [hrest] at hdropped
    exact absurd (hreceiver.symm.trans hdropped) (by decide)

/-- A channel whose receiver is gone keeps what was received. -/
theorem recorded_dropReceiver (h : Recorded env (l, s)) {channel : ChannelId}
    (hstep : wsStep env s (.dropReceiver channel : WsAction Payload Json Time) = some s') :
    Recorded env (l, s') := by
  obtain ⟨c, hc, rfl⟩ := dropReceiver_cases hstep
  have hlaw := h.channels channel c hc
  refine h.of_channel hc rfl rfl (fun _ _ => rfl) ⟨hlaw.capacity, ?_, ?_⟩
  · intro hreceiver
    cases hreceiver
  · intro _
    cases hreceiver : c.receiver with
    | false => exact hlaw.dropped hreceiver
    | true =>
      rw [hlaw.fifo hreceiver]
      exact List.prefix_append _ _

end Clients

/-! ## The dispatcher -/

section Dispatcher

variable {s s' : WsState Json Time}

/-- A target is tried once: the channels of the targets are different. -/
theorem nodup_channels (hsub : Subscribed s) {r : DispatchRecord Json Time}
    (hread : WellRead s.opened r) : (r.targets.map Prod.snd).Nodup := by
  have hids : (r.targets.map Prod.fst).Nodup := by
    rw [DispatchRecord.targets, map_fst_sendersForUnit hread.exact]
    exact hread.exact.byUnit_nodup r.unitId
  refine (List.Nodup.of_map Prod.fst hids).map_on ?_
  rintro ⟨id, sender⟩ hp ⟨id', sender'⟩ hp' hsame
  obtain ⟨c, hc, -, rfl⟩ := (mem_sendersForUnit_iff hread.exact _ _ _).mp hp
  obtain ⟨c', hc', -, rfl⟩ := (mem_sendersForUnit_iff hread.exact _ _ _).mp hp'
  have heq : c = c' := hsub.eq_of_sender (hread.opened id c hc) (hread.opened id' c' hc') hsame
  obtain rfl := hread.exact.ids id c hc
  obtain rfl := hread.exact.ids id' c' hc'
  rw [heq]

/-- A further attempt is accepted on its own channel only. -/
theorem acceptedOn_concat (r : DispatchRecord Json Time) (a : Attempt Json Time)
    (channel : ChannelId) :
    (r.attempt a).AcceptedOn channel ↔
      r.AcceptedOn channel ∨ (a.channel = channel ∧ a.Accepted) := by
  simp only [DispatchRecord.attempt, DispatchRecord.AcceptedOn, List.mem_append,
    List.mem_singleton, or_and_right, exists_or, exists_eq_left]

/-- A further attempt may find one more closed target. -/
theorem closedTargets_concat (r : DispatchRecord Json Time) (a : Attempt Json Time) :
    (r.attempt a).closedTargets =
      r.closedTargets ++ if a.FoundClosed then [a.connectionId] else [] := by
  simp only [DispatchRecord.attempt, DispatchRecord.closedTargets, List.filter_append,
    List.map_append]
  by_cases h : a.FoundClosed
  · simp [h]
  · simp [h]

/-- The channel of the next target is not one that was tried. -/
theorem not_attempted {r : DispatchRecord Json Time} {d : Dispatch Json Time}
    (hhand : InHand r d) (hnodup : (r.targets.map Prod.snd).Nodup) {id : ConnectionId}
    {channel : ChannelId} {rest : List (ConnectionId × ChannelId)}
    (htargets : d.targets = (id, channel) :: rest) : ¬ r.AcceptedOn channel := by
  rintro ⟨a, ha, rfl, -⟩
  rw [hhand.targets, htargets, List.map_append, List.nodup_append] at hnodup
  have hmem : a.channel ∈ (r.attempts.map Attempt.target).map Prod.snd :=
    List.mem_map_of_mem (f := Prod.snd) (List.mem_map_of_mem ha)
  exact hnodup.2.2 _ hmem _ (by simp) rfl

/-- The record of the dispatch under way is replaced, and the channels follow their law. -/
theorem Recorded.of_current (h : Recorded env (l, s)) {r r' : DispatchRecord Json Time}
    (hr : l.current = some r) (hregistry : r'.registry = r.registry)
    (hmessage : r'.message = r.message)
    (hfound : ∀ a ∈ r'.attempts, a.found.capacity = env.channelCapacity)
    (hunused : ∀ channel, s.channels.lookup channel = none →
      (r'.AcceptedOn channel ↔ r.AcceptedOn channel))
    {d : Dispatch Json Time} (hdispatch : s'.dispatch = some d) (hhand : InHand r' d)
    (hopened : s'.opened = s.opened)
    (hdomain : ∀ channel, s'.channels.lookup channel = none ↔ s.channels.lookup channel = none)
    (hlaws : ∀ channel c, s'.channels.lookup channel = some c →
      ChannelLaw env { l with current := some r' } channel c) :
    Recorded env ({ l with current := some r' }, s') := by
  have hread : WellRead s.opened r := h.read r (mem_dispatches.mpr (.inr hr))
  refine ⟨?_, ?_, h.finished, ?_, ?_, hlaws, ?_, ?_⟩
  · intro hnone
    rw [hdispatch] at hnone
    cases hnone
  · intro d' hd'
    obtain rfl := Option.some.inj (hdispatch.symm.trans hd')
    exact ⟨r', rfl, hhand⟩
  · intro r'' hr''
    show WellRead s'.opened r''
    rw [hopened]
    obtain hold | rfl := mem_dispatches_current hr''
    · exact h.read r'' hold
    · exact ⟨hregistry ▸ hread.exact, hregistry ▸ hread.opened⟩
  · intro r'' hr''
    obtain hold | rfl := mem_dispatches_current hr''
    · exact h.found r'' hold
    · exact hfound
  · intro channel hc
    have hnone := (hdomain channel).mp hc
    obtain ⟨haccepted, hreceived⟩ := h.unused channel hnone
    exact ⟨(accepted_congr hr r' hmessage (hunused channel hnone)).trans haccepted,
      hreceived⟩
  · intro channel
    show channel < s'.opened.length ↔ ∃ c, s'.channels.lookup channel = some c
    rw [hopened, h.opened channel, ← Option.ne_none_iff_exists', ← Option.ne_none_iff_exists']
    exact not_congr (hdomain channel).symm

/-- A dispatch begins with the targets that the registry has now. -/
theorem recorded_dispatchEvent (h : Recorded env (l, s)) (hregistry : RegistryExact s)
    {event : AlertEvent Json Time} (hstep : dispatchEvent env s event = some s') :
    Recorded env (l.note env s (.dispatchEvent event : WsAction Payload Json Time), s') := by
  obtain ⟨hidle, ⟨hunit, rfl⟩ | ⟨U, hunit, rfl⟩⟩ := startDispatch_cases hstep
  · have hnote : l.note env s' (.dispatchEvent event : WsAction Payload Json Time) = l := by
      simp only [Ledger.note, hunit]
    rw [hnote]
    exact h
  · have hnote : l.note env s (.dispatchEvent event : WsAction Payload Json Time) =
        { l with current := some ⟨U, .ofEvent event, s.registry, [], []⟩ } := by
      simp only [Ledger.note, hunit]
    have hcurrent : l.current = none := h.idle hidle
    have haccepted : ∀ channel, Ledger.accepted
        { l with current := some ⟨U, .ofEvent event, s.registry, [], []⟩ } channel =
          l.accepted channel := by
      intro channel
      rw [accepted_eq, accepted_eq, hcurrent]
      simp [DispatchRecord.AcceptedOn]
    rw [hnote]
    refine ⟨?_, ?_, h.finished, ?_, ?_, ?_, ?_, h.opened⟩
    · intro hnone
      cases hnone
    · intro d hd
      obtain rfl := Option.some.inj hd
      exact ⟨_, rfl, rfl, rfl, rfl, rfl⟩
    · intro r hr
      obtain hold | rfl := mem_dispatches_current hr
      · exact h.read r hold
      · exact ⟨hregistry.exact, fun id c hc => (hregistry.subscribed.registered id c hc).1⟩
    · intro r hr
      obtain hold | rfl := mem_dispatches_current hr
      · exact h.found r hold
      · intro a ha
        cases ha
    · intro channel c hc
      exact (h.channels channel c hc).congr (haccepted channel) rfl
    · intro channel hc
      obtain ⟨hnone, hnone'⟩ := h.unused channel hc
      exact ⟨(haccepted channel).trans hnone, hnone'⟩

section Attempts

variable {r : DispatchRecord Json Time} {U : UnitId} {message : ClientAlertMessage Json Time}
  {id : ConnectionId} {channel : ChannelId} {rest : List (ConnectionId × ChannelId)}
  {c : Channel (ClientAlertMessage Json Time)}

/-- The record follows the dispatch to its next target. -/
theorem InHand.attempt (hhand : InHand r ⟨U, message, (id, channel) :: rest, none⟩)
    {closed : Option ConnectionId}
    (hclosed : (r.attempt ⟨id, channel, c⟩).closedTargets = r.removed ++ closed.toList) :
    InHand (r.attempt ⟨id, channel, c⟩) ⟨U, message, rest, closed⟩ := by
  refine ⟨hhand.unitId, hhand.message, ?_, hclosed⟩
  show r.targets = (r.attempts ++ [Attempt.mk id channel c]).map Attempt.target ++ rest
  rw [hhand.targets, List.map_append, List.append_assoc]
  rfl

/-- The targets found closed after an attempt: the one just tried, if it was closed. -/
theorem InHand.closedTargets_attempt
    (hhand : InHand r ⟨U, message, (id, channel) :: rest, none⟩) :
    (r.attempt ⟨id, channel, c⟩).closedTargets =
      r.removed ++ if c.outcome = .closed then [id] else [] := by
  have hremoved : r.closedTargets = r.removed := hhand.removed.trans (List.append_nil _)
  rw [closedTargets_concat, hremoved]
  rfl

/-- Every channel that was tried has the configured capacity. -/
theorem capacity_attempt (h : Recorded env (l, s)) (hr : l.current = some r)
    (hc : s.channels.lookup channel = some c) :
    ∀ a ∈ (r.attempt ⟨id, channel, c⟩).attempts, a.found.capacity = env.channelCapacity := by
  intro a ha
  rw [DispatchRecord.attempt, List.mem_append, List.mem_singleton] at ha
  obtain hold | rfl := ha
  · exact h.found r (mem_dispatches.mpr (.inr hr)) a hold
  · exact (h.channels channel c hc).capacity

/-- An attempt puts nothing on the other channels, nor on one that is full or closed. -/
theorem acceptedOn_attempt_of_not {other : ChannelId}
    (hnot : ¬ (channel = other ∧ c.outcome = .accepted)) :
    (r.attempt ⟨id, channel, c⟩).AcceptedOn other ↔ r.AcceptedOn other := by
  rw [acceptedOn_concat]
  exact or_iff_left hnot

/-- A full or a closed channel takes nothing. -/
theorem recorded_refused (h : Recorded env (l, s)) (hr : l.current = some r)
    (hhand : InHand r ⟨U, message, (id, channel) :: rest, none⟩)
    (hc : s.channels.lookup channel = some c) (hnot : c.outcome ≠ .accepted)
    {closed : Option ConnectionId}
    (hclosed : (r.attempt ⟨id, channel, c⟩).closedTargets = r.removed ++ closed.toList) :
    Recorded env ({ l with current := some (r.attempt ⟨id, channel, c⟩) },
      { s with dispatch := some ⟨U, message, rest, closed⟩ }) := by
  have hsame : ∀ other, (r.attempt ⟨id, channel, c⟩).AcceptedOn other ↔ r.AcceptedOn other :=
    fun other => acceptedOn_attempt_of_not fun heq => hnot heq.2
  refine h.of_current hr rfl rfl (capacity_attempt h hr hc) (fun other _ => hsame other) rfl
    (hhand.attempt hclosed) rfl (fun _ => Iff.rfl) ?_
  intro other d hd
  have haccepted := accepted_congr hr (r.attempt ⟨id, channel, c⟩) rfl (hsame other)
  exact (h.channels other d hd).congr haccepted rfl

/-- A channel that accepts has the alert at the end of its queue. -/
theorem recorded_accepted (h : Recorded env (l, s)) (hr : l.current = some r)
    (hhand : InHand r ⟨U, message, (id, channel) :: rest, none⟩)
    (hnew : ¬ r.AcceptedOn channel) (hc : s.channels.lookup channel = some c)
    (haccepted : c.outcome = .accepted) :
    Recorded env ({ l with current := some (r.attempt ⟨id, channel, c⟩) },
      { s with
        channels := s.channels.insert channel { c with queue := c.queue ++ [message] }
        dispatch := some ⟨U, message, rest, none⟩ }) := by
  have hlaw := h.channels channel c hc
  have hclosed : (r.attempt ⟨id, channel, c⟩).closedTargets = r.removed ++ [] := by
    rw [hhand.closedTargets_attempt, haccepted]
    rfl
  refine h.of_current hr rfl rfl (capacity_attempt h hr hc) ?_ rfl (hhand.attempt hclosed) rfl
    ?_ ?_
  · intro other hnone
    refine acceptedOn_attempt_of_not fun heq => ?_
    rw [← heq.1, hc] at hnone
    cases hnone
  · intro other
    show (s.channels.insert channel _).lookup other = none ↔ _
    rw [lookup_insert_ite]
    split
    · rename_i heq
      rw [heq, hc]
      simp
    · rfl
  · intro other d hd
    obtain ⟨heq, rfl⟩ | ⟨hne, hold⟩ := lookup_insert_eq_some_iff.mp hd
    · rw [heq]
      refine ⟨hlaw.capacity, ?_, ?_⟩
      · intro hreceiver
        have hput : (r.attempt ⟨id, channel, c⟩).AcceptedOn channel :=
          (acceptedOn_concat r ⟨id, channel, c⟩ channel).mpr (.inr ⟨rfl, haccepted⟩)
        have hgrown := accepted_grows hr (r.attempt ⟨id, channel, c⟩) rfl hnew hput
        have hmessage : message = r.message := hhand.message
        rw [hgrown, hlaw.fifo hreceiver, List.append_assoc, hmessage]
      · intro hdropped
        have hgone := (Channel.outcome_eq_closed_iff c).mpr hdropped
        rw [haccepted] at hgone
        cases hgone
    · have hother := accepted_congr hr (r.attempt ⟨id, channel, c⟩) rfl
        (acceptedOn_attempt_of_not fun heq => hne heq.1.symm)
      exact (h.channels other d hold).congr hother rfl

end Attempts

/-- The next target is tried, whatever its channel answers. -/
theorem recorded_trySend (h : Recorded env (l, s)) (hregistry : RegistryExact s)
    (hstep : trySendNext s = some s') :
    Recorded env (l.note env s (.trySend : WsAction Payload Json Time), s') := by
  obtain ⟨U, message, id, channel, rest, c, hdispatch, hc, hsent⟩ := trySendNext_cases hstep
  obtain ⟨r, hcurrent, hhand⟩ := h.current _ hdispatch
  have hr : l.current = some r := hcurrent
  have hread := h.read r (mem_dispatches.mpr (.inr hr))
  have hnew : ¬ r.AcceptedOn channel :=
    not_attempted hhand (nodup_channels hregistry.subscribed hread) rfl
  have hnote : l.note env s (.trySend : WsAction Payload Json Time) =
      { l with current := some (r.attempt ⟨id, channel, c⟩) } := by
    simp only [Ledger.note, hdispatch, hc, hr, Option.map_some]
  rw [hnote]
  obtain ⟨c', hok, rfl⟩ | ⟨hfull, rfl⟩ | ⟨hclosed, rfl⟩ := hsent
  · obtain ⟨haccepted, rfl⟩ := (Channel.trySend_eq_ok_iff c c' message).mp hok
    exact recorded_accepted h hr hhand hnew hc haccepted
  · have houtcome := (Channel.trySend_eq_full_iff c message).mp hfull
    refine recorded_refused h hr hhand hc (by simp [houtcome]) ?_
    rw [hhand.closedTargets_attempt, houtcome]
    rfl
  · have houtcome := (Channel.trySend_eq_closed_iff c message).mp hclosed
    refine recorded_refused h hr hhand hc (by simp [houtcome]) ?_
    rw [hhand.closedTargets_attempt, houtcome]
    rfl

/-- A closed target is removed; no channel changes. -/
theorem recorded_removeClosed (h : Recorded env (l, s))
    (hstep : removeClosedTarget s = some s') :
    Recorded env (l.note env s (.removeClosed : WsAction Payload Json Time), s') := by
  obtain ⟨U, message, rest, id, hdispatch, rfl⟩ := removeClosedTarget_cases hstep
  obtain ⟨r, hcurrent, hhand⟩ := h.current _ hdispatch
  have hr : l.current = some r := hcurrent
  have hnote : l.note env s (.removeClosed : WsAction Payload Json Time) =
      { l with current := some (r.remove id) } := by
    simp only [Ledger.note, hdispatch, hr, Option.map_some]
  have hsame : ∀ channel, (r.remove id).AcceptedOn channel ↔ r.AcceptedOn channel :=
    fun _ => Iff.rfl
  have hremoved : (r.remove id).closedTargets = (r.remove id).removed ++ [] := by
    rw [List.append_nil]
    exact hhand.removed
  rw [hnote]
  refine h.of_current hr rfl rfl (h.found r (mem_dispatches.mpr (.inr hr)))
    (fun channel _ => hsame channel) rfl ⟨hhand.unitId, hhand.message, hhand.targets, hremoved⟩
    rfl (fun _ => Iff.rfl) ?_
  intro channel c hc
  exact (h.channels channel c hc).congr (accepted_congr hr (r.remove id) rfl (hsame channel)) rfl

/-- A dispatch returns when all its targets were tried. -/
theorem recorded_dispatchDone (h : Recorded env (l, s))
    (hstep : wsStep env s (.dispatchDone : WsAction Payload Json Time) = some s') :
    Recorded env (l.note env s (.dispatchDone : WsAction Payload Json Time), s') := by
  obtain ⟨U, message, hdispatch, rfl⟩ := dispatchDone_cases hstep
  obtain ⟨r, hcurrent, hhand⟩ := h.current _ hdispatch
  have hr : l.current = some r := hcurrent
  have hdispatches : Ledger.dispatches { l with finished := l.dispatches, current := none } =
      l.dispatches := List.append_nil _
  have haccepted : ∀ channel, Ledger.accepted
      { l with finished := l.dispatches, current := none } channel = l.accepted channel := by
    intro channel
    rw [Ledger.accepted, Ledger.accepted, hdispatches]
  show Recorded env ({ l with finished := l.dispatches, current := none }, _)
  refine ⟨fun _ => rfl, ?_, ?_, ?_, ?_, ?_, ?_, h.opened⟩
  · intro d hd
    cases hd
  · intro r' hr'
    obtain hold | hlast := mem_dispatches.mp hr'
    · exact h.finished r' hold
    · obtain rfl := Option.some.inj (hr.symm.trans hlast)
      refine ⟨?_, ?_⟩
      · rw [hhand.targets]
        exact (List.append_nil _).symm
      · rw [hhand.removed]
        exact (List.append_nil _).symm
  · intro r' hr'
    exact h.read r' (hdispatches ▸ hr')
  · intro r' hr'
    exact h.found r' (hdispatches ▸ hr')
  · intro channel c hc
    exact (h.channels channel c hc).congr (haccepted channel) rfl
  · intro channel hc
    obtain ⟨hnone, hnone'⟩ := h.unused channel hc
    exact ⟨(haccepted channel).trans hnone, hnone'⟩

end Dispatcher

/-! ## Every run -/

/-- The ledger and the registry, after a step. -/
theorem recorded_wsStep {s s' : WsState Json Time} (h : Recorded env (l, s))
    (hregistry : RegistryExact s) {a : WsAction Payload Json Time}
    (hstep : wsStep env s a = some s') : Recorded env (l.note env s a, s') := by
  cases a with
  | controlEvent payload =>
    obtain rfl := Option.some.inj hstep
    exact h.of_frame rfl rfl rfl
  | handshake O u =>
    obtain rfl := Option.some.inj hstep
    obtain ⟨-, heq⟩ | ⟨-, heq⟩ := wsHandler_cases s O u
    · rw [heq]
      exact h
    · rw [heq]
      exact h.of_frame rfl rfl rfl
  | openSocket i id => exact recorded_openSocket h hstep
  | receive channel => exact recorded_receive h hstep
  | leave id =>
    obtain rfl := Option.some.inj hstep
    exact h.of_frame rfl rfl rfl
  | dropReceiver channel => exact recorded_dropReceiver h hstep
  | dispatchEvent event => exact recorded_dispatchEvent h hregistry hstep
  | trySend => exact recorded_trySend h hregistry hstep
  | removeClosed => exact recorded_removeClosed h hstep
  | dispatchDone => exact recorded_dispatchDone h hstep

/-- The invariant of a run with its ledger. -/
def RecordedExactly (env : WsEnv Payload Json) (p : Ledger Json Time × WsState Json Time) :
    Prop :=
  RegistryExact p.2 ∧ Recorded env p

/-- The ledger is exact in every run. -/
theorem recordedExactly_ledgerRun {actions : List (WsAction Payload Json Time)}
    {p : Ledger Json Time × WsState Json Time} (hrun : ledgerRun env actions = some p) :
    RecordedExactly env p := by
  refine Runs.invariant_of_step ⟨registryExact_init, recorded_empty⟩ ?_ hrun
  rintro ⟨l, s⟩ a ⟨l', s'⟩ ⟨hregistry, h⟩ hstep
  obtain ⟨hs, hl⟩ := Runs.observed_eq_some.mp hstep
  obtain rfl : l' = l.note env s a := hl
  exact ⟨registryExact_wsStep hregistry hs, recorded_wsStep h hregistry hs⟩

end Ledger

/-! ## Delivery -/

section Delivery

variable {l : Ledger Json Time} {s : WsState Json Time}

/-- What was tried so far are the first targets; the others are still in hand. -/
theorem targets_eq (h : Recorded env (l, s)) {r : DispatchRecord Json Time}
    (hr : r ∈ l.dispatches) :
    ∃ left, r.targets = r.attempts.map Attempt.target ++ left ∧
      ∀ p ∈ left, l.current = some r ∧ ∃ d, s.dispatch = some d ∧ p ∈ d.targets := by
  obtain hfinished | hcurrent := mem_dispatches.mp hr
  · refine ⟨[], ?_, by simp⟩
    rw [List.append_nil, (h.finished r hfinished).1]
  · cases hdispatch : s.dispatch with
    | none =>
      have hidle : l.current = none := h.idle hdispatch
      rw [hidle] at hcurrent
      cases hcurrent
    | some d =>
      obtain ⟨r', hr', hhand⟩ := h.current d hdispatch
      obtain rfl : r' = r := Option.some.inj (hr'.symm.trans hcurrent)
      exact ⟨d.targets, hhand.targets, fun p hp => ⟨hcurrent, d, rfl, hp⟩⟩

/-- The targets on the channel of a connection: the connection, if it was registered. -/
theorem mem_targets_iff (hsub : Subscribed s) {r : DispatchRecord Json Time}
    (hread : WellRead s.opened r) {c : ConnectionContext ChannelId} (hc : c ∈ s.opened)
    (id : ConnectionId) :
    (id, c.sender) ∈ r.targets ↔ id = c.connectionId ∧ r.Registered c := by
  rw [DispatchRecord.targets, mem_sendersForUnit_iff hread.exact]
  constructor
  · rintro ⟨c', hlookup, hunit, hsender⟩
    obtain rfl : c' = c := hsub.eq_of_sender (hread.opened id c' hlookup) hc hsender
    obtain rfl := hread.exact.ids id c' hlookup
    exact ⟨rfl, hlookup, hunit⟩
  · rintro ⟨rfl, hlookup, hunit⟩
    exact ⟨c, hlookup, hunit, rfl⟩

/-- Only the alerts of its units are put on the channel of a connection. -/
theorem registered_of_attempt (hsub : Subscribed s) (h : Recorded env (l, s))
    {r : DispatchRecord Json Time} (hr : r ∈ l.dispatches) {c : ConnectionContext ChannelId}
    (hc : c ∈ s.opened) {a : Attempt Json Time} (ha : a ∈ r.attempts)
    (hchannel : a.channel = c.sender) : r.Registered c := by
  have htarget : a.target ∈ r.targets := by
    obtain ⟨left, htargets, -⟩ := targets_eq h hr
    rw [htargets]
    exact List.mem_append_left _ (List.mem_map_of_mem ha)
  rw [Attempt.target, hchannel, mem_targets_iff hsub (h.read r hr) hc] at htarget
  exact htarget.2

/-- A stronger filter leaves a part of what a weaker one leaves. -/
theorem filter_sublist_filter {α : Type} {p q : α → Prop} [DecidablePred p] [DecidablePred q]
    {as : List α} (h : ∀ a ∈ as, p a → q a) :
    (as.filter fun a => p a).Sublist (as.filter fun a => q a) := by
  have hfilter : (as.filter fun a => p a) = (as.filter fun a => q a).filter fun a => p a := by
    rw [List.filter_filter]
    refine List.filter_congr fun a ha => ?_
    by_cases hp : p a
    · simp [hp, h a ha hp]
    · simp [hp]
  rw [hfilter]
  exact List.filter_sublist

/-- In a list whose elements have different keys, a key has one element. -/
theorem filter_key_eq {α β : Type} [DecidableEq β] {f : α → β} {as : List α}
    (h : (as.map f).Nodup) {a : α} (ha : a ∈ as) :
    as.filter (fun b => f b = f a) = [a] := by
  induction as with
  | nil => cases ha
  | cons b as ih =>
    rw [List.map_cons, List.nodup_cons] at h
    obtain ⟨hb, hrest⟩ := h
    obtain rfl | ha := List.mem_cons.mp ha
    · have hnone : as.filter (fun b => f b = f a) = [] := by
        rw [List.filter_eq_nil_iff]
        intro b hb' heq
        exact hb (List.mem_map.mpr ⟨b, hb', of_decide_eq_true heq⟩)
      rw [List.filter_cons_of_pos (by simp), hnone]
    · have hne : f b ≠ f a := fun heq => hb (heq ▸ List.mem_map_of_mem ha)
      rw [List.filter_cons_of_neg (by simpa using hne), ih hrest ha]

/-- How the connections fared with the dispatches of the ledger. -/
structure Delivered (env : WsEnv Payload Json) (l : Ledger Json Time) (s : WsState Json Time) :
    Prop where
  /-- A handler receives alerts of its units, in the order of the dispatches and none
  twice. -/
  received : ∀ c ∈ s.opened, (l.received c.sender).Sublist (l.dispatchedTo c.unitIds)
  /-- What was put on a channel was received or is queued, as long as there is a receiver. -/
  queued : ∀ c ∈ s.opened, ∃ channel, s.channels.lookup c.sender = some channel ∧
    (channel.receiver = true →
      l.accepted c.sender = l.received c.sender ++ channel.queue) ∧
    (channel.receiver = false → l.received c.sender <+: l.accepted c.sender)
  /-- An alert of a registered connection is still to be tried, by the dispatch under way, or
  was tried once; it was not put on the channel only if the receiver was gone or the queue
  full. -/
  tried : ∀ r ∈ l.dispatches, ∀ c ∈ s.opened, r.Registered c →
    (l.current = some r ∧
      ∃ d, s.dispatch = some d ∧ (c.connectionId, c.sender) ∈ d.targets) ∨
      ∃ a, r.attempts.filter (fun a => a.channel = c.sender) = [a] ∧
        (r.AcceptedOn c.sender ∨ a.found.receiver = false ∨
          env.channelCapacity ≤ a.found.queue.length)
  /-- Other connections are not tried. -/
  only : ∀ r ∈ l.dispatches, ∀ c ∈ s.opened, ∀ a ∈ r.attempts, a.channel = c.sender →
    r.Registered c
  /-- A dispatch that has returned tried its targets, whatever each of them answered. -/
  all : ∀ r ∈ l.finished, r.attempts.map Attempt.target = r.targets
  /-- It removed those that it found closed. -/
  removed : ∀ r ∈ l.finished, r.removed = r.closedTargets

/-- What the steps of a dispatch do: a target changes its own channel only, and a removal
only takes its own connection out of the registry. -/
structure DispatchSteps (env : WsEnv Payload Json) (s : WsState Json Time) : Prop where
  trySend : ∀ U message id channel rest,
    s.dispatch = some ⟨U, message, (id, channel) :: rest, none⟩ →
      ∃ s' closed, wsStep env s (.trySend : WsAction Payload Json Time) = some s' ∧
        s'.dispatch = some ⟨U, message, rest, closed⟩ ∧ s'.registry = s.registry ∧
        ∀ other, other ≠ channel → s'.channels.lookup other = s.channels.lookup other
  removeClosed : ∀ U message rest id, s.dispatch = some ⟨U, message, rest, some id⟩ →
    ∃ s', wsStep env s (.removeClosed : WsAction Payload Json Time) = some s' ∧
      s'.dispatch = some ⟨U, message, rest, none⟩ ∧ s'.channels = s.channels ∧
      ∀ id', s'.registry.connections.lookup id' =
        if id' = id then none else s.registry.connections.lookup id'
  dispatchDone : ∀ U message, s.dispatch = some ⟨U, message, [], none⟩ →
    wsStep env s (.dispatchDone : WsAction Payload Json Time) = some { s with dispatch := none }

/-- The channel of a connection that was opened, and its law. -/
theorem exists_channelLaw (hsub : Subscribed s) (h : Recorded env (l, s))
    {c : ConnectionContext ChannelId} (hc : c ∈ s.opened) :
    ∃ channel, s.channels.lookup c.sender = some channel ∧
      ChannelLaw env l c.sender channel := by
  have hmem : c.sender ∈ List.range s.opened.length := by
    rw [← hsub.senders]
    exact List.mem_map_of_mem hc
  obtain ⟨channel, hlookup⟩ := (h.opened c.sender).mp (List.mem_range.mp hmem)
  exact ⟨channel, hlookup, h.channels _ channel hlookup⟩

/-- A handler received the first of what was put on its channel. -/
theorem ChannelLaw.received_prefix {channel : ChannelId}
    {c : Channel (ClientAlertMessage Json Time)} (h : ChannelLaw env l channel c) :
    l.received channel <+: l.accepted channel := by
  cases hreceiver : c.receiver with
  | false => exact h.dropped hreceiver
  | true =>
    rw [h.fifo hreceiver]
    exact List.prefix_append _ _

/-- What a connection has received was dispatched to its units, in that order. -/
theorem received_sublist (hsub : Subscribed s) (h : Recorded env (l, s))
    {c : ConnectionContext ChannelId} (hc : c ∈ s.opened) :
    (l.received c.sender).Sublist (l.dispatchedTo c.unitIds) := by
  obtain ⟨channel, -, hlaw⟩ := exists_channelLaw hsub h hc
  refine hlaw.received_prefix.sublist.trans (List.Sublist.map _ (filter_sublist_filter ?_))
  rintro r hr ⟨a, ha, hsame, -⟩
  exact (registered_of_attempt hsub h hr hc ha hsame).2

/-- A registered connection is tried once, or will be by the dispatch under way. -/
theorem tried_of_registered (hsub : Subscribed s) (h : Recorded env (l, s))
    {r : DispatchRecord Json Time} (hr : r ∈ l.dispatches) {c : ConnectionContext ChannelId}
    (hc : c ∈ s.opened) (hregistered : r.Registered c) :
    (l.current = some r ∧
      ∃ d, s.dispatch = some d ∧ (c.connectionId, c.sender) ∈ d.targets) ∨
      ∃ a ∈ r.attempts, a.channel = c.sender ∧
        r.attempts.filter (fun a => a.channel = c.sender) = [a] := by
  have hread := h.read r hr
  have htarget : (c.connectionId, c.sender) ∈ r.targets :=
    (mem_targets_iff hsub hread hc _).mpr ⟨rfl, hregistered⟩
  obtain ⟨left, htargets, hleft⟩ := targets_eq h hr
  rw [htargets, List.mem_append] at htarget
  obtain htarget | hpending := htarget
  · obtain ⟨a, ha, heq⟩ := List.mem_map.mp htarget
    have hsame : a.channel = c.sender := congrArg Prod.snd heq
    have hnodup : (r.attempts.map Attempt.channel).Nodup := by
      have hall := nodup_channels hsub hread
      rw [htargets, List.map_append, List.nodup_append, List.map_map] at hall
      exact hall.1
    refine .inr ⟨a, ha, hsame, ?_⟩
    rw [← hsame]
    exact filter_key_eq hnodup ha
  · exact .inl (hleft _ hpending)

/-- How an attempt ended, by the channel that it found. -/
theorem attempt_outcome (h : Recorded env (l, s)) {r : DispatchRecord Json Time}
    (hr : r ∈ l.dispatches) {a : Attempt Json Time} (ha : a ∈ r.attempts) :
    r.AcceptedOn a.channel ∨ a.found.receiver = false ∨
      env.channelCapacity ≤ a.found.queue.length := by
  cases houtcome : a.found.outcome with
  | accepted => exact .inl ⟨a, ha, rfl, houtcome⟩
  | closed => exact .inr (.inl ((Channel.outcome_eq_closed_iff _).mp houtcome))
  | full =>
    refine .inr (.inr ?_)
    rw [← h.found r hr a ha]
    exact ((Channel.outcome_eq_full_iff _).mp houtcome).2

/-- The law of delivery is read off the ledger. -/
theorem delivered_of_recorded (hsub : Subscribed s) (h : Recorded env (l, s)) :
    Delivered env l s where
  received := fun c hc => received_sublist hsub h hc
  queued := by
    intro c hc
    obtain ⟨channel, hlookup, hlaw⟩ := exists_channelLaw hsub h hc
    exact ⟨channel, hlookup, hlaw.fifo, hlaw.dropped⟩
  tried := by
    intro r hr c hc hregistered
    obtain hpending | ⟨a, ha, hsame, honce⟩ := tried_of_registered hsub h hr hc hregistered
    · exact .inl hpending
    · refine .inr ⟨a, honce, ?_⟩
      rw [← hsame]
      exact attempt_outcome h hr ha
  only := fun r hr c hc a ha hsame => registered_of_attempt hsub h hr hc ha hsame
  all := fun r hr => (h.finished r hr).1
  removed := fun r hr => (h.finished r hr).2

/-- The dispatch goes on while it has something in hand. -/
theorem dispatchSteps_of_recorded (hsub : Subscribed s) (h : Recorded env (l, s)) :
    DispatchSteps env s := by
  refine ⟨?_, ?_, ?_⟩
  · intro U message id channel rest hdispatch
    -- the channel of a target exists, as its connection was opened
    obtain ⟨c, hc, -, hsender, -⟩ := hsub.targets _ hdispatch (id, channel) List.mem_cons_self
    obtain ⟨found, hlookup, -⟩ := exists_channelLaw hsub h hc
    have hsame : c.sender = channel := hsender
    rw [hsame] at hlookup
    show ∃ s' closed, trySendNext s = some s' ∧ _
    rw [trySendNext, hdispatch]
    simp only [hlookup]
    cases found.trySend message with
    | ok found' =>
      refine ⟨_, none, rfl, rfl, rfl, fun other hne => ?_⟩
      exact (lookup_insert_ite _ _ _ _).trans (if_neg hne)
    | full => exact ⟨_, none, rfl, rfl, rfl, fun _ _ => rfl⟩
    | closed => exact ⟨_, some id, rfl, rfl, rfl, fun _ _ => rfl⟩
  · intro U message rest id hdispatch
    show ∃ s', removeClosedTarget s = some s' ∧ _
    rw [removeClosedTarget, hdispatch]
    exact ⟨_, rfl, rfl, rfl, lookup_removeConnection s.registry id⟩
  · intro U message hdispatch
    simp only [wsStep, hdispatch]

/-- **A WebSocket connection loses only what it must.**  Every run has its ledger, in which
a handler received a part of the alerts dispatched to its units, in their order and none
twice; an alert that was dispatched while the connection was registered for its unit was
tried once, and is missing only if the queue was full or the receiver gone; a dispatch tries
every target whatever the others answered, and removes those that it found closed.
SRC: websocket/dispatcher.rs:35-80, websocket/registry.rs:42-123, websocket/handler.rs:99-181 -/
theorem delivery_wsRun (env : WsEnv Payload Json) (actions : List (WsAction Payload Json Time))
    (s : WsState Json Time) (hrun : wsRun env actions = some s) :
    ∃ l, ledgerRun env actions = some (l, s) ∧ Delivered env l s ∧ DispatchSteps env s := by
  obtain ⟨l, hledger⟩ := Runs.exists_exec_observed hrun (Ledger.note env) Ledger.empty
  obtain ⟨hregistry, h⟩ := recordedExactly_ledgerRun hledger
  exact ⟨l, hledger, delivered_of_recorded hregistry.subscribed h,
    dispatchSteps_of_recorded hregistry.subscribed h⟩

end Delivery

/-! ## An alert that arrives -/

/-- The owner connects, and the handler receives the alert that is dispatched. -/
def deliveredRun : List (WsAction Event Event ℕ) :=
  (ownerOps.map fun e => .controlEvent e) ++ [.handshake 10 5] ++
    [.openSocket 0 77, .dispatchEvent sampleAlert, .trySend, .dispatchDone, .receive 0]

/-- The sample run goes through. -/
theorem exists_deliveredRun : ∃ s, wsRun sampleEnv deliveredRun = some s := by
  have hconnected := wsRun_ownerOps_handshake
  rw [wsRun] at hconnected
  rw [deliveredRun, wsRun, Runs.exec_append, hconnected]
  exact ⟨_, rfl⟩

/-- The law holds in the run of the owner. -/
theorem delivery_wsRun_owner :
    ∃ s l, wsRun sampleEnv deliveredRun = some s ∧
      ledgerRun sampleEnv deliveredRun = some (l, s) ∧ Delivered sampleEnv l s ∧
        DispatchSteps sampleEnv s := by
  obtain ⟨s, hs⟩ := exists_deliveredRun
  obtain ⟨l, hledger, hdelivered, hsteps⟩ := delivery_wsRun sampleEnv deliveredRun s hs
  exact ⟨s, l, hs, hledger, hdelivered, hsteps⟩

end AlertDistributor.Analysis
