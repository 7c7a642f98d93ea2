import AlertDistributor.Analysis.Config
import AlertDistributor.Analysis.RegistryIndexes
import AlertDistributor.Analysis.WebSocketSteps
import AlertDistributor.Library.Keepalive
import AlertDistributor.Model.HandleSocket

/-!
# The life of a connection

The loop of `handle_socket` is a watchdog over its timeline: `last_pong` is the time of the
last `Pong`, whatever else the turns did (`lastPong_of_running`), and a tick compares it
with the timeout.  As an accepted timeout is longer than the interval, a client that answers
every `Ping` is never cut, and one that is silent is cut at the first tick that finds the
timeout over (`heartbeat_cuts_silent_clients`).

The set-up around the loop does not hold for every accepted configuration: the capacity of
the channel and the interval are not checked, and the runtime asserts on both
(`serves_sockets_iff`).
-/

set_option autoImplicit false

namespace AlertDistributor.Analysis

open AlertDistributor.Model AlertDistributor.System Keepalive

/-! ## The loop over its timeline -/

/-- The loop goes on where it stands. -/
theorem socketLoop_append (timeout : ℕ) (pre post : List (ℕ × SocketEvent)) :
    socketLoop timeout (pre ++ post) =
      post.foldl (SocketLoop.turn timeout) (socketLoop timeout pre) :=
  List.foldl_append

/-- One more event is one more turn. -/
theorem socketLoop_concat (timeout : ℕ) (events : List (ℕ × SocketEvent))
    (e : ℕ × SocketEvent) :
    socketLoop timeout (events ++ [e]) = (socketLoop timeout events).turn timeout e :=
  socketLoop_append timeout events [e]

/-- Nothing happens after the loop was left. -/
theorem foldl_turn_ended (timeout : ℕ) (exit : SocketExit) (now : ℕ)
    (events : List (ℕ × SocketEvent)) :
    events.foldl (SocketLoop.turn timeout) (.ended exit now) = .ended exit now := by
  induction events with
  | nil => rfl
  | cons e events ih => exact ih

/-- A loop that was left stays left. -/
theorem socketLoop_ended_append {timeout : ℕ} {pre : List (ℕ × SocketEvent)}
    {exit : SocketExit} {now : ℕ} (h : socketLoop timeout pre = .ended exit now)
    (post : List (ℕ × SocketEvent)) : socketLoop timeout (pre ++ post) = .ended exit now := by
  rw [socketLoop_append, h, foldl_turn_ended]

/-- A turn that stays in the loop changes `last_pong` at a `Pong` only. -/
theorem socketTurn_eq_ok {timeout lastPong now lastPong' : ℕ} {event : SocketEvent}
    (h : socketTurn timeout lastPong now event = .ok lastPong') :
    lastPong' = if event.isPong then now else lastPong := by
  revert h
  fun_cases socketTurn timeout lastPong now event <;> simp_all [SocketEvent.isPong, eq_comm]

/-- The timeout branch is that of a tick which finds the timeout over. -/
theorem socketTurn_eq_timeout_iff {timeout lastPong now : ℕ} {event : SocketEvent} :
    socketTurn timeout lastPong now event = .error .heartbeatTimeout ↔
      event.isTick = true ∧ timeout ≤ now - lastPong := by
  fun_cases socketTurn timeout lastPong now event <;> simp_all [SocketEvent.isTick]

/-- The loop runs after a turn that was not left. -/
theorem turn_eq_running_iff {timeout : ℕ} {loop : SocketLoop} {e : ℕ × SocketEvent}
    {lastPong' : ℕ} :
    loop.turn timeout e = .running lastPong' ↔
      ∃ lastPong, loop = .running lastPong ∧
        socketTurn timeout lastPong e.1 e.2 = .ok lastPong' := by
  cases loop with
  | ended exit now => simp [SocketLoop.turn]
  | running lastPong =>
    unfold SocketLoop.turn
    dsimp only
    cases hturn : socketTurn timeout lastPong e.1 e.2 <;> simp [hturn]

/-- The loop is left in the turn after which it is not running any more. -/
theorem turn_eq_ended_iff {timeout : ℕ} {loop : SocketLoop} {e : ℕ × SocketEvent}
    {exit : SocketExit} {now : ℕ} :
    loop.turn timeout e = .ended exit now ↔
      loop = .ended exit now ∨ ∃ lastPong, loop = .running lastPong ∧
        socketTurn timeout lastPong e.1 e.2 = .error exit ∧ e.1 = now := by
  cases loop with
  | ended exit' now' => simp [SocketLoop.turn]
  | running lastPong =>
    unfold SocketLoop.turn
    dsimp only
    cases hturn : socketTurn timeout lastPong e.1 e.2 <;> simp [hturn, and_comm]

/-- **`last_pong` is the time of the last `Pong`**, for as long as the loop turns. -/
theorem lastPong_of_running {timeout : ℕ} {events : List (ℕ × SocketEvent)} {lastPong : ℕ}
    (h : socketLoop timeout events = .running lastPong) :
    lastPong = lastSeen SocketEvent.isPong events := by
  induction events using List.reverseRecOn generalizing lastPong with
  | nil =>
    obtain rfl : 0 = lastPong := SocketLoop.running.inj h
    rfl
  | append_singleton events e ih =>
    rw [socketLoop_concat, turn_eq_running_iff] at h
    obtain ⟨before, hbefore, hturn⟩ := h
    rw [lastSeen_concat, ← ih hbefore]
    exact socketTurn_eq_ok hturn

/-- A loop that was left was left in some turn. -/
theorem exists_exit {timeout : ℕ} {events : List (ℕ × SocketEvent)} {exit : SocketExit}
    {now : ℕ} (h : socketLoop timeout events = .ended exit now) :
    ∃ pre e post lastPong, events = pre ++ e :: post ∧
      socketLoop timeout pre = .running lastPong ∧
        socketTurn timeout lastPong e.1 e.2 = .error exit ∧ e.1 = now := by
  induction events using List.reverseRecOn with
  | nil => cases h
  | append_singleton events e ih =>
    rw [socketLoop_concat, turn_eq_ended_iff] at h
    rcases h with hended | ⟨lastPong, hrunning, hturn, hnow⟩
    · obtain ⟨pre, e', post, lastPong, rfl, hpre⟩ := ih hended
      exact ⟨pre, e', post ++ [e], lastPong, by simp, hpre⟩
    · exact ⟨events, e, [], lastPong, rfl, hrunning, hturn, hnow⟩

/-! ## The heartbeat -/

section Heartbeat

variable {interval timeout : ℕ} {events : List (ℕ × SocketEvent)}

/-- **A client that answers is not cut.** -/
theorem no_timeout_of_answered (hlonger : interval < timeout)
    (h : Timeline interval SocketEvent.isTick events)
    (hanswered : Answered SocketEvent.isTick SocketEvent.isPong events) (now : ℕ) :
    socketLoop timeout events ≠ .ended .heartbeatTimeout now := by
  intro hended
  obtain ⟨pre, e, post, lastPong, rfl, hrunning, hturn, -⟩ := exists_exit hended
  obtain ⟨htick, hover⟩ := socketTurn_eq_timeout_iff.mp hturn
  have hseen : e.1 ≤ lastSeen SocketEvent.isPong pre + interval :=
    tick_le_lastSeen h hanswered htick
  rw [lastPong_of_running hrunning] at hover
  omega

/-- A tick that comes when a silent client's timeout is over finds the loop left, or leaves
it. -/
theorem ended_of_silent {p : ℕ} {pre : List (ℕ × SocketEvent)} {e : ℕ × SocketEvent}
    (hsilent : ∀ e ∈ pre, e.2.isPong = true → e.1 ≤ p) (htick : e.2.isTick = true)
    (hover : p + timeout ≤ e.1) :
    ∃ exit now, socketLoop timeout (pre ++ [e]) = .ended exit now := by
  cases hpre : socketLoop timeout pre with
  | ended exit now => exact ⟨exit, now, socketLoop_ended_append hpre [e]⟩
  | running lastPong =>
    have hseen : lastPong ≤ p := by
      rw [lastPong_of_running hpre]
      exact lastSeen_le hsilent
    have hturn : socketTurn timeout lastPong e.1 e.2 = .error .heartbeatTimeout :=
      socketTurn_eq_timeout_iff.mpr ⟨htick, by omega⟩
    refine ⟨.heartbeatTimeout, e.1, ?_⟩
    rw [socketLoop_concat, turn_eq_ended_iff]
    exact Or.inr ⟨lastPong, hpre, hturn, rfl⟩

/-- What becomes of a connection whose client shows no `Pong` after `p`. -/
structure CutAfter (interval timeout p : ℕ) (events : List (ℕ × SocketEvent)) : Prop where
  /-- It has ended by the first tick at or after `p + timeout`, and by any later one. -/
  byTick : ∀ pre e post, events = pre ++ e :: post → e.2.isTick = true → p + timeout ≤ e.1 →
    ∃ exit now, socketLoop timeout (pre ++ [e]) = .ended exit now
  /-- Nothing that comes at `p + timeout + interval` or later finds it open. -/
  beforeLate : ∀ pre e post, events = pre ++ e :: post → p + timeout + interval ≤ e.1 →
    ∃ exit now, socketLoop timeout pre = .ended exit now
  /-- It ends strictly before that. -/
  endsBefore : ∀ exit now, socketLoop timeout events = .ended exit now →
    now < p + timeout + interval

/-- **A client that is silent is cut.** -/
theorem cutAfter_of_silent {p : ℕ} (hinterval : 0 < interval)
    (h : Timeline interval SocketEvent.isTick events)
    (hsilent : ∀ e ∈ events, e.2.isPong = true → e.1 ≤ p) :
    CutAfter interval timeout p events := by
  have hlate : ∀ pre e post, events = pre ++ e :: post → p + timeout + interval ≤ e.1 →
      ∃ exit now, socketLoop timeout pre = .ended exit now := by
    rintro pre e post rfl hlate
    obtain ⟨front, t, back, rfl, htick, hover⟩ := exists_tick_of_late h hinterval hlate
    have hfront : ∀ e ∈ front, e.2.isPong = true → e.1 ≤ p :=
      fun e he => hsilent e (by simp [he])
    obtain ⟨exit, now, hended⟩ := ended_of_silent hfront htick hover
    refine ⟨exit, now, ?_⟩
    have hsplit : front ++ t :: back = front ++ [t] ++ back := by simp
    rw [hsplit]
    exact socketLoop_ended_append hended back
  refine ⟨?_, hlate, ?_⟩
  · rintro pre e post rfl htick hover
    exact ended_of_silent (fun e he => hsilent e (by simp [he])) htick hover
  · intro exit now hended
    obtain ⟨pre, e, post, lastPong, heq, hrunning, -, rfl⟩ := exists_exit hended
    by_contra hnot
    obtain ⟨exit', now', hpre⟩ := hlate pre e post heq (by omega)
    rw [hrunning] at hpre
    cases hpre

end Heartbeat

/-- A longer time in seconds is longer in nanoseconds. -/
theorem fromSecs_lt {a b : UInt64} (h : a < b) : fromSecs a < fromSecs b := by
  have hlt := UInt64.lt_iff_toNat_lt.mp h
  unfold fromSecs
  omega

/-- Only zero seconds are no time. -/
theorem fromSecs_eq_zero_iff {secs : UInt64} : fromSecs secs = 0 ↔ secs.toNat = 0 := by
  unfold fromSecs
  omega

/-- A second and more is at least a second in nanoseconds. -/
theorem le_fromSecs {secs : UInt64} (h : 1 ≤ secs.toNat) : 10 ^ 9 ≤ fromSecs secs := by
  unfold fromSecs
  omega

/-- **The heartbeat cuts silent clients and only them.**  With the durations of an accepted
configuration, the timeout branch is never taken on a timeline with a `Pong` between any two
ticks; and a connection without a `Pong` after `p` has ended by the first tick at or after
`p + timeout`, and before `p + timeout + interval`.
SRC: websocket/handler.rs:121-179, config/mod.rs:43-57 -/
theorem heartbeat_cuts_silent_clients {env : Environment} {config : AppConfig}
    (h : fromEnv env = .ok config) (hinterval : 1 ≤ config.wsHeartbeatIntervalSecs.toNat)
    {events : List (ℕ × SocketEvent)}
    (htimeline : Timeline (WsServerState.new config).heartbeatInterval SocketEvent.isTick
      events) :
    (Answered SocketEvent.isTick SocketEvent.isPong events → ∀ now,
      socketLoop (WsServerState.new config).heartbeatTimeout events ≠
        .ended .heartbeatTimeout now) ∧
    ∀ p, (∀ e ∈ events, e.2.isPong = true → e.1 ≤ p) →
      CutAfter (WsServerState.new config).heartbeatInterval
        (WsServerState.new config).heartbeatTimeout p events := by
  have hlonger : (WsServerState.new config).heartbeatInterval <
      (WsServerState.new config).heartbeatTimeout := fromSecs_lt (heartbeat_of_fromEnv h)
  have hpos : 0 < (WsServerState.new config).heartbeatInterval := by
    show 0 < config.wsHeartbeatIntervalSecs.toNat * 10 ^ 9
    omega
  exact ⟨no_timeout_of_answered hlonger htimeline,
    fun p hsilent => cutAfter_of_silent hpos htimeline hsilent⟩

/-- A client that never answers: three ticks, half a minute apart. -/
def silentTimeline : List (ℕ × SocketEvent) :=
  [(0, .tick true), (fromSecs 30, .tick true), (fromSecs 60, .tick true)]

/-- Its ticks come when they are due. -/
theorem timeline_silentTimeline :
    Timeline (fromSecs 30) SocketEvent.isTick silentTimeline := by
  have hsplit : silentTimeline =
      [] ++ [(0, .tick true)] ++ [(fromSecs 30, .tick true)] ++ [(fromSecs 60, .tick true)] := rfl
  rw [hsplit, timeline_concat, timeline_concat, timeline_concat]
  exact ⟨⟨⟨timeline_nil, ⟨by decide, by decide, by decide⟩⟩,
    ⟨by decide, by decide, by decide⟩⟩, ⟨by decide, by decide, by decide⟩⟩

/-- A client that answers each of `n` ticks at once. -/
def answeringTimeline (interval : ℕ) : ℕ → List (ℕ × SocketEvent)
  | 0 => []
  | n + 1 => answeringTimeline interval n ++ [(n * interval, .tick true)] ++
      [(n * interval, .incoming (some (.ok .pong)))]

/-- It has `n` ticks. -/
theorem ticks_answeringTimeline (interval n : ℕ) :
    ticks SocketEvent.isTick (answeringTimeline interval n) = n := by
  induction n with
  | zero => rfl
  | succ n ih => rw [answeringTimeline, ticks_concat, ticks_concat, ih]; rfl

/-- It is over before the next tick is due. -/
theorem le_answeringTimeline {interval n : ℕ} {e : ℕ × SocketEvent}
    (he : e ∈ answeringTimeline interval n) : e.1 ≤ n * interval := by
  induction n with
  | zero => cases he
  | succ n ih =>
    have hround : n * interval ≤ (n + 1) * interval :=
      Nat.mul_le_mul_right interval (Nat.le_succ n)
    simp only [answeringTimeline, List.mem_append, List.mem_singleton] at he
    rcases he with (hin | rfl) | rfl
    · exact (ih hin).trans hround
    · exact hround
    · exact hround

/-- Its ticks come when they are due. -/
theorem timeline_answeringTimeline (interval n : ℕ) :
    Timeline interval SocketEvent.isTick (answeringTimeline interval n) := by
  induction n with
  | zero => exact timeline_nil
  | succ n ih =>
    have hticks := ticks_answeringTimeline interval n
    rw [answeringTimeline, timeline_concat, timeline_concat]
    refine ⟨⟨ih, ?_, ?_, ?_⟩, ?_, ?_, ?_⟩
    · exact fun e he => le_answeringTimeline he
    · rw [hticks]
    · intro _
      rw [hticks]
    · intro e he
      rcases List.mem_append.mp he with hin | hnew
      · exact le_answeringTimeline hin
      · rw [List.mem_singleton.mp hnew]
    · rw [ticks_concat, hticks]
      exact Nat.mul_le_mul_right interval (Nat.le_succ n)
    · rintro ⟨⟩

/-- And each is answered before the next one. -/
theorem answered_answeringTimeline (interval n : ℕ) :
    Answered SocketEvent.isTick SocketEvent.isPong (answeringTimeline interval n) := by
  induction n with
  | zero => exact answered_nil
  | succ n ih =>
    refine (ih.concat ?_).concat (by rintro ⟨⟩)
    intro _ front s hlast
    cases n with
    | zero => simp [answeringTimeline] at hlast
    | succ n =>
      rw [answeringTimeline] at hlast
      obtain ⟨-, hs⟩ := List.append_inj' hlast rfl
      obtain rfl := List.singleton_inj.mp hs
      exact ⟨rfl, rfl⟩

/-- With the default durations the silent client is cut, and a client that answers four ticks
is not: its loop goes on. -/
theorem heartbeat_cuts_silentTimeline :
    CutAfter (fromSecs 30) (fromSecs 60) 0 silentTimeline ∧
    (∀ now, socketLoop (fromSecs 60) (answeringTimeline (fromSecs 30) 4) ≠
      .ended .heartbeatTimeout now) ∧
    socketLoop (fromSecs 60) (answeringTimeline (fromSecs 30) 4) = .running (fromSecs 90) := by
  have hconfig : fromEnv (exampleEnv 1024 30 60 3) = .ok (exampleConfig 1024 30 60 3) :=
    fromEnv_exampleEnv (by decide)
  refine ⟨?_, ?_, by decide⟩
  · exact (heartbeat_cuts_silent_clients hconfig (by decide) timeline_silentTimeline).2 0
      (by decide)
  · exact (heartbeat_cuts_silent_clients hconfig (by decide)
      (timeline_answeringTimeline (fromSecs 30) 4)).1
      (answered_answeringTimeline (fromSecs 30) 4)

/-! ## The clock of the heartbeat -/

section Clock

variable {timer : Timer} {period deadline now : ℕ}

/-- An instant that the clock can hold. -/
theorem timerAdd_eq_some {instant duration : ℕ} (h : instant + duration ≤ timer.latest) :
    timer.add instant duration = some (instant + duration) :=
  if_pos h

/-- An instant that it cannot. -/
theorem timerAdd_eq_none {instant duration : ℕ} (h : timer.latest < instant + duration) :
    timer.add instant duration = none :=
  if_neg (by omega)

/-- A tick sets its next deadline when its own tolerance and a period behind it exist. -/
theorem exists_nextDeadline (hdue : deadline ≤ now)
    (htolerance : now + timer.tolerance ≤ timer.latest)
    (hlatest : now + period + timer.rounding ≤ timer.latest) :
    ∃ next, nextDeadline timer period deadline now = some next := by
  have htolerated : timer.add deadline timer.tolerance = some (deadline + timer.tolerance) :=
    timerAdd_eq_some (by omega)
  unfold nextDeadline
  rw [htolerated]
  simp only [Option.bind_eq_bind, Option.bind_some]
  split
  · rw [timerAdd_eq_some (by omega), Option.bind_some, timerAdd_eq_some hlatest]
    exact ⟨_, rfl⟩
  · rw [timerAdd_eq_some (by omega), Option.some_or, Option.bind_some,
      timerAdd_eq_some (by omega)]
    exact ⟨_, rfl⟩

/-- A missed tick panics when a whole period behind it does not exist any more. -/
theorem nextDeadline_missed (hmissed : deadline + timer.tolerance < now)
    (hlatest : timer.latest < now + period + timer.rounding) :
    nextDeadline timer period deadline now = none := by
  unfold nextDeadline
  by_cases htolerated : deadline + timer.tolerance ≤ timer.latest
  · rw [timerAdd_eq_some htolerated]
    simp only [Option.bind_eq_bind, Option.bind_some]
    rw [if_pos hmissed]
    by_cases hnext : now + period ≤ timer.latest
    · rw [timerAdd_eq_some hnext, Option.bind_some, timerAdd_eq_none hlatest]
      rfl
    · rw [timerAdd_eq_none (by omega)]
      rfl
  · rw [timerAdd_eq_none (by omega)]
    rfl

/-- The clock ends before the next deadline of a heartbeat that ticks at this time. -/
def ClockEnds (timer : Timer) (period now : ℕ) : Prop :=
  timer.latest < now + timer.tolerance ∨ timer.latest < now + period + timer.rounding

/-- **A turn whose tick is not early panics only where the clock ends.** -/
theorem clockEnds_of_turnDeadline {state : WsServerState} {event : SocketEvent}
    (hdue : event.isTick = true → deadline ≤ now)
    (hpanic : turnDeadline timer state deadline now event = none) :
    ClockEnds timer state.heartbeatInterval now := by
  cases event with
  | tick pingSent =>
    by_contra hnot
    obtain ⟨htolerance, hlatest⟩ := not_or.mp hnot
    obtain ⟨next, hnext⟩ := exists_nextDeadline (hdue rfl) (Nat.le_of_not_lt htolerance)
      (Nat.le_of_not_lt hlatest)
    rw [turnDeadline, hnext] at hpanic
    cases hpanic
  | outbound message => cases hpanic
  | incoming frame => cases hpanic

end Clock

section Deadlines

variable {timer : Timer} {opening uptime delay : ℕ} {state : WsServerState}
  {events : List (ℕ × SocketEvent)}

/-- One more event is one more turn, unless a tick panicked before. -/
theorem heartbeatLoop_concat (e : ℕ × SocketEvent) :
    heartbeatLoop timer opening state (events ++ [e]) =
      (heartbeatLoop timer opening state events).bind fun s =>
        heartbeatTurn timer opening state s e :=
  Runs.exec_concat _ events e

/-- A turn that does not panic is a turn of the loop. -/
theorem fst_heartbeatTurn {s s' : SocketLoop × ℕ} {e : ℕ × SocketEvent}
    (h : heartbeatTurn timer opening state s e = some s') :
    s'.1 = s.1.turn state.heartbeatTimeout e := by
  unfold heartbeatTurn at h
  split at h
  · rename_i exit now hended
    obtain rfl := Option.some.inj h
    rw [hended]
    rfl
  · obtain ⟨deadline, -, rfl⟩ := Option.map_eq_some_iff.mp h
    rfl

/-- **The heartbeat does nothing but panic**: otherwise the loop is where its turns lead. -/
theorem fst_heartbeatLoop {s : SocketLoop × ℕ}
    (h : heartbeatLoop timer opening state events = some s) :
    s.1 = socketLoop state.heartbeatTimeout events := by
  induction events using List.reverseRecOn generalizing s with
  | nil =>
    rw [← Option.some.inj h]
    rfl
  | append_singleton events e ih =>
    rw [heartbeatLoop_concat, Option.bind_eq_some_iff] at h
    obtain ⟨before, hbefore, hturn⟩ := h
    rw [socketLoop_concat, ← ih hbefore, fst_heartbeatTurn hturn]

/-- The turns are taken by the time `uptime` of the clock, and a tick is not before its
deadline. -/
def Punctual (timer : Timer) (opening uptime : ℕ) (state : WsServerState)
    (events : List (ℕ × SocketEvent)) : Prop :=
  ∀ pre e post, events = pre ++ e :: post → opening + e.1 ≤ uptime ∧
    (e.2.isTick = true → ∀ s, heartbeatLoop timer opening state pre = some s →
      s.2 ≤ opening + e.1)

/-- Nothing has come late at the opening. -/
theorem punctual_nil : Punctual timer opening uptime state [] := by
  intro pre e post heq
  simp at heq

/-- The first tick is due at the opening, and may come at any later time. -/
theorem punctual_firstTick {pingSent : Bool} (h : opening + delay = uptime) :
    Punctual timer opening uptime state [(delay, .tick pingSent)] := by
  intro pre e post heq
  rw [← List.nil_append [_]] at heq
  obtain ⟨rfl, rfl, -⟩ | ⟨rest, -, hpre⟩ := Runs.concat_eq_append_cons_iff.mp heq
  · refine ⟨Nat.le_of_eq h, fun _ s hs => ?_⟩
    obtain rfl := Option.some.inj hs
    exact Nat.le_add_right opening delay
  · simp at hpre

/-- The turns before some moment are punctual. -/
theorem Punctual.before {e : ℕ × SocketEvent}
    (h : Punctual timer opening uptime state (events ++ [e])) :
    Punctual timer opening uptime state events := by
  intro pre e' post heq
  exact h pre e' (post ++ [e]) (by rw [heq, List.append_assoc, List.cons_append])

/-- **No tick panics as long as a period behind the last moment exists.** -/
theorem exists_heartbeatLoop (hperiod : timer.tolerance ≤ state.heartbeatInterval)
    (hlatest : uptime + state.heartbeatInterval + timer.rounding ≤ timer.latest)
    (h : Punctual timer opening uptime state events) :
    ∃ s, heartbeatLoop timer opening state events = some s := by
  induction events using List.reverseRecOn with
  | nil => exact ⟨_, rfl⟩
  | append_singleton events e ih =>
    obtain ⟨s, hs⟩ := ih h.before
    obtain ⟨huptime, htick⟩ := h events e [] rfl
    rw [heartbeatLoop_concat, hs, Option.bind_some]
    unfold heartbeatTurn
    split
    · exact ⟨s, rfl⟩
    · cases hnext : turnDeadline timer state s.2 (opening + e.1) e.2 with
      | some next => exact ⟨_, rfl⟩
      | none =>
        obtain hover | hover := clockEnds_of_turnDeadline (fun h => htick h s hs) hnext
        · omega
        · omega

end Deadlines

/-! ## The set-up -/

/-- What a client may expect of the server of an environment until the time `uptime` of the
clock of its host: whatever else happens, its task does not panic, and once the task is over
its connection is not registered. -/
def ServesSockets (timer : Timer) (uptime : ℕ) (env : Environment) : Prop :=
  ∀ config, fromEnv env = .ok config →
    ∀ (Sender : Type) (registry : RegistryState Sender) (context : ConnectionContext Sender)
      (others : RegistryState Sender → RegistryState Sender) (opening : ℕ)
      (events : List (ℕ × SocketEvent)),
      Punctual timer opening uptime (WsServerState.new config) events →
      let task := handleSocketTask timer opening (WsServerState.new config) registry context
        others events
      task.status ≠ .panicked ∧
        (task.status ≠ .running →
          task.registry.connections.lookup context.connectionId = none)

/-- A task that panics in the meantime shows that the server does not serve. -/
theorem not_servesSockets {env : Environment} {config : AppConfig} (h : fromEnv env = .ok config)
    {timer : Timer} {opening uptime : ℕ} {Sender : Type} {registry : RegistryState Sender}
    {context : ConnectionContext Sender} {others : RegistryState Sender → RegistryState Sender}
    {events : List (ℕ × SocketEvent)}
    (hpunctual : Punctual timer opening uptime (WsServerState.new config) events)
    (hpanic : (handleSocketTask timer opening (WsServerState.new config) registry context others
      events).status = .panicked) : ¬ ServesSockets timer uptime env :=
  fun hserves =>
    (hserves config h Sender registry context others opening events hpunctual).1 hpanic

section SetUp

variable {Sender : Type} {state : WsServerState} (timer : Timer) (opening : ℕ)
  (registry : RegistryState Sender) (context : ConnectionContext Sender)
  (others : RegistryState Sender → RegistryState Sender) (events : List (ℕ × SocketEvent))

/-- The channel is made first: without it nothing is registered. -/
theorem task_of_bad_capacity
    (h : state.channelCapacity.toNat = 0 ∨ maxPermits < state.channelCapacity.toNat) :
    handleSocketTask timer opening state registry context others events =
      ⟨.panicked, registry⟩ :=
  if_pos h

/-- The heartbeat is started last: without it the connection stays registered. -/
theorem task_of_zero_interval
    (hcapacity : 1 ≤ state.channelCapacity.toNat ∧ state.channelCapacity.toNat ≤ maxPermits)
    (h : state.heartbeatInterval = 0) :
    handleSocketTask timer opening state registry context others events =
      ⟨.panicked, registry.addConnection context⟩ := by
  unfold handleSocketTask
  rw [if_neg (by omega)]
  exact if_pos h

/-- Behind the set-up every way out of the loop goes through `remove_connection`, apart from a
panic at a tick. -/
theorem task_of_setUp
    (hcapacity : 1 ≤ state.channelCapacity.toNat ∧ state.channelCapacity.toNat ≤ maxPermits)
    (hinterval : 0 < state.heartbeatInterval) :
    handleSocketTask timer opening state registry context others events =
      match heartbeatLoop timer opening state events with
      | none => ⟨.panicked, others (registry.addConnection context)⟩
      | some (.running _, _) => ⟨.running, others (registry.addConnection context)⟩
      | some (.ended _ _, _) => ⟨.returned,
          ((others (registry.addConnection context)).removeConnection context.connectionId).1⟩ := by
  unfold handleSocketTask
  rw [if_neg (by omega)]
  exact if_neg (by omega)

/-- A first tick that is missed when no period behind it exists panics, and the connection
stays registered. -/
theorem task_of_missed_tick
    (hcapacity : 1 ≤ state.channelCapacity.toNat ∧ state.channelCapacity.toNat ≤ maxPermits)
    (hinterval : 0 < state.heartbeatInterval) {delay : ℕ} (hmissed : timer.tolerance < delay)
    (hlatest : timer.latest < opening + delay + state.heartbeatInterval + timer.rounding)
    (pingSent : Bool) :
    handleSocketTask timer opening state registry context others [(delay, .tick pingSent)] =
      ⟨.panicked, others (registry.addConnection context)⟩ := by
  have hpanic : heartbeatLoop timer opening state [(delay, .tick pingSent)] = none := by
    have hnext : nextDeadline timer state.heartbeatInterval opening (opening + delay) = none :=
      nextDeadline_missed (by omega) hlatest
    rw [heartbeatLoop, Runs.exec_cons, heartbeatTurn, turnDeadline]
    dsimp only
    rw [hnext]
    rfl
  rw [task_of_setUp timer opening registry context others _ hcapacity hinterval, hpanic]

end SetUp

/-- **The actions of the service are those of the task**: opening a socket and leaving it
change the registry as a task does that passes its set-up and ends. -/
theorem task_eq_openSocket_leave {Payload Json Time : Type} (env : WsEnv Payload Json)
    {s opened : WsState Json Time} {i : ℕ} {connectionId : ConnectionId}
    (hopen : wsStep env s (.openSocket i connectionId) = some opened) {timer : Timer} {opening : ℕ}
    {state : WsServerState}
    (hcapacity : 1 ≤ state.channelCapacity.toNat ∧ state.channelCapacity.toNat ≤ maxPermits)
    (hinterval : 0 < state.heartbeatInterval) {events : List (ℕ × SocketEvent)}
    {exit : SocketExit} {now deadline : ℕ}
    (hended : heartbeatLoop timer opening state events = some (.ended exit now, deadline)) :
    ∃ context closed, wsStep env opened (.leave connectionId) = some closed ∧
      handleSocketTask timer opening state s.registry context id events =
        ⟨.returned, closed.registry⟩ := by
  obtain ⟨up, context, -, -, hcontext, rfl⟩ := handleSocket_cases hopen
  have hid : context.connectionId = connectionId := by rw [hcontext]
  refine ⟨context, _, rfl, ?_⟩
  rw [task_of_setUp timer opening s.registry context id events hcapacity hinterval, hended]
  dsimp only
  rw [hid]
  rfl

/-- A connection of user 5 of organization 10. -/
def someConnection : ConnectionContext ℕ :=
  ⟨7, 5, 10, [1], 0⟩

section Serving

variable {env : Environment} {config : AppConfig} {timer : Timer} {uptime : ℕ}

/-- A server that serves has a capacity that the channel accepts. -/
theorem capacity_of_servesSockets (h : fromEnv env = .ok config)
    (hserves : ServesSockets timer uptime env) :
    1 ≤ config.wsChannelCapacity.toNat ∧ config.wsChannelCapacity.toNat ≤ maxPermits := by
  by_contra hbad
  have hbad' : (WsServerState.new config).channelCapacity.toNat = 0 ∨
      maxPermits < (WsServerState.new config).channelCapacity.toNat := by
    show config.wsChannelCapacity.toNat = 0 ∨ maxPermits < config.wsChannelCapacity.toNat
    omega
  exact not_servesSockets h punctual_nil (congrArg SocketTask.status
    (task_of_bad_capacity timer 0 .new someConnection id [] hbad')) hserves

/-- A server that serves has an interval. -/
theorem interval_of_servesSockets (h : fromEnv env = .ok config)
    (hserves : ServesSockets timer uptime env) : 1 ≤ config.wsHeartbeatIntervalSecs.toNat := by
  by_contra hnone
  have hzero : (WsServerState.new config).heartbeatInterval = 0 :=
    fromSecs_eq_zero_iff.mpr (Nat.lt_one_iff.mp (Nat.lt_of_not_le hnone))
  exact not_servesSockets h punctual_nil (congrArg SocketTask.status
    (task_of_zero_interval timer 0 .new someConnection id []
      (capacity_of_servesSockets h hserves) hzero)) hserves

/-- A server that serves has a clock that can hold an interval behind the last moment: a first
tick at that moment would panic else. -/
theorem latest_of_servesSockets (h : fromEnv env = .ok config)
    (hserves : ServesSockets timer uptime env) (huptime : timer.tolerance < uptime) :
    uptime + fromSecs config.wsHeartbeatIntervalSecs + timer.rounding ≤ timer.latest := by
  by_contra hlatest
  have hlate : timer.latest < 0 + uptime + (WsServerState.new config).heartbeatInterval +
      timer.rounding := by
    rw [Nat.zero_add]
    exact Nat.lt_of_not_le hlatest
  have hpos : 0 < (WsServerState.new config).heartbeatInterval :=
    Nat.lt_of_lt_of_le (by decide) (le_fromSecs (interval_of_servesSockets h hserves))
  exact not_servesSockets h (punctual_firstTick (Nat.zero_add uptime))
    (congrArg SocketTask.status (task_of_missed_tick timer 0 .new someConnection id
      (capacity_of_servesSockets h hserves) hpos huptime hlate true)) hserves

/-- A server serves if the runtime accepts its settings and no tick can miss the clock's end. -/
theorem servesSockets_of_settings (h : fromEnv env = .ok config)
    (htolerance : timer.tolerance ≤ 10 ^ 9)
    (hcapacity : 1 ≤ config.wsChannelCapacity.toNat ∧
      config.wsChannelCapacity.toNat ≤ maxPermits)
    (hinterval : 1 ≤ config.wsHeartbeatIntervalSecs.toNat)
    (hlatest : uptime + fromSecs config.wsHeartbeatIntervalSecs + timer.rounding ≤
      timer.latest) : ServesSockets timer uptime env := by
  intro config' h' Sender registry context others opening events hpunctual
  obtain rfl : config = config' := Except.ok.inj (h.symm.trans h')
  have hsecond : 10 ^ 9 ≤ (WsServerState.new config).heartbeatInterval := le_fromSecs hinterval
  have hpos : 0 < (WsServerState.new config).heartbeatInterval :=
    Nat.lt_of_lt_of_le (by decide) hsecond
  have hperiod : timer.tolerance ≤ (WsServerState.new config).heartbeatInterval :=
    htolerance.trans hsecond
  obtain ⟨⟨loop, deadline⟩, hloop⟩ := exists_heartbeatLoop hperiod hlatest hpunctual
  dsimp only
  rw [task_of_setUp timer opening registry context others events hcapacity hpos, hloop]
  cases loop with
  | running lastPong => simp
  | ended exit now => simp [lookup_removeConnection]

end Serving

/-- **A configuration serves its sockets if and only if the runtime accepts the capacity of
the channel and the interval of the heartbeat, and the clock can hold an interval behind every
moment**; `from_env` checks none of them.
SRC: websocket/handler.rs:93-181, config/mod.rs:34-104, main.rs:90-98 -/
theorem serves_sockets_iff {env : Environment} {config : AppConfig}
    (h : fromEnv env = .ok config) {timer : Timer} (htolerance : timer.tolerance ≤ 10 ^ 9)
    {uptime : ℕ} (huptime : timer.tolerance < uptime) :
    ServesSockets timer uptime env ↔
      (1 ≤ config.wsChannelCapacity.toNat ∧ config.wsChannelCapacity.toNat ≤ maxPermits) ∧
        1 ≤ config.wsHeartbeatIntervalSecs.toNat ∧
        uptime + fromSecs config.wsHeartbeatIntervalSecs + timer.rounding ≤ timer.latest := by
  constructor
  · intro hserves
    exact ⟨capacity_of_servesSockets h hserves, interval_of_servesSockets h hserves,
      latest_of_servesSockets h hserves huptime⟩
  · rintro ⟨hcapacity, hinterval, hlatest⟩
    exact servesSockets_of_settings h htolerance hcapacity hinterval hlatest

/-- The timer on Linux, where the seconds of an `Instant` are an `i64`: five milliseconds, thirty
years, and the rest of a millisecond. -/
def linuxTimer : Timer where
  latest := 9223372036854775807 * 10 ^ 9 + 999999999
  tolerance := 5 * 10 ^ 6
  farFuture := 30 * 365 * 86400 * 10 ^ 9
  rounding := 999999

/-- The example file's settings serve their sockets for the first thousand years. -/
theorem serves_sockets_example :
    ServesSockets linuxTimer (1000 * 365 * 86400 * 10 ^ 9) (exampleEnv 1024 30 60 3) :=
  (serves_sockets_iff (fromEnv_exampleEnv (by decide)) (by decide) (by decide)).mpr (by decide)

/-- A capacity of zero is accepted and panics every connection; so does an interval of zero,
and there the connection stays registered; and so does the longest interval when the first
tick comes a second late, a day after the start of the host. -/
theorem sockets_panic :
    (fromEnv (exampleEnv 0 30 60 3) = .ok (exampleConfig 0 30 60 3) ∧
      (handleSocketTask linuxTimer 0 (WsServerState.new (exampleConfig 0 30 60 3)) .new
        someConnection id []).status = .panicked ∧
      ¬ ServesSockets linuxTimer (86401 * 10 ^ 9) (exampleEnv 0 30 60 3)) ∧
    (fromEnv (exampleEnv 1024 0 60 3) = .ok (exampleConfig 1024 0 60 3) ∧
      handleSocketTask linuxTimer 0 (WsServerState.new (exampleConfig 1024 0 60 3)) .new
        someConnection id [] = ⟨.panicked, RegistryState.new.addConnection someConnection⟩ ∧
      ¬ ServesSockets linuxTimer (86401 * 10 ^ 9) (exampleEnv 1024 0 60 3)) ∧
    (fromEnv (exampleEnv 4 18446744073709551614 18446744073709551615 3) =
        .ok (exampleConfig 4 18446744073709551614 18446744073709551615 3) ∧
      handleSocketTask linuxTimer (86400 * 10 ^ 9)
        (WsServerState.new (exampleConfig 4 18446744073709551614 18446744073709551615 3)) .new
        someConnection id [(10 ^ 9, .tick true)] =
          ⟨.panicked, RegistryState.new.addConnection someConnection⟩ ∧
      ¬ ServesSockets linuxTimer (86401 * 10 ^ 9)
        (exampleEnv 4 18446744073709551614 18446744073709551615 3)) := by
  have hzeroCapacity : fromEnv (exampleEnv 0 30 60 3) = .ok (exampleConfig 0 30 60 3) :=
    fromEnv_exampleEnv (by decide)
  have hzeroInterval : fromEnv (exampleEnv 1024 0 60 3) = .ok (exampleConfig 1024 0 60 3) :=
    fromEnv_exampleEnv (by decide)
  have hlongest : fromEnv (exampleEnv 4 18446744073709551614 18446744073709551615 3) =
      .ok (exampleConfig 4 18446744073709551614 18446744073709551615 3) :=
    fromEnv_exampleEnv (by decide)
  have hfirst := task_of_bad_capacity linuxTimer 0 .new someConnection id []
    (by decide : (WsServerState.new (exampleConfig 0 30 60 3)).channelCapacity.toNat = 0 ∨ _)
  have hsecond : handleSocketTask linuxTimer 0 (WsServerState.new (exampleConfig 1024 0 60 3))
      .new someConnection id [] = ⟨.panicked, RegistryState.new.addConnection someConnection⟩ :=
    task_of_zero_interval linuxTimer 0 .new someConnection id [] (by decide) (by decide)
  have hthird : handleSocketTask linuxTimer (86400 * 10 ^ 9)
      (WsServerState.new (exampleConfig 4 18446744073709551614 18446744073709551615 3)) .new
      someConnection id [(10 ^ 9, .tick true)] =
        ⟨.panicked, RegistryState.new.addConnection someConnection⟩ :=
    task_of_missed_tick linuxTimer (86400 * 10 ^ 9) .new someConnection id (by decide)
      (by decide) (by decide) (by decide) true
  refine ⟨⟨hzeroCapacity, by rw [hfirst], ?_⟩, ⟨hzeroInterval, hsecond, ?_⟩,
    ⟨hlongest, hthird, ?_⟩⟩
  · exact not_servesSockets hzeroCapacity punctual_nil (congrArg SocketTask.status hfirst)
  · exact not_servesSockets hzeroInterval punctual_nil (congrArg SocketTask.status hsecond)
  · exact not_servesSockets hlongest (punctual_firstTick (by decide))
      (congrArg SocketTask.status hthird)

end AlertDistributor.Analysis
