import AlertDistributor.Library.Runs
import AlertDistributor.Model.Config
import AlertDistributor.Model.Registry

/-!
# The task of one WebSocket connection

`handle_socket` of `websocket/handler.rs`: it makes the channel and registers the
connection, starts the heartbeat, turns its `select!` loop until a branch leaves it, and
removes the connection.  The runtime is outside: which branch of a turn fires, what it
receives and whether its send succeeds is a `SocketEvent`, and the two constructors that
assert on their argument end the task when it is not met.  So does the heartbeat when it
cannot hold the time of its next tick.  The time of an event is a number of nanoseconds since
the opening of the connection; an `Instant` is one since the start of the host's clock.
-/

set_option autoImplicit false

namespace AlertDistributor.Model

/-- `Duration::from_secs`. -/
def fromSecs (secs : UInt64) : ℕ :=
  secs.toNat * 10 ^ 9

/-- The settings of the server that a connection uses.
SRC: websocket/handler.rs:19-27 -/
structure WsServerState where
  channelCapacity : UInt64
  heartbeatInterval : ℕ
  heartbeatTimeout : ℕ

/-- SRC: main.rs:90-98 -/
def WsServerState.new (config : AppConfig) : WsServerState where
  channelCapacity := config.wsChannelCapacity
  heartbeatInterval := fromSecs config.wsHeartbeatIntervalSecs
  heartbeatTimeout := fromSecs config.wsHeartbeatTimeoutSecs

/-! ## The loop -/

/-- How far a message for the client gets. -/
inductive Outbound where
  | notSerialized
  | sendFailed
  | sent
deriving DecidableEq, Repr

/-- A frame of the client; the answer to a `Ping` is sent or not. -/
inductive Frame where
  | close
  | ping (pongSent : Bool)
  | pong
  | text
  | binary
deriving DecidableEq, Repr

/-- The branch of the `select!` that fires, and what it receives. -/
inductive SocketEvent where
  /-- `receiver.recv()`, `none` once the channel is closed. -/
  | outbound (message : Option Outbound)
  /-- `ws_receiver.next()`: a frame, an error, or the end of the stream. -/
  | incoming (frame : Option (Except Unit Frame))
  /-- `heartbeat.tick()`; if it comes to the `Ping`, that is sent or not. -/
  | tick (pingSent : Bool)

namespace SocketEvent

def isTick : SocketEvent → Bool
  | .tick _ => true
  | _ => false

def isPong : SocketEvent → Bool
  | .incoming (some (.ok .pong)) => true
  | _ => false

end SocketEvent

/-- The ways out of the loop. -/
inductive SocketExit where
  | channelClosed
  | closeFrame
  | streamEnded
  | unexpectedDisconnect
  | heartbeatTimeout
deriving DecidableEq, Repr

/-- One turn of the loop at the time `now`: the new `last_pong`, or a `break`.
SRC: websocket/handler.rs:126-178 -/
def socketTurn (timeout lastPong now : ℕ) : SocketEvent → Except SocketExit ℕ
  | .outbound none => .error .channelClosed
  | .outbound (some .notSerialized) => .ok lastPong
  | .outbound (some .sendFailed) => .error .unexpectedDisconnect
  | .outbound (some .sent) => .ok lastPong
  | .incoming (some (.ok .close)) => .error .closeFrame
  | .incoming (some (.ok (.ping pongSent))) =>
    if pongSent then .ok lastPong else .error .unexpectedDisconnect
  | .incoming (some (.ok .pong)) => .ok now
  | .incoming (some (.ok .text)) => .ok lastPong
  | .incoming (some (.ok .binary)) => .ok lastPong
  | .incoming (some (.error _)) => .error .unexpectedDisconnect
  | .incoming none => .error .streamEnded
  | .tick pingSent =>
    if now - lastPong ≥ timeout then .error .heartbeatTimeout
    else if pingSent then .ok lastPong
    else .error .unexpectedDisconnect

/-- Where the loop stands: still turning, or left at some time. -/
inductive SocketLoop where
  | running (lastPong : ℕ)
  | ended (exit : SocketExit) (now : ℕ)
deriving DecidableEq, Repr

/-- A loop that was left takes no more turns. -/
def SocketLoop.turn (timeout : ℕ) (loop : SocketLoop) (event : ℕ × SocketEvent) : SocketLoop :=
  match loop with
  | .ended exit now => .ended exit now
  | .running lastPong =>
    match socketTurn timeout lastPong event.1 event.2 with
    | .ok lastPong => .running lastPong
    | .error exit => .ended exit event.1

/-- The loop after a list of turns; `last_pong` starts as the time of the opening.
SRC: websocket/handler.rs:122-179 -/
def socketLoop (timeout : ℕ) (events : List (ℕ × SocketEvent)) : SocketLoop :=
  events.foldl (SocketLoop.turn timeout) (.running 0)

/-! ## The heartbeat -/

/-- The clock of the host and what the timer of the runtime does with its instants. -/
structure Timer where
  /-- The last instant that an `Instant` can hold. -/
  latest : ℕ
  /-- A tick that is polled further than this behind its deadline is a missed one. -/
  tolerance : ℕ
  /-- How far away `Instant::far_future` is. -/
  farFuture : ℕ
  /-- What is added to a deadline to round it up to the resolution of the timer. -/
  rounding : ℕ

/-- `Instant + Duration`: past the last instant the sum does not exist. -/
def Timer.add (timer : Timer) (instant duration : ℕ) : Option ℕ :=
  if instant + duration ≤ timer.latest then some (instant + duration) else none

/-- The deadline behind a `heartbeat.tick()` that is due at `deadline` and is polled at `now`,
with `MissedTickBehavior::Delay`: a missed tick puts the next one a whole period behind `now`,
any other a period behind the deadline, or far away.  `none` is a panic: an instant that does
not exist.
SRC: websocket/handler.rs:123-124, 167 -/
def nextDeadline (timer : Timer) (period deadline now : ℕ) : Option ℕ := do
  let tolerated ← timer.add deadline timer.tolerance
  let next ←
    if tolerated < now then timer.add now period
    else (timer.add deadline period).or (timer.add now timer.farFuture)
  (timer.add next timer.rounding).map fun _ => next

/-- The deadline behind a turn at the time `now` of the clock: only a tick sets it. -/
def turnDeadline (timer : Timer) (state : WsServerState) (deadline now : ℕ) :
    SocketEvent → Option ℕ
  | .tick _ => nextDeadline timer state.heartbeatInterval deadline now
  | _ => some deadline

/-- One turn of the loop with the deadline of its heartbeat; `none` once a tick has panicked. -/
def heartbeatTurn (timer : Timer) (opening : ℕ) (state : WsServerState) (s : SocketLoop × ℕ)
    (event : ℕ × SocketEvent) : Option (SocketLoop × ℕ) :=
  match s.1 with
  | .ended _ _ => some s
  | .running _ =>
    (turnDeadline timer state s.2 (opening + event.1) event.2).map fun deadline =>
      (s.1.turn state.heartbeatTimeout event, deadline)

/-- The loop of a connection that was opened at `opening`, where the first tick is due.
SRC: websocket/handler.rs:122-179 -/
def heartbeatLoop (timer : Timer) (opening : ℕ) (state : WsServerState)
    (events : List (ℕ × SocketEvent)) : Option (SocketLoop × ℕ) :=
  Runs.exec (heartbeatTurn timer opening state) (.running 0, opening) events

/-! ## The task -/

/-- The largest capacity of an `mpsc` channel: `usize::MAX >> 3`, the most permits of a
semaphore. -/
def maxPermits : ℕ :=
  2 ^ 61 - 1

inductive SocketStatus where
  | panicked
  | running
  | returned
deriving DecidableEq, Repr

/-- Where the task stands, and the registry as it leaves it. -/
structure SocketTask (Sender : Type) where
  status : SocketStatus
  registry : RegistryState Sender

/-- The task on a list of turns of its loop; while it turns, the other tasks change the
registry by `others`.  `mpsc::channel` panics on a capacity of zero or above the most
permits, `time::interval` on a period of zero, and a tick on a deadline that does not exist.
SRC: websocket/handler.rs:93-189 -/
def handleSocketTask {Sender : Type} (timer : Timer) (opening : ℕ) (state : WsServerState)
    (registry : RegistryState Sender) (context : ConnectionContext Sender)
    (others : RegistryState Sender → RegistryState Sender)
    (events : List (ℕ × SocketEvent)) : SocketTask Sender :=
  if state.channelCapacity.toNat = 0 ∨ maxPermits < state.channelCapacity.toNat then
    ⟨.panicked, registry⟩
  else
    let registry := registry.addConnection context
    if state.heartbeatInterval = 0 then ⟨.panicked, registry⟩
    else
      match heartbeatLoop timer opening state events with
      | none => ⟨.panicked, others registry⟩
      | some (.running _, _) => ⟨.running, others registry⟩
      | some (.ended _ _, _) =>
        ⟨.returned, ((others registry).removeConnection context.connectionId).1⟩

end AlertDistributor.Model
