import AlertDistributor.Model.Auth
import AlertDistributor.Model.HandleSocket
import AlertDistributor.System.WebSocket

/-!
# The WebSocket server

The WebSocket side once more, with its clients seen from the server: a request comes with an
`Authorization` header and is answered by `ws_handler`, and the task of a connection goes
through the stations of `handle_socket` one after the other.  The tasks run concurrently, and
the other actions are those of the WebSocket side.
-/

set_option autoImplicit false

namespace AlertDistributor.System

open AlertDistributor.Model FiniteMap

/-- What the server takes from outside: the decoding of control-plane messages and of tokens,
`Uuid::parse_str` and `HeaderValue::to_str`, and the timer; and its settings. -/
structure ServerEnv (Payload Json HeaderValue : Type) where
  decoder : Decoder Payload Json
  parseUuid : String → Option Uuid
  decode : ℕ → String → Except String JwtClaims
  toStr : HeaderValue → Option String
  timer : Timer
  state : WsServerState

namespace ServerEnv

variable {Payload Json HeaderValue : Type} (env : ServerEnv Payload Json HeaderValue)

def ws : WsEnv Payload Json :=
  ⟨env.decoder, env.parseUuid, env.state.channelCapacity.toNat⟩

def jwtValidator : JwtValidator :=
  ⟨env.decode, env.parseUuid⟩

end ServerEnv

/-- The status codes of the refusals of `ws_handler`. -/
inductive RefusalStatus where
  | unauthorized
  | forbidden
deriving DecidableEq, Repr

/-- What the task of a connection holds: its id and the receiving end of its channel. -/
structure SocketHandle where
  connectionId : ConnectionId
  receiver : ChannelId
deriving DecidableEq

/-- The handle of the task that serves a connection. -/
def handleOf (context : ConnectionContext ChannelId) : SocketHandle :=
  ⟨context.connectionId, context.sender⟩

/-- The stations of `handle_socket`; a time is a number of nanoseconds on the clock. -/
inductive SocketPhase where
  /-- `add_connection` has returned. -/
  | registered
  /-- In the loop, with the deadline of the heartbeat. -/
  | running (lastPong deadline : ℕ)
  /-- Behind the loop. -/
  | leaving (exit : SocketExit)
  /-- `remove_connection` has returned. -/
  | removed (exit : SocketExit)
  /-- The task has returned, and the receiver is dropped. -/
  | returned (exit : SocketExit)
  /-- The task has panicked at the heartbeat, and the receiver is dropped. -/
  | panicked (now : ℕ)
deriving DecidableEq, Repr

namespace SocketPhase

/-- Between `add_connection` and `remove_connection`. -/
def isLive : SocketPhase → Bool
  | .registered => true
  | .running _ _ => true
  | .leaving _ => true
  | _ => false

/-- The task is over. -/
def isOver : SocketPhase → Bool
  | .returned _ => true
  | .panicked _ => true
  | _ => false

/-- The task is over for a panic, at this time of the clock. -/
def panickedAt : SocketPhase → Option ℕ
  | .panicked now => some now
  | _ => none

/-- The way out of the loop, once it was left. -/
def exit : SocketPhase → Option SocketExit
  | .leaving exit => some exit
  | .removed exit => some exit
  | .returned exit => some exit
  | _ => none

/-- The station after a turn of the loop that has set this deadline. -/
def ofTurn (deadline : ℕ) : Except SocketExit ℕ → SocketPhase
  | .ok lastPong => .running lastPong deadline
  | .error exit => .leaving exit

end SocketPhase

/-- The actions that are no client's: those of the consumer and of the dispatcher. -/
def WsAction.isOther {Payload Json Time : Type} : WsAction Payload Json Time → Bool
  | .controlEvent _ => true
  | .dispatchEvent _ => true
  | .trySend => true
  | .removeClosed => true
  | .dispatchDone => true
  | _ => false

structure ServerState (Json Time : Type) where
  ws : WsState Json Time
  sockets : HashMap SocketHandle SocketPhase

namespace ServerState

variable {Json Time : Type}

def init : ServerState Json Time :=
  ⟨.init, ∅⟩

/-- The task of a handle comes to another station. -/
def moved (s : ServerState Json Time) (handle : SocketHandle) (phase : SocketPhase)
    (ws : WsState Json Time) : ServerState Json Time :=
  ⟨ws, s.sockets.insert handle phase⟩

end ServerState

inductive ServerAction (Payload Json Time HeaderValue : Type) where
  /-- `ws_handler` on a request, with its `Authorization` header. -/
  | request (now : ℕ) (authorization : Option HeaderValue)
  /-- `handle_socket` up to `add_connection`, for the accepted handshake number `i`. -/
  | openSocket (i : ℕ) (connectionId : ConnectionId)
  /-- The task starts its heartbeat and enters its loop. -/
  | start (handle : SocketHandle) (now : ℕ)
  /-- One turn of the loop. -/
  | turn (handle : SocketHandle) (now : ℕ) (event : SocketEvent)
  /-- `remove_connection` behind the loop. -/
  | removeConnection (handle : SocketHandle)
  /-- The task returns. -/
  | finish (handle : SocketHandle)
  /-- An action of the consumer or of the dispatcher. -/
  | other (action : WsAction Payload Json Time)

/-- Somebody holds a sending end of the channel: the registry or the dispatch under way. -/
def WsState.hasSender {Json Time : Type} (s : WsState Json Time) (channel : ChannelId) : Bool :=
  decide (∃ id ∈ s.registry.connections.keys,
      (s.registry.connections.lookup id).any (fun context => context.sender = channel) = true) ||
    s.dispatch.any fun dispatch => dispatch.targets.any fun target => target.2 = channel

section Step

variable {Payload Json Time HeaderValue : Type} (env : ServerEnv Payload Json HeaderValue)

/-- `ws_handler` with the cache as it reads it.
SRC: websocket/handler.rs:52-95 -/
def ServerEnv.wsHandler (cache : State) (now : ℕ) (authorization : Option HeaderValue) :
    Except RefusalStatus Upgrade :=
  match authorization.bind env.toStr with
  | none => .error .unauthorized
  | some authHeader =>
    match env.jwtValidator.validateBearer now authHeader with
    | .error _ => .error .unauthorized
    | .ok authContext =>
      let unitIds := cache.unitsFor authContext.organizationId authContext.userId
      if unitIds.isEmpty then .error .forbidden
      else .ok ⟨authContext.organizationId, authContext.userId, unitIds⟩

/-- What a turn takes from the channel: `recv` answers `None` once the queue is empty and no
sending end is left. -/
def takeOutbound (s : WsState Json Time) (receiver : ChannelId) :
    SocketEvent → Option (WsState Json Time)
  | .outbound (some _) => wsStep env.ws s (.receive receiver)
  | .outbound none =>
    match s.channels.lookup receiver with
    | none => none
    | some channel =>
      if channel.queue.isEmpty && !s.hasSender receiver then some s else none
  | _ => some s

/-- A turn of the loop.  A tick is not ready before its deadline; when it panics, the receiver
is dropped with the task, which has not come to `remove_connection`.
SRC: websocket/handler.rs:126-178 -/
def loopTurn (s : ServerState Json Time) (handle : SocketHandle) (lastPong deadline now : ℕ)
    (event : SocketEvent) : Option (ServerState Json Time) :=
  if event.isTick = true ∧ now < deadline then none
  else
    match turnDeadline env.timer env.state deadline now event with
    | none => (wsStep env.ws s.ws (.dropReceiver handle.receiver)).map
        (s.moved handle (.panicked now))
    | some deadline => (takeOutbound env s.ws handle.receiver event).map (s.moved handle
        (.ofTurn deadline (socketTurn env.state.heartbeatTimeout lastPong now event)))

/-- One action of one task.  A panic before `add_connection` uses up the handshake and leaves
nothing else behind.
SRC: websocket/handler.rs:52-189 -/
def serverStep (s : ServerState Json Time) :
    ServerAction Payload Json Time HeaderValue → Option (ServerState Json Time)
  | .request now authorization =>
    match env.wsHandler s.ws.cache now authorization with
    | .error _ => some s
    | .ok upgrade => some { s with ws := { s.ws with upgrades := s.ws.upgrades ++ [upgrade] } }
  | .openSocket i connectionId =>
    if env.state.channelCapacity.toNat = 0 ∨ maxPermits < env.state.channelCapacity.toNat then
      (s.ws.upgrades[i]?).map fun _ =>
        { s with ws := { s.ws with upgrades := s.ws.upgrades.eraseIdx i } }
    else
      (wsStep env.ws s.ws (.openSocket i connectionId)).map
        (s.moved ⟨connectionId, s.ws.opened.length⟩ .registered)
  | .start handle now =>
    match s.sockets.lookup handle with
    | some .registered =>
      if env.state.heartbeatInterval = 0 then
        (wsStep env.ws s.ws (.dropReceiver handle.receiver)).map
          (s.moved handle (.panicked now))
      else some (s.moved handle (.running now now) s.ws)
    | _ => none
  | .turn handle now event =>
    match s.sockets.lookup handle with
    | some (.running lastPong deadline) =>
      loopTurn env s handle lastPong deadline now event
    | _ => none
  | .removeConnection handle =>
    match s.sockets.lookup handle with
    | some (.leaving exit) =>
      (wsStep env.ws s.ws (.leave handle.connectionId)).map (s.moved handle (.removed exit))
    | _ => none
  | .finish handle =>
    match s.sockets.lookup handle with
    | some (.removed exit) =>
      (wsStep env.ws s.ws (.dropReceiver handle.receiver)).map (s.moved handle (.returned exit))
    | _ => none
  | .other action =>
    if action.isOther then (wsStep env.ws s.ws action).map fun ws => { s with ws } else none

/-- The state after a run from the start. -/
def serverRun (actions : List (ServerAction Payload Json Time HeaderValue)) :
    Option (ServerState Json Time) :=
  Runs.exec (serverStep env) ServerState.init actions

end Step

end AlertDistributor.System
