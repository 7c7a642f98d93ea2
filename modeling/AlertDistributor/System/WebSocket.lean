import AlertDistributor.Library.Channel
import AlertDistributor.Library.Runs
import AlertDistributor.Model.AlertEvent
import AlertDistributor.Model.ControlPlane
import AlertDistributor.Model.Registry

/-!
# The WebSocket side of the service

The cache, the registry and the channels of the open connections, and the tasks that work
on them: the control-plane consumer, a handshake for each client, a handler for each
connection and the dispatcher of alerts.  The tasks run concurrently, so an `Action` is
what one of them does between two of its awaits, and a run is any list of enabled actions.
-/

set_option autoImplicit false

namespace AlertDistributor.System

open AlertDistributor.Model FiniteMap

/-- What the service takes from outside: the decoding of control-plane messages,
`Uuid::parse_str`, and the configured capacity of a connection's channel. -/
structure WsEnv (Payload Json : Type) where
  decoder : Decoder Payload Json
  parseUuid : String → Option Uuid
  channelCapacity : ℕ

/-- The channel of a connection; its senders name it by this number. -/
abbrev ChannelId := ℕ

/-- A handshake that was accepted and whose socket is not handled yet.
SRC: websocket/handler.rs:75-95 -/
structure Upgrade where
  organizationId : OrganizationId
  userId : UserId
  unitIds : List UnitId
deriving DecidableEq

/-- A dispatch under way: the targets that are left, and the one found closed that is
about to be removed. -/
structure Dispatch (Json Time : Type) where
  unitId : UnitId
  message : ClientAlertMessage Json Time
  targets : List (ConnectionId × ChannelId)
  closed : Option ConnectionId

structure WsState (Json Time : Type) where
  cache : State
  registry : RegistryState ChannelId
  upgrades : List Upgrade
  channels : HashMap ChannelId (Channel (ClientAlertMessage Json Time))
  dispatch : Option (Dispatch Json Time)
  /-- Every connection that was ever opened, in order; no task reads it. -/
  opened : List (ConnectionContext ChannelId)

namespace WsState

variable {Json Time : Type}

def init : WsState Json Time :=
  ⟨State.default, RegistryState.new, [], ∅, none, []⟩

end WsState

inductive WsAction (Payload Json Time : Type) where
  /-- The consumer applies a message. -/
  | controlEvent (payload : Payload)
  /-- `ws_handler` for a client with a valid token. -/
  | handshake (organizationId : OrganizationId) (userId : UserId)
  /-- `handle_socket` up to `add_connection`, for the accepted handshake number `i`. -/
  | openSocket (i : ℕ) (connectionId : ConnectionId)
  /-- The handler takes a message from its channel. -/
  | receive (channel : ChannelId)
  /-- The handler leaves its loop and removes its connection. -/
  | leave (connectionId : ConnectionId)
  /-- The receiver of a channel is dropped. -/
  | dropReceiver (channel : ChannelId)
  /-- `dispatch_event` up to `senders_for_unit`. -/
  | dispatchEvent (event : AlertEvent Json Time)
  /-- `try_send` on the next target. -/
  | trySend
  /-- `remove_connection` of a target that was found closed. -/
  | removeClosed
  /-- `dispatch_event` returns. -/
  | dispatchDone

section Step

variable {Payload Json Time : Type} (env : WsEnv Payload Json)

/-- A client without units is turned away.
SRC: websocket/handler.rs:75-95 -/
def wsHandler (s : WsState Json Time) (organizationId : OrganizationId) (userId : UserId) :
    WsState Json Time :=
  let unitIds := s.cache.unitsFor organizationId userId
  if unitIds.isEmpty then s
  else { s with upgrades := s.upgrades ++ [⟨organizationId, userId, unitIds⟩] }

/-- The channel and the registration of a new connection; `Uuid::new_v4` does not repeat
an id.
SRC: websocket/handler.rs:98-110 -/
def handleSocket (s : WsState Json Time) (i : ℕ) (connectionId : ConnectionId) :
    Option (WsState Json Time) :=
  match s.upgrades[i]? with
  | none => none
  | some upgrade =>
    if s.opened.any fun context => context.connectionId = connectionId then none
    else
      let context : ConnectionContext ChannelId :=
        ⟨connectionId, upgrade.userId, upgrade.organizationId, upgrade.unitIds, s.opened.length⟩
      some { s with
        upgrades := s.upgrades.eraseIdx i
        channels := s.channels.insert s.opened.length (Channel.new env.channelCapacity)
        registry := s.registry.addConnection context
        opened := s.opened ++ [context] }

/-- The first part of `AlertDispatcher::dispatch_event`; the alerts are dispatched one at a
time.
SRC: websocket/dispatcher.rs:35-52 -/
def dispatchEvent (s : WsState Json Time) (event : AlertEvent Json Time) :
    Option (WsState Json Time) :=
  match s.dispatch with
  | some _ => none
  | none =>
    match env.parseUuid event.unitId with
    | none => some s
    | some unitId =>
      let dispatch : Dispatch Json Time :=
        ⟨unitId, ClientAlertMessage.ofEvent event, s.registry.sendersForUnit unitId, none⟩
      some { s with dispatch := some dispatch }

/-- One turn of the loop over the targets: a full queue drops the message, a closed one
marks the connection for removal.
SRC: websocket/dispatcher.rs:58-74 -/
def trySendNext (s : WsState Json Time) : Option (WsState Json Time) :=
  match s.dispatch with
  | some ⟨unitId, message, (connectionId, sender) :: rest, none⟩ =>
    match s.channels.lookup sender with
    | none => none
    | some channel =>
      match channel.trySend message with
      | .ok channel =>
        some { s with
          channels := s.channels.insert sender channel
          dispatch := some ⟨unitId, message, rest, none⟩ }
      | .full => some { s with dispatch := some ⟨unitId, message, rest, none⟩ }
      | .closed => some { s with dispatch := some ⟨unitId, message, rest, some connectionId⟩ }
  | _ => none

/-- SRC: websocket/dispatcher.rs:71-73 -/
def removeClosedTarget (s : WsState Json Time) : Option (WsState Json Time) :=
  match s.dispatch with
  | some ⟨unitId, message, rest, some connectionId⟩ =>
    some { s with
      registry := (s.registry.removeConnection connectionId).1
      dispatch := some ⟨unitId, message, rest, none⟩ }
  | _ => none

/-- One action of one task. -/
def wsStep (s : WsState Json Time) : WsAction Payload Json Time → Option (WsState Json Time)
  | .controlEvent payload =>
    some { s with cache := (applyEvent env.decoder s.cache payload).1 }
  | .handshake organizationId userId => some (wsHandler s organizationId userId)
  | .openSocket i connectionId => handleSocket env s i connectionId
  | .receive channel =>
    match (s.channels.lookup channel).bind Channel.recv with
    | none => none
    | some (_, rest) => some { s with channels := s.channels.insert channel rest }
  | .leave connectionId =>
    some { s with registry := (s.registry.removeConnection connectionId).1 }
  | .dropReceiver channel =>
    match s.channels.lookup channel with
    | none => none
    | some c => some { s with channels := s.channels.insert channel c.dropReceiver }
  | .dispatchEvent event => dispatchEvent env s event
  | .trySend => trySendNext s
  | .removeClosed => removeClosedTarget s
  | .dispatchDone =>
    match s.dispatch with
    | some ⟨_, _, [], none⟩ => some { s with dispatch := none }
    | _ => none

/-- The state after a run from the start. -/
def wsRun (actions : List (WsAction Payload Json Time)) : Option (WsState Json Time) :=
  Runs.exec (wsStep env) WsState.init actions

end Step

end AlertDistributor.System
