import AlertDistributor.System.WebSocket
import Mathlib.Logic.Function.Basic

/-!
# The ledger of the deliveries

What an observer of the WebSocket side writes down: every dispatch, with the registry its
`senders_for_unit` read, the channel each `try_send` found and the connections it removed,
and every alert that a handler took from its channel.  No task reads the ledger; it is the
record in which the delivery of alerts is stated.
-/

set_option autoImplicit false

namespace AlertDistributor.Interface

open AlertDistributor.Model AlertDistributor.System

/-- One `try_send` of a dispatch. -/
structure Attempt (Json Time : Type) where
  connectionId : ConnectionId
  channel : ChannelId
  /-- The channel as `try_send` found it. -/
  found : Channel (ClientAlertMessage Json Time)

namespace Attempt

variable {Json Time : Type}

def target (a : Attempt Json Time) : ConnectionId × ChannelId :=
  (a.connectionId, a.channel)

/-- The alert was put on the channel. -/
def Accepted (a : Attempt Json Time) : Prop :=
  a.found.outcome = .accepted

/-- The receiver was gone. -/
def FoundClosed (a : Attempt Json Time) : Prop :=
  a.found.outcome = .closed

instance (a : Attempt Json Time) : Decidable a.Accepted :=
  inferInstanceAs (Decidable (_ = _))

instance (a : Attempt Json Time) : Decidable a.FoundClosed :=
  inferInstanceAs (Decidable (_ = _))

end Attempt

/-- One call of `dispatch_event`, of an alert whose unit id is a UUID. -/
structure DispatchRecord (Json Time : Type) where
  unitId : UnitId
  message : ClientAlertMessage Json Time
  /-- The registry as `senders_for_unit` read it. -/
  registry : RegistryState ChannelId
  attempts : List (Attempt Json Time)
  /-- The connections it removed from the registry. -/
  removed : List ConnectionId

namespace DispatchRecord

variable {Json Time : Type}

/-- What `senders_for_unit` answered. -/
def targets (r : DispatchRecord Json Time) : List (ConnectionId × ChannelId) :=
  r.registry.sendersForUnit r.unitId

/-- The connection was registered for the unit of the alert at the read. -/
def Registered (r : DispatchRecord Json Time) (c : ConnectionContext ChannelId) : Prop :=
  r.registry.connections.lookup c.connectionId = some c ∧ r.unitId ∈ c.unitIds

/-- The alert was put on the channel. -/
def AcceptedOn (r : DispatchRecord Json Time) (channel : ChannelId) : Prop :=
  ∃ a ∈ r.attempts, a.channel = channel ∧ a.Accepted

instance (r : DispatchRecord Json Time) (channel : ChannelId) :
    Decidable (r.AcceptedOn channel) :=
  inferInstanceAs (Decidable (∃ a ∈ r.attempts, _))

/-- One more `try_send`. -/
def attempt (r : DispatchRecord Json Time) (a : Attempt Json Time) : DispatchRecord Json Time :=
  { r with attempts := r.attempts ++ [a] }

/-- One more removal. -/
def remove (r : DispatchRecord Json Time) (connectionId : ConnectionId) :
    DispatchRecord Json Time :=
  { r with removed := r.removed ++ [connectionId] }

/-- The connections whose `try_send` found the channel closed. -/
def closedTargets (r : DispatchRecord Json Time) : List ConnectionId :=
  (r.attempts.filter fun a => a.FoundClosed).map Attempt.connectionId

end DispatchRecord

structure Ledger (Json Time : Type) where
  /-- The dispatches that have returned, in order. -/
  finished : List (DispatchRecord Json Time)
  /-- The dispatch under way. -/
  current : Option (DispatchRecord Json Time)
  /-- What the handler of a channel has received, in order. -/
  received : ChannelId → List (ClientAlertMessage Json Time)

namespace Ledger

variable {Json Time : Type}

def empty : Ledger Json Time :=
  ⟨[], none, fun _ => []⟩

/-- All dispatches, in order. -/
def dispatches (l : Ledger Json Time) : List (DispatchRecord Json Time) :=
  l.finished ++ l.current.toList

/-- The alerts that were put on a channel, in the order of their dispatches. -/
def accepted (l : Ledger Json Time) (channel : ChannelId) :
    List (ClientAlertMessage Json Time) :=
  (l.dispatches.filter fun r => r.AcceptedOn channel).map DispatchRecord.message

/-- The alerts of some units, in the order of their dispatches. -/
def dispatchedTo (l : Ledger Json Time) (units : List UnitId) :
    List (ClientAlertMessage Json Time) :=
  (l.dispatches.filter fun r => r.unitId ∈ units).map DispatchRecord.message

variable {Payload : Type} (env : WsEnv Payload Json)

/-- What is written down of an action, on the state before it. -/
def note (l : Ledger Json Time) (s : WsState Json Time) :
    WsAction Payload Json Time → Ledger Json Time
  | .dispatchEvent event =>
    match env.parseUuid event.unitId with
    | none => l
    | some unitId =>
      { l with current := some ⟨unitId, ClientAlertMessage.ofEvent event, s.registry, [], []⟩ }
  | .trySend =>
    match s.dispatch with
    | some ⟨_, _, (connectionId, channel) :: _, _⟩ =>
      match s.channels.lookup channel with
      | none => l
      | some found =>
        { l with current := l.current.map fun r => r.attempt ⟨connectionId, channel, found⟩ }
    | _ => l
  | .removeClosed =>
    match s.dispatch with
    | some ⟨_, _, _, some connectionId⟩ =>
      { l with current := l.current.map fun r => r.remove connectionId }
    | _ => l
  | .dispatchDone => { l with finished := l.dispatches, current := none }
  | .receive channel =>
    match (s.channels.lookup channel).bind Channel.recv with
    | none => l
    | some (message, _) =>
      { l with received := Function.update l.received channel (l.received channel ++ [message]) }
  | _ => l

end Ledger

/-- A run of the WebSocket side with its ledger. -/
def ledgerRun {Payload Json Time : Type} (env : WsEnv Payload Json)
    (actions : List (WsAction Payload Json Time)) :
    Option (Ledger Json Time × WsState Json Time) :=
  Runs.exec (Runs.observed (wsStep env) (Ledger.note env)) (Ledger.empty, WsState.init) actions

end AlertDistributor.Interface
