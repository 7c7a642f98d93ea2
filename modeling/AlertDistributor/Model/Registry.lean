import AlertDistributor.Library.FiniteMap
import AlertDistributor.Model.SnsModels

/-!
# The connection registry

`websocket/registry.rs`: the open WebSocket connections and two indexes over them.  Each
method takes the lock once, so each is one function of the state.  A `Sender` is the
sending end of a connection's channel; the registry only stores and hands it out.
-/

set_option autoImplicit false

namespace AlertDistributor.Model

open FiniteMap

abbrev ConnectionId := Uuid

/-- SRC: websocket/registry.rs:15-22 -/
structure ConnectionContext (Sender : Type) where
  connectionId : ConnectionId
  userId : UserId
  organizationId : OrganizationId
  unitIds : List UnitId
  sender : Sender

/-- SRC: websocket/registry.rs:24-29 -/
structure RegistryState (Sender : Type) where
  connections : HashMap ConnectionId (ConnectionContext Sender)
  byUnit : HashMap UnitId (List ConnectionId)
  byUser : HashMap (OrganizationId × UserId) (List ConnectionId)

namespace RegistryState

variable {Sender : Type}

/-- `ConnectionRegistry::new()`. -/
def new : RegistryState Sender :=
  ⟨∅, ∅, ∅⟩

/-- The context comes with the id that `Uuid::new_v4` chose for it.
SRC: websocket/registry.rs:42-77 -/
def addConnection (state : RegistryState Sender) (context : ConnectionContext Sender) :
    RegistryState Sender where
  byUnit := context.unitIds.foldl
    (fun byUnit unitId => pushAt byUnit unitId context.connectionId) state.byUnit
  byUser := pushAt state.byUser (context.organizationId, context.userId) context.connectionId
  connections := state.connections.insert context.connectionId context

/-- SRC: websocket/registry.rs:79-103 -/
def removeConnection (state : RegistryState Sender) (connectionId : ConnectionId) :
    RegistryState Sender × Option (ConnectionContext Sender) :=
  match state.connections.lookup connectionId with
  | none => (state, none)
  | some removed =>
    ({ connections := state.connections.erase connectionId
       byUnit := removed.unitIds.foldl
        (fun byUnit unitId => dropAt byUnit unitId connectionId) state.byUnit
       byUser := dropAt state.byUser (removed.organizationId, removed.userId) connectionId },
      some removed)

/-- SRC: websocket/registry.rs:105-123 -/
def sendersForUnit (state : RegistryState Sender) (unitId : UnitId) :
    List (ConnectionId × Sender) :=
  match state.byUnit.lookup unitId with
  | none => []
  | some connectionIds =>
    connectionIds.filterMap fun connectionId =>
      (state.connections.lookup connectionId).map fun context =>
        (context.connectionId, context.sender)

/-- SRC: websocket/registry.rs:125-136 -/
def connectionsForUser (state : RegistryState Sender) (organizationId : OrganizationId)
    (userId : UserId) : List ConnectionId :=
  (state.byUser.lookup (organizationId, userId)).getD []

end RegistryState

end AlertDistributor.Model
