import AlertDistributor.System.WebSocketServer

/-!
# The ledger of the WebSocket server

What an observer of the server writes down: every request with what `ws_handler` read for it
and what it answered, and the handshakes whose task panicked before it registered a connection.
No task reads any of it.
-/

set_option autoImplicit false

namespace AlertDistributor.Interface

open AlertDistributor.Model AlertDistributor.System

/-- A request that was answered. -/
structure RequestRecord (HeaderValue : Type) where
  now : ℕ
  authorization : Option HeaderValue
  /-- The cache as `ws_handler` read it. -/
  cache : State
  response : Except RefusalStatus Upgrade

namespace RequestRecord

variable {HeaderValue : Type}

/-- The handshake of a request that was accepted. -/
def accepted (r : RequestRecord HeaderValue) : Option Upgrade :=
  r.response.toOption

end RequestRecord

/-- The handshake that a connection was opened for. -/
def upgradeOf (context : ConnectionContext ChannelId) : Upgrade :=
  ⟨context.organizationId, context.userId, context.unitIds⟩

structure ServerLedger (HeaderValue : Type) where
  /-- The requests so far, in order. -/
  requests : List (RequestRecord HeaderValue)
  /-- The accepted handshakes that were used up without a connection. -/
  lost : List Upgrade

namespace ServerLedger

variable {HeaderValue : Type}

def init : ServerLedger HeaderValue :=
  ⟨[], []⟩

/-- The handshakes of the requests that were accepted. -/
def accepted (l : ServerLedger HeaderValue) : List Upgrade :=
  l.requests.filterMap RequestRecord.accepted

end ServerLedger

section Ledger

variable {Payload Json Time HeaderValue : Type} (env : ServerEnv Payload Json HeaderValue)

/-- The capacity of the channels is one that `mpsc::channel` panics at. -/
def RefusesChannels : Prop :=
  env.state.channelCapacity.toNat = 0 ∨ maxPermits < env.state.channelCapacity.toNat

instance : Decidable (RefusesChannels env) :=
  inferInstanceAs (Decidable (_ ∨ _))

/-- What an action adds to the ledger. -/
def noteServer (l : ServerLedger HeaderValue) (s : ServerState Json Time) :
    ServerAction Payload Json Time HeaderValue → ServerLedger HeaderValue
  | .request now authorization => { l with requests := l.requests ++
      [⟨now, authorization, s.ws.cache, env.wsHandler s.ws.cache now authorization⟩] }
  | .openSocket i _ =>
    if RefusesChannels env then { l with lost := l.lost ++ (s.ws.upgrades[i]?).toList } else l
  | _ => l

/-- A run of the server together with its ledger. -/
def serverLedgerRun (actions : List (ServerAction Payload Json Time HeaderValue)) :
    Option (ServerLedger HeaderValue × ServerState Json Time) :=
  Runs.exec (Runs.observed (serverStep env) (noteServer env)) (.init, .init) actions

/-- What an action of the server is on the WebSocket side, where it is one there. -/
def OnWsSide (b : WsAction Payload Json Time) :
    ServerAction Payload Json Time HeaderValue → Prop
  | .request _ _ => ∃ organizationId userId, b = .handshake organizationId userId
  | .openSocket i connectionId => b = .openSocket i connectionId
  | .start handle _ => b = .dropReceiver handle.receiver
  | .turn handle _ _ => b = .receive handle.receiver ∨ b = .dropReceiver handle.receiver
  | .removeConnection handle => b = .leave handle.connectionId
  | .finish handle => b = .dropReceiver handle.receiver
  | .other action => b = action

end Ledger

end AlertDistributor.Interface
