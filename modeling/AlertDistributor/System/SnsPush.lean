import AlertDistributor.Interface.Snapshot
import AlertDistributor.Library.Runs
import AlertDistributor.Model.SnsDispatcher

/-!
# The mobile pushes of the service

The control-plane consumer, the dispatcher of pushes and the deliveries of the SNS worker,
which share the cache.  A delivery works on the pair of device and event that was put on
the broadcast channel, and the worker runs the deliveries of a batch together, so here any
queued pair may be delivered next; a pair that the channel overwrites is one that never is.
-/

set_option autoImplicit false

namespace AlertDistributor.System

open AlertDistributor.Model AlertDistributor.Interface

/-- What the service takes from outside: the decoding of control-plane messages and
`Uuid::parse_str`. -/
structure PushEnv (Payload Json : Type) where
  decoder : Decoder Payload Json
  parseUuid : String → Option Uuid

structure PushState (Json Time : Type) where
  cache : State
  metrics : SnsMetrics
  dispatch : Option (PushDispatch Json Time)
  /-- The pairs on the channel or in the batch of the worker. -/
  queued : List (UserDevice × AlertEvent Json Time)
  /-- The devices whose delivery ended in `InvalidEndpoint`; their row is written next. -/
  rejected : List UserDevice
  /-- Those whose row was marked inactive; they leave the cache next. -/
  marked : List UserDevice

/-- The service after it has loaded its snapshot. -/
def PushState.init {Json Time : Type} (views : Views) : PushState Json Time :=
  ⟨loadControlPlaneSnapshot views, SnsMetrics.default, none, [], [], []⟩

inductive PushAction (Payload Json Time : Type) where
  /-- The consumer applies a message. -/
  | controlEvent (payload : Payload)
  /-- `dispatch_event` up to `users_for_unit`. -/
  | dispatchEvent (event : AlertEvent Json Time)
  /-- `devices_for` of the next person. -/
  | readDevices
  /-- `send_alert`, after which `dispatch_event` returns. -/
  | sendAlert
  /-- `publish_to_endpoint` returns for the queued pair number `i`. -/
  | deliver (i : ℕ) (outcome : Except SnsError Unit)
  /-- `mark_device_inactive` returns, with success or not. -/
  | markInactive (device : UserDevice) (ok : Bool)
  /-- `deactivate_device`. -/
  | deactivate (device : UserDevice)

section Step

variable {Payload Json Time : Type} (env : PushEnv Payload Json)

/-- Puts the targets on the channel; the worker keeps its receiver, so no send fails.
SRC: sns/dispatcher.rs:124-139, sns/publisher.rs:24-45 -/
def sendAlert (s : PushState Json Time) : Option (PushState Json Time) :=
  match s.dispatch with
  | some ⟨event, [], targets⟩ =>
    some { s with
      dispatch := none
      queued := s.queued ++ targets.map fun device => (device, event)
      metrics := { s.metrics with enqueued := s.metrics.enqueued + targets.length } }
  | _ => none

/-- What `process_sns_delivery` does with the answer of `publish_to_endpoint`.
SRC: main.rs:249-287 -/
def processSnsDelivery (s : PushState Json Time) (i : ℕ) (outcome : Except SnsError Unit) :
    Option (PushState Json Time) :=
  match s.queued[i]? with
  | none => none
  | some (device, _) =>
    let s := { s with queued := s.queued.eraseIdx i }
    let failed := { s.metrics with failed := s.metrics.failed + 1 }
    match outcome with
    | .ok _ => some { s with metrics := { s.metrics with published := s.metrics.published + 1 } }
    | .error (.invalidEndpoint _) =>
      some { s with metrics := failed, rejected := s.rejected ++ [device] }
    | .error _ => some { s with metrics := failed }

/-- One action of one task.
SRC: main.rs:231-288, sns/dispatcher.rs:31-140 -/
def pushStep (s : PushState Json Time) :
    PushAction Payload Json Time → Option (PushState Json Time)
  | .controlEvent payload =>
    some { s with cache := (applyEvent env.decoder s.cache payload).1 }
  | .dispatchEvent event =>
    match s.dispatch with
    | some _ => none
    | none => some { s with dispatch := PushDispatch.start env.parseUuid s.cache event }
  | .readDevices =>
    match s.dispatch with
    | none => none
    | some dispatch =>
      match dispatch.readDevices s.cache s.metrics with
      | none => none
      | some (next, metrics) => some { s with dispatch := some next, metrics := metrics }
  | .sendAlert => sendAlert s
  | .deliver i outcome => processSnsDelivery s i outcome
  | .markInactive device ok =>
    if device ∈ s.rejected then
      some { s with
        rejected := s.rejected.erase device
        marked := if ok then s.marked ++ [device] else s.marked }
    else none
  | .deactivate device =>
    if device ∈ s.marked then
      some { s with
        cache := (s.cache.deactivateDevice device.id).1
        marked := s.marked.erase device }
    else none

/-- The state after a run of a service that started on these views. -/
def pushRun (views : Views) (actions : List (PushAction Payload Json Time)) :
    Option (PushState Json Time) :=
  Runs.exec (pushStep env) (PushState.init views) actions

end Step

/-! ## The writes of a run -/

section Writes

variable {Payload Json Time : Type} (decoder : Decoder Payload Json)

/-- The write operation an action calls on the cache. -/
def PushAction.op : PushAction Payload Json Time → Option WriteOp
  | .controlEvent payload => (decodeEvent decoder payload).map Event.op
  | .deactivate device => some (.deactivateDevice device.id)
  | _ => none

/-- The write operations of the snapshot and of a list of actions. -/
def pushOps (views : Views) (actions : List (PushAction Payload Json Time)) : List WriteOp :=
  snapshotOps views ++ actions.filterMap (PushAction.op decoder)

/-- What a list of actions writes about the mobile devices. -/
def deviceWrites (actions : List (PushAction Payload Json Time)) :
    List (LastWrite.Write DeviceId UserDevice) :=
  (actions.filterMap (PushAction.op decoder)).filterMap userDeviceWrite

end Writes

end AlertDistributor.System
