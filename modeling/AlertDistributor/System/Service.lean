import AlertDistributor.Model.Loader
import AlertDistributor.System.AlertsConsumer
import AlertDistributor.System.SnsWorker
import AlertDistributor.System.WebSocket

/-!
# The service

The process of `main` and the topic of alerts, over crashes and restarts.  The consumer of
alerts hands each alert to the two dispatchers and waits for both; the clients, the worker,
the reporter and the control-plane consumer go on meanwhile, and all of them share one
cache.  A crash loses what is in memory, the committed offsets stay with the broker, and a
restart loads a new snapshot.
-/

set_option autoImplicit false

namespace AlertDistributor.System

open AlertDistributor.Model

/-- What the service takes from outside; alerts and control-plane messages are bytes. -/
structure ServiceEnv (Payload Json Time : Type) where
  ws : WsEnv Payload Json
  /-- `serde_json::from_slice::<AlertEvent>`. -/
  fromSlice : Payload → Option (AlertEvent Json Time)
  /-- `config.sns_enabled`. -/
  snsEnabled : Bool

/-- Where the call of `SnsDispatcher::dispatch_event` for the alert in hand stands. -/
inductive PushCall (Json Time : Type) where
  /-- It has not begun. -/
  | waiting
  /-- It reads the devices. -/
  | reading (dispatch : PushDispatch Json Time)
  /-- It waits for `send_alert`, or has nothing left to do. -/
  | sending

/-- What a crash loses. -/
structure Process (Json Time : Type) where
  /-- The cache is here. -/
  ws : WsState Json Time
  sns : SnsState Json Time
  /-- `AlertDispatcher::dispatch_event` was called for the alert in hand. -/
  wsCalled : Bool
  push : PushCall Json Time

namespace Process

variable {Json Time : Type}

/-- `SnsBroadcaster::new` is called with this capacity.
SRC: main.rs:50-51 -/
def broadcastCapacity : ℕ := 1000

/-- A process that has loaded its snapshot.
SRC: main.rs:30-112 -/
def start (views : Views) : Process Json Time where
  ws := { WsState.init with cache := loadControlPlaneSnapshot views }
  sns := SnsState.init broadcastCapacity
  wsCalled := false
  push := .waiting

/-- Nothing in memory. -/
def gone : Process Json Time :=
  ⟨WsState.init, SnsState.init broadcastCapacity, false, .waiting⟩

/-- `dispatch_event` of the pushes begins.
SRC: sns/dispatcher.rs:31-45 -/
def callSns (parseUuid : String → Option Uuid) (p : Process Json Time)
    (event : AlertEvent Json Time) : Process Json Time :=
  match PushDispatch.start parseUuid p.ws.cache event with
  | some dispatch => { p with push := .reading dispatch }
  | none => { p with push := .sending }

/-- The devices of the next person are read.
SRC: sns/dispatcher.rs:46-111 -/
def readDevices (p : Process Json Time) : Option (Process Json Time) :=
  match p.push with
  | .reading dispatch =>
    match dispatch.readDevices p.ws.cache p.sns.metrics with
    | some (next, metrics) =>
      some { p with push := .reading next, sns := { p.sns with metrics := metrics } }
    | none => none
  | _ => none

/-- `send_alert` is called if there is a target.  Without a worker the channel has no
receiver, and the first send fails.
SRC: sns/dispatcher.rs:124-139, sns/publisher.rs:24-42, main.rs:58-82 -/
def sendAlert (snsEnabled : Bool) (p : Process Json Time) : Option (Process Json Time) :=
  match p.push with
  | .reading ⟨event, [], snsTargets⟩ =>
    if snsTargets.isEmpty || !snsEnabled then some { p with push := .sending }
    else
      some { p with
        push := .sending
        sns := { p.sns with sends := p.sns.sends ++ [⟨event, snsTargets, false⟩] } }
  | _ => none

/-- `dispatch_event` of the pushes has nothing left to do. -/
def snsDone (p : Process Json Time) : Bool :=
  match p.push with
  | .sending => p.sns.sends.isEmpty
  | _ => false

/-- The delivery number `i` that found its endpoint invalid: the row is marked, and if that
went well the device leaves the cache.
SRC: main.rs:273-287 -/
def cleanUp (p : Process Json Time) (i : ℕ) (ok : Bool) : Option (Process Json Time) :=
  match p.sns.worker with
  | .delivering size pending cleaning =>
    match cleaning[i]? with
    | none => none
    | some device =>
      some { p with
        sns := { p.sns with worker := .delivering size pending (cleaning.eraseIdx i) }
        ws := { p.ws with
          cache := if ok then (p.ws.cache.deactivateDevice device.id).1 else p.ws.cache } }
  | _ => none

end Process

structure Service (Partition Payload Json Time : Type) where
  kafka : KafkaState Partition Payload Json Time
  process : Process Json Time

/-- An empty topic, and a service that was never started. -/
def Service.init {Partition Payload Json Time : Type} : Service Partition Payload Json Time :=
  ⟨KafkaState.init, Process.gone⟩

/-- The action concerns the consumer of alerts and the broker alone. -/
def KafkaAction.isFree {Partition Payload : Type} : KafkaAction Partition Payload → Bool
  | .wsReturns | .snsReturns | .commitMessage _ | .crash | .restart => false
  | _ => true

/-- The action is not a call or a return of the dispatcher. -/
def WsAction.isFree {Payload Json Time : Type} : WsAction Payload Json Time → Bool
  | .dispatchEvent _ | .dispatchDone => false
  | _ => true

/-- The action is not one that touches the cache or the dispatcher as well. -/
def SnsAction.isFree {Json Time : Type} : SnsAction Json Time → Bool
  | .incResolved | .sendAlert _ _ | .cleanedUp _ => false
  | _ => true

inductive ServiceAction (Partition Payload Json Time : Type) where
  /-- An action of the producers, the broker, or the consumer at `stream.next()`. -/
  | kafka (action : KafkaAction Partition Payload)
  /-- An action of the clients, the dispatcher or the control-plane consumer. -/
  | ws (action : WsAction Payload Json Time)
  /-- An action of the publisher, the worker or the reporter. -/
  | sns (action : SnsAction Json Time)
  /-- `AlertDispatcher::dispatch_event` is called. -/
  | callWs
  | wsReturns
  /-- `SnsDispatcher::dispatch_event` is called. -/
  | callSns
  /-- `devices_for` of the next person. -/
  | readDevices
  /-- `send_alert` is called, if there is a target. -/
  | sendAlert
  | snsReturns
  /-- A delivery that found its endpoint invalid returns. -/
  | cleanedUp (i : ℕ) (ok : Bool)
  | commitMessage (ok : Bool)
  | crash
  /-- The process starts again and loads these views. -/
  | restart (views : Views)

section Step

variable {Partition Payload Json Time : Type} [DecidableEq Partition]
  (env : ServiceEnv Payload Json Time)

/-- The process is up. -/
def KafkaState.running (s : KafkaState Partition Payload Json Time) : Bool :=
  match s.consumer with
  | .down => false
  | _ => true

/-- The two calls of the `join!` for an alert.
SRC: kafka/consumer.rs:87-91 -/
def Service.callWs (s : Service Partition Payload Json Time) :
    Option (Service Partition Payload Json Time) :=
  match s.kafka.consumer with
  | .dispatching _ _ event false _ =>
    if s.process.wsCalled then none
    else
      (dispatchEvent env.ws s.process.ws event).map fun ws =>
        { s with process := { s.process with ws := ws, wsCalled := true } }
  | _ => none

def Service.callSns (s : Service Partition Payload Json Time) :
    Option (Service Partition Payload Json Time) :=
  match s.kafka.consumer with
  | .dispatching _ _ event _ false =>
    match s.process.push with
    | .waiting => some { s with process := s.process.callSns env.ws.parseUuid event }
    | _ => none
  | _ => none

/-- The dispatcher has no target left, or had skipped the alert. -/
def finishWs (ws : WsState Json Time) : Option (WsState Json Time) :=
  match ws.dispatch with
  | none => some ws
  | some _ => wsStep env.ws ws .dispatchDone

/-- One action of the service.
SRC: main.rs:24-157, kafka/consumer.rs:44-121 -/
def serviceStep (s : Service Partition Payload Json Time) :
    ServiceAction Partition Payload Json Time → Option (Service Partition Payload Json Time)
  | .kafka a =>
    if a.isFree then
      (kafkaStep AlertsConsumer.config env.fromSlice s.kafka a).map fun kafka =>
        { s with kafka := kafka }
    else none
  | .ws a =>
    if s.kafka.running && a.isFree then
      (wsStep env.ws s.process.ws a).map fun ws =>
        { s with process := { s.process with ws := ws } }
    else none
  | .sns a =>
    if s.kafka.running && a.isFree then
      (snsStep s.process.sns a).map fun sns =>
        { s with process := { s.process with sns := sns } }
    else none
  | .callWs => s.callWs env
  | .wsReturns =>
    if s.process.wsCalled then
      (finishWs env s.process.ws).bind fun ws =>
        (kafkaStep AlertsConsumer.config env.fromSlice s.kafka .wsReturns).map fun kafka =>
          ⟨kafka, { s.process with ws := ws }⟩
    else none
  | .callSns => s.callSns env
  | .readDevices => s.process.readDevices.map fun process => { s with process := process }
  | .sendAlert =>
    (s.process.sendAlert env.snsEnabled).map fun process => { s with process := process }
  | .snsReturns =>
    if s.process.snsDone then
      (kafkaStep AlertsConsumer.config env.fromSlice s.kafka .snsReturns).map fun kafka =>
        { s with kafka := kafka }
    else none
  | .cleanedUp i ok => (s.process.cleanUp i ok).map fun process => { s with process := process }
  | .commitMessage ok =>
    (kafkaStep AlertsConsumer.config env.fromSlice s.kafka (.commitMessage ok)).map fun kafka =>
      ⟨kafka, { s.process with wsCalled := false, push := .waiting }⟩
  | .crash =>
    (kafkaStep AlertsConsumer.config env.fromSlice s.kafka .crash).map fun kafka =>
      ⟨kafka, Process.gone⟩
  | .restart views =>
    (kafkaStep AlertsConsumer.config env.fromSlice s.kafka .restart).map fun kafka =>
      ⟨kafka, Process.start views⟩

/-- The state after a run from the start. -/
def serviceRun (actions : List (ServiceAction Partition Payload Json Time)) :
    Option (Service Partition Payload Json Time) :=
  Runs.exec (serviceStep env) Service.init actions

end Step

end AlertDistributor.System
