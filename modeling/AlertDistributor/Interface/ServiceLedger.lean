import AlertDistributor.Interface.DispatchLedger
import AlertDistributor.Interface.Ledger
import AlertDistributor.Interface.PushLedger
import AlertDistributor.System.Service

/-!
# The ledger of the service

What an observer of the whole service writes down: for each life of the process the ledgers
of the deliveries and of the pushes, and for each call of the two `dispatch_event` that has
returned the message it was for and what it read.  The ledgers of the lives before a crash
are kept with the memory that the crash lost.  No task reads any of it.
-/

set_option autoImplicit false

namespace AlertDistributor.Interface

open AlertDistributor.Model AlertDistributor.System

/-- One call of `SnsDispatcher::dispatch_event`, of an alert whose unit id is a UUID. -/
structure PushRecord (Json Time : Type) where
  event : AlertEvent Json Time
  unitId : UnitId
  /-- The cache as `users_for_unit` read it. -/
  cache : State
  /-- The caches as `devices_for` read them, one for each person. -/
  reads : List State

namespace PushRecord

variable {Json Time : Type}

/-- What `users_for_unit` answered. -/
def people (r : PushRecord Json Time) : List (OrganizationId ×ₗ UserId) :=
  r.cache.usersForUnit r.unitId

/-- The devices of a person that can be reached, in one of the caches. -/
def reachable (person : OrganizationId ×ₗ UserId) (cache : State) : List UserDevice :=
  (cache.devicesFor (ofLex person).2).filter UserDevice.isTarget

/-- The devices that the reads so far have found. -/
def targets (r : PushRecord Json Time) : List UserDevice :=
  (List.zipWith reachable r.people r.reads).flatten

/-- What is to be put on the channel. -/
def pushes (r : PushRecord Json Time) : List (Push Json Time) :=
  r.targets.map fun device => (device, r.event)

/-- One more person was read. -/
def read (r : PushRecord Json Time) (cache : State) : PushRecord Json Time :=
  { r with reads := r.reads ++ [cache] }

end PushRecord

/-- A call that has returned: the message, its alert, and the record of the call if the unit
id of the alert is a UUID. -/
structure Handled (Partition Json Time Record : Type) where
  partition : Partition
  offset : ℕ
  event : AlertEvent Json Time
  record : Option Record

namespace Handled

variable {Partition Json Time Record : Type}

def key (h : Handled Partition Json Time Record) : Partition × ℕ × AlertEvent Json Time :=
  (h.partition, h.offset, h.event)

end Handled

/-- What is written down of one life of the process. -/
structure Life (Partition Json Time : Type) where
  deliveries : Ledger Json Time
  pushes : PushLedger Json Time
  /-- The call of `SnsDispatcher::dispatch_event` under way. -/
  call : Option (PushRecord Json Time)
  ws : List (Handled Partition Json Time (DispatchRecord Json Time))
  sns : List (Handled Partition Json Time (PushRecord Json Time))

namespace Life

variable {Partition Payload Json Time : Type}

def empty : Life Partition Json Time :=
  ⟨Ledger.empty, PushLedger.empty, none, [], []⟩

variable (env : ServiceEnv Payload Json Time)

/-- What is written down of an action that is not a crash, on the state before it. -/
def note (l : Life Partition Json Time) (s : Service Partition Payload Json Time) :
    ServiceAction Partition Payload Json Time → Life Partition Json Time
  | .ws a => { l with deliveries := l.deliveries.note env.ws s.process.ws a }
  | .sns a => { l with pushes := l.pushes.note s.process.sns a }
  | .callWs =>
    match s.kafka.consumer with
    | .dispatching _ _ event _ _ =>
      { l with
        deliveries := l.deliveries.note env.ws s.process.ws
          (.dispatchEvent event : WsAction Payload Json Time) }
    | _ => l
  | .wsReturns =>
    match s.kafka.consumer with
    | .dispatching partition message event _ _ =>
      { l with
        ws := l.ws ++ [⟨partition, message.offset, event, l.deliveries.current⟩]
        deliveries := l.deliveries.note env.ws s.process.ws
          (.dispatchDone : WsAction Payload Json Time) }
    | _ => l
  | .callSns =>
    match s.kafka.consumer with
    | .dispatching _ _ event _ _ =>
      { l with
        call := (env.ws.parseUuid event.unitId).map fun unitId =>
          ⟨event, unitId, s.process.ws.cache, []⟩ }
    | _ => l
  | .readDevices => { l with call := l.call.map fun r => r.read s.process.ws.cache }
  | .snsReturns =>
    match s.kafka.consumer with
    | .dispatching partition message event _ _ =>
      { l with
        sns := l.sns ++ [⟨partition, message.offset, event, l.call⟩]
        call := none }
    | _ => l
  | _ => l

end Life

structure ServiceLedger (Partition Json Time : Type) where
  current : Life Partition Json Time
  /-- The lives that a crash ended, each with the memory that was lost. -/
  past : List (Life Partition Json Time × Process Json Time)

namespace ServiceLedger

variable {Partition Payload Json Time : Type}

def empty : ServiceLedger Partition Json Time :=
  ⟨Life.empty, []⟩

/-- All lives, with the memory at their end or now. -/
def lives (l : ServiceLedger Partition Json Time) (p : Process Json Time) :
    List (Life Partition Json Time × Process Json Time) :=
  l.past ++ [(l.current, p)]

/-- The calls that have returned, as the consumer of alerts sees them. -/
def dispatches (l : ServiceLedger Partition Json Time) : DispatchLedger Partition Json Time where
  ws := (l.past.flatMap fun life => life.1.ws.map Handled.key) ++ l.current.ws.map Handled.key
  sns := (l.past.flatMap fun life => life.1.sns.map Handled.key) ++ l.current.sns.map Handled.key

variable (env : ServiceEnv Payload Json Time)

/-- What is written down of an action, on the state before it. -/
def note (l : ServiceLedger Partition Json Time) (s : Service Partition Payload Json Time)
    (a : ServiceAction Partition Payload Json Time) : ServiceLedger Partition Json Time :=
  match a with
  | .crash => ⟨Life.empty, l.past ++ [(l.current, s.process)]⟩
  | _ => { l with current := l.current.note env s a }

end ServiceLedger

/-- What the consumer of alerts and the broker see of an action. -/
def kafkaAction? {Partition Payload Json Time : Type} :
    ServiceAction Partition Payload Json Time → Option (KafkaAction Partition Payload)
  | .kafka a => some a
  | .wsReturns => some .wsReturns
  | .snsReturns => some .snsReturns
  | .commitMessage ok => some (.commitMessage ok)
  | .crash => some .crash
  | .restart _ => some .restart
  | _ => none

/-- A run of the service with its ledger. -/
def serviceLedgerRun {Partition Payload Json Time : Type} [DecidableEq Partition]
    (env : ServiceEnv Payload Json Time)
    (actions : List (ServiceAction Partition Payload Json Time)) :
    Option (ServiceLedger Partition Json Time × Service Partition Payload Json Time) :=
  Runs.exec (Runs.observed (serviceStep env) (ServiceLedger.note env))
    (ServiceLedger.empty, Service.init) actions

end AlertDistributor.Interface
