import AlertDistributor.System.AlertsConsumer

/-!
# The ledger of the dispatches

What an observer of the consumer of alerts writes down: the calls of the two
`dispatch_event` that have returned, each with the partition and the offset of its message.
The ledger outlives the process; no task reads it.  A second observer keeps one ledger for
each life of the process, with the offsets that the life began at and those that each of the
two sides had come to in the end.
-/

set_option autoImplicit false

namespace AlertDistributor.Interface

open AlertDistributor.Model AlertDistributor.System

structure DispatchLedger (Partition Json Time : Type) where
  /-- The calls of `AlertDispatcher::dispatch_event`. -/
  ws : List (Partition × ℕ × AlertEvent Json Time)
  /-- The calls of `SnsDispatcher::dispatch_event`. -/
  sns : List (Partition × ℕ × AlertEvent Json Time)

namespace DispatchLedger

variable {Partition Payload Json Time : Type}

def empty : DispatchLedger Partition Json Time :=
  ⟨[], []⟩

/-- Both dispatches of an alert have returned, at least once. -/
def Dispatched (l : DispatchLedger Partition Json Time) (partition : Partition) (offset : ℕ)
    (event : AlertEvent Json Time) : Prop :=
  (partition, offset, event) ∈ l.ws ∧ (partition, offset, event) ∈ l.sns

/-- What is written down of an action, on the state before it. -/
def note (l : DispatchLedger Partition Json Time)
    (s : KafkaState Partition Payload Json Time) :
    KafkaAction Partition Payload → DispatchLedger Partition Json Time
  | .wsReturns =>
    match s.consumer with
    | .dispatching partition message event false _ =>
      { l with ws := l.ws ++ [(partition, message.offset, event)] }
    | _ => l
  | .snsReturns =>
    match s.consumer with
    | .dispatching partition message event _ false =>
      { l with sns := l.sns ++ [(partition, message.offset, event)] }
    | _ => l
  | _ => l

end DispatchLedger

/-- A run of the consumer with its ledger. -/
def dispatchLedgerRun {Partition Payload Json Time : Type} [DecidableEq Partition]
    (config : ConsumerConfig) (fromSlice : Payload → Option (AlertEvent Json Time))
    (actions : List (KafkaAction Partition Payload)) :
    Option (DispatchLedger Partition Json Time × KafkaState Partition Payload Json Time) :=
  Runs.exec (Runs.observed (kafkaStep config fromSlice) DispatchLedger.note)
    (DispatchLedger.empty, KafkaState.init) actions

/-! ## One ledger for each life -/

section Reached

variable {Partition Payload Json Time : Type} [DecidableEq Partition]

/-- How far one side has come: the member has read up to its position, and an alert in hand is
not handed over before the side returns. -/
def handedUpTo (position : Partition → ℕ) (partition : Partition)
    (message : LogRecord (Option Payload)) (returned : Bool) (p : Partition) : ℕ :=
  if p = partition ∧ returned = false then message.offset else position p

/-- How far the WebSocket side has come. -/
def wsReached (s : KafkaState Partition Payload Json Time) : Partition → ℕ :=
  match s.consumer with
  | .down => fun _ => 0
  | .polling => s.position
  | .dispatching partition message _ ws _ => handedUpTo s.position partition message ws

/-- How far the push side has come. -/
def snsReached (s : KafkaState Partition Payload Json Time) : Partition → ℕ :=
  match s.consumer with
  | .down => fun _ => 0
  | .polling => s.position
  | .dispatching partition message _ _ sns => handedUpTo s.position partition message sns

end Reached

/-- The dispatches of one life of the process. -/
structure DispatchLife (Partition Json Time : Type) where
  /-- Where the partitions were read from. -/
  start : Partition → ℕ
  calls : DispatchLedger Partition Json Time
  /-- How far `AlertDispatcher::dispatch_event` has come. -/
  wsReached : Partition → ℕ
  /-- How far `SnsDispatcher::dispatch_event` has come. -/
  snsReached : Partition → ℕ

structure LivesLedger (Partition Json Time : Type) where
  current : DispatchLife Partition Json Time
  /-- The lives that a crash ended. -/
  past : List (DispatchLife Partition Json Time)

section Lives

variable {Partition Payload Json Time : Type} [DecidableEq Partition]

/-- The present life, as far as it has come. -/
def DispatchLife.upTo (life : DispatchLife Partition Json Time)
    (s : KafkaState Partition Payload Json Time) : DispatchLife Partition Json Time :=
  { life with wsReached := Interface.wsReached s, snsReached := Interface.snsReached s }

namespace LivesLedger

/-- No life has begun. -/
def empty : LivesLedger Partition Json Time :=
  ⟨⟨fun _ => 0, DispatchLedger.empty, fun _ => 0, fun _ => 0⟩, []⟩

def lives (l : LivesLedger Partition Json Time)
    (s : KafkaState Partition Payload Json Time) : List (DispatchLife Partition Json Time) :=
  l.past ++ [l.current.upTo s]

/-- What is written down of an action, on the state before it. -/
def note (config : ConsumerConfig) (l : LivesLedger Partition Json Time)
    (s : KafkaState Partition Payload Json Time) :
    KafkaAction Partition Payload → LivesLedger Partition Json Time
  | .crash => ⟨empty.current, l.lives s⟩
  | .restart => { l with current := { l.current with start := startPosition config s } }
  | a => { l with current := { l.current with calls := l.current.calls.note s a } }

end LivesLedger

end Lives

/-- A run of the consumer with the ledger of its lives. -/
def livesLedgerRun {Partition Payload Json Time : Type} [DecidableEq Partition]
    (config : ConsumerConfig) (fromSlice : Payload → Option (AlertEvent Json Time))
    (actions : List (KafkaAction Partition Payload)) :
    Option (LivesLedger Partition Json Time × KafkaState Partition Payload Json Time) :=
  Runs.exec (Runs.observed (kafkaStep config fromSlice) (LivesLedger.note config))
    (LivesLedger.empty, KafkaState.init) actions

/-- What was handed over of a partition, in order. -/
def handedAt {Partition Json Time : Type} [DecidableEq Partition]
    (calls : List (Partition × ℕ × AlertEvent Json Time)) (partition : Partition) :
    List (ℕ × AlertEvent Json Time) :=
  (calls.filter fun call => call.1 = partition).map Prod.snd

/-- The well-formed alerts of a log between two offsets, in order. -/
def alertsIn {Payload Json Time : Type} (fromSlice : Payload → Option (AlertEvent Json Time))
    (log : AlertLog Payload) (start stop : ℕ) : List (ℕ × AlertEvent Json Time) :=
  (log.segment start stop).filterMap fun message =>
    (alertOf fromSlice message).map fun event => (message.offset, event)

end AlertDistributor.Interface
