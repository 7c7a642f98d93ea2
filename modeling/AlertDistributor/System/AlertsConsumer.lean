import AlertDistributor.Library.PartitionLog
import AlertDistributor.Library.Runs
import AlertDistributor.Model.AlertEvent
import Mathlib.Logic.Function.Basic

/-!
# The consumer of alerts

The topic of alerts, the offsets that the broker holds as committed, and the one member of
the group, which keeps all the partitions from its start to its end: a rebalance within a life
of the process is not part of this system.  The partitions share the loop of `run`, which works
on one message at a time; the process may stop between any two actions, and a restart reads
each partition from its committed offset.  A commit is a request: it reaches the broker later,
in any order, or never, and one that was sent before a crash may still arrive after the
restart.
-/

set_option autoImplicit false

namespace AlertDistributor.System

open AlertDistributor.Model

/-- Where a partition without a committed offset is read from. -/
inductive OffsetReset where
  | earliest
  | latest
deriving DecidableEq, Repr

structure ConsumerConfig where
  enableAutoCommit : Bool
  autoOffsetReset : OffsetReset
deriving DecidableEq, Repr

/-- The options of `AlertsConsumer::new` that concern the offsets.
SRC: kafka/consumer.rs:21-42 -/
def AlertsConsumer.config : ConsumerConfig :=
  ⟨false, .earliest⟩

/-- What is in a partition: messages, some of which have no payload. -/
abbrev AlertLog (Payload : Type) := PartitionLog (Option Payload)

/-- Where the consumer stands. -/
inductive Consumer (Partition Payload Json Time : Type) where
  /-- The process is down. -/
  | down
  /-- At `stream.next()`. -/
  | polling
  /-- In the `join!` of the two dispatches of a message; the flags tell which have
  returned. -/
  | dispatching (partition : Partition) (message : LogRecord (Option Payload))
      (event : AlertEvent Json Time) (ws sns : Bool)

structure KafkaState (Partition Payload Json Time : Type) where
  topic : Partition → AlertLog Payload
  /-- What the broker holds. -/
  committed : Partition → Option ℕ
  /-- The commit requests under way. -/
  commits : List (Partition × ℕ)
  /-- The next offset that the member reads. -/
  position : Partition → ℕ
  consumer : Consumer Partition Payload Json Time

/-- An empty topic, and a service that was never started. -/
def KafkaState.init {Partition Payload Json Time : Type} :
    KafkaState Partition Payload Json Time :=
  ⟨fun _ => PartitionLog.empty, fun _ => none, [], fun _ => 0, .down⟩

inductive KafkaAction (Partition Payload : Type) where
  /-- A message is appended, after a number of unused offsets. -/
  | produce (partition : Partition) (gap : ℕ) (payload : Option Payload)
  /-- The stream yields the next message of a partition. -/
  | receive (partition : Partition)
  /-- The stream yields an error. -/
  | receiveError
  /-- `AlertDispatcher::dispatch_event` returns. -/
  | wsReturns
  /-- `SnsDispatcher::dispatch_event` returns. -/
  | snsReturns
  /-- `commit_message`, which queues its request or fails. -/
  | commitMessage (ok : Bool)
  /-- The client commits a position by itself, if it was told to. -/
  | autoCommit (partition : Partition)
  /-- The commit request number `i` reaches the broker. -/
  | committed (i : ℕ)
  /-- The commit request number `i` is lost. -/
  | commitLost (i : ℕ)
  /-- The process stops. -/
  | crash
  /-- The process starts again. -/
  | restart

section Step

variable {Partition Payload Json Time : Type}

/-- The alert that a message carries, if it has a payload and that is well formed. -/
def alertOf (fromSlice : Payload → Option (AlertEvent Json Time))
    (message : LogRecord (Option Payload)) : Option (AlertEvent Json Time) :=
  message.value.bind fromSlice

/-- What `process_message` does first: messages without a payload and malformed ones are
skipped.
SRC: kafka/consumer.rs:64-89, 107-119 -/
def processMessage (fromSlice : Payload → Option (AlertEvent Json Time))
    (partition : Partition) (message : LogRecord (Option Payload)) :
    Consumer Partition Payload Json Time :=
  match message.value with
  | none => .polling
  | some payload =>
    match fromSlice payload with
    | some event => .dispatching partition message event false false
    | none => .polling

/-- Where a restart reads a partition from; reading from 0 begins with the oldest record. -/
def startPosition (config : ConsumerConfig) (s : KafkaState Partition Payload Json Time)
    (partition : Partition) : ℕ :=
  match s.committed partition with
  | some offset => offset
  | none =>
    match config.autoOffsetReset with
    | .earliest => 0
    | .latest => (s.topic partition).endOffset

variable [DecidableEq Partition] (config : ConsumerConfig)
  (fromSlice : Payload → Option (AlertEvent Json Time))

/-- One action of the producers, the member or the broker.
SRC: kafka/consumer.rs:44-121 -/
def kafkaStep (s : KafkaState Partition Payload Json Time) :
    KafkaAction Partition Payload → Option (KafkaState Partition Payload Json Time)
  | .produce partition gap payload =>
    some { s with
      topic := Function.update s.topic partition ((s.topic partition).append gap payload) }
  | .receive partition =>
    match s.consumer with
    | .polling =>
      match (s.topic partition).next (s.position partition) with
      | none => none
      | some message =>
        some { s with
          position := Function.update s.position partition (message.offset + 1)
          consumer := processMessage fromSlice partition message }
    | _ => none
  | .receiveError =>
    match s.consumer with
    | .polling => some s
    | _ => none
  | .wsReturns =>
    match s.consumer with
    | .dispatching partition message event false sns =>
      some { s with consumer := .dispatching partition message event true sns }
    | _ => none
  | .snsReturns =>
    match s.consumer with
    | .dispatching partition message event ws false =>
      some { s with consumer := .dispatching partition message event ws true }
    | _ => none
  | .commitMessage ok =>
    match s.consumer with
    | .dispatching partition message _ true true =>
      some { s with
        commits := if ok then s.commits ++ [(partition, message.offset + 1)] else s.commits
        consumer := .polling }
    | _ => none
  | .autoCommit partition =>
    match s.consumer with
    | .down => none
    | _ =>
      if config.enableAutoCommit then
        some { s with commits := s.commits ++ [(partition, s.position partition)] }
      else none
  | .committed i =>
    match s.commits[i]? with
    | none => none
    | some (partition, offset) =>
      some { s with
        committed := Function.update s.committed partition (some offset)
        commits := s.commits.eraseIdx i }
  | .commitLost i =>
    if i < s.commits.length then some { s with commits := s.commits.eraseIdx i } else none
  | .crash =>
    match s.consumer with
    | .down => none
    | _ => some { s with consumer := .down }
  | .restart =>
    match s.consumer with
    | .down => some { s with position := startPosition config s, consumer := .polling }
    | _ => none

/-- The state after a run from the start. -/
def kafkaRun (actions : List (KafkaAction Partition Payload)) :
    Option (KafkaState Partition Payload Json Time) :=
  Runs.exec (kafkaStep config fromSlice) KafkaState.init actions

end Step

end AlertDistributor.System
