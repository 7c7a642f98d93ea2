import AlertDistributor.Library.PartitionLog
import AlertDistributor.Library.Runs
import AlertDistributor.Model.ControlPlane
import AlertDistributor.Model.ControlPlaneConsumer
import AlertDistributor.Model.Loader

/-!
# The consumer of control-plane events

The topic of control-plane events with all its partitions, the database that is asked at
start-up, and the process between them.  It starts in three steps: the end of each partition
is noted, the five views are loaded, and the partitions are read from the noted offsets.
From then on one loop takes messages and, every now and then, asks the broker for the end
of each partition.  Anybody may publish between any two actions, and the process may stop
and start again at any time; it keeps nothing.

The worker that takes a rejected device out of the cache is not part of this system.
-/

set_option autoImplicit false

namespace AlertDistributor.System

open AlertDistributor.Model FiniteMap

/-- What is in a partition: messages, some of which have no payload. -/
abbrev ControlLog (Payload : Type) := PartitionLog (Option Payload)

/-- Where the process stands. -/
inductive ControlPhase (Partition : Type) where
  /-- The process is down. -/
  | down
  /-- In `prepare_control_plane_consumer`: the partitions whose end is still to be noted,
  and what was noted. -/
  | preparing (left : List Partition) (offsets : List (Partition × ℕ))
  /-- In `load_control_plane_snapshot` or behind it: the queries that are left. -/
  | loading (offsets : List (Partition × ℕ)) (left : List View)
  /-- At the `select!` of `run_control_plane_consumer`. -/
  | consuming
  /-- In `lag`: the partitions that are left, and the sum over the others. -/
  | probing (left : Finset Partition) (total : ℤ)

/-- Once every partition is noted, the views are loaded. -/
def ControlPhase.noted {Partition : Type} (left : List Partition)
    (offsets : List (Partition × ℕ)) : ControlPhase Partition :=
  match left with
  | [] => .loading offsets View.all
  | _ => .preparing left offsets

structure ControlPlane (Partition Payload : Type) where
  topic : Partition → ControlLog Payload
  phase : ControlPhase Partition
  cache : State
  /-- The partitions assigned to the client, with the offset it reads next. -/
  position : HashMap Partition ℕ
  /-- The map `next` of the loop. -/
  next : HashMap Partition ℕ
  health : ControlPlaneHealth

namespace ControlPlane

variable {Partition Payload : Type}

/-- The process is down, whatever the topic holds. -/
def stopped (topic : Partition → ControlLog Payload) : ControlPlane Partition Payload :=
  ⟨topic, .down, State.default, ∅, ∅, ControlPlaneHealth.default⟩

/-- An empty topic, and a process that was never started. -/
def init : ControlPlane Partition Payload :=
  stopped fun _ => PartitionLog.empty

end ControlPlane

inductive ControlAction (Partition Payload : Type) where
  /-- A message is appended to a partition. -/
  | publish (partition : Partition) (payload : Option Payload)
  /-- A partition uses up an offset without a message. -/
  | skip (partition : Partition)
  /-- The process starts, and `fetch_metadata` names the partitions of the topic. -/
  | start (partitions : List Partition)
  /-- `fetch_watermarks` of the next partition in `prepare_control_plane_consumer`. -/
  | noteOffset
  /-- The next query of `load_control_plane_snapshot` is answered, and its rows are loaded. -/
  | query (rows : ViewRows)
  /-- The set-up of `run_control_plane_consumer`, with `assign`. -/
  | assign
  /-- The stream yields the next message of a partition. -/
  | receive (partition : Partition)
  /-- The stream yields an error. -/
  | receiveError
  /-- The probe ticks. -/
  | probe
  /-- `fetch_watermarks` of a partition in `lag`. -/
  | fetchWatermark (partition : Partition)
  /-- `fetch_watermarks` fails in `lag`. -/
  | fetchFailed
  /-- `lag` returns. -/
  | probeDone
  /-- The process stops, also because something failed at start-up. -/
  | crash

section Step

variable {Partition Payload Value : Type} [DecidableEq Partition]
  (decoder : Decoder Payload Value)

/-- A message without a payload is malformed.
SRC: kafka/control_plane.rs:367-370 -/
def applyMessage (cache : State) (message : LogRecord (Option Payload)) : State :=
  match message.value with
  | some payload => (applyEvent decoder cache payload).1
  | none => cache

/-- One action of the publishers, the broker, the database or the process.
SRC: kafka/control_plane.rs:275-412, permissions/loader.rs:55-118 -/
def controlStep (s : ControlPlane Partition Payload) :
    ControlAction Partition Payload → Option (ControlPlane Partition Payload)
  | .publish partition payload =>
    some { s with
      topic := Function.update s.topic partition ((s.topic partition).append 0 payload) }
  | .skip partition =>
    some { s with topic := Function.update s.topic partition (s.topic partition).skip }
  | .start partitions =>
    match s.phase with
    | .down =>
      -- a topic without partitions is an error, and the broker names each of them once
      if partitions ≠ [] ∧ partitions.Nodup then
        some { s with phase := .preparing partitions [] }
      else none
    | _ => none
  | .noteOffset =>
    match s.phase with
    | .preparing (partition :: left) offsets =>
      some { s with
        phase := .noted left (offsets ++ [(partition, (s.topic partition).endOffset)]) }
    | _ => none
  | .query rows =>
    match s.phase with
    | .loading offsets (view :: left) =>
      if rows.view = view then
        some { s with phase := .loading offsets left, cache := rows.load s.cache }
      else none
    | _ => none
  | .assign =>
    match s.phase with
    | .loading offsets [] =>
      some { s with
        phase := .consuming
        position := collect offsets
        next := collect offsets
        health := s.health.markOk 0 }
    | _ => none
  | .receive partition =>
    match s.phase, s.position.lookup partition with
    | .consuming, some position =>
      match (s.topic partition).next position with
      | none => none
      | some message =>
        some { s with
          cache := applyMessage decoder s.cache message
          position := s.position.insert partition (message.offset + 1)
          next := s.next.insert partition (message.offset + 1)
          health := s.health.markApplied message.offset }
    | _, _ => none
  | .receiveError =>
    match s.phase with
    | .consuming => some { s with health := s.health.markError }
    | _ => none
  | .probe =>
    match s.phase with
    | .consuming => some { s with phase := .probing s.next.keys 0 }
    | _ => none
  | .fetchWatermark partition =>
    match s.phase, s.next.lookup partition with
    | .probing left total, some nextOffset =>
      if partition ∈ left then
        some { s with
          phase := .probing (left.erase partition)
            (total + partitionLag (s.topic partition).endOffset nextOffset) }
      else none
    | _, _ => none
  | .fetchFailed =>
    match s.phase with
    | .probing _ _ => some { s with phase := .consuming, health := s.health.markError }
    | _ => none
  | .probeDone =>
    match s.phase with
    | .probing left total =>
      if left = ∅ then
        some { s with phase := .consuming, health := s.health.markOk total }
      else none
    | _ => none
  | .crash =>
    match s.phase with
    | .down => none
    | _ => some (ControlPlane.stopped s.topic)

/-- The state after a run from the start. -/
def controlRun (actions : List (ControlAction Partition Payload)) :
    Option (ControlPlane Partition Payload) :=
  Runs.exec (controlStep decoder) ControlPlane.init actions

end Step

end AlertDistributor.System
