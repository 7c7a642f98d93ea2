import AlertDistributor.Model.Cache
import AlertDistributor.Model.Config

/-!
# The start and the health of the control-plane consumer

What `kafka/control_plane.rs` does around its loop: `prepare_control_plane_consumer` notes
the end of every partition or gives up, and `ControlPlaneHealth` keeps what `/health` reports
of the consumer.  The client and the broker are outside: a `Broker` is what they answer to
the three calls, with their errors as the texts that the messages quote.
-/

set_option autoImplicit false

namespace AlertDistributor.Model

/-! ## Noting the offsets -/

/-- A topic in the answer of `fetch_metadata`, with its error as `{:?}` shows it. -/
structure TopicMetadata (Partition : Type) where
  name : String
  error : Option String
  partitions : List Partition

/-- What the client and the broker answer: whether a client can be made with some settings,
the metadata of a topic, and the low and the high watermark of a partition. -/
structure Broker (Partition : Type) where
  create : List (String × String) → Except String Unit
  fetchMetadata : String → Except String (List (TopicMetadata Partition))
  fetchWatermarks : String → Partition → Except String (ℤ × ℤ)

/-- The settings of the client, in the order in which they are made.
SRC: kafka/control_plane.rs:277-288 -/
def clientSettings (config : AppConfig) : List (String × String) :=
  [("bootstrap.servers", config.kafkaBrokers),
    ("group.id", config.kafkaGroupId ++ "-control-plane"),
    ("client.id", "alert-distributor-control-plane"),
    ("enable.auto.commit", "false"),
    ("security.protocol", config.kafkaSecurityProtocol),
    ("sasl.mechanism", config.kafkaSaslMechanism),
    ("sasl.username", config.kafkaUsername),
    ("sasl.password", config.kafkaPassword)]

/-- The variants of `AppError` that the start of the consumer returns.
SRC: errors/mod.rs:19-35 -/
inductive ControlPlaneStartError where
  | kafka (err : String)
  | controlPlaneUnavailable (text : String)
deriving DecidableEq, Repr

section Prepare

variable {Partition : Type} [ToString Partition] (topic : String)

/-- The partitions of the topic; an error of the topic ends the loop.
SRC: kafka/control_plane.rs:298-306 -/
def readablePartitions : List (TopicMetadata Partition) → Except String (List Partition)
  | [] => .ok []
  | t :: topics =>
    if t.name = topic then
      match t.error with
      | some err =>
        .error (topic ++ ": " ++ err ++ "; does the topic exist and does this user have READ?")
      | none => (readablePartitions topics).map fun partitions => t.partitions ++ partitions
    else readablePartitions topics

/-- The high watermark of each partition; the first one that cannot be read ends the loop.
SRC: kafka/control_plane.rs:313-321 -/
def noteOffsets (broker : Broker Partition) :
    List Partition → Except String (List (Partition × ℤ))
  | [] => .ok []
  | partition :: partitions =>
    match broker.fetchWatermarks topic partition with
    | .error err => .error (topic ++ "[" ++ toString partition ++ "]: " ++ err)
    | .ok (_, high) =>
      (noteOffsets broker partitions).map fun offsets => (partition, high) :: offsets

/-- The ends of the partitions of the topic, or what of it cannot be read.
SRC: kafka/control_plane.rs:290-321 -/
def noteTopic (broker : Broker Partition) : Except String (List (Partition × ℤ)) :=
  match broker.fetchMetadata topic with
  | .error err => .error (topic ++ ": " ++ err)
  | .ok metadata =>
    match readablePartitions topic metadata with
    | .error err => .error err
    | .ok [] =>
      .error (topic ++
        ": no readable partitions; does the topic exist and does this user have READ?")
    | .ok partitions => noteOffsets topic broker partitions

/-- The offsets at which the consumer starts.  An error of the client itself keeps its own
variant, and every other one is `ControlPlaneUnavailable`.
SRC: kafka/control_plane.rs:275-328 -/
def prepareControlPlaneConsumer (config : AppConfig) (broker : Broker Partition) :
    Except ControlPlaneStartError (List (Partition × ℤ)) :=
  match broker.create (clientSettings config) with
  | .error err => .error (.kafka err)
  | .ok () =>
    (noteTopic config.kafkaControlPlaneTopic broker).mapError .controlPlaneUnavailable

end Prepare

/-! ## Health -/

/-- SRC: kafka/control_plane.rs:52-57 -/
structure ControlPlaneHealth where
  ok : Bool
  appliedOffset : ℤ
  lag : ℤ
deriving DecidableEq, Repr

namespace ControlPlaneHealth

/-- `ControlPlaneHealth::default()`. -/
def default : ControlPlaneHealth :=
  ⟨false, 0, 0⟩

/-- SRC: kafka/control_plane.rs:72-75 -/
def markOk (health : ControlPlaneHealth) (lag : ℤ) : ControlPlaneHealth :=
  { health with lag := lag, ok := true }

/-- SRC: kafka/control_plane.rs:77-80 -/
def markApplied (health : ControlPlaneHealth) (offset : ℤ) : ControlPlaneHealth :=
  { health with appliedOffset := offset, ok := true }

/-- SRC: kafka/control_plane.rs:82-84 -/
def markError (health : ControlPlaneHealth) : ControlPlaneHealth :=
  { health with ok := false }

end ControlPlaneHealth

/-- What a partition adds to the lag.
SRC: kafka/control_plane.rs:421 -/
def partitionLag (high next : ℤ) : ℤ :=
  max (high - next) 0

end AlertDistributor.Model
