import AlertDistributor.Interface.Snapshot
import AlertDistributor.System.ControlPlaneConsumer
import Mathlib.Algebra.BigOperators.Group.Finset.Basic

/-!
# The ledger of the control-plane consumer

What an observer of the control plane writes down: every message that was ever published,
and of the process since its last start the offsets that were noted, the views that were
loaded, the messages that were received and how each contact with the broker went.  The
process reads none of it; what `/health` may say and what the cache must hold are stated in
the ledger.
-/

set_option autoImplicit false

namespace AlertDistributor.Interface

open AlertDistributor.Model AlertDistributor.System LastWrite FiniteMap

/-- A message with its partition. -/
abbrev Published (Partition Payload : Type) := Partition × LogRecord (Option Payload)

/-- A contact of the loop with the broker. -/
inductive Contact where
  /-- The partitions were assigned. -/
  | assigned
  /-- A message was received and applied. -/
  | applied (offset : ℕ)
  /-- A probe was completed.  Noted beside the lag it measured: the messages that were not
  applied and the offsets that were not reached when it began, and those offsets when it
  ended. -/
  | probed (unapplied behind : ℕ) (lag : ℤ) (behindNow : ℕ)
  /-- The stream or a probe failed. -/
  | failed
deriving DecidableEq, Repr

namespace Contact

def reached : Contact → Bool
  | .failed => false
  | _ => true

def appliedOffset? : Contact → Option ℤ
  | .applied offset => some offset
  | _ => none

def lag? : Contact → Option ℤ
  | .assigned => some 0
  | .probed _ _ lag _ => some lag
  | _ => none

end Contact

/-- What `/health` is to say after these contacts: whether the last one succeeded, the
offset of the last message, and the lag of the last probe. -/
def healthOf (contacts : List Contact) : ControlPlaneHealth where
  ok := (contacts.getLast?.map Contact.reached).getD false
  appliedOffset := (contacts.filterMap Contact.appliedOffset?).getLast?.getD 0
  lag := (contacts.filterMap Contact.lag?).getLast?.getD 0

structure ControlLedger (Partition Payload : Type) where
  /-- Every message of the topic, in the order of publication. -/
  published : List (Published Partition Payload)
  /-- The offset noted for a partition, or 0. -/
  noted : Partition → ℕ
  /-- The rows that were loaded, with how many messages were published at the query. -/
  views : List (ViewRows × ℕ)
  received : List (Published Partition Payload)
  contacts : List Contact
  /-- The messages not applied and the offsets not reached when the last probe began. -/
  begun : ℕ × ℕ

namespace ControlLedger

variable {Partition Payload Value : Type}

def empty : ControlLedger Partition Payload :=
  ⟨[], fun _ => 0, [], [], [], (0, 0)⟩

/-- The payloads of the topic, in the order of publication. -/
def payloads (l : ControlLedger Partition Payload) : List Payload :=
  l.published.filterMap fun r => r.2.value

/-- The snapshot that was loaded, and the received events on it. -/
def cache (l : ControlLedger Partition Payload) (decoder : Decoder Payload Value) : State :=
  applyEvents decoder ((l.views.map Prod.fst).foldl ViewRows.load State.default)
    (l.received.filterMap fun r => r.2.value)

end ControlLedger

section Note

variable {Partition Payload Value : Type} [DecidableEq Partition]

/-- The position in a partition; one that is not assigned is not read. -/
def positionAt (s : ControlPlane Partition Payload) (partition : Partition) : ℕ :=
  (s.position.lookup partition).getD 0

/-- The offsets of the assigned partitions that were not reached. -/
def behind (s : ControlPlane Partition Payload) : ℕ :=
  ∑ partition ∈ s.position.keys, ((s.topic partition).endOffset - positionAt s partition)

/-- The messages of the assigned partitions that were not received. -/
def unapplied (s : ControlPlane Partition Payload) : ℕ :=
  ∑ partition ∈ s.position.keys,
    ((s.topic partition).segment (positionAt s partition) (s.topic partition).endOffset).length

/-- What is written down of an action, on the state before it. -/
def ControlLedger.note (l : ControlLedger Partition Payload)
    (s : ControlPlane Partition Payload) :
    ControlAction Partition Payload → ControlLedger Partition Payload
  | .publish partition payload =>
    { l with published :=
        l.published ++ [(partition, ⟨(s.topic partition).endOffset, payload⟩)] }
  | .noteOffset =>
    match s.phase with
    | .preparing (partition :: _) _ =>
      { l with noted := Function.update l.noted partition (s.topic partition).endOffset }
    | _ => l
  | .query rows => { l with views := l.views ++ [(rows, l.published.length)] }
  | .assign => { l with contacts := l.contacts ++ [.assigned] }
  | .receive partition =>
    match (s.position.lookup partition).bind (s.topic partition).next with
    | some message =>
      { l with
        received := l.received ++ [(partition, message)]
        contacts := l.contacts ++ [.applied message.offset] }
    | none => l
  | .receiveError => { l with contacts := l.contacts ++ [.failed] }
  | .probe => { l with begun := (unapplied s, behind s) }
  | .fetchFailed => { l with contacts := l.contacts ++ [.failed] }
  | .probeDone =>
    match s.phase with
    | .probing _ total =>
      { l with contacts := l.contacts ++ [.probed l.begun.1 l.begun.2 total (behind s)] }
    | _ => l
  | .crash => { ControlLedger.empty with published := l.published }
  | _ => l

/-- A run of the control plane with its ledger. -/
def controlLedgerRun (decoder : Decoder Payload Value)
    (actions : List (ControlAction Partition Payload)) :
    Option (ControlLedger Partition Payload × ControlPlane Partition Payload) :=
  Runs.exec (Runs.observed (controlStep decoder) ControlLedger.note)
    (ControlLedger.empty, ControlPlane.init) actions

/-- The consumer runs and is past every message of the topic. -/
structure CaughtUp (s : ControlPlane Partition Payload) : Prop where
  running : s.phase = .consuming ∨ ∃ left total, s.phase = .probing left total
  reached : ∀ partition, ∀ r ∈ (s.topic partition).records,
    ∃ position, s.position.lookup partition = some position ∧ r.offset < position

end Note

/-! ## What the database shows -/

/-- The rows of a view list a table in which each key stands at some stage between two
streams of events. -/
def Shows (early log : List Event) : ViewRows → Prop
  | .users rows => ∃ t, Lists (rows.map userEntry) t ∧
      StageOf (early.filterMap Event.userWrite) (log.filterMap Event.userWrite) t
  | .organizationUsers rows => ∃ t, Lists (rows.map membershipEntry) t ∧
      StageOf (early.filterMap Event.membershipWrite) (log.filterMap Event.membershipWrite) t
  | .userUnits rows => ∃ t, Lists (rows.map userUnitEntry) t ∧
      StageOf (early.filterMap Event.userUnitWrite) (log.filterMap Event.userUnitWrite) t
  | .unitDevices rows => ∃ t, Lists (rows.map unitDeviceEntry) t ∧
      StageOf (early.filterMap Event.unitDeviceWrite) (log.filterMap Event.unitDeviceWrite) t
  | .userDevices rows => ∃ t, Lists (rows.map userDeviceEntry) t ∧
      StageOf (early.filterMap Event.userDeviceWrite) (log.filterMap Event.userDeviceWrite) t

end AlertDistributor.Interface
