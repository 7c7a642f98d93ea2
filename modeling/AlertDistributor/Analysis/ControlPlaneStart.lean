import AlertDistributor.Analysis.ControlPlaneConsumer
import Mathlib.Data.List.Forall2

/-!
# When the control-plane consumer starts

`prepare_control_plane_consumer` gives up unless the client can be made and the whole topic
can be read: the metadata answers, no entry of the topic has an error, there is a partition,
and the end of each can be fetched (`prepare_eq_ok_iff`).  The offsets that a run of the system notes are those it
returns for a broker that answers as the topic did (`prepare_of_noted`).
-/

set_option autoImplicit false

namespace AlertDistributor.Analysis

open AlertDistributor.Model AlertDistributor.Interface AlertDistributor.System

section Prepare

variable {Partition : Type} [ToString Partition] {topic : String} {broker : Broker Partition}
  {config : AppConfig}

/-- The entries of the topic itself. -/
def entriesOf (topic : String) (metadata : List (TopicMetadata Partition)) :
    List (TopicMetadata Partition) :=
  metadata.filter fun t => t.name = topic

omit [ToString Partition] in
/-- The partitions are read when no entry of the topic has an error. -/
theorem readablePartitions_eq_ok_iff {metadata : List (TopicMetadata Partition)}
    {partitions : List Partition} :
    readablePartitions topic metadata = .ok partitions ↔
      (∀ t ∈ entriesOf topic metadata, t.error = none) ∧
        partitions = (entriesOf topic metadata).flatMap TopicMetadata.partitions := by
  induction metadata generalizing partitions with
  | nil => simp [readablePartitions, entriesOf, eq_comm]
  | cons t metadata ih =>
    by_cases hname : t.name = topic
    · have hentries : entriesOf topic (t :: metadata) = t :: entriesOf topic metadata := by
        simp [entriesOf, hname]
      rw [readablePartitions, if_pos hname, hentries, List.forall_mem_cons, List.flatMap_cons]
      cases herror : t.error with
      | some err => simp
      | none =>
        cases hrest : readablePartitions topic metadata with
        | error err =>
          have hnot : ¬ ∀ t ∈ entriesOf topic metadata, t.error = none := by
            intro hall
            have hok := ih.mpr ⟨hall, rfl⟩
            rw [hrest] at hok
            cases hok
          simp [Except.map, hnot]
        | ok rest =>
          obtain ⟨hall, rfl⟩ := ih.mp hrest
          simp only [Except.map, Except.ok.injEq, true_and]
          exact ⟨fun heq => ⟨hall, heq.symm⟩, fun heq => heq.2.symm⟩
    · have hentries : entriesOf topic (t :: metadata) = entriesOf topic metadata := by
        simp [entriesOf, hname]
      rw [readablePartitions, if_neg hname, hentries, ih]

/-- The offset of a partition is its high watermark. -/
def HighWatermark (topic : String) (broker : Broker Partition) (partition : Partition)
    (offset : Partition × ℤ) : Prop :=
  offset.1 = partition ∧ ∃ low, broker.fetchWatermarks topic partition = .ok (low, offset.2)

/-- The offsets are noted when every partition has its watermarks. -/
theorem noteOffsets_eq_ok_iff {partitions : List Partition} {offsets : List (Partition × ℤ)} :
    noteOffsets topic broker partitions = .ok offsets ↔
      List.Forall₂ (HighWatermark topic broker) partitions offsets := by
  induction partitions generalizing offsets with
  | nil => simp [noteOffsets, eq_comm]
  | cons partition partitions ih =>
    rw [noteOffsets]
    cases hfetch : broker.fetchWatermarks topic partition with
    | error err =>
      simp [List.forall₂_cons_left_iff, HighWatermark, hfetch]
    | ok watermarks =>
      obtain ⟨low, high⟩ := watermarks
      rw [List.forall₂_cons_left_iff]
      cases hrest : noteOffsets topic broker partitions with
      | error err =>
        have hnone : ∀ rest, ¬ List.Forall₂ (HighWatermark topic broker) partitions rest := by
          intro rest hall
          rw [← ih, hrest] at hall
          cases hall
        simp [Except.map, hnone]
      | ok rest =>
        simp only [Except.map, Except.ok.injEq]
        constructor
        · rintro rfl
          exact ⟨(partition, high), rest, ⟨rfl, low, hfetch⟩, ih.mp hrest, rfl⟩
        · rintro ⟨offset, rest', ⟨hpartition, low', hlow⟩, hall, rfl⟩
          have hrest' := ih.mpr hall
          rw [hrest] at hrest'
          rw [hfetch] at hlow
          obtain ⟨-, hhigh⟩ := Prod.mk.inj (Except.ok.inj hlow)
          rw [Except.ok.inj hrest', ← hpartition, hhigh]

/-! ## The error names the topic -/

/-- The text of an error begins with the name of the topic. -/
def Names (topic : String) {α : Type} : Except String α → Prop
  | .error err => ∃ text, err = topic ++ text
  | .ok _ => True

/-- An error names the topic whatever a success is made into. -/
theorem Names.map {α β : Type} {result : Except String α} (h : Names topic result)
    (g : α → β) : Names topic (result.map g) := by
  cases result with
  | error err => exact h
  | ok value => trivial

/-- What it takes to note the topic. -/
theorem noteTopic_eq_ok_iff (topic : String) (broker : Broker Partition)
    (offsets : List (Partition × ℤ)) :
    noteTopic topic broker = .ok offsets ↔
      ∃ metadata, broker.fetchMetadata topic = .ok metadata ∧
        (∀ t ∈ entriesOf topic metadata, t.error = none) ∧
        (entriesOf topic metadata).flatMap TopicMetadata.partitions ≠ [] ∧
        List.Forall₂ (HighWatermark topic broker)
          ((entriesOf topic metadata).flatMap TopicMetadata.partitions) offsets := by
  rw [noteTopic]
  cases hfetch : broker.fetchMetadata topic with
  | error err => simp
  | ok metadata =>
    simp only [Except.ok.injEq, exists_eq_left']
    cases hread : readablePartitions topic metadata with
    | error err =>
      have hnot : ¬ ∀ t ∈ entriesOf topic metadata, t.error = none := by
        intro hall
        have hok := readablePartitions_eq_ok_iff.mpr ⟨hall, rfl⟩
        rw [hread] at hok
        cases hok
      simp only [hnot, false_and, iff_false]
      exact fun heq => by cases heq
    | ok partitions =>
      obtain ⟨hall, hpartitions⟩ := readablePartitions_eq_ok_iff.mp hread
      rw [← hpartitions]
      cases partitions with
      | nil =>
        simp only [ne_eq, not_true_eq_false, false_and, and_false, iff_false]
        exact fun heq => by cases heq
      | cons partition partitions =>
        rw [noteOffsets_eq_ok_iff]
        exact ⟨fun h => ⟨hall, List.cons_ne_nil _ _, h⟩, fun h => h.2.2⟩

/-! ## The start -/

/-- What it takes to be prepared. -/
theorem prepared_iff (config : AppConfig) (broker : Broker Partition)
    (offsets : List (Partition × ℤ)) :
    prepareControlPlaneConsumer config broker = .ok offsets ↔
      broker.create (clientSettings config) = .ok () ∧
        noteTopic config.kafkaControlPlaneTopic broker = .ok offsets := by
  rw [prepareControlPlaneConsumer]
  cases broker.create (clientSettings config) with
  | error err => simp
  | ok made =>
    cases noteTopic config.kafkaControlPlaneTopic broker with
    | error err => simp [Except.mapError]
    | ok noted => simp [Except.mapError]

end Prepare

/-! ## The system notes what the function returns -/

section System

variable {Partition Payload Value : Type} [DecidableEq Partition] [ToString Partition]
  {decoder : Decoder Payload Value} {l : ControlLedger Partition Payload}
  {s : ControlPlane Partition Payload}

/-- A client that can be made, and a broker that lists some partitions and answers with the
noted offsets. -/
def notedBroker (topic : String) (partitions : List Partition) (noted : Partition → ℕ) :
    Broker Partition where
  create _ := .ok ()
  fetchMetadata _ := .ok [⟨topic, none, partitions⟩]
  fetchWatermarks _ partition := .ok (0, noted partition)

/-- A process that loads the views has noted what `prepare_control_plane_consumer` returns. -/
theorem prepare_of_noted {offsets : List (Partition × ℕ)} {left : List View}
    (h : Followed decoder l s) (hphase : s.phase = .loading offsets left)
    (config : AppConfig) :
    prepareControlPlaneConsumer config
        (notedBroker config.kafkaControlPlaneTopic (offsets.map Prod.fst) l.noted) =
      .ok (offsets.map fun e => (e.1, (e.2 : ℤ))) := by
  have hprepared := h.prepared
  rw [hphase] at hprepared
  obtain ⟨honce, hsome, -⟩ := hprepared
  refine (prepared_iff config _ _).mpr ⟨rfl, (noteTopic_eq_ok_iff _ _ _).mpr ⟨_, rfl, ?_, ?_, ?_⟩⟩
  · intro t ht
    have hmem := (List.mem_filter.mp ht).1
    rw [List.mem_singleton.mp hmem]
  · simpa [entriesOf] using hsome
  · simp only [entriesOf, decide_true, List.filter_cons_of_pos, List.filter_nil,
      List.flatMap_cons, List.flatMap_nil, List.append_nil]
    rw [List.forall₂_map_left_iff, List.forall₂_map_right_iff, List.forall₂_same]
    intro e he
    exact ⟨rfl, 0, by rw [notedBroker, honce.noted_eq e he]⟩

end System

end AlertDistributor.Analysis
