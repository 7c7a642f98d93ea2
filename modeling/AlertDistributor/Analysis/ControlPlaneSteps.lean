import AlertDistributor.Interface.ControlLedger

/-!
# The steps of the control-plane consumer

What each action of the control plane needs and what it changes, one lemma for each action
that the topic, the process or the broker may refuse.  A state in which nothing is assigned
yet is `Starting`; the actions at the `select!` that receive nothing only move between
`consuming` and `probing` (`moves_cases`).
-/

set_option autoImplicit false

namespace AlertDistributor.Analysis

open AlertDistributor.Model AlertDistributor.Interface AlertDistributor.System FiniteMap

variable {Partition Payload Value : Type} [DecidableEq Partition]
  {decoder : Decoder Payload Value} {s s' : ControlPlane Partition Payload}

/-- No partition is assigned yet. -/
def Starting : ControlPhase Partition → Prop
  | .down | .preparing _ _ | .loading _ _ => True
  | .consuming | .probing _ _ => False

/-- The state with another phase and another health. -/
def moved (s : ControlPlane Partition Payload) (phase : ControlPhase Partition)
    (health : ControlPlaneHealth) : ControlPlane Partition Payload :=
  { s with phase := phase, health := health }

/-- A process that is down starts with its partitions to note, each once. -/
theorem start_cases {partitions : List Partition}
    (h : controlStep decoder s (.start partitions) = some s') :
    s.phase = .down ∧ partitions.Nodup ∧ s' = moved s (.preparing partitions []) s.health := by
  rw [controlStep] at h
  split at h
  · rename_i hphase
    split at h
    · rename_i hpartitions
      exact ⟨hphase, hpartitions.2, (Option.some.inj h).symm⟩
    · cases h
  · cases h

/-- The end of the next partition is noted. -/
theorem noteOffset_cases (h : controlStep decoder s .noteOffset = some s') :
    ∃ partition left offsets, s.phase = .preparing (partition :: left) offsets ∧
      s' = moved s
        (.noted left (offsets ++ [(partition, (s.topic partition).endOffset)])) s.health := by
  rw [controlStep] at h
  split at h
  · rename_i partition left offsets hphase
    exact ⟨partition, left, offsets, hphase, (Option.some.inj h).symm⟩
  · cases h

/-- The rows of the next view are loaded. -/
theorem query_cases {rows : ViewRows} (h : controlStep decoder s (.query rows) = some s') :
    ∃ offsets left, s.phase = .loading offsets (rows.view :: left) ∧
      s' = { s with phase := .loading offsets left, cache := rows.load s.cache } := by
  rw [controlStep] at h
  split at h
  · rename_i offsets view left hphase
    split at h
    · rename_i hview
      exact ⟨offsets, left, by rw [hphase, hview], (Option.some.inj h).symm⟩
    · cases h
  · cases h

/-- Once every view is loaded, the noted offsets are where the reading starts. -/
theorem assign_cases (h : controlStep decoder s .assign = some s') :
    ∃ offsets, s.phase = .loading offsets [] ∧
      s' = { s with
        phase := .consuming
        position := collect offsets
        next := collect offsets
        health := s.health.markOk 0 } := by
  rw [controlStep] at h
  split at h
  · rename_i offsets hphase
    exact ⟨offsets, hphase, (Option.some.inj h).symm⟩
  · cases h

/-- The next message of an assigned partition is applied and reported. -/
theorem receiveMessage_cases {partition : Partition}
    (h : controlStep decoder s (.receive partition) = some s') :
    s.phase = .consuming ∧ ∃ position message, s.position.lookup partition = some position ∧
      (s.topic partition).next position = some message ∧
      s' = { s with
        cache := applyMessage decoder s.cache message
        position := s.position.insert partition (message.offset + 1)
        next := s.next.insert partition (message.offset + 1)
        health := s.health.markApplied message.offset } := by
  rw [controlStep] at h
  split at h
  · rename_i position hphase hposition
    split at h
    · cases h
    · rename_i message hmessage
      exact ⟨hphase, position, message, hposition, hmessage, (Option.some.inj h).symm⟩
  · cases h

/-- A receive that fails is reported as an error. -/
theorem receiveError_cases (h : controlStep decoder s .receiveError = some s') :
    s.phase = .consuming ∧ s' = moved s .consuming s.health.markError := by
  rw [controlStep] at h
  split at h
  · rename_i hphase
    refine ⟨hphase, (Option.some.inj h).symm.trans ?_⟩
    rw [moved, ← hphase]
  · cases h

/-- A probe begins with all assigned partitions to fetch. -/
theorem probe_cases (h : controlStep decoder s .probe = some s') :
    s.phase = .consuming ∧ s' = moved s (.probing s.next.keys 0) s.health := by
  rw [controlStep] at h
  split at h
  · rename_i hphase
    exact ⟨hphase, (Option.some.inj h).symm⟩
  · cases h

/-- A fetched watermark adds the lag of its partition. -/
theorem fetchWatermark_cases {partition : Partition}
    (h : controlStep decoder s (.fetchWatermark partition) = some s') :
    ∃ left total nextOffset, s.phase = .probing left total ∧ partition ∈ left ∧
      s.next.lookup partition = some nextOffset ∧
      s' = moved s (.probing (left.erase partition)
        (total + partitionLag (s.topic partition).endOffset nextOffset)) s.health := by
  rw [controlStep] at h
  split at h
  · rename_i left total nextOffset hphase hnext
    split at h
    · rename_i hmem
      exact ⟨left, total, nextOffset, hphase, hmem, hnext, (Option.some.inj h).symm⟩
    · cases h
  · cases h

/-- A fetch that fails ends the probe with an error. -/
theorem fetchFailed_cases (h : controlStep decoder s .fetchFailed = some s') :
    (∃ left total, s.phase = .probing left total) ∧
      s' = moved s .consuming s.health.markError := by
  rw [controlStep] at h
  split at h
  · rename_i left total hphase
    exact ⟨⟨left, total, hphase⟩, (Option.some.inj h).symm⟩
  · cases h

/-- A probe that has fetched everything reports the lag. -/
theorem probeDone_cases (h : controlStep decoder s .probeDone = some s') :
    ∃ total, s.phase = .probing ∅ total ∧
      s' = moved s .consuming (s.health.markOk total) := by
  rw [controlStep] at h
  split at h
  · rename_i left total hphase
    split at h
    · rename_i hleft
      exact ⟨total, by rw [hphase, hleft], (Option.some.inj h).symm⟩
    · cases h
  · cases h

/-- A crash leaves the topic only. -/
theorem crash_cases (h : controlStep decoder s .crash = some s') :
    s' = ControlPlane.stopped s.topic := by
  rw [controlStep] at h
  split at h
  · cases h
  · exact (Option.some.inj h).symm

/-- An action at the `select!` that receives nothing. -/
def Moves : ControlAction Partition Payload → Prop
  | .receiveError | .probe | .fetchWatermark _ | .fetchFailed | .probeDone => True
  | _ => False

/-- The other actions at the `select!` change the phase and the health only. -/
theorem moves_cases {a : ControlAction Partition Payload} (ha : Moves a)
    (h : controlStep decoder s a = some s') :
    ¬ Starting s.phase ∧ ∃ phase health, ¬ Starting phase ∧ s' = moved s phase health := by
  cases a with
  | receiveError =>
    obtain ⟨hphase, rfl⟩ := receiveError_cases h
    exact ⟨by simp [hphase, Starting], _, _, by simp [Starting], rfl⟩
  | probe =>
    obtain ⟨hphase, rfl⟩ := probe_cases h
    exact ⟨by simp [hphase, Starting], _, _, by simp [Starting], rfl⟩
  | fetchWatermark partition =>
    obtain ⟨left, total, nextOffset, hphase, -, -, rfl⟩ := fetchWatermark_cases h
    exact ⟨by simp [hphase, Starting], _, _, by simp [Starting], rfl⟩
  | fetchFailed =>
    obtain ⟨⟨left, total, hphase⟩, rfl⟩ := fetchFailed_cases h
    exact ⟨by simp [hphase, Starting], _, _, by simp [Starting], rfl⟩
  | probeDone =>
    obtain ⟨total, hphase, rfl⟩ := probeDone_cases h
    exact ⟨by simp [hphase, Starting], _, _, by simp [Starting], rfl⟩
  | _ => exact ha.elim

end AlertDistributor.Analysis
