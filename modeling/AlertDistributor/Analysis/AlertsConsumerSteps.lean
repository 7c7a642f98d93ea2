import AlertDistributor.System.AlertsConsumer

/-!
# The steps of the alerts consumer

What each action of the consumer and the broker needs and what it changes, one lemma for each
action that the state may refuse, with the settings that the consumer is created with.
-/

set_option autoImplicit false

namespace AlertDistributor.Analysis

open AlertDistributor.Model AlertDistributor.System

variable {Partition Payload Json Time : Type}
  {fromSlice : Payload → Option (AlertEvent Json Time)}

/-- Where a message leads: past it if it carries no alert, into the dispatches otherwise. -/
theorem processMessage_cases (fromSlice : Payload → Option (AlertEvent Json Time))
    (partition : Partition) (message : LogRecord (Option Payload)) :
    (alertOf fromSlice message = none ∧
      processMessage fromSlice partition message = .polling) ∨
    ∃ event, alertOf fromSlice message = some event ∧
      processMessage fromSlice partition message =
        .dispatching partition message event false false := by
  simp only [processMessage, alertOf]
  cases message.value with
  | none => exact .inl ⟨rfl, rfl⟩
  | some payload =>
    simp only [Option.bind_some]
    cases fromSlice payload with
    | none => exact .inl ⟨rfl, rfl⟩
    | some event => exact .inr ⟨event, rfl, rfl⟩

variable [DecidableEq Partition] {k k' : KafkaState Partition Payload Json Time}

/-- A poll takes the next message of a partition past its position. -/
theorem kafkaReceive_cases {partition : Partition}
    (hstep : kafkaStep AlertsConsumer.config fromSlice k (.receive partition) = some k') :
    ∃ message, k.consumer = .polling ∧
      (k.topic partition).next (k.position partition) = some message ∧
        k' = { k with
          position := Function.update k.position partition (message.offset + 1)
          consumer := processMessage fromSlice partition message } := by
  simp only [kafkaStep] at hstep
  split at hstep
  · rename_i hpolling
    split at hstep
    · cases hstep
    · rename_i message hnext
      exact ⟨message, hpolling, hnext, (Option.some.inj hstep).symm⟩
  · cases hstep

/-- A poll that fails changes nothing. -/
theorem kafkaReceiveError_cases
    (hstep : kafkaStep AlertsConsumer.config fromSlice k .receiveError = some k') : k' = k := by
  simp only [kafkaStep] at hstep
  split at hstep
  · exact (Option.some.inj hstep).symm
  · cases hstep

/-- The WebSocket dispatcher returns for the alert in hand, once. -/
theorem kafkaWsReturns_cases
    (hstep : kafkaStep AlertsConsumer.config fromSlice k .wsReturns = some k') :
    ∃ partition message event sns,
      k.consumer = .dispatching partition message event false sns ∧
        k' = { k with consumer := .dispatching partition message event true sns } := by
  simp only [kafkaStep] at hstep
  split at hstep
  · rename_i partition message event sns hconsumer
    exact ⟨partition, message, event, sns, hconsumer, (Option.some.inj hstep).symm⟩
  · cases hstep

/-- So does the dispatcher of pushes. -/
theorem kafkaSnsReturns_cases
    (hstep : kafkaStep AlertsConsumer.config fromSlice k .snsReturns = some k') :
    ∃ partition message event ws,
      k.consumer = .dispatching partition message event ws false ∧
        k' = { k with consumer := .dispatching partition message event ws true } := by
  simp only [kafkaStep] at hstep
  split at hstep
  · rename_i partition message event ws hconsumer
    exact ⟨partition, message, event, ws, hconsumer, (Option.some.inj hstep).symm⟩
  · cases hstep

/-- A commit is requested, or refused, when both have returned. -/
theorem kafkaCommitMessage_cases {ok : Bool}
    (hstep : kafkaStep AlertsConsumer.config fromSlice k (.commitMessage ok) = some k') :
    ∃ partition message event,
      k.consumer = .dispatching partition message event true true ∧
        k' = { k with
          commits := if ok then k.commits ++ [(partition, message.offset + 1)] else k.commits
          consumer := .polling } := by
  simp only [kafkaStep] at hstep
  split at hstep
  · rename_i partition message event hconsumer
    exact ⟨partition, message, event, hconsumer, (Option.some.inj hstep).symm⟩
  · cases hstep

/-- The client was told not to commit by itself. -/
theorem kafkaStep_autoCommit (fromSlice : Payload → Option (AlertEvent Json Time))
    (k : KafkaState Partition Payload Json Time) (partition : Partition) :
    kafkaStep AlertsConsumer.config fromSlice k (.autoCommit partition) = none := by
  simp only [kafkaStep]
  split <;> rfl

/-- A request under way arrives at the broker. -/
theorem kafkaCommitted_cases {i : ℕ}
    (hstep : kafkaStep AlertsConsumer.config fromSlice k (.committed i) = some k') :
    ∃ partition offset, k.commits[i]? = some (partition, offset) ∧
      k' = { k with
        committed := Function.update k.committed partition (some offset)
        commits := k.commits.eraseIdx i } := by
  simp only [kafkaStep] at hstep
  split at hstep
  · cases hstep
  · rename_i partition offset hcommit
    exact ⟨partition, offset, hcommit, (Option.some.inj hstep).symm⟩

/-- Or it gets lost. -/
theorem kafkaCommitLost_cases {i : ℕ}
    (hstep : kafkaStep AlertsConsumer.config fromSlice k (.commitLost i) = some k') :
    k' = { k with commits := k.commits.eraseIdx i } := by
  simp only [kafkaStep] at hstep
  split at hstep
  · exact (Option.some.inj hstep).symm
  · cases hstep

/-- A crash leaves what the broker has. -/
theorem kafkaCrash_cases
    (hstep : kafkaStep AlertsConsumer.config fromSlice k .crash = some k') :
    k' = { k with consumer := .down } := by
  simp only [kafkaStep] at hstep
  split at hstep
  · cases hstep
  · exact (Option.some.inj hstep).symm

/-- A restart finds the process down and takes up the committed offsets. -/
theorem kafkaRestart_cases
    (hstep : kafkaStep AlertsConsumer.config fromSlice k .restart = some k') :
    k.consumer = .down ∧
      k' = { k with
        position := startPosition AlertsConsumer.config k, consumer := .polling } := by
  simp only [kafkaStep] at hstep
  split at hstep
  · rename_i hdown
    exact ⟨hdown, (Option.some.inj hstep).symm⟩
  · cases hstep

end AlertDistributor.Analysis
