import AlertDistributor.System.SnsWorker
import Mathlib.Logic.Function.Basic

/-!
# The ledger of the mobile pushes

What an observer of the push pipeline writes down: the pushes that were put on the broadcast
channel, those that the worker received from it, how each delivery ended, and the amounts
that the reporter swapped out of the counters.  No task reads the ledger.
-/

set_option autoImplicit false

namespace AlertDistributor.Interface

open AlertDistributor.Model AlertDistributor.System

structure PushLedger (Json Time : Type) where
  sent : List (Push Json Time)
  received : List (Push Json Time)
  /-- The pushes whose `publish_to_endpoint` has returned, and what it returned. -/
  delivered : List (Push Json Time × Except SnsError Unit)
  /-- The sum of the amounts that were swapped out. -/
  swapped : Counter → ℕ

namespace PushLedger

variable {Json Time : Type}

def empty : PushLedger Json Time :=
  ⟨[], [], [], fun _ => 0⟩

/-- What was ever counted: the amounts that were swapped out, and what the counter holds. -/
def total (l : PushLedger Json Time) (m : SnsMetrics) (counter : Counter) : ℕ :=
  l.swapped counter + m.get counter

/-- The deliveries that `publish_to_endpoint` answered with success. -/
def succeeded (l : PushLedger Json Time) : ℕ :=
  l.delivered.countP fun d => d.2.isOk

/-- Those that it answered with any error. -/
def refused (l : PushLedger Json Time) : ℕ :=
  l.delivered.countP fun d => !d.2.isOk

/-- What is written down of an action, on the state before it. -/
def note (l : PushLedger Json Time) (s : SnsState Json Time) :
    SnsAction Json Time → PushLedger Json Time
  | .send i =>
    match s.sends[i]? with
    | some ⟨event, device :: _, false⟩ => { l with sent := l.sent ++ [(device, event)] }
    | _ => l
  | .recv =>
    match s.channel.recv with
    | .item push _ => { l with received := l.received ++ [push] }
    | _ => l
  | .deliver i outcome =>
    match s.worker with
    | .delivering _ pending _ =>
      match pending[i]? with
      | some push => { l with delivered := l.delivered ++ [(push, outcome)] }
      | none => l
    | _ => l
  | .swap =>
    match s.reporter with
    | counter :: _ =>
      { l with
        swapped := Function.update l.swapped counter
          (l.swapped counter + s.metrics.get counter) }
    | [] => l
  | _ => l

end PushLedger

/-- A run of the push pipeline with its ledger. -/
def pushLedgerRun {Json Time : Type} (capacity : ℕ) (actions : List (SnsAction Json Time)) :
    Option (PushLedger Json Time × SnsState Json Time) :=
  Runs.exec (Runs.observed snsStep PushLedger.note) (PushLedger.empty, SnsState.init capacity)
    actions

end AlertDistributor.Interface
