import AlertDistributor.Library.Broadcast
import AlertDistributor.Library.Runs
import AlertDistributor.Model.SnsDispatcher
import Mathlib.Logic.Function.Basic

/-!
# The publisher, the worker and the reporter of the mobile pushes

`send_alert` puts the devices of an alert on the broadcast channel one by one, the worker
collects them in batches and delivers a batch concurrently, and the reporter swaps the
counters out.  An action is one access to the channel or to a counter: a send and the
`inc_enqueued` after it are two, and so are a `Lagged` answer and its `add_lagged`.
A counter of the state is a number.  In the process it is a word of 64 bits that wraps
around, as `countWords` says; a word that was added less than `2 ^ 64` since it was swapped
out is that number.
-/

set_option autoImplicit false

namespace AlertDistributor.System

open AlertDistributor.Model

/-- What the channel carries. -/
abbrev Push (Json Time : Type) := UserDevice × AlertEvent Json Time

/-- A call of `send_alert` under way. -/
structure SendAlert (Json Time : Type) where
  event : AlertEvent Json Time
  /-- The devices that were not sent yet. -/
  devices : List UserDevice
  /-- A device was sent and `inc_enqueued` comes next. -/
  uncounted : Bool

/-- Where the worker stands. -/
inductive Worker (Json Time : Type) where
  /-- At the first `recv` of a batch. -/
  | first
  /-- The first `recv` answered `Lagged`; `add_lagged` comes next. -/
  | firstLagged (skipped : ℕ)
  /-- At a further `recv`, under the deadline. -/
  | further (batch : List (Push Json Time))
  /-- A further `recv` answered `Lagged`; `add_lagged` comes next. -/
  | furtherLagged (batch : List (Push Json Time)) (skipped : ℕ)
  /-- Delivering: the pushes whose `publish_to_endpoint` has not returned, and the devices
  that are being marked inactive. -/
  | delivering (batchSize : ℕ) (pending : List (Push Json Time)) (cleaning : List UserDevice)

namespace Worker

variable {Json Time : Type}

/-- A batch is closed at this size. -/
def maxBatch : ℕ := 256

/-- The delivery of a batch starts.
SRC: main.rs:203-223 -/
def deliver (batch : List (Push Json Time)) : Worker Json Time :=
  .delivering batch.length batch []

/-- The check at the end of the inner loop.
SRC: main.rs:198-200 -/
def checkBatch (batch : List (Push Json Time)) : Worker Json Time :=
  if maxBatch ≤ batch.length then deliver batch else .further batch

/-- The pushes that the worker has in hand and whose publish has not returned. -/
def unfinished : Worker Json Time → List (Push Json Time)
  | .further batch | .furtherLagged batch _ => batch
  | .delivering _ pending _ => pending
  | _ => []

/-- The missed pushes that the worker was told of and that are not in the counter yet. -/
def skipped : Worker Json Time → ℕ
  | .firstLagged n | .furtherLagged _ n => n
  | _ => 0

/-- The size of the batch that is collected or delivered. -/
def batchSize : Worker Json Time → ℕ
  | .further batch | .furtherLagged batch _ => batch.length
  | .delivering size _ _ => size
  | _ => 0

end Worker

structure SnsState (Json Time : Type) where
  channel : Broadcast (Push Json Time)
  metrics : SnsMetrics
  sends : List (SendAlert Json Time)
  worker : Worker Json Time
  /-- The counters that the reporter has still to swap out in this window. -/
  reporter : List Counter

namespace SnsState

variable {Json Time : Type}

/-- `SnsBroadcaster::new` and `subscribe`; the ring has the next power of two of places.
SRC: sns/publisher.rs:18-21, 44-46, main.rs:51-82 -/
def init (capacity : ℕ) : SnsState Json Time where
  channel := Broadcast.new capacity.nextPowerOfTwo
    (Nat.pos_of_isPowerOfTwo (Nat.isPowerOfTwo_nextPowerOfTwo capacity))
  metrics := SnsMetrics.default
  sends := []
  worker := .first
  reporter := []

/-- The pushes that were sent and are not counted yet. -/
def uncounted (s : SnsState Json Time) : ℕ :=
  s.sends.countP SendAlert.uncounted

end SnsState

inductive SnsAction (Json Time : Type) where
  /-- `inc_resolved` of a dispatch. -/
  | incResolved
  /-- `send_alert` is called. -/
  | sendAlert (event : AlertEvent Json Time) (devices : List UserDevice)
  /-- The call number `i` sends its next device. -/
  | send (i : ℕ)
  /-- The call number `i` counts the device it has sent. -/
  | incEnqueued (i : ℕ)
  /-- The call number `i` returns. -/
  | sendAlertDone (i : ℕ)
  /-- A `recv` of the worker answers. -/
  | recv
  /-- `add_lagged`. -/
  | addLagged
  /-- The deadline of the batch passes. -/
  | deadline
  /-- `publish_to_endpoint` returns for the pending push number `i`. -/
  | deliver (i : ℕ) (outcome : Except SnsError Unit)
  /-- A delivery that marked its device inactive returns. -/
  | cleanedUp (i : ℕ)
  /-- The deliveries of the batch have all returned. -/
  | batchDone
  /-- The reporter starts a window. -/
  | tick
  /-- The reporter swaps the next counter out. -/
  | swap

section Step

variable {Json Time : Type}

/-- The channel send of `send_alert`; the worker keeps its receiver, so it does not fail.
SRC: sns/publisher.rs:35-38 -/
def sendNext (s : SnsState Json Time) (i : ℕ) : Option (SnsState Json Time) :=
  match s.sends[i]? with
  | some ⟨event, device :: rest, false⟩ =>
    some { s with
      channel := s.channel.send (device, event)
      sends := s.sends.set i ⟨event, rest, true⟩ }
  | _ => none

/-- SRC: sns/publisher.rs:39 -/
def countSent (s : SnsState Json Time) (i : ℕ) : Option (SnsState Json Time) :=
  match s.sends[i]? with
  | some ⟨event, rest, true⟩ =>
    some { s with
      metrics := s.metrics.incEnqueued
      sends := s.sends.set i ⟨event, rest, false⟩ }
  | _ => none

/-- SRC: sns/publisher.rs:41 -/
def sendAlertDone (s : SnsState Json Time) (i : ℕ) : Option (SnsState Json Time) :=
  match s.sends[i]? with
  | some ⟨_, [], false⟩ => some { s with sends := s.sends.eraseIdx i }
  | _ => none

/-- An answer of `rx.recv()`, in the outer or in the inner loop.
SRC: main.rs:171-200 -/
def workerRecv (s : SnsState Json Time) : Option (SnsState Json Time) :=
  match s.worker with
  | .first =>
    match s.channel.recv with
    | .item firstItem channel => some { s with channel := channel, worker := .further [firstItem] }
    | .lagged skipped channel =>
      some { s with channel := channel, worker := .firstLagged skipped }
    | .empty => none
  | .further batch =>
    match s.channel.recv with
    | .item item channel =>
      some { s with channel := channel, worker := Worker.checkBatch (batch ++ [item]) }
    | .lagged skipped channel =>
      some { s with channel := channel, worker := .furtherLagged batch skipped }
    | .empty => none
  | _ => none

/-- SRC: main.rs:178-179, 193, 198-200 -/
def workerAddLagged (s : SnsState Json Time) : Option (SnsState Json Time) :=
  match s.worker with
  | .firstLagged skipped =>
    some { s with metrics := s.metrics.addLagged skipped, worker := .first }
  | .furtherLagged batch skipped =>
    some { s with
      metrics := s.metrics.addLagged skipped
      worker := Worker.checkBatch batch }
  | _ => none

/-- What `process_sns_delivery` counts and does next.
SRC: main.rs:252-299 -/
def workerDeliver (s : SnsState Json Time) (i : ℕ) (outcome : Except SnsError Unit) :
    Option (SnsState Json Time) :=
  match s.worker with
  | .delivering batchSize pending cleaning =>
    match pending[i]? with
    | none => none
    | some (device, _) =>
      let pending := pending.eraseIdx i
      match outcome with
      | .ok _ =>
        some { s with
          metrics := s.metrics.incPublished
          worker := .delivering batchSize pending cleaning }
      | .error (.invalidEndpoint _) =>
        some { s with
          metrics := s.metrics.incFailed
          worker := .delivering batchSize pending (cleaning ++ [device]) }
      | .error _ =>
        some { s with
          metrics := s.metrics.incFailed
          worker := .delivering batchSize pending cleaning }
  | _ => none

/-- One action of one task.
SRC: main.rs:155-300, sns/publisher.rs:23-42, sns/metrics.rs:47-65 -/
def snsStep (s : SnsState Json Time) : SnsAction Json Time → Option (SnsState Json Time)
  | .incResolved => some { s with metrics := s.metrics.incResolved }
  | .sendAlert event devices => some { s with sends := s.sends ++ [⟨event, devices, false⟩] }
  | .send i => sendNext s i
  | .incEnqueued i => countSent s i
  | .sendAlertDone i => sendAlertDone s i
  | .recv => workerRecv s
  | .addLagged => workerAddLagged s
  | .deadline =>
    match s.worker with
    | .further batch => some { s with worker := Worker.deliver batch }
    | _ => none
  | .deliver i outcome => workerDeliver s i outcome
  | .cleanedUp i =>
    match s.worker with
    | .delivering batchSize pending cleaning =>
      if i < cleaning.length then
        some { s with worker := .delivering batchSize pending (cleaning.eraseIdx i) }
      else none
    | _ => none
  | .batchDone =>
    match s.worker with
    | .delivering _ [] [] => some { s with worker := .first }
    | _ => none
  | .tick =>
    match s.reporter with
    | [] => some { s with reporter := [.resolved, .enqueued, .lagged, .published, .failed] }
    | _ => none
  | .swap =>
    match s.reporter with
    | counter :: rest =>
      some { s with metrics := s.metrics.swapOut counter, reporter := rest }
    | [] => none

/-- The state after a run from the start. -/
def snsRun (capacity : ℕ) (actions : List (SnsAction Json Time)) :
    Option (SnsState Json Time) :=
  Runs.exec snsStep (SnsState.init capacity) actions

/-- What an action does to the counters as words: `fetch_add` wraps around.
SRC: sns/metrics.rs:15-43, 54-58 -/
def countWords (words : Counter → UInt64) (s : SnsState Json Time) :
    SnsAction Json Time → Counter → UInt64
  | .incResolved => Function.update words .resolved (words .resolved + 1)
  | .incEnqueued _ => Function.update words .enqueued (words .enqueued + 1)
  | .addLagged =>
    Function.update words .lagged (words .lagged + UInt64.ofNat s.worker.skipped)
  | .deliver _ (.ok _) => Function.update words .published (words .published + 1)
  | .deliver _ (.error _) => Function.update words .failed (words .failed + 1)
  | .swap =>
    match s.reporter with
    | counter :: _ => Function.update words counter 0
    | [] => words
  | _ => words

end Step

end AlertDistributor.System
