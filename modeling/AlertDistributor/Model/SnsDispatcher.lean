import AlertDistributor.Model.AlertEvent
import AlertDistributor.Model.Cache

/-!
# The dispatcher of mobile pushes

`SnsDispatcher::dispatch_event` of `sns/dispatcher.rs`, cut at its awaits: the people who
see the unit are read once, then the devices of one person at a time, and the devices that
can be reached are collected.  `PushDispatch` is what the function has in hand between two
reads; `dispatchEventAlone` is the whole call when the cache does not change under it.
-/

set_option autoImplicit false

namespace AlertDistributor.Model

/-- The counters of the pipeline.
SRC: sns/metrics.rs:15-22 -/
structure SnsMetrics where
  resolved : ℕ
  enqueued : ℕ
  lagged : ℕ
  published : ℕ
  failed : ℕ
deriving DecidableEq, Repr

/-- `SnsMetrics::default()`. -/
def SnsMetrics.default : SnsMetrics :=
  ⟨0, 0, 0, 0, 0⟩

/-- The counters, in the order in which the reporter swaps them out.
SRC: sns/metrics.rs:15-21 -/
inductive Counter where
  | resolved
  | enqueued
  | lagged
  | published
  | failed
deriving DecidableEq, Repr

namespace SnsMetrics

/-- The value of a counter. -/
def get (m : SnsMetrics) : Counter → ℕ
  | .resolved => m.resolved
  | .enqueued => m.enqueued
  | .lagged => m.lagged
  | .published => m.published
  | .failed => m.failed

/-- SRC: sns/metrics.rs:24-26 -/
def incResolved (m : SnsMetrics) : SnsMetrics :=
  { m with resolved := m.resolved + 1 }

/-- SRC: sns/metrics.rs:28-30 -/
def incEnqueued (m : SnsMetrics) : SnsMetrics :=
  { m with enqueued := m.enqueued + 1 }

/-- SRC: sns/metrics.rs:32-34 -/
def addLagged (m : SnsMetrics) (n : ℕ) : SnsMetrics :=
  { m with lagged := m.lagged + n }

/-- SRC: sns/metrics.rs:36-38 -/
def incPublished (m : SnsMetrics) : SnsMetrics :=
  { m with published := m.published + 1 }

/-- SRC: sns/metrics.rs:40-42 -/
def incFailed (m : SnsMetrics) : SnsMetrics :=
  { m with failed := m.failed + 1 }

/-- `swap(0)` on a counter. -/
def swapOut (m : SnsMetrics) : Counter → SnsMetrics
  | .resolved => { m with resolved := 0 }
  | .enqueued => { m with enqueued := 0 }
  | .lagged => { m with lagged := 0 }
  | .published => { m with published := 0 }
  | .failed => { m with failed := 0 }

end SnsMetrics

/-- The four ways out of the loop over the devices of a person.
SRC: sns/dispatcher.rs:54-102 -/
inductive Considered where
  | inactive
  | emptyEndpoint
  | unsupportedEndpoint
  | resolved
deriving DecidableEq, Repr

/-- SRC: sns/dispatcher.rs:57-102 -/
def UserDevice.considered (device : UserDevice) : Considered :=
  if !device.isActive then .inactive
  else if device.endpointArn.isEmpty then .emptyEndpoint
  else if !device.endpointIsSupportedForPlatform then .unsupportedEndpoint
  else .resolved

/-- What makes a device of a person a target of the alert.
SRC: sns/dispatcher.rs:54-85 -/
def UserDevice.isTarget (device : UserDevice) : Bool :=
  if !device.isActive then false
  else if device.endpointArn.isEmpty then false
  else device.endpointIsSupportedForPlatform

/-- A dispatch under way: the people whose devices are not read yet, and the targets. -/
structure PushDispatch (Json Time : Type) where
  event : AlertEvent Json Time
  users : List (OrganizationId ×ₗ UserId)
  snsTargets : List UserDevice

namespace PushDispatch

variable {Json Time : Type}

/-- Up to `users_for_unit`; an event whose unit id is no UUID is skipped.
SRC: sns/dispatcher.rs:32-45 -/
def start (parseUuid : String → Option Uuid) (cache : State) (event : AlertEvent Json Time) :
    Option (PushDispatch Json Time) :=
  (parseUuid event.unitId).map fun unitId => ⟨event, cache.usersForUnit unitId, []⟩

/-- One turn of the loop over the people; `inc_resolved` is called for every new target.
SRC: sns/dispatcher.rs:46-111 -/
def readDevices (dispatch : PushDispatch Json Time) (cache : State) (metrics : SnsMetrics) :
    Option (PushDispatch Json Time × SnsMetrics) :=
  match dispatch.users with
  | [] => none
  | p :: rest =>
    let targets := (cache.devicesFor (ofLex p).2).filter UserDevice.isTarget
    some ({ dispatch with users := rest, snsTargets := dispatch.snsTargets ++ targets },
      { metrics with resolved := metrics.resolved + targets.length })

end PushDispatch

/-! ## A call that nothing else interrupts -/

/-- One turn of the loop over the devices of a person.
SRC: sns/dispatcher.rs:54-103 -/
def considerDevice (acc : SnsMetrics × List UserDevice) (device : UserDevice) :
    SnsMetrics × List UserDevice :=
  match device.considered with
  | .resolved => ({ acc.1 with resolved := acc.1.resolved + 1 }, acc.2 ++ [device])
  | _ => acc

/-- The whole of `dispatch_event` on a cache that stays as it is: the counters, and the
targets that `send_alert` is called with, if it is called.
SRC: sns/dispatcher.rs:32-140 -/
def dispatchEventAlone {Json Time : Type} (parseUuid : String → Option Uuid) (cache : State)
    (metrics : SnsMetrics) (event : AlertEvent Json Time) :
    SnsMetrics × Option (List UserDevice) :=
  match parseUuid event.unitId with
  | none => (metrics, none)
  | some unitId =>
    let scan := (cache.usersForUnit unitId).foldl
      (fun acc p => (cache.devicesFor (ofLex p).2).foldl considerDevice acc) (metrics, [])
    if scan.2.isEmpty then (scan.1, none) else (scan.1, some scan.2)

end AlertDistributor.Model
