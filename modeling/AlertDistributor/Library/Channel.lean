import Mathlib.Data.List.Basic

/-!
# A bounded channel

A first-in first-out queue with a capacity and one receiver.  Sending never waits: it
fails when the queue is full, and when the receiver is gone.
-/

set_option autoImplicit false

universe u

/-- A bounded queue; `receiver` tells whether its receiving end is still there. -/
structure Channel (α : Type u) where
  capacity : ℕ
  queue : List α
  receiver : Bool
deriving DecidableEq

namespace Channel

variable {α : Type u}

/-- What a send without waiting answers. -/
inductive Sent (α : Type u) where
  | ok (channel : Channel α)
  | full
  | closed

/-- A fresh channel. -/
def new (capacity : ℕ) : Channel α :=
  ⟨capacity, [], true⟩

/-- Sends without waiting; a missing receiver is reported before a full queue. -/
def trySend (c : Channel α) (a : α) : Sent α :=
  if c.receiver = false then .closed
  else if c.capacity ≤ c.queue.length then .full
  else .ok { c with queue := c.queue ++ [a] }

/-- How a send without waiting ends. -/
inductive Outcome where
  | accepted
  | full
  | closed
deriving DecidableEq, Repr

/-- The outcome of a send; it does not depend on the message. -/
def outcome (c : Channel α) : Outcome :=
  if c.receiver = false then .closed
  else if c.capacity ≤ c.queue.length then .full
  else .accepted

/-- Takes the oldest message. -/
def recv (c : Channel α) : Option (α × Channel α) :=
  match c.queue with
  | [] => none
  | a :: rest => if c.receiver then some (a, { c with queue := rest }) else none

/-- Drops the receiver; what it had not read is lost. -/
def dropReceiver (c : Channel α) : Channel α :=
  { c with queue := [], receiver := false }

/-- A send finds the channel closed when the receiver is gone. -/
theorem outcome_eq_closed_iff (c : Channel α) : c.outcome = .closed ↔ c.receiver = false := by
  unfold outcome
  split
  · simp [*]
  · split <;> simp [*]

/-- It finds it full when the receiver is there and the queue has no room. -/
theorem outcome_eq_full_iff (c : Channel α) :
    c.outcome = .full ↔ c.receiver = true ∧ c.capacity ≤ c.queue.length := by
  unfold outcome
  split
  · simp [*]
  · split <;> simp_all

/-- A send is accepted exactly when it puts the message at the end of the queue. -/
theorem trySend_eq_ok_iff (c c' : Channel α) (a : α) :
    c.trySend a = .ok c' ↔ c.outcome = .accepted ∧ c' = { c with queue := c.queue ++ [a] } := by
  unfold trySend outcome
  split
  · simp
  · split
    · simp
    · simp [eq_comm]

/-- `try_send` answers `Full` on a full channel. -/
theorem trySend_eq_full_iff (c : Channel α) (a : α) :
    c.trySend a = .full ↔ c.outcome = .full := by
  unfold trySend outcome
  split
  · simp
  · split <;> simp

/-- And `Closed` on a closed one. -/
theorem trySend_eq_closed_iff (c : Channel α) (a : α) :
    c.trySend a = .closed ↔ c.outcome = .closed := by
  unfold trySend outcome
  split
  · simp
  · split <;> simp

/-- A receive takes the head of the queue while the receiver is there. -/
theorem recv_eq_some_iff (c c' : Channel α) (a : α) :
    c.recv = some (a, c') ↔
      c.receiver = true ∧ c.queue = a :: c'.queue ∧ c' = { c with queue := c'.queue } := by
  unfold recv
  cases c.queue with
  | nil => simp
  | cons b rest =>
    cases c.receiver with
    | false => simp
    | true =>
      simp only [if_true, Option.some.injEq, Prod.mk.injEq, true_and, List.cons.injEq]
      constructor
      · rintro ⟨rfl, rfl⟩
        exact ⟨⟨rfl, rfl⟩, rfl⟩
      · rintro ⟨⟨rfl, hrest⟩, hc⟩
        exact ⟨rfl, by rw [hc, hrest]⟩

end Channel
