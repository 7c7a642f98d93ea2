import Mathlib.Data.List.Basic
import Mathlib.Tactic.Basic

/-!
# A broadcast channel with one receiver

A ring that keeps the newest values.  Sending never waits and never fails: when the ring is
full, the oldest value that was not read yet is overwritten.  The receiver is first told how
many values it missed in this way, and then takes the values that are left, oldest first.
-/

set_option autoImplicit false

universe u

/-- The ring, seen from its receiver: the values it has not read, and how many were
overwritten since it was last told. -/
structure Broadcast (α : Type u) where
  capacity : ℕ
  queue : List α
  missed : ℕ
  pos : 0 < capacity
  bounded : queue.length ≤ capacity

namespace Broadcast

variable {α : Type u}

/-- A fresh channel. -/
def new (capacity : ℕ) (pos : 0 < capacity) : Broadcast α :=
  ⟨capacity, [], 0, pos, Nat.zero_le _⟩

/-- Sends a value; a full ring loses the oldest one. -/
def send (c : Broadcast α) (a : α) : Broadcast α :=
  if h : c.queue.length < c.capacity then
    { c with
      queue := c.queue ++ [a]
      bounded := by
        rw [List.length_append, List.length_singleton]
        omega }
  else
    { c with
      queue := c.queue.tail ++ [a]
      missed := c.missed + 1
      bounded := by
        have hpos := c.pos
        have hbounded := c.bounded
        rw [List.length_append, List.length_tail, List.length_singleton]
        omega }

/-- What a receive answers; it waits when there is nothing to read. -/
inductive Received (α : Type u) where
  | item (value : α) (channel : Broadcast α)
  | lagged (skipped : ℕ) (channel : Broadcast α)
  | empty

/-- Receives: the number of missed values first, then the oldest value. -/
def recv (c : Broadcast α) : Received α :=
  if c.missed = 0 then
    match h : c.queue with
    | [] => .empty
    | a :: rest =>
      .item a { c with
        queue := rest
        bounded := by
          have hbounded := c.bounded
          rw [h, List.length_cons] at hbounded
          omega }
  else .lagged c.missed { c with missed := 0 }

/-- What was sent and neither read nor reported as missed. -/
def backlog (c : Broadcast α) : ℕ :=
  c.missed + c.queue.length

/-! ## Nothing gets lost without being counted -/

/-- **Every send adds one**, be it to the ring or to what was overwritten. -/
theorem backlog_send (c : Broadcast α) (a : α) : (c.send a).backlog = c.backlog + 1 := by
  have hpos := c.pos
  simp only [backlog, send]
  split
  · simp only [List.length_append, List.length_singleton]
    omega
  · simp only [List.length_append, List.length_tail, List.length_singleton]
    omega

/-- A receive of a value takes one. -/
theorem backlog_recv_item {c c' : Broadcast α} {a : α} (h : c.recv = .item a c') :
    c.backlog = c'.backlog + 1 ∧ c.missed = 0 ∧ c.queue = a :: c'.queue := by
  unfold recv at h
  split at h
  · rename_i hmissed
    split at h
    · cases h
    · rename_i value rest hqueue
      cases h
      refine ⟨?_, hmissed, hqueue⟩
      simp only [backlog, hqueue, List.length_cons]
      omega
  · cases h

/-- A report takes what it reports. -/
theorem backlog_recv_lagged {c c' : Broadcast α} {skipped : ℕ} (h : c.recv = .lagged skipped c') :
    c.backlog = c'.backlog + skipped ∧ 0 < skipped ∧ c'.queue = c.queue := by
  unfold recv at h
  split at h
  · split at h <;> cases h
  · rename_i hmissed
    cases h
    refine ⟨?_, Nat.pos_of_ne_zero hmissed, rfl⟩
    simp only [backlog]
    omega

/-- What can be read after a send is the end of what there was. -/
theorem queue_send_sublist (c : Broadcast α) (a : α) :
    (c.send a).queue.Sublist (c.queue ++ [a]) := by
  unfold send
  split
  · exact List.Sublist.refl _
  · exact (List.tail_sublist c.queue).append (List.Sublist.refl [a])

end Broadcast
