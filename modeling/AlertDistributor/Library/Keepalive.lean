import AlertDistributor.Library.Runs
import Mathlib.Data.Nat.Notation

/-!
# Periodic ticks and the signs of life between them

A timeline is a list of events with their times.  Some of its events are ticks, which are
due every `interval` from the start on (`Timeline`), and some are signs of life of a peer.
A watchdog that compares the time of a tick with that of the last sign of life
(`lastSeen`) relies on two facts: a peer that shows one between any two ticks was last seen
at most one interval before each tick (`tick_le_lastSeen`), and an event that comes one
interval later than some time follows a tick that was due at that time
(`exists_tick_of_late`).
-/

set_option autoImplicit false

namespace Keepalive

universe u

variable {α : Type u} (interval : ℕ) (isTick isSign : α → Bool)

/-! ## Timelines -/

/-- The ticks of a timeline. -/
def ticks (events : List (ℕ × α)) : ℕ :=
  events.countP fun e => isTick e.2

/-- An event that may come next: it is not earlier than another one, no tick is overdue,
and a tick comes when it is due. -/
structure OnSchedule (pre : List (ℕ × α)) (e : ℕ × α) : Prop where
  sorted : ∀ e' ∈ pre, e'.1 ≤ e.1
  due : e.1 ≤ ticks isTick pre * interval
  onTime : isTick e.2 = true → e.1 = ticks isTick pre * interval

/-- Every event comes on schedule; the first tick is due at the start. -/
def Timeline (events : List (ℕ × α)) : Prop :=
  ∀ pre e post, events = pre ++ e :: post → OnSchedule interval isTick pre e

/-- The time of the last sign of life, that of the start if there is none. -/
def lastSeen (events : List (ℕ × α)) : ℕ :=
  events.foldl (fun seen e => if isSign e.2 then e.1 else seen) 0

/-- The peer shows a sign of life after each tick and before the next one. -/
def Answered (events : List (ℕ × α)) : Prop :=
  ∀ pre t mid t' post, events = pre ++ t :: (mid ++ t' :: post) →
    isTick t.2 = true → isTick t'.2 = true → (∀ e ∈ mid, isTick e.2 = false) →
      ∃ e ∈ mid, isSign e.2 = true

variable {interval isTick isSign}

/-- An empty timeline is on schedule. -/
theorem timeline_nil : Timeline interval isTick ([] : List (ℕ × α)) := by
  intro pre e post heq
  simp at heq

/-- A timeline goes on with an event that is on schedule. -/
theorem timeline_concat {events : List (ℕ × α)} {e : ℕ × α} :
    Timeline interval isTick (events ++ [e]) ↔
      Timeline interval isTick events ∧ OnSchedule interval isTick events e := by
  constructor
  · intro h
    refine ⟨?_, h events e [] rfl⟩
    intro pre e' post heq
    exact h pre e' (post ++ [e]) (by rw [heq, List.append_assoc, List.cons_append])
  · rintro ⟨h, hnext⟩ pre e' post heq
    rcases Runs.concat_eq_append_cons_iff.mp heq with ⟨rfl, rfl, -⟩ | ⟨rest, -, hpre⟩
    · exact hnext
    · exact h pre e' rest hpre

/-- The part of a timeline before some moment is one. -/
theorem Timeline.before {pre post : List (ℕ × α)} (h : Timeline interval isTick (pre ++ post)) :
    Timeline interval isTick pre := by
  intro pre' e post' heq
  exact h pre' e (post' ++ post) (by rw [heq, List.append_assoc, List.cons_append])

/-! ## Answers -/

/-- Where nothing happens nothing is left unanswered. -/
theorem answered_nil : Answered isTick isSign ([] : List (ℕ × α)) := by
  intro pre t mid t' post heq
  simp at heq

/-- An event that is no tick, or a tick that comes right after a sign of life, leaves no tick
without an answer. -/
theorem Answered.concat {events : List (ℕ × α)} {e : ℕ × α}
    (h : Answered isTick isSign events)
    (hlast : isTick e.2 = true → ∀ front s, events = front ++ [s] →
      isTick s.2 = false ∧ isSign s.2 = true) : Answered isTick isSign (events ++ [e]) := by
  intro pre t mid t' post heq ht ht' hmid
  rw [← List.cons_append, ← List.append_assoc, Runs.concat_eq_append_cons_iff] at heq
  rcases heq with ⟨heq, rfl, -⟩ | ⟨rest, rfl, heq⟩
  · -- the new event is the tick that asks for an answer
    rcases List.eq_nil_or_concat mid with rfl | ⟨front, s, rfl⟩
    · rw [(hlast ht' pre t heq).1] at ht
      cases ht
    · refine ⟨s, by simp, (hlast ht' (pre ++ t :: front) s ?_).2⟩
      rw [heq, List.concat_eq_append, List.append_assoc, List.cons_append]
  · refine h pre t mid t' rest ?_ ht ht' hmid
    rw [heq, List.append_assoc, List.cons_append]

/-! ## The last sign of life -/

/-- A sign of life is the last one when it comes. -/
theorem lastSeen_concat (events : List (ℕ × α)) (e : ℕ × α) :
    lastSeen isSign (events ++ [e]) = if isSign e.2 then e.1 else lastSeen isSign events := by
  rw [lastSeen, List.foldl_append]
  rfl

/-- The peer was last seen no earlier than at any of its signs of life. -/
theorem le_lastSeen {events : List (ℕ × α)} (h : Timeline interval isTick events) {e : ℕ × α}
    (he : e ∈ events) (hsign : isSign e.2 = true) : e.1 ≤ lastSeen isSign events := by
  induction events using List.reverseRecOn with
  | nil => cases he
  | append_singleton events last ih =>
    obtain ⟨hbefore, hlast⟩ := timeline_concat.mp h
    rw [lastSeen_concat]
    rcases List.mem_append.mp he with hin | hnew
    · split
      · exact hlast.sorted e hin
      · exact ih hbefore hin
    · obtain rfl : e = last := List.mem_singleton.mp hnew
      exact Nat.le_of_eq (if_pos hsign).symm

/-- A peer that shows nothing after `p` was last seen by then. -/
theorem lastSeen_le {events : List (ℕ × α)} {p : ℕ}
    (h : ∀ e ∈ events, isSign e.2 = true → e.1 ≤ p) : lastSeen isSign events ≤ p := by
  induction events using List.reverseRecOn with
  | nil => exact Nat.zero_le p
  | append_singleton events last ih =>
    rw [lastSeen_concat]
    split
    · rename_i hsign
      exact h last (by simp) hsign
    · exact ih fun e he => h e (List.mem_append_left _ he)

/-! ## The last tick -/

/-- A further event is a further tick, or none. -/
theorem ticks_concat (events : List (ℕ × α)) (e : ℕ × α) :
    ticks isTick (events ++ [e]) = ticks isTick events + if isTick e.2 then 1 else 0 := by
  unfold ticks
  rw [List.countP_append, List.countP_singleton]

/-- A timeline with a tick breaks at its last one, which comes one interval before the next
tick is due. -/
theorem exists_last_tick {events : List (ℕ × α)} (h : Timeline interval isTick events)
    (hpos : 0 < ticks isTick events) :
    ∃ front t back, events = front ++ t :: back ∧ isTick t.2 = true ∧
      (∀ e ∈ back, isTick e.2 = false) ∧ t.1 + interval = ticks isTick events * interval := by
  induction events using List.reverseRecOn with
  | nil => cases hpos
  | append_singleton events last ih =>
    obtain ⟨hbefore, hlast⟩ := timeline_concat.mp h
    cases htick : isTick last.2 with
    | true =>
      have hcount : ticks isTick (events ++ [last]) = ticks isTick events + 1 := by
        rw [ticks_concat, if_pos htick]
      refine ⟨events, last, [], rfl, htick, by simp, ?_⟩
      rw [hlast.onTime htick, hcount, Nat.add_mul, Nat.one_mul]
    | false =>
      have hcount : ticks isTick (events ++ [last]) = ticks isTick events := by
        simp [ticks_concat, htick]
      rw [hcount] at hpos
      obtain ⟨front, t, back, rfl, ht, hback, htime⟩ := ih hbefore hpos
      refine ⟨front, t, back ++ [last], by simp, ht, ?_, by rw [hcount, htime]⟩
      intro e he
      rcases List.mem_append.mp he with hin | hnew
      · exact hback e hin
      · rwa [List.mem_singleton.mp hnew]

/-! ## What a watchdog relies on -/

/-- **A peer that answers every tick was seen within the last interval.** -/
theorem tick_le_lastSeen {pre post : List (ℕ × α)} {e : ℕ × α}
    (h : Timeline interval isTick (pre ++ e :: post))
    (hanswered : Answered isTick isSign (pre ++ e :: post)) (he : isTick e.2 = true) :
    e.1 ≤ lastSeen isSign pre + interval := by
  have hbefore : Timeline interval isTick pre := h.before
  have htime : e.1 = ticks isTick pre * interval := (h pre e post rfl).onTime he
  by_cases hpos : 0 < ticks isTick pre
  · obtain ⟨front, t, back, rfl, ht, hback, hprev⟩ := exists_last_tick hbefore hpos
    obtain ⟨sign, hmem, hsign⟩ := hanswered front t back e post (by simp) ht he hback
    have hseen : sign.1 ≤ lastSeen isSign (front ++ t :: back) :=
      le_lastSeen hbefore (by simp [hmem]) hsign
    have hafter : t.1 ≤ sign.1 := by
      obtain ⟨back₁, back₂, rfl⟩ := List.append_of_mem hmem
      exact (h (front ++ t :: back₁) sign (back₂ ++ e :: post) (by simp)).sorted t (by simp)
    omega
  · have hzero : ticks isTick pre = 0 := by omega
    rw [htime, hzero]
    omega

/-- **One interval after any time, a tick that was due at that time has come.** -/
theorem exists_tick_of_late {pre post : List (ℕ × α)} {e : ℕ × α} {d : ℕ}
    (h : Timeline interval isTick (pre ++ e :: post)) (hinterval : 0 < interval)
    (hlate : d + interval ≤ e.1) :
    ∃ front t back, pre = front ++ t :: back ∧ isTick t.2 = true ∧ d ≤ t.1 := by
  have hdue : e.1 ≤ ticks isTick pre * interval := (h pre e post rfl).due
  have hpos : 0 < ticks isTick pre := by
    by_contra hnone
    have hzero : ticks isTick pre = 0 := by omega
    rw [hzero] at hdue
    omega
  obtain ⟨front, t, back, heq, ht, -, htime⟩ := exists_last_tick h.before hpos
  exact ⟨front, t, back, heq, ht, by omega⟩

end Keepalive
