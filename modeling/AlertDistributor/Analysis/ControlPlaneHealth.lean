import AlertDistributor.Analysis.ControlPlaneConsumer
import Mathlib.Algebra.Order.BigOperators.Group.Finset

/-!
# What `/health` says of the control plane

The three values are those of the last contacts with the broker (`healthOf`).  A probe asks
for the partitions one after the other while others publish, so the lag it measures belongs
to no single moment; it lies between what was missing when it began and what is missing
when it ends.  `Reported` says how far a probe under way has come.
-/

set_option autoImplicit false

namespace AlertDistributor.Analysis

open AlertDistributor.Model AlertDistributor.Interface AlertDistributor.System FiniteMap

variable {Partition Payload Value : Type} [DecidableEq Partition]

/-! ## The contacts -/

/-- The offsets of a partition that were not reached. -/
def missing (s : ControlPlane Partition Payload) (partition : Partition) : ℕ :=
  (s.topic partition).endOffset - positionAt s partition

/-- A probe under way: the sum so far is at most what is missing from the partitions that
were asked, and with what is missing from the others it is at least what was missing when it
began. -/
structure Underway (l : ControlLedger Partition Payload) (s : ControlPlane Partition Payload)
    (left : Finset Partition) (total : ℤ) : Prop where
  begun : l.begun.1 ≤ l.begun.2
  subset : left ⊆ s.position.keys
  begun_le : (l.begun.2 : ℤ) ≤ total + ∑ partition ∈ left, missing s partition
  total_le : total ≤ ∑ partition ∈ s.position.keys \ left, missing s partition

/-- What a completed probe says. -/
def Truthful : Contact → Prop
  | .probed unapplied behind lag behindNow =>
    unapplied ≤ behind ∧ (behind : ℤ) ≤ lag ∧ lag ≤ behindNow
  | _ => True

structure Reported (l : ControlLedger Partition Payload) (s : ControlPlane Partition Payload) :
    Prop where
  health_eq : s.health = healthOf l.contacts
  applied_eq : l.contacts.filterMap Contact.appliedOffset? =
    l.received.map fun r => (r.2.offset : ℤ)
  truthful : ∀ c ∈ l.contacts, Truthful c
  underway : ∀ left total, s.phase = .probing left total → Underway l s left total

variable {decoder : Decoder Payload Value} {l : ControlLedger Partition Payload}
  {s s' : ControlPlane Partition Payload}

/-- While the topic grows, more is missing. -/
theorem Underway.continued {left : Finset Partition} {total : ℤ}
    {topic : Partition → ControlLog Payload} (h : Underway l s left total)
    (htopic : ∀ q, (s.topic q).Continues (topic q))
    {published : List (Published Partition Payload)} :
    Underway { l with published := published } { s with topic := topic } left total := by
  have hmissing : ∀ q, missing s q ≤ missing { s with topic := topic } q := by
    intro q
    exact Nat.sub_le_sub_right (htopic q).endOffset_le _
  have hleft : ∑ q ∈ left, missing s q ≤ ∑ q ∈ left, missing { s with topic := topic } q :=
    Finset.sum_le_sum fun q _ => hmissing q
  have hasked : ∑ q ∈ s.position.keys \ left, missing s q ≤
      ∑ q ∈ s.position.keys \ left, missing { s with topic := topic } q :=
    Finset.sum_le_sum fun q _ => hmissing q
  have hbegun := h.begun_le
  have htotal := h.total_le
  refine ⟨h.begun, h.subset, ?_, ?_⟩
  · show (l.begun.2 : ℤ) ≤ total + _
    omega
  · show total ≤ _
    exact htotal.trans (by exact_mod_cast hasked)

/-- What is published later does not change what was reported. -/
theorem Reported.continued (h : Reported l s) {topic : Partition → ControlLog Payload}
    (htopic : ∀ q, (s.topic q).Continues (topic q))
    {published : List (Published Partition Payload)} :
    Reported { l with published := published } { s with topic := topic } :=
  { h with underway := fun left total hphase => (h.underway left total hphase).continued htopic }

/-- A probe that has asked every partition. -/
theorem Underway.truthful {total : ℤ} (h : Underway l s ∅ total) :
    Truthful (.probed l.begun.1 l.begun.2 total (behind s)) := by
  have hbegun := h.begun_le
  have htotal := h.total_le
  rw [Finset.sum_empty] at hbegun
  rw [Finset.sdiff_empty] at htotal
  refine ⟨h.begun, by simpa using hbegun, htotal⟩

/-- A phase that is no probe is all right. -/
theorem Reported.moved {phase : ControlPhase Partition} (h : Reported l s)
    (hphase : ∀ left total, phase ≠ .probing left total) {noted : Partition → ℕ}
    {views : List (ViewRows × ℕ)} {cache : State} :
    Reported { l with noted := noted, views := views }
      { s with phase := phase, cache := cache } :=
  { h with underway := fun left total heq => (hphase left total heq).elim }

end AlertDistributor.Analysis
