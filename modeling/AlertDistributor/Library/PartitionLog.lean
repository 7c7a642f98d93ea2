import Mathlib.Data.List.Nodup
import Mathlib.Logic.Function.Basic
import Mathlib.Order.Interval.Finset.Nat
import Mathlib.Tactic.Basic

/-!
# A log that is read by offset

An append-only log gives every record an offset; the offsets grow, and some may be missing.
A reader holds a position and takes the first record at or above it.  `Settled` says that
every record below an offset has some property: the rules say that appending keeps it, and
that a reader who settles each record before the next keeps it at its position.  `segment`
is what lies between two offsets: a reader that takes a record extends the segment behind it
by that record, and a segment has at most as many records as offsets.
-/

set_option autoImplicit false

universe u v

/-- A record of a log. -/
structure LogRecord (α : Type u) where
  offset : ℕ
  value : α
deriving DecidableEq

/-- An append-only log. -/
structure PartitionLog (α : Type u) where
  records : List (LogRecord α)
  /-- The next record gets at least this offset. -/
  endOffset : ℕ
  ordered : records.Pairwise fun r r' => r.offset < r'.offset
  below : ∀ r ∈ records, r.offset < endOffset

namespace PartitionLog

variable {α : Type u}

/-- A log without records. -/
def empty : PartitionLog α :=
  ⟨[], 0, List.Pairwise.nil, by simp⟩

/-- Appends a record, after a number of offsets that stay without one. -/
def append (log : PartitionLog α) (gap : ℕ) (value : α) : PartitionLog α where
  records := log.records ++ [⟨log.endOffset + gap, value⟩]
  endOffset := log.endOffset + gap + 1
  ordered := by
    refine List.pairwise_append.mpr ⟨log.ordered, List.pairwise_singleton _ _, ?_⟩
    intro r hr r' hr'
    have hbelow := log.below r hr
    rw [List.mem_singleton.mp hr']
    show r.offset < log.endOffset + gap
    omega
  below := by
    intro r hr
    rcases List.mem_append.mp hr with hold | hnew
    · have hbelow := log.below r hold
      omega
    · rw [List.mem_singleton.mp hnew]
      show log.endOffset + gap < log.endOffset + gap + 1
      omega

/-- Uses up an offset without a record. -/
def skip (log : PartitionLog α) : PartitionLog α where
  records := log.records
  endOffset := log.endOffset + 1
  ordered := log.ordered
  below r hr := Nat.lt_succ_of_lt (log.below r hr)

/-- The first record at a position or above it. -/
def next (log : PartitionLog α) (position : ℕ) : Option (LogRecord α) :=
  log.records.find? fun r => position ≤ r.offset

/-- An appended log has the new record as well. -/
@[simp] theorem mem_append {log : PartitionLog α} {gap : ℕ} {value : α} {r : LogRecord α} :
    r ∈ (log.append gap value).records ↔
      r ∈ log.records ∨ r = ⟨log.endOffset + gap, value⟩ := by
  rw [append, List.mem_append, List.mem_singleton]

/-- An offset has one record. -/
theorem eq_of_offset_eq (log : PartitionLog α) {r r' : LogRecord α} (hr : r ∈ log.records)
    (hr' : r' ∈ log.records) (h : r.offset = r'.offset) : r = r' := by
  have hnodup : (log.records.map LogRecord.offset).Nodup :=
    List.pairwise_map.mpr (log.ordered.imp Nat.ne_of_lt)
  exact List.inj_on_of_nodup_map hnodup hr hr' h

/-- **A reader skips nothing**: the records below the one it takes are below its position. -/
theorem next_eq_some {log : PartitionLog α} {position : ℕ} {r : LogRecord α}
    (h : log.next position = some r) :
    r ∈ log.records ∧ position ≤ r.offset ∧
      ∀ r' ∈ log.records, r'.offset < r.offset → r'.offset < position := by
  obtain ⟨hposition, before, after, hrecords, hbefore⟩ := List.find?_eq_some_iff_append.mp h
  refine ⟨List.mem_of_find?_eq_some h, of_decide_eq_true hposition, ?_⟩
  intro r' hr' hlt
  have hordered := log.ordered
  rw [hrecords] at hr' hordered
  rcases List.mem_append.mp hr' with hmem | hmem
  · have hskipped := hbefore r' hmem
    simp only [Bool.not_eq_true', decide_eq_false_iff_not] at hskipped
    omega
  · -- a record that comes later has a larger offset
    have hafter := List.pairwise_cons.mp (List.pairwise_append.mp hordered).2.1
    rcases List.mem_cons.mp hmem with hsame | hmem
    · rw [hsame] at hlt
      omega
    · have hgt := hafter.1 r' hmem
      omega

/-! ## What is settled below an offset -/

/-- Every record below an offset has a property. -/
def Settled (log : PartitionLog α) (P : LogRecord α → Prop) (offset : ℕ) : Prop :=
  ∀ r ∈ log.records, r.offset < offset → P r

variable {log : PartitionLog α} {P Q : LogRecord α → Prop} {offset : ℕ}

/-- There is nothing below offset 0. -/
theorem settled_zero (log : PartitionLog α) (P : LogRecord α → Prop) : log.Settled P 0 := by
  intro r _ hlt
  omega

/-- What is settled in one way is settled in every weaker one. -/
theorem Settled.mono (h : log.Settled P offset) (himp : ∀ r, P r → Q r) :
    log.Settled Q offset := by
  intro r hr hlt
  exact himp r (h r hr hlt)

/-- A new record is above every offset that was reached. -/
theorem Settled.append (h : log.Settled P offset) (hle : offset ≤ log.endOffset) (gap : ℕ)
    (value : α) : (log.append gap value).Settled P offset := by
  intro r hr hlt
  rcases mem_append.mp hr with hold | rfl
  · exact h r hold hlt
  · have hnew : log.endOffset + gap < offset := hlt
    omega

/-- Between its position and the record that it takes, a reader leaves nothing out. -/
theorem Settled.next {position : ℕ} {r : LogRecord α} (h : log.Settled P position)
    (hnext : log.next position = some r) : log.Settled P r.offset := by
  obtain ⟨-, -, hskipped⟩ := next_eq_some hnext
  intro r' hr' hlt
  exact h r' hr' (hskipped r' hr' hlt)

/-- **A reader that settles the record it took** may move past it. -/
theorem Settled.succ {r : LogRecord α} (h : log.Settled P r.offset) (hr : r ∈ log.records)
    (hP : P r) : log.Settled P (r.offset + 1) := by
  intro r' hr' hlt
  rcases Nat.lt_succ_iff_lt_or_eq.mp hlt with hbelow | hsame
  · exact h r' hr' hbelow
  · rw [log.eq_of_offset_eq hr' hr hsame]
    exact hP

/-! ## What lies between two offsets -/

/-- The records from an offset up to another one. -/
def segment (log : PartitionLog α) (start stop : ℕ) : List (LogRecord α) :=
  log.records.filter fun r => start ≤ r.offset ∧ r.offset < stop

/-- A segment has the records with an offset in it. -/
theorem mem_segment {log : PartitionLog α} {start stop : ℕ} {r : LogRecord α} :
    r ∈ log.segment start stop ↔ r ∈ log.records ∧ start ≤ r.offset ∧ r.offset < stop := by
  rw [segment, List.mem_filter, decide_eq_true_eq]

/-- From an offset to itself there is no record. -/
@[simp] theorem segment_self (log : PartitionLog α) (start : ℕ) :
    log.segment start start = [] := by
  rw [List.eq_nil_iff_forall_not_mem]
  intro r hr
  have hbounds := (mem_segment.mp hr).2
  omega

/-- A log that was continued: below its old end nothing changed. -/
structure Continues (log log' : PartitionLog α) : Prop where
  endOffset_le : log.endOffset ≤ log'.endOffset
  segment_eq : ∀ start stop, stop ≤ log.endOffset →
    log'.segment start stop = log.segment start stop

/-- A log continues itself. -/
theorem continues_refl (log : PartitionLog α) : log.Continues log :=
  ⟨Nat.le_refl _, fun _ _ _ => rfl⟩

/-- A log goes on when an offset is used up without a record. -/
theorem continues_skip (log : PartitionLog α) : log.Continues log.skip :=
  ⟨Nat.le_succ _, fun _ _ _ => rfl⟩

/-- A new record is above every segment that was reached. -/
theorem continues_append (log : PartitionLog α) (gap : ℕ) (value : α) :
    log.Continues (log.append gap value) := by
  refine ⟨?_, fun start stop hle => ?_⟩
  · show log.endOffset ≤ log.endOffset + gap + 1
    omega
  · have hnew : ¬ (start ≤ log.endOffset + gap ∧ log.endOffset + gap < stop) := by omega
    simp [segment, append, List.filter_append, hnew]

/-- Continuing one log of a family continues them all. -/
theorem continues_update {κ : Type v} [DecidableEq κ] {logs : κ → PartitionLog α} {a : κ}
    {log : PartitionLog α} (h : (logs a).Continues log) (b : κ) :
    (logs b).Continues (Function.update logs a log b) := by
  by_cases hb : b = a
  · subst hb
    rwa [Function.update_self]
  · rw [Function.update_of_ne hb]
    exact continues_refl _

/-- In a list that a key orders, what is below a bound comes before what is not. -/
theorem filter_lt_append_filter_ge {β : Type u} {key : β → ℕ} {xs : List β}
    (h : xs.Pairwise fun a b => key a < key b) (bound : ℕ) :
    xs.filter (fun a => key a < bound) ++ xs.filter (fun a => bound ≤ key a) = xs := by
  induction xs with
  | nil => rfl
  | cons x xs ih =>
    obtain ⟨hx, hxs⟩ := List.pairwise_cons.mp h
    by_cases hlt : key x < bound
    · have hge : ¬ bound ≤ key x := by omega
      simp only [List.filter_cons, hlt, hge, decide_true, decide_false, if_true]
      rw [List.cons_append]
      simpa using ih hxs
    · -- from `x` on nothing is below the bound
      have hge : bound ≤ key x := by omega
      have hnone : xs.filter (fun a => key a < bound) = [] := by
        refine List.filter_eq_nil_iff.mpr fun a ha => ?_
        have hgt := hx a ha
        simp only [decide_eq_true_eq]
        omega
      have hall : xs.filter (fun a => bound ≤ key a) = xs := by
        refine List.filter_eq_self.mpr fun a ha => ?_
        have hgt := hx a ha
        simp only [decide_eq_true_eq]
        omega
      simp [hlt, hge, hnone, hall]

/-- Two segments that meet are one. -/
theorem segment_append_segment (log : PartitionLog α) {start mid stop : ℕ}
    (hstart : start ≤ mid) (hstop : mid ≤ stop) :
    log.segment start mid ++ log.segment mid stop = log.segment start stop := by
  have hordered : (log.segment start stop).Pairwise fun r r' => r.offset < r'.offset :=
    log.ordered.filter _
  rw [← filter_lt_append_filter_ge hordered mid]
  simp only [segment, List.filter_filter]
  congr 1
  · refine List.filter_congr fun r _ => ?_
    rw [← Bool.decide_and, decide_eq_decide]
    omega
  · refine List.filter_congr fun r _ => ?_
    rw [← Bool.decide_and, decide_eq_decide]
    omega

/-- Nothing lies between a position and the next record. -/
theorem segment_before_next {log : PartitionLog α} {position : ℕ} {r : LogRecord α}
    (h : log.next position = some r) : log.segment position r.offset = [] := by
  obtain ⟨-, -, hskipped⟩ := next_eq_some h
  rw [List.eq_nil_iff_forall_not_mem]
  intro r' hr'
  obtain ⟨hmem, hfrom, hto⟩ := mem_segment.mp hr'
  have hbelow := hskipped r' hmem hto
  omega

/-- What lies before the next record is that record. -/
theorem segment_to_next {log : PartitionLog α} {position : ℕ} {r : LogRecord α}
    (h : log.next position = some r) : log.segment position (r.offset + 1) = [r] := by
  obtain ⟨hr, hposition, hskipped⟩ := next_eq_some h
  have hnodup : (log.segment position (r.offset + 1)).Nodup :=
    (log.ordered.imp fun hlt heq => by rw [heq] at hlt; omega).filter _
  have honly : ∀ r', r' ∈ log.segment position (r.offset + 1) ↔ r' = r := by
    intro r'
    rw [mem_segment]
    constructor
    · rintro ⟨hr', hfrom, hto⟩
      refine log.eq_of_offset_eq hr' hr ?_
      by_contra hne
      have hbelow := hskipped r' hr' (by omega)
      omega
    · rintro rfl
      exact ⟨hr, hposition, by omega⟩
  exact List.perm_singleton.mp ((List.perm_ext_iff_of_nodup hnodup
    (List.nodup_singleton r)).mpr fun r' => (honly r').trans List.mem_singleton.symm)

/-- **A reader that takes a record** extends the segment behind it by that record. -/
theorem segment_next {log : PartitionLog α} {start position : ℕ} {r : LogRecord α}
    (hstart : start ≤ position) (h : log.next position = some r) :
    log.segment start (r.offset + 1) = log.segment start position ++ [r] := by
  have hposition := (next_eq_some h).2.1
  rw [← segment_to_next h]
  exact (log.segment_append_segment hstart (by omega)).symm

/-- A reader that takes a record has one record less before it. -/
theorem length_segment_next {log : PartitionLog α} {position : ℕ} {r : LogRecord α}
    (h : log.next position = some r) :
    (log.segment position log.endOffset).length =
      (log.segment (r.offset + 1) log.endOffset).length + 1 := by
  obtain ⟨hr, hposition, -⟩ := next_eq_some h
  have hbelow := log.below r hr
  have hsplit := log.segment_append_segment (show position ≤ r.offset + 1 by omega) hbelow
  rw [← hsplit, segment_to_next h, List.length_append, List.length_singleton]
  omega

/-- A reader finds nothing exactly when no record lies before it. -/
theorem next_eq_none_iff {log : PartitionLog α} {position : ℕ} :
    log.next position = none ↔ (log.segment position log.endOffset).length = 0 := by
  rw [next, List.find?_eq_none, List.length_eq_zero_iff, List.eq_nil_iff_forall_not_mem]
  constructor
  · intro h r hr
    obtain ⟨hmem, hfrom, -⟩ := mem_segment.mp hr
    exact h r hmem (decide_eq_true hfrom)
  · intro h r hr hfrom
    exact h r (mem_segment.mpr ⟨hr, of_decide_eq_true hfrom, log.below r hr⟩)

end PartitionLog
