import Mathlib.Data.List.Induction
import Mathlib.Logic.Function.Basic

/-!
# Tables that hold the last write per key

A `Write` names a key and either its new value or a removal (`none`), and a log of writes
is replayed into a table from left to right (`replay`).  Only the last write per key
counts (`replay_apply`), which gives the three facts a consumer of such a log relies on:

* two logs with the same writes per key, interleaved differently, give one table
  (`replay_congr`);
* a snapshot taken later than the position one replays from does no harm: the overlap is
  applied twice and cancels out (`replay_overlap`), even when it shows every key at a stage
  of its own (`replay_stage`);
* listing a table's rows in any order rebuilds it (`replay_rows`).
-/

set_option autoImplicit false

namespace LastWrite

universe u v w

/-- One write: the key and its new value, `none` for a removal. -/
structure Write (κ : Type u) (ν : Type v) where
  key : κ
  value : Option ν

/-- A table: what each key holds. -/
abbrev Table (κ : Type u) (ν : Type v) := κ → Option ν

variable {κ : Type u} {ν : Type v} [DecidableEq κ]

/-- The table after one write. -/
def Table.write (t : Table κ ν) (w : Write κ ν) : Table κ ν :=
  Function.update t w.key w.value

/-- The table after a log of writes. -/
def replay (t : Table κ ν) (log : List (Write κ ν)) : Table κ ν :=
  log.foldl Table.write t

/-- The table after a log of writes that starts from nothing. -/
def tableOf (log : List (Write κ ν)) : Table κ ν :=
  replay (fun _ => none) log

/-- The last write of a log to one key. -/
def lastWrite? (log : List (Write κ ν)) (k : κ) : Option (Write κ ν) :=
  (log.filter fun w => w.key = k).getLast?

/-- A write changes its key only. -/
theorem Table.write_apply (t : Table κ ν) (w : Write κ ν) (k : κ) :
    t.write w k = if k = w.key then w.value else t k := by
  rw [Table.write, Function.update_apply]

/-- Without a write nothing changes. -/
@[simp] theorem replay_nil (t : Table κ ν) : replay t [] = t := rfl

/-- The first write comes first. -/
theorem replay_cons (t : Table κ ν) (w : Write κ ν) (log : List (Write κ ν)) :
    replay t (w :: log) = replay (t.write w) log := rfl

/-- A log in two parts is replayed part by part. -/
theorem replay_append (t : Table κ ν) (log log' : List (Write κ ν)) :
    replay t (log ++ log') = replay (replay t log) log' := by
  rw [replay, List.foldl_append]; rfl

/-- The table of a log in two parts is the first table with the second part replayed. -/
theorem tableOf_append (log log' : List (Write κ ν)) :
    tableOf (log ++ log') = replay (tableOf log) log' :=
  replay_append _ _ _

/-- **Only the last write to a key counts**; without one the starting table shows. -/
theorem replay_apply (t : Table κ ν) (log : List (Write κ ν)) (k : κ) :
    replay t log k = match lastWrite? log k with
      | some w => w.value
      | none => t k := by
  induction log using List.reverseRecOn with
  | nil => rfl
  | append_singleton log w ih =>
    rw [replay_append, replay_cons, replay_nil, Table.write_apply]
    unfold lastWrite? at ih ⊢
    rw [List.filter_append]
    by_cases h : w.key = k
    · simp [h]
    · simpa [h, Ne.symm h] using ih

/-- A log without a write to a key leaves it alone. -/
theorem replay_apply_of_free (t : Table κ ν) {log : List (Write κ ν)} {k : κ}
    (h : ∀ w ∈ log, w.key ≠ k) : replay t log k = t k := by
  have hnone : lastWrite? log k = none := by
    rw [lastWrite?, List.getLast?_eq_none_iff, List.filter_eq_nil_iff]
    intro w hw
    simpa using h w hw
  rw [replay_apply, hnone]

/-- A key holds what its last write says. -/
theorem tableOf_apply (log : List (Write κ ν)) (k : κ) :
    tableOf log k = (lastWrite? log k).bind Write.value := by
  rw [tableOf, replay_apply]
  cases lastWrite? log k <;> rfl

/-- The last write to a key is a write to that key. -/
theorem key_of_lastWrite? {log : List (Write κ ν)} {k : κ} {w : Write κ ν}
    (h : lastWrite? log k = some w) : w.key = k := by
  have hmem := List.mem_of_getLast? h
  simpa using (List.mem_filter.mp hmem).2

/-- A value in the table was put there by the last write to its key. -/
theorem lastWrite?_of_tableOf {log : List (Write κ ν)} {k : κ} {v : ν}
    (h : tableOf log k = some v) : lastWrite? log k = some ⟨k, some v⟩ := by
  rw [tableOf_apply, Option.bind_eq_some_iff] at h
  obtain ⟨⟨k', v'⟩, hw, hv⟩ := h
  obtain rfl : k' = k := key_of_lastWrite? hw
  obtain rfl : v' = some v := hv
  exact hw

/-- Every value in the table was written by some write of the log. -/
theorem mem_of_tableOf {log : List (Write κ ν)} {k : κ} {v : ν}
    (h : tableOf log k = some v) : (⟨k, some v⟩ : Write κ ν) ∈ log :=
  (List.mem_filter.mp (List.mem_of_getLast? (lastWrite?_of_tableOf h))).1

/-- Logs that agree key by key, whatever their interleaving, give the same table. -/
theorem replay_congr {log log' : List (Write κ ν)}
    (h : ∀ k, log.filter (fun w => w.key = k) = log'.filter fun w => w.key = k)
    (t : Table κ ν) : replay t log = replay t log' := by
  funext k
  rw [replay_apply, replay_apply, lastWrite?, lastWrite?, h k]

/-- Replaying a log a second time changes nothing. -/
theorem replay_replay_self (t : Table κ ν) (log : List (Write κ ν)) :
    replay (replay t log) log = replay t log := by
  funext k
  simp only [replay_apply]
  cases lastWrite? log k <;> rfl

/-- **Overlap is harmless.**  A table taken after `early ++ overlap` and brought up to
date by replaying `overlap ++ late` is the table of the whole log. -/
theorem replay_overlap (t : Table κ ν) (early overlap late : List (Write κ ν)) :
    replay (replay t (early ++ overlap)) (overlap ++ late) =
      replay t (early ++ overlap ++ late) := by
  simp only [replay_append, replay_replay_self]

/-- **A snapshot and the log from an earlier position give the table of the log.**  The
snapshot stands at position `k`, the replay starts at `j`, and each entry of the log writes
the table at most once. -/
theorem replay_snapshot {ε : Type w} (log : List ε) (write? : ε → Option (Write κ ν)) {j k : ℕ}
    (hjk : j ≤ k) :
    replay (tableOf ((log.take k).filterMap write?)) ((log.drop j).filterMap write?) =
      tableOf (log.filterMap write?) := by
  obtain ⟨d, rfl⟩ := Nat.exists_eq_add_of_le hjk
  have htake : (log.take (j + d)).filterMap write? =
      (log.take j).filterMap write? ++ ((log.drop j).take d).filterMap write? := by
    rw [List.take_add, List.filterMap_append]
  have hdrop : (log.drop j).filterMap write? =
      ((log.drop j).take d).filterMap write? ++ (log.drop (j + d)).filterMap write? := by
    rw [← List.filterMap_append, ← List.drop_drop, List.take_append_drop]
  calc replay (tableOf ((log.take (j + d)).filterMap write?)) ((log.drop j).filterMap write?)
      = replay (tableOf ((log.take j).filterMap write? ++ ((log.drop j).take d).filterMap write?))
          (((log.drop j).take d).filterMap write? ++ (log.drop (j + d)).filterMap write?) := by
        rw [htake, hdrop]
    _ = tableOf ((log.take j).filterMap write? ++ ((log.drop j).take d).filterMap write? ++
          (log.drop (j + d)).filterMap write?) := replay_overlap _ _ _ _
    _ = tableOf (log.filterMap write?) := by
        rw [← htake, ← List.filterMap_append, List.take_append_drop]

/-! ### Stages -/

/-- A table that shows each key at some stage of its own: with the writes of `early`, and
with none that is not in `log`. -/
def StageOf (early log : List (Write κ ν)) (t : Table κ ν) : Prop :=
  ∀ k, ∃ stage, early.filter (fun w => w.key = k) <+: stage ∧
    stage <+: log.filter (fun w => w.key = k) ∧ t k = tableOf stage k

/-- A stage behind some writes is one behind fewer. -/
theorem StageOf.of_fewer {early early' log : List (Write κ ν)} {t : Table κ ν}
    (h : StageOf early log t)
    (hfewer : ∀ k, early'.filter (fun w => w.key = k) <+: early.filter fun w => w.key = k) :
    StageOf early' log t := by
  intro k
  obtain ⟨stage, hfrom, hto, ht⟩ := h k
  exact ⟨stage, (hfewer k).trans hfrom, hto, ht⟩

/-- What a stage shows was written by some write of the log. -/
theorem StageOf.mem {early log : List (Write κ ν)} {t : Table κ ν} (h : StageOf early log t)
    {k : κ} {v : ν} (hv : t k = some v) : (⟨k, some v⟩ : Write κ ν) ∈ log := by
  obtain ⟨stage, -, hto, ht⟩ := h k
  rw [ht] at hv
  exact (List.mem_filter.mp (hto.subset (mem_of_tableOf hv))).1

/-- Tables that agree on the values that pass a test still do after a log. -/
theorem replay_filter_congr {t t' : Table κ ν} (p : ν → Bool)
    (h : ∀ k, (t k).filter p = (t' k).filter p) (log : List (Write κ ν)) (k : κ) :
    (replay t log k).filter p = (replay t' log k).filter p := by
  rw [replay_apply, replay_apply]
  cases lastWrite? log k with
  | none => exact h k
  | some w => rfl

/-- The rows are the entries of the table, in any order. -/
def Lists (rows : List (κ × ν)) (t : Table κ ν) : Prop :=
  ∀ k v, (k, v) ∈ rows ↔ t k = some v

omit [DecidableEq κ] in
/-- The rows that pass a test list the table without the entries that fail it. -/
theorem Lists.filter {t : Table κ ν} {rows : List (κ × ν)} (hrows : Lists rows t)
    (p : ν → Bool) : Lists (rows.filter fun r => p r.2) fun k => (t k).filter p := by
  intro k v
  rw [List.mem_filter, hrows, Option.filter_eq_some_iff]

/-- **The rows of a table rebuild it**, in whatever order they are listed. -/
theorem replay_rows {t : Table κ ν} {rows : List (κ × ν)} (hrows : Lists rows t) :
    tableOf (rows.map fun r => ⟨r.1, some r.2⟩) = t := by
  funext k
  rw [tableOf_apply]
  cases hlast : lastWrite? (rows.map fun r => ⟨r.1, some r.2⟩) k with
  | none =>
    rw [lastWrite?, List.getLast?_eq_none_iff, List.filter_eq_nil_iff] at hlast
    cases ht : t k with
    | none => rfl
    | some v =>
      have hwritten : (⟨k, some v⟩ : Write κ ν) ∈ rows.map fun r => ⟨r.1, some r.2⟩ :=
        List.mem_map.mpr ⟨(k, v), (hrows k v).mpr ht, rfl⟩
      exact absurd (by simp) (hlast _ hwritten)
  | some w =>
    have hkey : w.key = k := key_of_lastWrite? hlast
    have hmem := (List.mem_filter.mp (List.mem_of_getLast? hlast)).1
    obtain ⟨⟨k', v⟩, hrow, rfl⟩ := List.mem_map.mp hmem
    obtain rfl : k' = k := hkey
    exact ((hrows k' v).mp hrow).symm

end LastWrite
