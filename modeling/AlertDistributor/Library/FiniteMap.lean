import Mathlib.Data.Finmap

/-!
# Hash maps without an order

A hash map is a `Finmap`: what can be looked up, with no iteration order.  On top of
Mathlib's `lookup`, `insert` and `erase` this module adds what programs over hash maps
use and what is proved about them:

* **nested maps** `a ↦ (b ↦ v)`: the entry-or-default insertion `nestedInsert`, the
  removal `nestedErase` that drops an inner map once it is empty, and the invariant
  `Pruned` that no inner map is empty, under which the double lookup determines the
  map (`nested_ext`);
* **value passes** `mapValues` and `retain`, as `values_mut` and `retain` loops;
* **counting** the keys that hold one value (`countValue`).
-/

set_option autoImplicit false

namespace FiniteMap

universe u v w x

/-- A hash map from `κ` to `ν`; its iteration order is not observable. -/
abbrev HashMap (κ : Type u) (ν : Type v) := Finmap fun _ : κ => ν

/-- A hash set is a hash map without values. -/
abbrev HashSet (κ : Type u) := HashMap κ Unit

variable {κ : Type u} {κ' : Type v} {ν : Type w}

section Lookup

variable [DecidableEq κ]

/-- The two cases of a lookup after an insertion. -/
theorem lookup_insert_ite (m : HashMap κ ν) (a b : κ) (v : ν) :
    (m.insert a v).lookup b = if b = a then some v else m.lookup b := by
  by_cases h : b = a
  · subst h; simp
  · simp [h]

/-- What is found after an insertion was inserted or was there before. -/
theorem lookup_insert_eq_some_iff {m : HashMap κ ν} {a b : κ} {v v' : ν} :
    (m.insert a v).lookup b = some v' ↔
      (b = a ∧ v = v') ∨ (b ≠ a ∧ m.lookup b = some v') := by
  rw [lookup_insert_ite]
  by_cases h : b = a
  · simp [h]
  · simp [h]

/-- Where nothing is found after an insertion. -/
theorem lookup_insert_eq_none_iff {m : HashMap κ ν} {a b : κ} {v : ν} :
    (m.insert a v).lookup b = none ↔ b ≠ a ∧ m.lookup b = none := by
  rw [lookup_insert_ite]
  by_cases h : b = a
  · simp [h]
  · simp [h]

/-- The two cases of a lookup after a removal. -/
theorem lookup_erase_ite (m : HashMap κ ν) (a b : κ) :
    (m.erase a).lookup b = if b = a then none else m.lookup b := by
  by_cases h : b = a
  · subst h; simp
  · simp [h]

/-- The map of a list of pairs; of two pairs with one key the last counts. -/
def collect (pairs : List (κ × ν)) : HashMap κ ν :=
  pairs.foldl (fun m e => m.insert e.1 e.2) ∅

/-- When no key comes twice, the map holds exactly the pairs. -/
theorem lookup_collect_eq_some_iff {pairs : List (κ × ν)} (h : (pairs.map Prod.fst).Nodup)
    {a : κ} {v : ν} : (collect pairs).lookup a = some v ↔ (a, v) ∈ pairs := by
  induction pairs using List.reverseRecOn with
  | nil => simp [collect]
  | append_singleton pairs e ih =>
    rw [List.map_append, List.nodup_append] at h
    obtain ⟨hpairs, -, hnew⟩ := h
    have hconcat : collect (pairs ++ [e]) = (collect pairs).insert e.1 e.2 := by
      rw [collect, List.foldl_append]; rfl
    rw [hconcat, lookup_insert_eq_some_iff, ih hpairs, List.mem_append, List.mem_singleton]
    constructor
    · rintro (⟨rfl, rfl⟩ | ⟨-, hold⟩)
      · exact Or.inr rfl
      · exact Or.inl hold
    · rintro (hold | rfl)
      · refine Or.inr ⟨?_, hold⟩
        exact hnew a (List.mem_map_of_mem hold) e.1 (by simp)
      · exact Or.inl ⟨rfl, rfl⟩

/-- A key is listed exactly when it can be looked up. -/
theorem mem_keys_iff_lookup (m : HashMap κ ν) (a : κ) :
    a ∈ m.keys ↔ ∃ v, m.lookup a = some v := by
  rw [Finmap.mem_keys, Finmap.mem_iff]

/-- A map has no key exactly when it is the empty map. -/
theorem keys_eq_empty_iff (m : HashMap κ ν) : m.keys = ∅ ↔ m = ∅ := by
  constructor
  · intro h
    apply Finmap.ext_lookup
    intro a
    rw [Finmap.lookup_empty, Finmap.lookup_eq_none, ← Finmap.mem_keys, h]
    simp
  · rintro rfl; rfl

/-- A map is nonempty exactly when some key can be looked up. -/
theorem ne_empty_iff_lookup (m : HashMap κ ν) : m ≠ ∅ ↔ ∃ a v, m.lookup a = some v := by
  rw [ne_eq, ← keys_eq_empty_iff, ← ne_eq, ← Finset.nonempty_iff_ne_empty]
  constructor
  · rintro ⟨a, ha⟩
    exact ⟨a, (mem_keys_iff_lookup m a).mp ha⟩
  · rintro ⟨a, ha⟩
    exact ⟨a, (mem_keys_iff_lookup m a).mpr ha⟩

/-- An insertion never leaves the empty map. -/
theorem insert_ne_empty (m : HashMap κ ν) (a : κ) (v : ν) : m.insert a v ≠ ∅ :=
  (ne_empty_iff_lookup _).mpr ⟨a, v, Finmap.lookup_insert m⟩

end Lookup

/-! ## Nested maps -/

section Nested

variable [DecidableEq κ] [DecidableEq κ']

/-- The double lookup `m[a][b]`. -/
def nestedLookup (m : HashMap κ (HashMap κ' ν)) (a : κ) (b : κ') : Option ν :=
  (m.lookup a).bind fun inner => inner.lookup b

/-- `m.entry(a).or_default().insert(b, v)`. -/
def nestedInsert (m : HashMap κ (HashMap κ' ν)) (a : κ) (b : κ') (v : ν) :
    HashMap κ (HashMap κ' ν) :=
  m.insert a (((m.lookup a).getD ∅).insert b v)

/-- `if let Some(inner) = m.get_mut(a) { inner.remove(b); if inner.is_empty() { m.remove(a) } }`. -/
def nestedErase (m : HashMap κ (HashMap κ' ν)) (a : κ) (b : κ') :
    HashMap κ (HashMap κ' ν) :=
  match m.lookup a with
  | none => m
  | some inner =>
    if (inner.erase b).keys = ∅ then m.erase a else m.insert a (inner.erase b)

/-- No inner map is empty. -/
def Pruned (m : HashMap κ (HashMap κ' ν)) : Prop :=
  ∀ a inner, m.lookup a = some inner → inner ≠ ∅

/-- Nothing is found in an empty map. -/
@[simp] theorem nestedLookup_empty (a : κ) (b : κ') :
    nestedLookup (∅ : HashMap κ (HashMap κ' ν)) a b = none := by
  simp [nestedLookup]

/-- The inner collection has the key exactly when the double lookup finds it. -/
theorem mem_inner_keys_iff (m : HashMap κ (HashMap κ' ν)) (a : κ) (b : κ') :
    (∃ inner, m.lookup a = some inner ∧ b ∈ inner.keys) ↔
      ∃ v, nestedLookup m a b = some v := by
  constructor
  · rintro ⟨inner, hinner, hb⟩
    obtain ⟨v, hv⟩ := (mem_keys_iff_lookup inner b).mp hb
    exact ⟨v, by rw [nestedLookup, hinner, Option.bind_some, hv]⟩
  · rintro ⟨v, hv⟩
    obtain ⟨inner, hinner, hb⟩ := Option.bind_eq_some_iff.mp hv
    exact ⟨inner, hinner, (mem_keys_iff_lookup inner b).mpr ⟨v, hb⟩⟩

/-- The double lookup after a nested insertion. -/
theorem nestedLookup_nestedInsert (m : HashMap κ (HashMap κ' ν)) (a a' : κ) (b b' : κ')
    (v : ν) :
    nestedLookup (nestedInsert m a b v) a' b' =
      if a' = a ∧ b' = b then some v else nestedLookup m a' b' := by
  unfold nestedLookup nestedInsert
  rw [lookup_insert_ite]
  by_cases ha : a' = a
  · subst ha
    simp only [if_true, Option.bind_some, lookup_insert_ite, true_and]
    cases m.lookup a' <;> simp
  · simp [ha]

/-- The double lookup after a nested removal. -/
theorem nestedLookup_nestedErase (m : HashMap κ (HashMap κ' ν)) (a a' : κ) (b b' : κ') :
    nestedLookup (nestedErase m a b) a' b' =
      if a' = a ∧ b' = b then none else nestedLookup m a' b' := by
  unfold nestedLookup nestedErase
  cases hm : m.lookup a with
  | none =>
    by_cases ha : a' = a
    · subst ha; simp [hm]
    · simp [ha]
  | some inner =>
    dsimp only
    split
    · rename_i hempty
      rw [keys_eq_empty_iff] at hempty
      rw [lookup_erase_ite]
      by_cases ha : a' = a
      · subst ha
        have hb : (inner.erase b).lookup b' = none := by rw [hempty, Finmap.lookup_empty]
        rw [lookup_erase_ite] at hb
        by_cases h : b' = b
        · simp [h]
        · simpa [h, hm] using hb.symm
      · simp [ha]
    · rw [lookup_insert_ite]
      by_cases ha : a' = a
      · subst ha; simp [hm, lookup_erase_ite]
      · simp [ha]

omit [DecidableEq κ'] in
/-- An empty map has no empty inner map. -/
theorem pruned_empty : Pruned (∅ : HashMap κ (HashMap κ' ν)) := by
  intro a inner h
  simp at h

omit [DecidableEq κ'] in
/-- Replacing an inner map by a nonempty one keeps the map pruned. -/
theorem Pruned.insert {m : HashMap κ (HashMap κ' ν)} (h : Pruned m) (a : κ)
    {inner : HashMap κ' ν} (hne : inner ≠ ∅) : Pruned (m.insert a inner) := by
  intro a' inner' h'
  rw [lookup_insert_ite] at h'
  split at h'
  · obtain rfl := Option.some.inj h'
    exact hne
  · exact h a' inner' h'

omit [DecidableEq κ'] in
/-- Dropping an inner map keeps the map pruned. -/
theorem Pruned.erase {m : HashMap κ (HashMap κ' ν)} (h : Pruned m) (a : κ) :
    Pruned (m.erase a) := by
  intro a' inner' h'
  rw [lookup_erase_ite] at h'
  split at h'
  · cases h'
  · exact h a' inner' h'

/-- An insertion leaves no empty inner map. -/
theorem Pruned.nestedInsert {m : HashMap κ (HashMap κ' ν)} (h : Pruned m) (a : κ) (b : κ')
    (v : ν) : Pruned (nestedInsert m a b v) :=
  h.insert a (insert_ne_empty _ b v)

/-- A removal takes an inner map out that becomes empty. -/
theorem Pruned.nestedErase {m : HashMap κ (HashMap κ' ν)} (h : Pruned m) (a : κ) (b : κ') :
    Pruned (nestedErase m a b) := by
  unfold FiniteMap.nestedErase
  cases m.lookup a with
  | none => exact h
  | some inner =>
    dsimp only
    split
    · exact h.erase a
    · rename_i hne
      rw [keys_eq_empty_iff] at hne
      exact h.insert a hne

/-- A pruned map holds an inner map exactly where a double lookup succeeds. -/
theorem Pruned.lookup_eq_none_iff {m : HashMap κ (HashMap κ' ν)} (h : Pruned m) (a : κ) :
    m.lookup a = none ↔ ∀ b, nestedLookup m a b = none := by
  unfold nestedLookup
  cases hm : m.lookup a with
  | none => simp
  | some inner =>
    obtain ⟨b, v, hb⟩ := (ne_empty_iff_lookup inner).mp (h a inner hm)
    simp only [reduceCtorEq, Option.bind_some, false_iff, not_forall]
    exact ⟨b, by simp [hb]⟩

/-- **Pruned maps are determined by their double lookups.** -/
theorem nested_ext {m m' : HashMap κ (HashMap κ' ν)} (h : Pruned m) (h' : Pruned m')
    (heq : ∀ a b, nestedLookup m a b = nestedLookup m' a b) : m = m' := by
  apply Finmap.ext_lookup
  intro a
  cases hm : m.lookup a with
  | none =>
    have hnone := (h.lookup_eq_none_iff a).mp hm
    exact ((h'.lookup_eq_none_iff a).mpr fun b => (heq a b).symm.trans (hnone b)).symm
  | some inner =>
    cases hm' : m'.lookup a with
    | none =>
      have hnone := (h'.lookup_eq_none_iff a).mp hm'
      have := (h.lookup_eq_none_iff a).mpr fun b => (heq a b).trans (hnone b)
      rw [hm] at this
      cases this
    | some inner' =>
      refine congrArg some (Finmap.ext_lookup fun b => ?_)
      simpa [nestedLookup, hm, hm'] using heq a b

/-- A second insertion under the same two keys replaces the first. -/
theorem nestedInsert_nestedInsert {m : HashMap κ (HashMap κ' ν)} (h : Pruned m) (a : κ) (b : κ')
    (v v' : ν) : nestedInsert (nestedInsert m a b v) a b v' = nestedInsert m a b v' := by
  refine nested_ext ((h.nestedInsert a b v).nestedInsert a b v') (h.nestedInsert a b v') ?_
  intro a' b'
  simp only [nestedLookup_nestedInsert]
  split <;> rfl

/-- Inserting what is there already. -/
theorem nestedInsert_eq_self {m : HashMap κ (HashMap κ' ν)} (h : Pruned m) {a : κ} {b : κ'}
    {v : ν} (hv : nestedLookup m a b = some v) : nestedInsert m a b v = m := by
  refine nested_ext (h.nestedInsert a b v) h ?_
  intro a' b'
  rw [nestedLookup_nestedInsert]
  split
  · rename_i heq
    rw [heq.1, heq.2, hv]
  · rfl

/-- Insertions under different pairs of keys commute. -/
theorem nestedInsert_comm {m : HashMap κ (HashMap κ' ν)} (h : Pruned m) {a a' : κ} {b b' : κ'}
    (hne : (a, b) ≠ (a', b')) (v v' : ν) :
    nestedInsert (nestedInsert m a b v) a' b' v' =
      nestedInsert (nestedInsert m a' b' v') a b v := by
  refine nested_ext ((h.nestedInsert a b v).nestedInsert a' b' v')
    ((h.nestedInsert a' b' v').nestedInsert a b v) ?_
  intro c d
  simp only [nestedLookup_nestedInsert]
  by_cases hfirst : c = a ∧ d = b
  · obtain ⟨rfl, rfl⟩ := hfirst
    have hsecond : ¬ (c = a' ∧ d = b') := fun heq => hne (Prod.ext heq.1 heq.2)
    simp only [hsecond, and_self, if_true, if_false]
  · simp only [hfirst, if_false]

/-- An insertion and a removal under different pairs of keys commute. -/
theorem nestedErase_nestedInsert_comm {m : HashMap κ (HashMap κ' ν)} (h : Pruned m) {a a' : κ}
    {b b' : κ'} (hne : (a, b) ≠ (a', b')) (v : ν) :
    nestedErase (nestedInsert m a b v) a' b' = nestedInsert (nestedErase m a' b') a b v := by
  refine nested_ext ((h.nestedInsert a b v).nestedErase a' b')
    ((h.nestedErase a' b').nestedInsert a b v) ?_
  intro c d
  simp only [nestedLookup_nestedInsert, nestedLookup_nestedErase]
  by_cases hfirst : c = a ∧ d = b
  · obtain ⟨rfl, rfl⟩ := hfirst
    have hsecond : ¬ (c = a' ∧ d = b') := fun heq => hne (Prod.ext heq.1 heq.2)
    simp only [hsecond, and_self, if_true, if_false]
  · simp only [hfirst, if_false]

end Nested

/-! ## Passes over the values -/

section Values

/-- `for value in m.values_mut() { *value = f(value) }`. -/
def mapValues {ν' : Type x} (f : ν → ν') (m : HashMap κ ν) : HashMap κ ν' :=
  ⟨m.entries.map fun e => ⟨e.1, f e.2⟩, by
    have h := Multiset.nodup_keys.mpr m.nodupKeys
    rw [← Multiset.nodup_keys]
    simpa only [Multiset.keys, Multiset.map_map, Function.comp_def] using h⟩

/-- `m.retain(|key, value| p(key, value))`. -/
def retain (p : κ → ν → Bool) (m : HashMap κ ν) : HashMap κ ν :=
  ⟨m.entries.filter fun e => p e.1 e.2, by
    have h := Multiset.nodup_keys.mpr m.nodupKeys
    rw [← Multiset.nodup_keys]
    exact Multiset.nodup_of_le (Multiset.map_le_map (Multiset.filter_le _ _)) h⟩

variable [DecidableEq κ]

/-- Every value is mapped where it stands. -/
theorem lookup_mapValues {ν' : Type x} (f : ν → ν') (m : HashMap κ ν) (a : κ) :
    (mapValues f m).lookup a = (m.lookup a).map f := by
  ext v
  rw [Finmap.lookup_eq_some_iff, Option.map_eq_some_iff]
  simp only [mapValues, Multiset.mem_map]
  constructor
  · rintro ⟨⟨a', v'⟩, hmem, heq⟩
    cases heq
    exact ⟨v', Finmap.lookup_eq_some_iff.mpr hmem, rfl⟩
  · rintro ⟨v', hv', rfl⟩
    exact ⟨⟨a, v'⟩, Finmap.lookup_eq_some_iff.mp hv', rfl⟩

/-- What is kept is found where it was. -/
theorem lookup_retain (p : κ → ν → Bool) (m : HashMap κ ν) (a : κ) :
    (retain p m).lookup a = (m.lookup a).filter (p a) := by
  ext v
  rw [Finmap.lookup_eq_some_iff, Option.filter_eq_some_iff, Finmap.lookup_eq_some_iff]
  simp only [retain, Multiset.mem_filter]

/-- A sum over the values depends only on what is summed under each key. -/
theorem sum_entries_congr (f : ν → ℕ) {m m' : HashMap κ ν}
    (h : ∀ a, (m.lookup a).map f = (m'.lookup a).map f) :
    (m.entries.map fun e => f e.2).sum = (m'.entries.map fun e => f e.2).sum := by
  have hmap : mapValues f m = mapValues f m' := by
    refine Finmap.ext_lookup fun a => ?_
    rw [lookup_mapValues, lookup_mapValues, h]
  have hentries := congrArg (fun m => (m.entries.map Sigma.snd).sum) hmap
  simpa only [mapValues, Multiset.map_map, Function.comp_def] using hentries

end Values

/-! ## Lists under keys -/

section Lists

variable [DecidableEq κ]

/-- The list under a key, empty when the key is absent. -/
def listAt (m : HashMap κ (List ν)) (a : κ) : List ν :=
  (m.lookup a).getD []

/-- `m.entry(a).or_default().push(v)`. -/
def pushAt (m : HashMap κ (List ν)) (a : κ) (v : ν) : HashMap κ (List ν) :=
  m.insert a (listAt m a ++ [v])

/-- `retain(|existing| existing != v)` on the list under `a`, which goes when it empties. -/
def dropAt [DecidableEq ν] (m : HashMap κ (List ν)) (a : κ) (v : ν) : HashMap κ (List ν) :=
  match m.lookup a with
  | none => m
  | some vs =>
    let vs := vs.filter fun existing => existing ≠ v
    if vs.isEmpty then m.erase a else m.insert a vs

/-- An empty map has empty lists. -/
@[simp] theorem listAt_empty (a : κ) : listAt (∅ : HashMap κ (List ν)) a = [] := by
  rw [listAt, Finmap.lookup_empty]; rfl

/-- A push appends to the list of its key only. -/
theorem listAt_pushAt (m : HashMap κ (List ν)) (a a' : κ) (v : ν) :
    listAt (pushAt m a v) a' = if a' = a then listAt m a ++ [v] else listAt m a' := by
  unfold pushAt
  rw [listAt, lookup_insert_ite]
  split <;> rfl

/-- A drop takes its value out of the list of its key only. -/
theorem listAt_dropAt [DecidableEq ν] (m : HashMap κ (List ν)) (a a' : κ) (v : ν) :
    listAt (dropAt m a v) a' =
      if a' = a then (listAt m a).filter fun existing => existing ≠ v else listAt m a' := by
  unfold dropAt
  cases ha : m.lookup a with
  | none =>
    by_cases heq : a' = a
    · subst heq; simp [listAt, ha]
    · rw [if_neg heq]
  | some vs =>
    dsimp only
    split
    · rename_i hempty
      rw [listAt, lookup_erase_ite]
      by_cases heq : a' = a
      · simp only [if_pos heq, Option.getD_none, listAt, ha, Option.getD_some]
        exact (List.isEmpty_iff.mp hempty).symm
      · rw [if_neg heq, if_neg heq, listAt]
    · rw [listAt, lookup_insert_ite]
      by_cases heq : a' = a
      · simp [heq, listAt, ha]
      · rw [if_neg heq, if_neg heq, listAt]

/-- Pushing one value under each key of a list of keys. -/
theorem mem_listAt_foldl_pushAt (keys : List κ) (m : HashMap κ (List ν)) (v : ν) (a : κ)
    (w : ν) :
    w ∈ listAt (keys.foldl (fun m key => pushAt m key v) m) a ↔
      w ∈ listAt m a ∨ (a ∈ keys ∧ w = v) := by
  induction keys generalizing m with
  | nil => simp
  | cons key keys ih =>
    rw [List.foldl_cons, ih, listAt_pushAt]
    by_cases hkey : a = key
    · subst hkey; simp only [if_true, List.mem_append, List.mem_cons, true_or]
      tauto
    · simp only [List.mem_cons, hkey, false_or, if_false]

/-- Dropping one value under each key of a list of keys. -/
theorem mem_listAt_foldl_dropAt [DecidableEq ν] (keys : List κ) (m : HashMap κ (List ν))
    (v : ν) (a : κ) (w : ν) :
    w ∈ listAt (keys.foldl (fun m key => dropAt m key v) m) a ↔
      w ∈ listAt m a ∧ ¬ (a ∈ keys ∧ w = v) := by
  induction keys generalizing m with
  | nil => simp
  | cons key keys ih =>
    rw [List.foldl_cons, ih, listAt_dropAt]
    by_cases hkey : a = key
    · subst hkey
      simp only [if_true, List.mem_filter, decide_eq_true_eq, List.mem_cons, true_or]
      tauto
    · simp only [List.mem_cons, hkey, false_or, if_false]

/-- Pushing one value under each of some distinct keys. -/
theorem listAt_foldl_pushAt {keys : List κ} (h : keys.Nodup) (m : HashMap κ (List ν)) (v : ν)
    (a : κ) :
    listAt (keys.foldl (fun m key => pushAt m key v) m) a =
      if a ∈ keys then listAt m a ++ [v] else listAt m a := by
  induction keys generalizing m with
  | nil => simp
  | cons key keys ih =>
    obtain ⟨hkey, hrest⟩ := List.nodup_cons.mp h
    rw [List.foldl_cons, ih hrest, listAt_pushAt]
    by_cases ha : a = key
    · subst ha
      rw [if_neg hkey, if_pos rfl, if_pos List.mem_cons_self]
    · simp only [List.mem_cons, ha, false_or, if_false]

/-- Dropping one value under each of some keys. -/
theorem listAt_foldl_dropAt [DecidableEq ν] (keys : List κ) (m : HashMap κ (List ν)) (v : ν)
    (a : κ) :
    listAt (keys.foldl (fun m key => dropAt m key v) m) a =
      if a ∈ keys then (listAt m a).filter fun existing => existing ≠ v else listAt m a := by
  induction keys generalizing m with
  | nil => simp
  | cons key keys ih =>
    rw [List.foldl_cons, ih, listAt_dropAt]
    by_cases ha : a = key
    · subst ha; simp
    · simp only [List.mem_cons, ha, false_or, if_false]

/-- No stored list is empty. -/
def Filled (m : HashMap κ (List ν)) : Prop :=
  ∀ a vs, m.lookup a = some vs → vs ≠ []

/-- An empty map has no empty list. -/
theorem filled_empty : Filled (∅ : HashMap κ (List ν)) := by
  intro a vs h
  simp at h

/-- A push leaves no empty list. -/
theorem Filled.pushAt {m : HashMap κ (List ν)} (h : Filled m) (a : κ) (v : ν) :
    Filled (pushAt m a v) := by
  intro a' vs hvs
  rw [FiniteMap.pushAt, lookup_insert_ite] at hvs
  split at hvs
  · obtain rfl := Option.some.inj hvs
    simp
  · exact h a' vs hvs

/-- A drop takes a list out that becomes empty. -/
theorem Filled.dropAt [DecidableEq ν] {m : HashMap κ (List ν)} (h : Filled m) (a : κ) (v : ν) :
    Filled (dropAt m a v) := by
  intro a' vs hvs
  unfold FiniteMap.dropAt at hvs
  cases ha : m.lookup a with
  | none =>
    rw [ha] at hvs
    exact h a' vs hvs
  | some ws =>
    rw [ha] at hvs
    dsimp only at hvs
    split at hvs
    · rw [lookup_erase_ite] at hvs
      split at hvs
      · cases hvs
      · exact h a' vs hvs
    · rename_i hne
      rw [lookup_insert_ite] at hvs
      split at hvs
      · obtain rfl := Option.some.inj hvs
        rwa [List.isEmpty_iff] at hne
      · exact h a' vs hvs

/-- A pass over some keys that keeps the lists nonempty at each key keeps them so. -/
theorem Filled.foldl {f : HashMap κ (List ν) → κ → HashMap κ (List ν)}
    (hf : ∀ m a, Filled m → Filled (f m a)) (keys : List κ) {m : HashMap κ (List ν)}
    (h : Filled m) : Filled (keys.foldl f m) := by
  induction keys generalizing m with
  | nil => exact h
  | cons key keys ih => exact ih (hf m key h)

end Lists

/-! ## Counting the keys that hold a value -/

section Count

variable [DecidableEq κ] [DecidableEq ν]

/-- The number of keys that hold `v`. -/
def countValue (m : HashMap κ ν) (v : ν) : ℕ :=
  (m.keys.filter fun a => m.lookup a = some v).card

/-- A value is counted when some key has it. -/
theorem countValue_pos_iff (m : HashMap κ ν) (v : ν) :
    0 < countValue m v ↔ ∃ a, m.lookup a = some v := by
  unfold countValue
  rw [Finset.card_pos]
  constructor
  · rintro ⟨a, ha⟩
    exact ⟨a, (Finset.mem_filter.mp ha).2⟩
  · rintro ⟨a, ha⟩
    exact ⟨a, Finset.mem_filter.mpr ⟨(mem_keys_iff_lookup m a).mpr ⟨v, ha⟩, ha⟩⟩

/-- A value is held once exactly when every key that holds it is the same key. -/
theorem countValue_eq_one_iff {m : HashMap κ ν} {a : κ} {v : ν} (h : m.lookup a = some v) :
    countValue m v = 1 ↔ ∀ b, m.lookup b = some v → b = a := by
  have hmem : ∀ b, (b ∈ m.keys.filter fun b => m.lookup b = some v) ↔ m.lookup b = some v := by
    intro b
    rw [Finset.mem_filter, mem_keys_iff_lookup]
    exact ⟨fun hb => hb.2, fun hb => ⟨⟨v, hb⟩, hb⟩⟩
  unfold countValue
  rw [Finset.card_eq_one]
  constructor
  · rintro ⟨c, hc⟩ b hb
    have hb' := (hmem b).mpr hb
    have ha' := (hmem a).mpr h
    rw [hc, Finset.mem_singleton] at hb' ha'
    rw [hb', ha']
  · intro hall
    refine ⟨a, Finset.eq_singleton_iff_unique_mem.mpr ⟨(hmem a).mpr h, ?_⟩⟩
    intro b hb
    exact hall b ((hmem b).mp hb)

/-- Nothing is counted in an empty map. -/
@[simp] theorem countValue_empty (v : ν) : countValue (∅ : HashMap κ ν) v = 0 := by
  simp [countValue]

/-- Removing a key takes one away from the count of the value it held. -/
theorem countValue_erase (m : HashMap κ ν) (a : κ) (v : ν) :
    countValue (m.erase a) v = countValue m v - if m.lookup a = some v then 1 else 0 := by
  have hfilter : (m.erase a).keys.filter (fun b => (m.erase a).lookup b = some v) =
      (m.keys.filter fun b => m.lookup b = some v).erase a := by
    ext b
    rw [Finset.mem_erase, Finset.mem_filter, Finset.mem_filter, Finmap.keys_erase,
      Finset.mem_erase, lookup_erase_ite]
    by_cases hb : b = a
    · simp [hb]
    · simp [hb]
  unfold countValue
  rw [hfilter]
  by_cases ha : m.lookup a = some v
  · rw [Finset.card_erase_of_mem, if_pos ha]
    exact Finset.mem_filter.mpr ⟨(mem_keys_iff_lookup m a).mpr ⟨v, ha⟩, ha⟩
  · rw [Finset.erase_eq_of_notMem, if_neg ha, Nat.sub_zero]
    simp [ha]

/-- Inserting at a fresh key adds one to the count of the inserted value. -/
theorem countValue_insert_of_lookup_none {m : HashMap κ ν} {a : κ} (h : m.lookup a = none)
    (v v' : ν) :
    countValue (m.insert a v) v' = countValue m v' + if v' = v then 1 else 0 := by
  have hfilter : (m.insert a v).keys.filter (fun b => (m.insert a v).lookup b = some v') =
      if v' = v then insert a (m.keys.filter fun b => m.lookup b = some v')
      else m.keys.filter fun b => m.lookup b = some v' := by
    ext b
    rw [Finset.mem_filter, Finmap.mem_keys, Finmap.mem_insert, lookup_insert_ite]
    by_cases hv : v' = v
    · subst hv
      by_cases hb : b = a
      · simp [hb]
      · simp [hb, Finmap.mem_keys]
    · by_cases hb : b = a
      · subst hb; simp [hv, h, Ne.symm hv]
      · simp [hb, hv, Finmap.mem_keys]
  unfold countValue
  rw [hfilter]
  split
  · rw [Finset.card_insert_of_notMem]
    simp [h]
  · rfl

end Count

end FiniteMap
