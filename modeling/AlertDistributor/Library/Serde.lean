import Mathlib.Data.List.Nodup

/-!
# Derived deserializers

What a derived `Deserialize` makes of a self-describing value.  A deserializer shows a value
as a `Shape`, and a visitor takes what it wants of it or fails.  A struct is read from a map,
whose entries come in any order, or from a sequence, whose items stand for the fields in the
order of their declaration: `visitMap` and `visitSeq` are the two loops, and `given_iff` says
what both leave in the slots.
-/

set_option autoImplicit false

namespace Serde

universe u v

/-! ## Values and their visitors -/

/-- A value as its deserializer shows it. -/
inductive Shape (V : Type u) where
  | null
  | bool (b : Bool)
  | unsigned (n : UInt64)
  /-- A number that is negative, too large or not whole. -/
  | number
  | string (s : String)
  | seq (items : List V)
  | map (entries : List (String × V))

section Visitors

variable {V : Type u} {α : Type v} (shape : V → Shape V)

def asString (v : V) : Option String :=
  match shape v with
  | .string s => some s
  | _ => none

def asBool (v : V) : Option Bool :=
  match shape v with
  | .bool b => some b
  | _ => none

def asUInt32 (v : V) : Option UInt32 :=
  match shape v with
  | .unsigned n => if n.toNat < UInt32.size then some n.toUInt32 else none
  | _ => none

/-- A type that is read from its text. -/
def asParsed (parse : String → Option α) (v : V) : Option α :=
  (asString shape v).bind parse

/-- An `Option`: null is `None`. -/
def asOption (decode : V → Option α) (v : V) : Option (Option α) :=
  match shape v with
  | .null => some none
  | _ => (decode v).map some

/-- An enumeration without data: the name of a variant, or a map of one entry from the name to
null. -/
def asVariant (variants : List (String × α)) (v : V) : Option α :=
  match shape v with
  | .string name => variants.lookup name
  | .map [(name, content)] =>
    match shape content with
    | .null => variants.lookup name
    | _ => none
  | _ => none

end Visitors

/-! ## Structs -/

section Structs

variable {V : Type u} {α : Type v}

/-- What a value gives for the fields of a struct. -/
structure Given (V : Type u) where
  bySeq : Bool
  slots : List (String × V)

/-- The loop of a derived `visit_map`.  The entry of a field goes into its slot, which may not
be filled already; any other entry is skipped. -/
def visitMap (fields : List String) :
    List (String × V) → List (String × V) → Option (List (String × V))
  | slots, [] => some slots
  | slots, e :: entries =>
    if e.1 ∈ fields then
      if (slots.lookup e.1).isSome then none else visitMap fields (slots ++ [e]) entries
    else visitMap fields slots entries

/-- A derived `visit_seq`: the items fill the slots in order, and none may be left. -/
def visitSeq (fields : List String) (items : List V) : Option (List (String × V)) :=
  if items.length ≤ fields.length then some (fields.zip items) else none

/-- The slots of a struct with these fields. -/
def given (shape : V → Shape V) (fields : List String) (v : V) : Option (Given V) :=
  match shape v with
  | .map entries => (visitMap fields [] entries).map (Given.mk false)
  | .seq items => (visitSeq fields items).map (Given.mk true)
  | _ => none

namespace Given

variable (g : Given V)

def slot (field : String) : Option V :=
  g.slots.lookup field

/-- A field that must be there. -/
def required (field : String) (decode : V → Option α) : Option α :=
  (g.slot field).bind decode

/-- An `Option` with `#[serde(default)]`. -/
def defaulted (shape : V → Shape V) (field : String) (decode : V → Option α) :
    Option (Option α) :=
  match g.slot field with
  | none => some none
  | some v => asOption shape decode v

/-- An `Option` without a default, which only a map may leave out. -/
def optional (shape : V → Shape V) (field : String) (decode : V → Option α) :
    Option (Option α) :=
  match g.slot field with
  | none => if g.bySeq then none else some none
  | some v => asOption shape decode v

end Given

/-! ## What the loops leave in the slots -/

/-- The entries of a map that are fields of the struct. -/
def known (fields : List String) (entries : List (String × V)) : List (String × V) :=
  entries.filter fun e => e.1 ∈ fields

/-- An entry with a known name is kept. -/
theorem known_cons_of_mem {fields : List String} {e : String × V} (h : e.1 ∈ fields)
    (entries : List (String × V)) : known fields (e :: entries) = e :: known fields entries :=
  List.filter_cons_of_pos (by simpa using h)

/-- An entry with another name is ignored. -/
theorem known_cons_of_not_mem {fields : List String} {e : String × V} (h : e.1 ∉ fields)
    (entries : List (String × V)) : known fields (e :: entries) = known fields entries :=
  List.filter_cons_of_neg (by simpa using h)

/-- A known field is found as if there were no others. -/
theorem lookup_known {fields : List String} {field : String} (hfield : field ∈ fields)
    (entries : List (String × V)) :
    (known fields entries).lookup field = entries.lookup field := by
  induction entries with
  | nil => rfl
  | cons e entries ih =>
    by_cases hmem : e.1 ∈ fields
    · rw [known_cons_of_mem hmem, List.lookup_cons, List.lookup_cons, ih]
    · have hne : field ≠ e.1 := fun heq => hmem (heq ▸ hfield)
      rw [known_cons_of_not_mem hmem, List.lookup_cons, beq_eq_false_iff_ne.mpr hne, ih]

/-- The fields a value gives: those of a map that names none of them twice, or the items of a
sequence that is not too long. -/
inductive Gives (fields : List String) : Shape V → Bool → (String → Option V) → Prop where
  | map {entries : List (String × V)} (honce : ((known fields entries).map Prod.fst).Nodup) :
      Gives fields (.map entries) false fun field => (known fields entries).lookup field
  | seq {items : List V} (hlength : items.length ≤ fields.length) :
      Gives fields (.seq items) true fun field => items[fields.idxOf field]?

/-- A field is there and is read as `a`. -/
def Holds (slot : String → Option V) (decode : V → Option α) (field : String) (a : α) : Prop :=
  ∃ v, slot field = some v ∧ decode v = some a

/-- A field is there and is read as some `a`, or it is absent or null. -/
def MayHold (shape : V → Shape V) (slot : String → Option V) (decode : V → Option α)
    (field : String) : Option α → Prop
  | some a => ∃ v, slot field = some v ∧ shape v ≠ .null ∧ decode v = some a
  | none => ∀ v, slot field = some v → shape v = .null

/-- `Option` reads null as `None`, and any other value as its type does. -/
theorem asOption_iff {shape : V → Shape V} {decode : V → Option α} {v : V} {a : Option α} :
    asOption shape decode v = some a ↔
      match a with
      | some a => shape v ≠ .null ∧ decode v = some a
      | none => shape v = .null := by
  unfold asOption
  cases a with
  | none => split <;> simp_all
  | some a => split <;> simp_all

/-- A required field must be given. -/
theorem Given.required_iff {g : Given V} {field : String} {decode : V → Option α} {a : α} :
    g.required field decode = some a ↔ Holds g.slot decode field a :=
  Option.bind_eq_some_iff

/-- A field with a default may be absent, wherever it stands. -/
theorem Given.defaulted_iff {shape : V → Shape V} {g : Given V} {field : String}
    {decode : V → Option α} {a : Option α} :
    g.defaulted shape field decode = some a ↔ MayHold shape g.slot decode field a := by
  unfold Given.defaulted
  cases hslot : g.slot field with
  | none => cases a <;> simp [MayHold, hslot]
  | some v =>
    rw [asOption_iff]
    cases a <;> simp [MayHold, hslot]

/-- An optional one may be absent from an object, but not from a sequence. -/
theorem Given.optional_iff {shape : V → Shape V} {g : Given V} {field : String}
    {decode : V → Option α} {a : Option α} :
    g.optional shape field decode = some a ↔
      (g.slot field = none → g.bySeq = false) ∧ MayHold shape g.slot decode field a := by
  unfold Given.optional
  cases hslot : g.slot field with
  | none => cases a <;> simp [MayHold, hslot]
  | some v =>
    rw [asOption_iff]
    cases a <;> simp [MayHold, hslot]

/-- A slot is filled when its name was seen. -/
theorem lookup_isSome_iff_mem (slots : List (String × V)) (key : String) :
    (slots.lookup key).isSome = true ↔ key ∈ slots.map Prod.fst := by
  rw [List.lookup_isSome_iff, List.mem_map]
  constructor
  · rintro ⟨e, he, hkey⟩
    exact ⟨e, he, (beq_iff_eq.mp hkey).symm⟩
  · rintro ⟨e, he, rfl⟩
    exact ⟨e, he, beq_self_eq_true _⟩

/-- The loop succeeds when no field comes twice, and the slots are then the known entries. -/
theorem visitMap_eq_some_iff (fields : List String) (entries slots slots' : List (String × V))
    (hslots : (slots.map Prod.fst).Nodup) :
    visitMap fields slots entries = some slots' ↔
      slots' = slots ++ known fields entries ∧ (slots'.map Prod.fst).Nodup := by
  induction entries generalizing slots with
  | nil =>
    simp only [visitMap, known, List.filter_nil, List.append_nil, Option.some.injEq]
    constructor
    · rintro rfl
      exact ⟨rfl, hslots⟩
    · rintro ⟨rfl, -⟩
      rfl
  | cons e entries ih =>
    unfold visitMap
    by_cases hmem : e.1 ∈ fields
    · rw [if_pos hmem, known_cons_of_mem hmem]
      by_cases hfilled : (slots.lookup e.1).isSome = true
      · rw [if_pos hfilled]
        constructor
        · intro h
          cases h
        · rintro ⟨rfl, hnodup⟩
          rw [List.map_append, List.map_cons, List.nodup_append] at hnodup
          have hkey := (lookup_isSome_iff_mem slots e.1).mp hfilled
          exact absurd rfl (hnodup.2.2 _ hkey _ List.mem_cons_self)
      · rw [if_neg hfilled, ih, List.append_assoc, List.singleton_append]
        have hkey : e.1 ∉ slots.map Prod.fst :=
          fun h => hfilled ((lookup_isSome_iff_mem slots e.1).mpr h)
        rw [List.map_append, List.map_singleton, List.nodup_append]
        refine ⟨hslots, List.nodup_singleton _, ?_⟩
        rintro key hmem' key' hkey' rfl
        rw [List.mem_singleton.mp hkey'] at hmem'
        exact hkey hmem'
    · rw [if_neg hmem, known_cons_of_not_mem hmem]
      exact ih slots hslots

/-- The items stand under the fields of their positions. -/
theorem lookup_zip {fields : List String} {items : List V}
    (hlength : items.length ≤ fields.length) (field : String) :
    (fields.zip items).lookup field = items[fields.idxOf field]? := by
  induction fields generalizing items with
  | nil =>
    obtain rfl := List.eq_nil_of_length_eq_zero (Nat.le_zero.mp hlength)
    rfl
  | cons f fields ih =>
    cases items with
    | nil => simp
    | cons item items =>
      have hrest := ih (Nat.le_of_succ_le_succ hlength)
      by_cases h : field = f
      · subst h
        simp
      · rw [List.zip_cons_cons, List.lookup_cons, beq_eq_false_iff_ne.mpr h,
          List.idxOf_cons_ne _ (Ne.symm h), List.getElem?_cons_succ]
        exact hrest

/-- **A struct is read from a value exactly when the value gives its fields.** -/
theorem given_iff {shape : V → Shape V} {fields : List String} {v : V} {bySeq : Bool}
    {slot : String → Option V} :
    Gives fields (shape v) bySeq slot ↔
      ∃ g, given shape fields v = some g ∧ g.bySeq = bySeq ∧ g.slot = slot := by
  constructor
  · intro h
    cases hshape : shape v with
    | map entries =>
      rw [hshape] at h
      obtain ⟨honce⟩ := h
      have hvisit := (visitMap_eq_some_iff fields entries [] (known fields entries)
        List.nodup_nil).mpr ⟨rfl, honce⟩
      refine ⟨⟨false, known fields entries⟩, ?_, rfl, rfl⟩
      simp only [given, hshape, hvisit, Option.map_some]
    | seq items =>
      rw [hshape] at h
      cases h with
      | seq hlength =>
        refine ⟨⟨true, fields.zip items⟩, ?_, rfl, funext (lookup_zip hlength)⟩
        simp only [given, hshape, visitSeq, if_pos hlength, Option.map_some]
    | null | bool | unsigned | number | string =>
      rw [hshape] at h
      cases h
  · rintro ⟨g, hg, rfl, rfl⟩
    unfold given at hg
    split at hg
    · rename_i entries hshape
      obtain ⟨slots, hslots, rfl⟩ := Option.map_eq_some_iff.mp hg
      obtain ⟨rfl, honce⟩ := (visitMap_eq_some_iff fields entries [] slots
        List.nodup_nil).mp hslots
      rw [hshape]
      exact .map honce
    · rename_i items hshape
      obtain ⟨slots, hslots, rfl⟩ := Option.map_eq_some_iff.mp hg
      unfold visitSeq at hslots
      split at hslots
      · rename_i hlength
        obtain rfl := Option.some.inj hslots
        have hslot : (Given.mk true (fields.zip items)).slot =
            fun field => items[fields.idxOf field]? := funext (lookup_zip hlength)
        rw [hshape, hslot]
        exact .seq hlength
      · cases hslots
    · cases hg

/-- What is built from the slots of a struct, in terms of the fields its value gives. -/
theorem given_bind_iff {shape : V → Shape V} {fields : List String} {v : V}
    {build : Given V → Option α} (Built : Bool → (String → Option V) → α → Prop)
    (hbuild : ∀ g a, build g = some a ↔ Built g.bySeq g.slot a) (a : α) :
    (given shape fields v).bind build = some a ↔
      ∃ bySeq slot, Gives fields (shape v) bySeq slot ∧ Built bySeq slot a := by
  rw [Option.bind_eq_some_iff]
  constructor
  · rintro ⟨g, hg, ha⟩
    exact ⟨g.bySeq, g.slot, given_iff.mpr ⟨g, hg, rfl, rfl⟩, (hbuild g a).mp ha⟩
  · rintro ⟨bySeq, slot, hgives, hbuilt⟩
    obtain ⟨g, hg, rfl, rfl⟩ := given_iff.mp hgives
    exact ⟨g, hg, (hbuild g a).mpr hbuilt⟩

end Structs

end Serde
