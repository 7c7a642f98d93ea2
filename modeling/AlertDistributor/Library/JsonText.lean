import Mathlib.Data.List.Induction
import Mathlib.Data.List.TakeDrop
import Mathlib.Data.String.Basic

/-!
# JSON as text

A JSON value, its compact text and a parser for it.  An object is the list of its entries in
the order of the keys, so equal objects are equal values (`Canonical`); `ofFields` builds one
from entries in any order, and `get` looks a key up.  Numbers are integers only, here and
wherever a value is called arbitrary: there are no fractions and no exponents.  The parser
refuses these, and an escaped surrogate.

`parse_print` is the round trip: whatever the strings of a value are, its text is parsed to
that value again.
-/

set_option autoImplicit false

namespace JsonText

universe u

/-! ## Values -/

inductive Value where
  | null
  | bool (b : Bool)
  | number (n : ℤ)
  | string (s : String)
  | array (items : List Value)
  | object (fields : List (String × Value))

/-- Inserts an entry at the place of its key; an entry with the same key is replaced. -/
def insertField {α : Type u} (key : String) (value : α) :
    List (String × α) → List (String × α)
  | [] => [(key, value)]
  | e :: rest =>
    if key < e.1 then (key, value) :: e :: rest
    else if key = e.1 then (key, value) :: rest
    else e :: insertField key value rest

/-- The entries in the order of their keys; of two with one key the last counts. -/
def sortFields {α : Type u} (fields : List (String × α)) : List (String × α) :=
  fields.foldl (fun m e => insertField e.1 e.2 m) []

namespace Value

/-- The object with these entries. -/
def ofFields (fields : List (String × Value)) : Value :=
  .object (sortFields fields)

def get (v : Value) (key : String) : Option Value :=
  match v with
  | .object fields => fields.lookup key
  | _ => none

/-- Looks up the keys of a path one after the other. -/
def path (v : Value) (keys : List String) : Option Value :=
  keys.foldl (fun v key => v.bind fun v => v.get key) (some v)

def asString : Value → Option String
  | .string s => some s
  | _ => none

/-- The keys of every object stand in their order, each once. -/
inductive Canonical : Value → Prop where
  | null : Canonical .null
  | bool (b : Bool) : Canonical (.bool b)
  | number (n : ℤ) : Canonical (.number n)
  | string (s : String) : Canonical (.string s)
  | array {items : List Value} (h : ∀ v ∈ items, Canonical v) : Canonical (.array items)
  | object {fields : List (String × Value)}
      (hkeys : fields.Pairwise fun e e' => e.1 < e'.1)
      (h : ∀ e ∈ fields, Canonical e.2) : Canonical (.object fields)

end Value

/-! ## Entries in order -/

section Fields

variable {α : Type u}

/-- Looking a key up at the first entry, or behind it. -/
theorem lookup_cons_ite (e : String × α) (rest : List (String × α)) (key : String) :
    (e :: rest).lookup key = if key = e.1 then some e.2 else rest.lookup key := by
  rw [List.lookup_cons]
  by_cases h : key = e.1
  · rw [if_pos h, beq_iff_eq.mpr h]
  · rw [if_neg h, beq_eq_false_iff_ne.mpr h]

/-- An inserted entry is found under its key, and the others as before. -/
theorem lookup_insertField (fields : List (String × α)) (key key' : String) (value : α) :
    (insertField key value fields).lookup key' =
      if key' = key then some value else fields.lookup key' := by
  induction fields with
  | nil => exact lookup_cons_ite (key, value) [] key'
  | cons e rest ih =>
    unfold insertField
    split
    · exact lookup_cons_ite (key, value) (e :: rest) key'
    · split
      · rename_i heq
        subst heq
        rw [lookup_cons_ite, lookup_cons_ite]
        split <;> rfl
      · rename_i hne
        rw [lookup_cons_ite, lookup_cons_ite, ih]
        by_cases h : key' = e.1
        · have hkey : key' ≠ key := fun heq => hne (heq.symm.trans h)
          rw [if_pos h, if_neg hkey, if_pos h]
        · rw [if_neg h, if_neg h]

/-- What stands after an insertion was inserted or was there before. -/
theorem mem_insertField {fields : List (String × α)} {key : String} {value : α}
    {e : String × α} (h : e ∈ insertField key value fields) :
    e = (key, value) ∨ e ∈ fields := by
  induction fields with
  | nil => simpa [insertField] using h
  | cons e' rest ih =>
    unfold insertField at h
    split at h
    · simpa using h
    · split at h
      · obtain rfl | h := List.mem_cons.mp h
        · exact Or.inl rfl
        · exact Or.inr (List.mem_cons_of_mem _ h)
      · obtain rfl | h := List.mem_cons.mp h
        · exact Or.inr List.mem_cons_self
        · exact (ih h).imp_right (List.mem_cons_of_mem _)

/-- Inserting an entry keeps the keys in order. -/
theorem sorted_insertField {fields : List (String × α)} {key : String} {value : α}
    (h : fields.Pairwise fun e e' => e.1 < e'.1) :
    (insertField key value fields).Pairwise fun e e' => e.1 < e'.1 := by
  induction fields with
  | nil => simp [insertField]
  | cons e rest ih =>
    obtain ⟨hfirst, hrest⟩ := List.pairwise_cons.mp h
    unfold insertField
    split
    · rename_i hlt
      refine List.pairwise_cons.mpr ⟨?_, h⟩
      intro e' he'
      obtain rfl | he' := List.mem_cons.mp he'
      · exact hlt
      · exact hlt.trans (hfirst e' he')
    · rename_i hnot
      split
      · rename_i heq
        subst heq
        exact List.pairwise_cons.mpr ⟨hfirst, hrest⟩
      · rename_i hne
        refine List.pairwise_cons.mpr ⟨?_, ih hrest⟩
        intro e' he'
        obtain rfl | he' := mem_insertField he'
        · exact lt_of_le_of_ne (not_lt.mp hnot) (Ne.symm hne)
        · exact hfirst e' he'

/-- An entry behind all the others goes to the end. -/
theorem insertField_of_lt {fields : List (String × α)} {key : String} {value : α}
    (h : ∀ e ∈ fields, e.1 < key) : insertField key value fields = fields ++ [(key, value)] := by
  induction fields with
  | nil => rfl
  | cons e rest ih =>
    have hlt := h e List.mem_cons_self
    unfold insertField
    rw [if_neg hlt.not_gt, if_neg hlt.ne', ih fun e' he' => h e' (List.mem_cons_of_mem _ he')]
    rfl

/-- The last entry is inserted last. -/
theorem sortFields_concat (fields : List (String × α)) (e : String × α) :
    sortFields (fields ++ [e]) = insertField e.1 e.2 (sortFields fields) := by
  unfold sortFields
  rw [List.foldl_append]
  rfl

/-- Sorting puts the keys in order, each once. -/
theorem sorted_sortFields (fields : List (String × α)) :
    (sortFields fields).Pairwise fun e e' => e.1 < e'.1 := by
  induction fields using List.reverseRecOn with
  | nil => exact List.Pairwise.nil
  | append_singleton fields e ih =>
    rw [sortFields_concat]
    exact sorted_insertField ih

/-- Sorting invents no entry. -/
theorem mem_sortFields {fields : List (String × α)} {e : String × α}
    (h : e ∈ sortFields fields) : e ∈ fields := by
  induction fields using List.reverseRecOn with
  | nil => cases h
  | append_singleton fields e' ih =>
    rw [sortFields_concat] at h
    obtain rfl | h := mem_insertField h
    · exact List.mem_append_right _ (List.mem_singleton_self _)
    · exact List.mem_append_left _ (ih h)

/-- Entries that stand in order stay as they are. -/
theorem sortFields_of_sorted {fields : List (String × α)}
    (h : fields.Pairwise fun e e' => e.1 < e'.1) : sortFields fields = fields := by
  induction fields using List.reverseRecOn with
  | nil => rfl
  | append_singleton fields e ih =>
    obtain ⟨hfields, -, hlast⟩ := List.pairwise_append.mp h
    rw [sortFields_concat, ih hfields]
    exact insertField_of_lt fun e' he' => hlast e' he' e (List.mem_singleton_self _)

end Fields

namespace Value

/-- Of two entries with one key the last is found. -/
theorem get_ofFields (fields : List (String × Value)) (key : String) :
    (ofFields fields).get key = fields.reverse.lookup key := by
  unfold ofFields get
  dsimp only
  induction fields using List.reverseRecOn with
  | nil => rfl
  | append_singleton fields e ih =>
    rw [sortFields_concat, lookup_insertField, ih, List.reverse_append]
    exact (lookup_cons_ite e fields.reverse key).symm

/-- An object of canonical values is canonical. -/
theorem canonical_ofFields {fields : List (String × Value)}
    (h : ∀ e ∈ fields, Canonical e.2) : Canonical (ofFields fields) :=
  .object (sorted_sortFields fields) fun e he => h e (mem_sortFields he)

end Value

/-! ## Printing -/

def hexDigit (n : ℕ) : Char :=
  if n < 10 then Char.ofNat ('0'.toNat + n) else Char.ofNat ('a'.toNat + (n - 10))

/-- A character of a string as it is written: the quote, the backslash and the control
characters are escaped. -/
def escape (c : Char) : List Char :=
  if c = '\x22' then ['\\', '\x22']
  else if c = '\\' then ['\\', '\\']
  else if c = '\n' then ['\\', 'n']
  else if c = '\r' then ['\\', 'r']
  else if c = '\t' then ['\\', 't']
  else if c = '\x08' then ['\\', 'b']
  else if c = '\x0c' then ['\\', 'f']
  else if c.toNat < 0x20 then
    ['\\', 'u', '0', '0', hexDigit (c.toNat / 16), hexDigit (c.toNat % 16)]
  else [c]

def printString (s : String) : List Char :=
  '\x22' :: s.toList.flatMap escape ++ ['\x22']

def printNumber : ℤ → List Char
  | .ofNat n => Nat.toDigits 10 n
  | .negSucc n => '-' :: Nat.toDigits 10 (n + 1)

mutual

/-- The compact text of a value. -/
def print : Value → List Char
  | .null => "null".toList
  | .bool true => "true".toList
  | .bool false => "false".toList
  | .number n => printNumber n
  | .string s => printString s
  | .array [] => ['[', ']']
  | .array (v :: items) => '[' :: print v ++ printItems items
  | .object [] => ['\x7b', '\x7d']
  | .object (e :: fields) => '\x7b' :: printString e.1 ++ ':' :: print e.2 ++ printFields fields

/-- The items behind the first one, and the end of the array. -/
def printItems : List Value → List Char
  | [] => [']']
  | v :: items => ',' :: print v ++ printItems items

/-- The entries behind the first one, and the end of the object. -/
def printFields : List (String × Value) → List Char
  | [] => ['\x7d']
  | e :: fields => ',' :: printString e.1 ++ ':' :: print e.2 ++ printFields fields

end

/-! ## Parsing -/

def isSpace (c : Char) : Bool :=
  c = ' ' || c = '\n' || c = '\r' || c = '\t'

def skipSpace (cs : List Char) : List Char :=
  cs.dropWhile isSpace

def hexValue (c : Char) : Option ℕ :=
  if c.isDigit then some (c.toNat - '0'.toNat)
  else if 'a'.toNat ≤ c.toNat && c.toNat ≤ 'f'.toNat then some (c.toNat - 'a'.toNat + 10)
  else if 'A'.toNat ≤ c.toNat && c.toNat ≤ 'F'.toNat then some (c.toNat - 'A'.toNat + 10)
  else none

/-- The character of four hexadecimal digits, which may not be a surrogate. -/
def hexChar (a b c d : Char) : Option Char :=
  match [a, b, c, d].mapM hexValue with
  | none => none
  | some digits =>
    let n := digits.foldl (fun n digit => 16 * n + digit) 0
    if n.isValidChar then some (Char.ofNat n) else none

/-- What a character behind a backslash stands for. -/
def unescape (c : Char) : Option Char :=
  [('\x22', '\x22'), ('\\', '\\'), ('/', '/'), ('n', '\n'), ('r', '\r'), ('t', '\t'),
    ('b', '\x08'), ('f', '\x0c')].lookup c

/-- Puts a character before what was parsed. -/
def prepend (c : Char) (parsed : List Char × List Char) : List Char × List Char :=
  (c :: parsed.1, parsed.2)

/-- The characters of a string up to its closing quote, and what comes behind. -/
def parseChars : List Char → Option (List Char × List Char)
  | [] => none
  | c :: cs =>
    if c = '\x22' then some ([], cs)
    else if c = '\\' then
      match cs with
      | 'u' :: a :: b :: c :: d :: rest =>
        (hexChar a b c d).bind fun ch => (parseChars rest).map (prepend ch)
      | e :: rest => (unescape e).bind fun ch => (parseChars rest).map (prepend ch)
      | [] => none
    else if c.toNat < 0x20 then none
    else (parseChars cs).map (prepend c)

def parseDigits (cs : List Char) : Option (ℕ × List Char) :=
  match cs.span Char.isDigit with
  | ([], _) => none
  | (digits, rest) => some (Nat.ofDigitChars 10 digits 0, rest)

def parseNumber : List Char → Option (Value × List Char)
  | '-' :: cs => (parseDigits cs).map fun p => (.number (-p.1), p.2)
  | cs => (parseDigits cs).map fun p => (.number p.1, p.2)

/-- One of the three words. -/
def parseWord (cs : List Char) : Option (Value × List Char) :=
  [("null", Value.null), ("true", .bool true), ("false", .bool false)].findSome? fun word =>
    if word.1.toList <+: cs then some (word.2, cs.drop word.1.toList.length) else none

/-- A key and its colon. -/
def parseKey (cs : List Char) : Option (String × List Char) :=
  match skipSpace cs with
  | '\x22' :: cs =>
    (parseChars cs).bind fun p =>
      match skipSpace p.2 with
      | ':' :: rest => some (String.ofList p.1, rest)
      | _ => none
  | _ => none

mutual

/-- A value and what comes behind it; the text is not longer than the fuel. -/
def parseValue : ℕ → List Char → Option (Value × List Char)
  | 0, _ => none
  | fuel + 1, cs =>
    match skipSpace cs with
    | [] => none
    | '\x22' :: cs => (parseChars cs).map fun p => (.string (String.ofList p.1), p.2)
    | '[' :: cs =>
      match skipSpace cs with
      | ']' :: rest => some (.array [], rest)
      | _ =>
        (parseValue fuel cs).bind fun v => (parseItems fuel v.2).map fun items =>
          (.array (v.1 :: items.1), items.2)
    | '\x7b' :: cs =>
      match skipSpace cs with
      | '\x7d' :: rest => some (.object [], rest)
      | _ =>
        (parseKey cs).bind fun key => (parseValue fuel key.2).bind fun v =>
          (parseFields fuel v.2).map fun fields =>
            (.ofFields ((key.1, v.1) :: fields.1), fields.2)
    | c :: cs => if c = '-' || c.isDigit then parseNumber (c :: cs) else parseWord (c :: cs)

/-- The items behind the first one, up to the end of the array. -/
def parseItems : ℕ → List Char → Option (List Value × List Char)
  | 0, _ => none
  | fuel + 1, cs =>
    match skipSpace cs with
    | ']' :: rest => some ([], rest)
    | ',' :: cs =>
      (parseValue fuel cs).bind fun v => (parseItems fuel v.2).map fun items =>
        (v.1 :: items.1, items.2)
    | _ => none

/-- The entries behind the first one, up to the end of the object. -/
def parseFields : ℕ → List Char → Option (List (String × Value) × List Char)
  | 0, _ => none
  | fuel + 1, cs =>
    match skipSpace cs with
    | '\x7d' :: rest => some ([], rest)
    | ',' :: cs =>
      (parseKey cs).bind fun key => (parseValue fuel key.2).bind fun v =>
        (parseFields fuel v.2).map fun fields => ((key.1, v.1) :: fields.1, fields.2)
    | _ => none

end

/-- The value of a text, if there is nothing behind it. -/
def parse (s : String) : Option Value :=
  match parseValue s.toList.length s.toList with
  | none => none
  | some p => if skipSpace p.2 = [] then some p.1 else none

/-! ## The round trip -/

/-- A character that is no space ends the spaces. -/
theorem skipSpace_cons {c : Char} (h : isSpace c = false) (cs : List Char) :
    skipSpace (c :: cs) = c :: cs := by
  unfold skipSpace
  rw [List.dropWhile_cons_of_neg (by rw [h]; exact Bool.false_ne_true)]

/-! ### Strings -/

/-- A control character is read back from its four digits. -/
theorem hexChar_control {n : ℕ} (h : n < 0x20) :
    hexChar '0' '0' (hexDigit (n / 16)) (hexDigit (n % 16)) = some (Char.ofNat n) := by
  have hall : ∀ n < 0x20, hexChar '0' '0' (hexDigit (n / 16)) (hexDigit (n % 16)) =
      some (Char.ofNat n) := by decide
  exact hall n h

/-- A two-character escape is read as its character. -/
theorem parseChars_escaped {e ch : Char} (hu : e ≠ 'u') (h : unescape e = some ch)
    (rest : List Char) :
    parseChars ('\\' :: e :: rest) = (parseChars rest).map (prepend ch) := by
  rw [parseChars.eq_def]
  dsimp only
  rw [if_neg (by decide), if_pos rfl]
  split
  · rename_i heq
    exact absurd (List.cons.inj heq).1 hu
  · rename_i heq
    obtain ⟨rfl, rfl⟩ := List.cons.inj heq
    rw [h]
    rfl
  · rename_i heq
    cases heq

/-- **The escape of a character is read as the character.** -/
theorem parseChars_escape (c : Char) (rest : List Char) :
    parseChars (escape c ++ rest) = (parseChars rest).map (prepend c) := by
  unfold escape
  split
  · subst_vars
    exact parseChars_escaped (by decide) rfl rest
  split
  · subst_vars
    exact parseChars_escaped (by decide) rfl rest
  split
  · subst_vars
    exact parseChars_escaped (by decide) rfl rest
  split
  · subst_vars
    exact parseChars_escaped (by decide) rfl rest
  split
  · subst_vars
    exact parseChars_escaped (by decide) rfl rest
  split
  · subst_vars
    exact parseChars_escaped (by decide) rfl rest
  split
  · subst_vars
    exact parseChars_escaped (by decide) rfl rest
  rename_i hquote hslash _ _ _ _ _
  split
  · rename_i hcontrol
    show parseChars ('\\' :: 'u' :: '0' :: '0' :: hexDigit (c.toNat / 16) ::
      hexDigit (c.toNat % 16) :: rest) = _
    rw [parseChars.eq_def]
    dsimp only
    rw [if_neg (by decide), if_pos rfl]
    show (hexChar '0' '0' (hexDigit (c.toNat / 16)) (hexDigit (c.toNat % 16))).bind _ = _
    rw [hexChar_control hcontrol, Char.ofNat_toNat]
    rfl
  · rename_i hplain
    show parseChars (c :: rest) = _
    rw [parseChars.eq_def]
    dsimp only
    rw [if_neg hquote, if_neg hslash, if_neg hplain]

/-- So the escapes of a string are read as the string, up to the closing quote. -/
theorem parseChars_flatMap (s : List Char) (rest : List Char) :
    parseChars (s.flatMap escape ++ '\x22' :: rest) = some (s, rest) := by
  induction s with
  | nil =>
    show parseChars ('\x22' :: rest) = some ([], rest)
    rw [parseChars.eq_def]
    rfl
  | cons c s ih =>
    rw [List.flatMap_cons, List.append_assoc, parseChars_escape, ih]
    rfl

/-- A printed string opens with a quote and closes with one. -/
theorem printString_append (s : String) (rest : List Char) :
    printString s ++ rest = '\x22' :: (s.toList.flatMap escape ++ '\x22' :: rest) := by
  simp [printString]

/-- A printed key with its colon is read back. -/
theorem parseKey_print (key : String) (rest : List Char) :
    parseKey (printString key ++ ':' :: rest) = some (key, rest) := by
  rw [printString_append]
  unfold parseKey
  rw [skipSpace_cons rfl]
  show (parseChars (key.toList.flatMap escape ++ '\x22' :: ':' :: rest)).bind _ = _
  rw [parseChars_flatMap, Option.bind_some, skipSpace_cons rfl]
  show some (String.ofList key.toList, rest) = _
  rw [String.ofList_toList]

/-! ### Numbers -/

/-- What comes behind a number starts with no digit. -/
def NoDigit (rest : List Char) : Prop :=
  ∀ c ∈ rest.head?, c.isDigit = false

/-- A rest that begins with another character begins with no digit. -/
theorem noDigit_cons {c : Char} (h : c.isDigit = false) (rest : List Char) :
    NoDigit (c :: rest) := by
  intro d hd
  obtain rfl := Option.some.inj hd
  exact h

/-- The digits in front of a rest without one are taken off it whole. -/
theorem span_digits {digits rest : List Char} (h : ∀ c ∈ digits, c.isDigit = true)
    (hrest : NoDigit rest) : (digits ++ rest).span Char.isDigit = (digits, rest) := by
  rw [List.span_eq_takeWhile_dropWhile, List.takeWhile_append_of_pos h,
    List.dropWhile_append_of_pos h]
  cases rest with
  | nil => simp
  | cons c rest =>
    have hc := hrest c rfl
    simp [hc]

/-- The decimal digits of a number are digits. -/
theorem isDigit_of_mem {n : ℕ} {c : Char} (h : c ∈ Nat.toDigits 10 n) : c.isDigit = true :=
  Nat.isDigit_of_mem_toDigits (by decide) (by decide) h

/-- The digits of a natural number are read as the number. -/
theorem parseDigits_toDigits (n : ℕ) {rest : List Char} (hrest : NoDigit rest) :
    parseDigits (Nat.toDigits 10 n ++ rest) = some (n, rest) := by
  unfold parseDigits
  rw [span_digits (fun c hc => isDigit_of_mem hc) hrest]
  split
  · rename_i heq
    exact absurd (Prod.mk.inj heq).1 Nat.toDigits_ne_nil
  · rename_i heq
    obtain ⟨rfl, rfl⟩ := Prod.mk.inj heq
    rw [Nat.ofDigitChars_ten_toDigits]

/-- The first character of a number. -/
theorem printNumber_head (n : ℤ) : ∃ c cs, printNumber n = c :: cs ∧
    (c = '-' || c.isDigit) = true := by
  cases n with
  | ofNat n =>
    obtain ⟨c, cs, heq⟩ := List.exists_cons_of_ne_nil (@Nat.toDigits_ne_nil n 10)
    refine ⟨c, cs, heq, ?_⟩
    have hdigit : c.isDigit = true := isDigit_of_mem (by rw [heq]; exact List.mem_cons_self)
    rw [hdigit, Bool.or_true]
  | negSucc n => exact ⟨'-', _, rfl, rfl⟩

/-- A printed number is read back, in front of a rest that does not continue it. -/
theorem parseNumber_print (n : ℤ) {rest : List Char} (hrest : NoDigit rest) :
    parseNumber (printNumber n ++ rest) = some (.number n, rest) := by
  cases n with
  | ofNat n =>
    obtain ⟨c, cs, heq⟩ := List.exists_cons_of_ne_nil (@Nat.toDigits_ne_nil n 10)
    have hdigit : c.isDigit = true := isDigit_of_mem (by rw [heq]; exact List.mem_cons_self)
    have hminus : c ≠ '-' := by
      rintro rfl
      cases hdigit
    have hparse := parseDigits_toDigits n hrest
    show parseNumber (Nat.toDigits 10 n ++ rest) = _
    rw [heq, List.cons_append] at hparse ⊢
    unfold parseNumber
    split
    · rename_i hsame
      exact absurd (List.cons.inj hsame).1 hminus
    · rw [hparse]
      rfl
  | negSucc n =>
    show Option.map _ (parseDigits (Nat.toDigits 10 (n + 1) ++ rest)) = _
    rw [parseDigits_toDigits (n + 1) hrest]
    rfl

/-- A number starts with none of the characters that mean something else. -/
theorem number_head_ne {c : Char} (hc : (c = '-' || c.isDigit) = true) {d : Char}
    (hd : (d = '-' || d.isDigit) = false) : c ≠ d := by
  rintro rfl
  simp only [hc] at hd
  cases hd

/-- No space begins a number. -/
theorem isSpace_of_number {c : Char} (hc : (c = '-' || c.isDigit) = true) :
    isSpace c = false := by
  unfold isSpace
  simp only [Bool.or_eq_false_iff, decide_eq_false_iff_not]
  exact ⟨⟨⟨number_head_ne hc rfl, number_head_ne hc rfl⟩, number_head_ne hc rfl⟩,
    number_head_ne hc rfl⟩

/-! ### Values -/

/-- The first character of a value is no space and closes nothing. -/
theorem print_head (v : Value) : ∃ c cs, print v = c :: cs ∧ isSpace c = false ∧ c ≠ ']' := by
  cases v with
  | null => exact ⟨_, _, rfl, rfl, by decide⟩
  | bool b => cases b <;> exact ⟨_, _, rfl, rfl, by decide⟩
  | number n =>
    obtain ⟨c, cs, heq, hc⟩ := printNumber_head n
    exact ⟨c, cs, by rw [print, heq], isSpace_of_number hc, number_head_ne hc rfl⟩
  | string s => exact ⟨_, _, rfl, rfl, by decide⟩
  | array items => cases items <;> exact ⟨_, _, rfl, rfl, by decide⟩
  | object fields => cases fields <;> exact ⟨_, _, rfl, rfl, by decide⟩

/-- What begins with a sign or a digit is read as a number. -/
theorem parseValue_number (fuel : ℕ) {c : Char} (hc : (c = '-' || c.isDigit) = true)
    (cs : List Char) : parseValue (fuel + 1) (c :: cs) = parseNumber (c :: cs) := by
  rw [parseValue, skipSpace_cons (isSpace_of_number hc)]
  split
  · rename_i heq
    cases heq
  · rename_i heq
    exact absurd (List.cons.inj heq).1 (number_head_ne hc rfl)
  · rename_i heq
    exact absurd (List.cons.inj heq).1 (number_head_ne hc rfl)
  · rename_i heq
    exact absurd (List.cons.inj heq).1 (number_head_ne hc rfl)
  · rename_i heq
    obtain ⟨rfl, rfl⟩ := List.cons.inj heq
    rw [if_pos hc]

/-- A bracket that is not closed at once starts the items. -/
theorem parseValue_bracket (fuel : ℕ) {c : Char} (hspace : isSpace c = false) (hc : c ≠ ']')
    (cs : List Char) : parseValue (fuel + 1) ('[' :: c :: cs) =
      (parseValue fuel (c :: cs)).bind fun v => (parseItems fuel v.2).map fun items =>
        (.array (v.1 :: items.1), items.2) := by
  rw [parseValue, skipSpace_cons rfl]
  simp only [skipSpace_cons hspace]
  split
  · rename_i heq
    exact absurd (List.cons.inj heq).1 hc
  · rfl

/-- A brace that is not closed at once starts the entries. -/
theorem parseValue_brace (fuel : ℕ) (cs : List Char) :
    parseValue (fuel + 1) ('\x7b' :: '\x22' :: cs) =
      (parseKey ('\x22' :: cs)).bind fun key => (parseValue fuel key.2).bind fun v =>
        (parseFields fuel v.2).map fun fields =>
          (.ofFields ((key.1, v.1) :: fields.1), fields.2) := by
  rw [parseValue, skipSpace_cons rfl]
  rfl

/-- What follows the first item of an array does not continue a number. -/
theorem noDigit_printItems (items : List Value) (rest : List Char) :
    NoDigit (printItems items ++ rest) := by
  cases items <;> exact noDigit_cons rfl _

/-- Nor does what follows the first entry of an object. -/
theorem noDigit_printFields (fields : List (String × Value)) (rest : List Char) :
    NoDigit (printFields fields ++ rest) := by
  cases fields <;> exact noDigit_cons rfl _

mutual

/-- A printed value is read back, with fuel for its length. -/
theorem parseValue_print (v : Value) (hv : v.Canonical) {rest : List Char}
    (hrest : NoDigit rest) {fuel : ℕ} (hfuel : (print v).length ≤ fuel) :
    parseValue fuel (print v ++ rest) = some (v, rest) := by
  obtain ⟨fuel, rfl⟩ : ∃ n, fuel = n + 1 := by
    obtain ⟨c, cs, heq, -, -⟩ := print_head v
    rw [heq, List.length_cons] at hfuel
    exact ⟨fuel - 1, by omega⟩
  match v, hv with
  | .null, _ => rfl
  | .bool true, _ => rfl
  | .bool false, _ => rfl
  | .number n, _ =>
    obtain ⟨c, cs, heq, hc⟩ := printNumber_head n
    have hparse := parseNumber_print n hrest
    rw [print]
    rw [heq, List.cons_append] at hparse ⊢
    rw [parseValue_number fuel hc, hparse]
  | .string s, _ =>
    rw [print, printString_append, parseValue, skipSpace_cons rfl]
    show Option.map _ (parseChars (s.toList.flatMap escape ++ '\x22' :: rest)) = _
    rw [parseChars_flatMap]
    show some (Value.string (String.ofList s.toList), rest) = _
    rw [String.ofList_toList]
  | .array [], _ => rfl
  | .array (v :: items), .array hitems =>
    have hlength : (print v).length + (printItems items).length ≤ fuel := by
      simp only [print, List.length_cons, List.length_append] at hfuel
      omega
    have hv := parseValue_print v (hitems v List.mem_cons_self) (noDigit_printItems items rest)
      (by omega : (print v).length ≤ fuel)
    have hrest := parseItems_print items (fun v hv => hitems v (List.mem_cons_of_mem _ hv)) rest
      (by omega : (printItems items).length ≤ fuel)
    obtain ⟨c, cs, heq, hspace, hc⟩ := print_head v
    have htext : print (.array (v :: items)) ++ rest =
        '[' :: c :: (cs ++ (printItems items ++ rest)) := by
      simp [print, heq]
    rw [heq, List.cons_append] at hv
    rw [htext, parseValue_bracket fuel hspace hc, hv, Option.bind_some, hrest]
    rfl
  | .object [], _ => rfl
  | .object (e :: fields), .object hkeys hfields =>
    have hlength : (print e.2).length + (printFields fields).length ≤ fuel := by
      simp only [print, List.length_cons, List.length_append] at hfuel
      omega
    have hv := parseValue_print e.2 (hfields e List.mem_cons_self)
      (noDigit_printFields fields rest) (by omega : (print e.2).length ≤ fuel)
    have hrest := parseFields_print fields (fun e he => hfields e (List.mem_cons_of_mem _ he))
      rest (by omega : (printFields fields).length ≤ fuel)
    have hkey := parseKey_print e.1 (print e.2 ++ (printFields fields ++ rest))
    have htext : print (.object (e :: fields)) ++ rest =
        '\x7b' :: (printString e.1 ++ ':' :: (print e.2 ++ (printFields fields ++ rest))) := by
      simp [print]
    rw [printString_append] at hkey
    rw [htext, printString_append, parseValue_brace, hkey, Option.bind_some]
    dsimp only
    rw [hv, Option.bind_some]
    dsimp only
    rw [hrest]
    show some (Value.ofFields (e :: fields), rest) = _
    rw [Value.ofFields, sortFields_of_sorted hkeys]

/-- So are the remaining items of an array, by induction on them. -/
theorem parseItems_print (items : List Value) (hitems : ∀ v ∈ items, v.Canonical)
    (rest : List Char) {fuel : ℕ} (hfuel : (printItems items).length ≤ fuel) :
    parseItems fuel (printItems items ++ rest) = some (items, rest) := by
  obtain ⟨fuel, rfl⟩ : ∃ n, fuel = n + 1 := by
    refine ⟨fuel - 1, ?_⟩
    cases items <;> simp [printItems] at hfuel <;> omega
  match items with
  | [] => rfl
  | v :: items =>
    have hlength : (print v).length + (printItems items).length ≤ fuel := by
      simp only [printItems, List.length_cons, List.length_append] at hfuel
      omega
    have hv := parseValue_print v (hitems v List.mem_cons_self) (noDigit_printItems items rest)
      (by omega : (print v).length ≤ fuel)
    have hrest := parseItems_print items (fun v hv => hitems v (List.mem_cons_of_mem _ hv)) rest
      (by omega : (printItems items).length ≤ fuel)
    have htext : printItems (v :: items) ++ rest =
        ',' :: (print v ++ (printItems items ++ rest)) := by
      simp [printItems]
    rw [htext, parseItems, skipSpace_cons rfl]
    show (parseValue fuel (print v ++ (printItems items ++ rest))).bind _ = _
    rw [hv, Option.bind_some, hrest]
    rfl

/-- And the remaining entries of an object. -/
theorem parseFields_print (fields : List (String × Value))
    (hfields : ∀ e ∈ fields, e.2.Canonical) (rest : List Char) {fuel : ℕ}
    (hfuel : (printFields fields).length ≤ fuel) :
    parseFields fuel (printFields fields ++ rest) = some (fields, rest) := by
  obtain ⟨fuel, rfl⟩ : ∃ n, fuel = n + 1 := by
    refine ⟨fuel - 1, ?_⟩
    cases fields <;> simp [printFields] at hfuel <;> omega
  match fields with
  | [] => rfl
  | e :: fields =>
    have hlength : (print e.2).length + (printFields fields).length ≤ fuel := by
      simp only [printFields, List.length_cons, List.length_append] at hfuel
      omega
    have hv := parseValue_print e.2 (hfields e List.mem_cons_self)
      (noDigit_printFields fields rest) (by omega : (print e.2).length ≤ fuel)
    have hrest := parseFields_print fields (fun e he => hfields e (List.mem_cons_of_mem _ he))
      rest (by omega : (printFields fields).length ≤ fuel)
    have hkey := parseKey_print e.1 (print e.2 ++ (printFields fields ++ rest))
    have htext : printFields (e :: fields) ++ rest =
        ',' :: (printString e.1 ++ ':' :: (print e.2 ++ (printFields fields ++ rest))) := by
      simp [printFields]
    rw [htext, parseFields, skipSpace_cons rfl]
    show (parseKey (printString e.1 ++ ':' :: (print e.2 ++ (printFields fields ++ rest)))).bind
      _ = _
    rw [hkey, Option.bind_some]
    dsimp only
    rw [hv, Option.bind_some]
    dsimp only
    rw [hrest]
    rfl

end

/-- **The text of a value is parsed to the value.** -/
theorem parse_print {v : Value} (hv : v.Canonical) :
    parse (String.ofList (print v)) = some v := by
  have hnil : NoDigit [] := by
    intro c hc
    cases hc
  have hparsed := parseValue_print v hv hnil (Nat.le_refl _)
  rw [List.append_nil] at hparsed
  unfold parse
  rw [String.toList_ofList, hparsed]
  rfl

end JsonText
