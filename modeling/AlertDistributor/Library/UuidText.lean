import AlertDistributor.Library.JsonText
import Mathlib.Algebra.GroupWithZero.Nat

/-!
# UUIDs as text

A UUID is written with 32 hexadecimal digits in five groups.  `parse` reads this form, the one
without hyphens, and the ones in braces and behind `urn:uuid:`; `parse_print` is the round
trip.
-/

set_option autoImplicit false

namespace UuidText

open JsonText

/-! ## Digits -/

/-- The last `k` hexadecimal digits of a number. -/
def digits : ℕ → ℕ → List Char
  | 0, _ => []
  | k + 1, n => digits k (n / 16) ++ [hexDigit (n % 16)]

def ofDigits (cs : List Char) : Option ℕ :=
  (cs.mapM hexValue).map fun values => values.foldl (fun n value => 16 * n + value) 0

/-- There are as many digits as are asked for. -/
theorem length_digits (k n : ℕ) : (digits k n).length = k := by
  induction k generalizing n with
  | zero => rfl
  | succ k ih => rw [digits, List.length_append, ih, List.length_singleton]

/-- A digit is read as what it was written for. -/
theorem hexValue_hexDigit {n : ℕ} (h : n < 16) : hexValue (hexDigit n) = some n := by
  have hall : ∀ n < 16, hexValue (hexDigit n) = some n := by decide
  exact hall n h

/-- A further digit multiplies by 16 and adds its value. -/
theorem ofDigits_concat {cs : List Char} {n : ℕ} (h : ofDigits cs = some n) {c : Char}
    {value : ℕ} (hc : hexValue c = some value) :
    ofDigits (cs ++ [c]) = some (16 * n + value) := by
  obtain ⟨values, hvalues, rfl⟩ := Option.map_eq_some_iff.mp h
  simp [ofDigits, List.mapM_append, hvalues, hc]

/-- The digits of a number are read as the number. -/
theorem ofDigits_digits {k n : ℕ} (h : n < 16 ^ k) : ofDigits (digits k n) = some n := by
  induction k generalizing n with
  | zero =>
    obtain rfl := Nat.lt_one_iff.mp h
    rfl
  | succ k ih =>
    have hhigh : n / 16 < 16 ^ k := by
      rw [Nat.div_lt_iff_lt_mul (by decide), ← Nat.pow_succ]
      exact h
    have hlow : n % 16 < 16 := Nat.mod_lt n (by decide)
    rw [digits, ofDigits_concat (ih hhigh) (hexValue_hexDigit hlow), Nat.div_add_mod]

/-! ## Groups -/

/-- The digits in groups of these lengths, with hyphens between them. -/
def hyphenate : List ℕ → List Char → List Char
  | [], cs => cs
  | n :: lengths, cs => cs.take n ++ '-' :: hyphenate lengths (cs.drop n)

/-- Takes the hyphens out, which must stand where `hyphenate` puts them. -/
def unhyphenate : List ℕ → List Char → Option (List Char)
  | [], cs => some cs
  | n :: lengths, cs =>
    match cs.drop n with
    | '-' :: rest => (unhyphenate lengths rest).map fun digits => cs.take n ++ digits
    | _ => none

/-- Taking the hyphens out undoes putting them in. -/
theorem unhyphenate_hyphenate {lengths : List ℕ} {cs : List Char}
    (h : lengths.sum ≤ cs.length) :
    unhyphenate lengths (hyphenate lengths cs) = some cs := by
  induction lengths generalizing cs with
  | nil => rfl
  | cons n lengths ih =>
    rw [List.sum_cons] at h
    have hlength : (cs.take n).length = n := by
      rw [List.length_take]
      omega
    have hrest : lengths.sum ≤ (cs.drop n).length := by
      rw [List.length_drop]
      omega
    rw [hyphenate, unhyphenate, List.drop_left' hlength, List.take_left' hlength]
    show (unhyphenate lengths (hyphenate lengths (cs.drop n))).map _ = _
    rw [ih hrest, Option.map_some, List.take_append_drop]

/-- There is one hyphen for each group. -/
theorem length_hyphenate {lengths : List ℕ} {cs : List Char} (h : lengths.sum ≤ cs.length) :
    (hyphenate lengths cs).length = cs.length + lengths.length := by
  induction lengths generalizing cs with
  | nil => rfl
  | cons n lengths ih =>
    rw [List.sum_cons] at h
    have hrest : lengths.sum ≤ (cs.drop n).length := by
      rw [List.length_drop]
      omega
    rw [hyphenate, List.length_append, List.length_cons, ih hrest, List.length_take,
      List.length_drop, List.length_cons]
    omega

/-! ## UUIDs -/

/-- The groups in front of the last one. -/
def groups : List ℕ :=
  [8, 4, 4, 4]

def print (u : Fin (2 ^ 128)) : String :=
  String.ofList (hyphenate groups (digits 32 u))

/-- A number of 32 digits. -/
def ofSimple (cs : List Char) : Option (Fin (2 ^ 128)) :=
  (ofDigits cs).bind fun n => if h : n < 2 ^ 128 then some ⟨n, h⟩ else none

def ofHyphenated (cs : List Char) : Option (Fin (2 ^ 128)) :=
  if cs.length = 36 then (unhyphenate groups cs).bind ofSimple else none

/-- The form is told by the length of the text. -/
def parse (s : String) : Option (Fin (2 ^ 128)) :=
  match s.toList.length with
  | 32 => ofSimple s.toList
  | 36 => ofHyphenated s.toList
  | 38 =>
    if s.toList.head? = some '\x7b' ∧ s.toList.getLast? = some '\x7d' then
      ofHyphenated (s.toList.tail.dropLast)
    else none
  | 45 =>
    if "urn:uuid:".toList <+: s.toList then ofHyphenated (s.toList.drop 9) else none
  | _ => none

/-- **A UUID is read back from its text.** -/
theorem parse_print (u : Fin (2 ^ 128)) : parse (print u) = some u := by
  have hdigits : (digits 32 u).length = 32 := length_digits 32 u
  have hsum : groups.sum ≤ (digits 32 u).length := by
    rw [hdigits]
    decide
  have hlength : (hyphenate groups (digits 32 u)).length = 36 := by
    rw [length_hyphenate hsum, hdigits]
    rfl
  have hnumber : ofDigits (digits 32 u) = some u.val :=
    ofDigits_digits (by have := u.isLt; omega)
  unfold parse print
  rw [String.toList_ofList, hlength]
  show ofHyphenated _ = _
  rw [ofHyphenated, if_pos hlength, unhyphenate_hyphenate hsum, Option.bind_some, ofSimple,
    hnumber, Option.bind_some, dif_pos u.isLt]

end UuidText
