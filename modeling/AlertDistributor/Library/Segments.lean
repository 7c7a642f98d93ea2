import Mathlib.Data.List.Basic

/-!
# The segments of a split list

`List.splitOn a xs` cuts a list at every occurrence of `a`.  A parser that splits its input
usually keeps one segment and drops the others, and what it accepts is then a statement
about occurrences, not about lists of segments: the last segment is what follows the last
`a` (`getLast?_splitOn_eq_some_iff`), the second one what stands between the first `a` and
the next, or the end (`getElem?_one_splitOn_eq_some_iff`).
-/

set_option autoImplicit false

namespace Segments

universe u

variable {α : Type u} [BEq α] [LawfulBEq α]

/-! ## The last segment -/

omit [BEq α] [LawfulBEq α] in
/-- A list that has an `a` breaks at its last one. -/
theorem exists_last_of_mem {a : α} {xs : List α} (h : a ∈ xs) :
    ∃ front back, xs = front ++ a :: back ∧ a ∉ back := by
  obtain ⟨back, front, heq, hfree⟩ := List.eq_append_cons_of_mem (List.mem_reverse.mpr h)
  refine ⟨front.reverse, back.reverse, ?_, by simpa using hfree⟩
  have hxs := congrArg List.reverse heq
  simpa using hxs

/-- Without a separator the whole list is the last part. -/
theorem getLast?_splitOn_of_not_mem {a : α} {xs : List α} (h : a ∉ xs) :
    (xs.splitOn a).getLast? = some xs := by
  rw [List.splitOn_eq_singleton h, List.getLast?_singleton]

/-- The last part stands behind the last separator. -/
theorem getLast?_splitOn_append_cons {a : α} {back : List α} (h : a ∉ back) (front : List α) :
    ((front ++ a :: back).splitOn a).getLast? = some back := by
  rw [List.splitOn_append_cons_self, List.splitOn_eq_singleton h, List.getLast?_concat]

/-- **The last segment** is what follows the last `a`, or everything if there is none. -/
theorem getLast?_splitOn_eq_some_iff {a : α} {xs r : List α} :
    (xs.splitOn a).getLast? = some r ↔
      a ∉ r ∧ (xs = r ∨ ∃ front, xs = front ++ a :: r) := by
  constructor
  · intro h
    by_cases hmem : a ∈ xs
    · obtain ⟨front, back, rfl, hfree⟩ := exists_last_of_mem hmem
      rw [getLast?_splitOn_append_cons hfree] at h
      obtain rfl : back = r := Option.some.inj h
      exact ⟨hfree, Or.inr ⟨front, rfl⟩⟩
    · rw [getLast?_splitOn_of_not_mem hmem] at h
      obtain rfl : xs = r := Option.some.inj h
      exact ⟨hmem, Or.inl rfl⟩
  · rintro ⟨hfree, rfl | ⟨front, rfl⟩⟩
    · exact getLast?_splitOn_of_not_mem hfree
    · exact getLast?_splitOn_append_cons hfree front

/-! ## The second segment -/

/-- Without a separator the whole list is the first part. -/
theorem head?_splitOn_of_not_mem {a : α} {xs : List α} (h : a ∉ xs) :
    (xs.splitOn a).head? = some xs := by
  rw [List.splitOn_eq_singleton h, List.head?_cons]

/-- The first part stands before the first separator. -/
theorem head?_splitOn_append_cons {a : α} {front : List α} (h : a ∉ front) (back : List α) :
    ((front ++ a :: back).splitOn a).head? = some front := by
  rw [List.splitOn_append_cons_self_of_not_mem h, List.head?_cons]

/-- The first segment is what precedes the first `a`, or everything if there is none. -/
theorem head?_splitOn_eq_some_iff {a : α} {xs k : List α} :
    (xs.splitOn a).head? = some k ↔
      a ∉ k ∧ (xs = k ∨ ∃ back, xs = k ++ a :: back) := by
  constructor
  · intro h
    by_cases hmem : a ∈ xs
    · obtain ⟨front, back, rfl, hfree⟩ := List.eq_append_cons_of_mem hmem
      rw [head?_splitOn_append_cons hfree] at h
      obtain rfl : front = k := Option.some.inj h
      exact ⟨hfree, Or.inr ⟨back, rfl⟩⟩
    · rw [head?_splitOn_of_not_mem hmem] at h
      obtain rfl : xs = k := Option.some.inj h
      exact ⟨hmem, Or.inl rfl⟩
  · rintro ⟨hfree, rfl | ⟨back, rfl⟩⟩
    · exact head?_splitOn_of_not_mem hfree
    · exact head?_splitOn_append_cons hfree back

/-- A list without an `a` has one segment only. -/
theorem getElem?_one_splitOn_of_not_mem {a : α} {xs : List α} (h : a ∉ xs) :
    (xs.splitOn a)[1]? = none := by
  rw [List.splitOn_eq_singleton h]
  rfl

/-- Behind the first `a` the segments are those of the rest. -/
theorem getElem?_one_splitOn_append_cons {a : α} {front : List α} (h : a ∉ front)
    (back : List α) : ((front ++ a :: back).splitOn a)[1]? = (back.splitOn a).head? := by
  rw [List.splitOn_append_cons_self_of_not_mem h, List.getElem?_cons_succ,
    List.head?_eq_getElem?]

/-- **The second segment** stands between the first `a` and the next one, or the end. -/
theorem getElem?_one_splitOn_eq_some_iff {a : α} {xs k : List α} :
    (xs.splitOn a)[1]? = some k ↔
      a ∉ k ∧ ∃ front, a ∉ front ∧
        (xs = front ++ a :: k ∨ ∃ rest, xs = front ++ a :: (k ++ a :: rest)) := by
  constructor
  · intro h
    by_cases hmem : a ∈ xs
    · obtain ⟨front, back, rfl, hfree⟩ := List.eq_append_cons_of_mem hmem
      rw [getElem?_one_splitOn_append_cons hfree, head?_splitOn_eq_some_iff] at h
      obtain ⟨hk, hback⟩ := h
      refine ⟨hk, front, hfree, ?_⟩
      rcases hback with rfl | ⟨rest, rfl⟩
      · exact Or.inl rfl
      · exact Or.inr ⟨rest, rfl⟩
    · rw [getElem?_one_splitOn_of_not_mem hmem] at h
      cases h
  · rintro ⟨hk, front, hfree, rfl | ⟨rest, rfl⟩⟩
    · rw [getElem?_one_splitOn_append_cons hfree, head?_splitOn_of_not_mem hk]
    · rw [getElem?_one_splitOn_append_cons hfree, head?_splitOn_append_cons hk]

end Segments
