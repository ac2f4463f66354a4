/-!
# Segments

A text cut at its separators, and a text put together again.

* `mem_of_mem_segments`: segments hold characters of the text that are no separators.
* `flatten_segments`: together they hold all of those, in order.
-/

namespace SchemaCatalog.Text

/-- The stretches between separators, from left to right; two separators in a row, or one at an end,
enclose an empty stretch. -/
def segments (isSeparator : Char → Bool) : List Char → List (List Char)
  | [] => [[]]
  | c :: cs =>
    if isSeparator c then [] :: segments isSeparator cs
    else match segments isSeparator cs with
      | [] => [[c]]
      | s :: rest => (c :: s) :: rest

theorem segments_ne_nil (sep : Char → Bool) (cs : List Char) : segments sep cs ≠ [] := by
  cases cs with
  | nil => simp [segments]
  | cons c cs =>
    unfold segments
    split
    · simp
    · split <;> simp

theorem segments_cons_of_not {sep : Char → Bool} {c : Char} {cs s : List Char}
    {rest : List (List Char)} (hc : ¬ sep c) (h : segments sep cs = s :: rest) :
    segments sep (c :: cs) = (c :: s) :: rest := by
  rw [segments, if_neg hc, h]

theorem flatten_segments (sep : Char → Bool) (cs : List Char) :
    (segments sep cs).flatten = cs.filter (!sep ·) := by
  induction cs with
  | nil => rfl
  | cons c cs ih =>
    by_cases hc : sep c
    · simp [segments, hc, ih]
    · obtain ⟨s, rest, hs⟩ := List.exists_cons_of_ne_nil (segments_ne_nil sep cs)
      rw [hs, List.flatten_cons] at ih
      rw [segments_cons_of_not hc hs, List.flatten_cons, List.cons_append, ih]
      simp [hc]

theorem mem_of_mem_segments {sep : Char → Bool} {cs s : List Char} {c : Char}
    (hs : s ∈ segments sep cs) (hc : c ∈ s) : c ∈ cs ∧ sep c = false := by
  have h : c ∈ (segments sep cs).flatten := List.mem_flatten.2 ⟨s, hs, hc⟩
  rw [flatten_segments] at h
  simpa using h

end SchemaCatalog.Text
