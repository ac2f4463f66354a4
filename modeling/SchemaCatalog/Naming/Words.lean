import SchemaCatalog.Text.Case
import SchemaCatalog.Text.Segment

/-!
# The words of an identifier

An identifier is read as a sequence of words.  Whatever is neither letter nor number separates
words, and so does a change of case: a capital after a small letter begins a word, and of a run of
capitals the last one belongs to the word of the small letter after it, as in `XMLHttpRequest`.

Splitting an identifier into words is left to an external library, whose code stands apart from that
of catalogs.  This module stands for it and follows its documented rules.  Results about
`NameForms.ofName` rest on the two agreeing.

* `words_flatten`: no letter or number is lost, added or moved.
-/

namespace SchemaCatalog.Naming

open Text

/-- What is known of the word being read: nothing yet, or the case of the last character that has
one. -/
inductive WordState where
  | fresh
  | lower
  | upper
deriving DecidableEq

/-- The state after one more character of the same word. -/
def WordState.next (state : WordState) (c : Char) : WordState :=
  if isLowercase c then .lower else if isUppercase c then .upper else state

/-- Cuts a text without separators at its changes of case.  `word` is the part already read of the
current word, last character first. -/
def splitCase (state : WordState) (word : List Char) : List Char → List (List Char)
  | [] => []
  | [c] => [(c :: word).reverse]
  | c :: d :: cs =>
    if state.next c = .lower ∧ isUppercase d then
      (c :: word).reverse :: splitCase .fresh [] (d :: cs)
    else if state = .upper ∧ isUppercase c ∧ isLowercase d then
      word.reverse :: splitCase .fresh [c] (d :: cs)
    else
      splitCase (state.next c) (c :: word) (d :: cs)

/-- The words of an identifier, from left to right. -/
def words (cs : List Char) : List (List Char) :=
  (segments (!isAlphanumeric ·) cs).flatMap (splitCase .fresh [])

theorem splitCase_flatten (state : WordState) (word : List Char) {cs : List Char} (h : cs ≠ []) :
    (splitCase state word cs).flatten = word.reverse ++ cs := by
  fun_induction splitCase state word cs with
  | case1 => exact absurd rfl h
  | case2 => simp
  | case3 _ _ _ _ _ _ ih => simp [ih]
  | case4 _ _ _ _ _ _ _ ih => simp [ih]
  | case5 _ _ _ _ _ _ _ ih => simp [ih]

theorem splitCase_fresh_flatten (cs : List Char) : (splitCase .fresh [] cs).flatten = cs := by
  cases cs with
  | nil => rfl
  | cons c cs => simpa using splitCase_flatten .fresh [] (List.cons_ne_nil c cs)

/-- The words of an identifier hold its letters and numbers, in order. -/
theorem words_flatten (cs : List Char) : (words cs).flatten = cs.filter isAlphanumeric := by
  have hseg := flatten_segments (!isAlphanumeric ·) cs
  have key : ∀ l : List (List Char), (l.flatMap (splitCase .fresh [])).flatten = l.flatten := by
    intro l
    induction l with
    | nil => rfl
    | cons s l ih => simp [ih, splitCase_fresh_flatten]
  rw [words, key, hseg]
  simp

end SchemaCatalog.Naming
