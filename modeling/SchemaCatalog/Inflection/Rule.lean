import SchemaCatalog.Inflection.Casing
import SchemaCatalog.Inflection.Spelling

/-!
# Inflection rules

A rule looks at how a word ends.  Each of its tails is a stem, which is kept, followed by an ending,
which is replaced; of the tails that a word has, the longest counts.  The tail, its stem and the
replacement are each given the casing of the word.

Number inflection is left to an external library, whose code stands apart from that of catalogs.
This module stands for how that library applies its rules, `Casing` for how it keeps the case of a
word, `English` and `Irregular` for what it lists.  Results about `NameForms.ofName` rest on their
agreeing with it.

* `Tail.split?_eq_some`: a split cuts the word and nothing else, at a place where the tail fits.
* `Rule.split?_of_mem`: a rule finds a split if one of its tails does.
-/

namespace SchemaCatalog.Inflection

open Text

/-- Where a tail may begin. -/
inductive Start where
  | anywhere
  | word
  | text
deriving DecidableEq

/-- Whether a tail may begin after these characters, given last character first. -/
def Start.follows (s : Start) (before : List Char) : Bool :=
  match s with
  | .anywhere => true
  | .word => before.head?.all (!isWordChar ·)
  | .text => before.isEmpty

/-- A way for words to end. -/
structure Tail where
  start : Start
  stem : Spelling
  ending : Spelling
deriving DecidableEq

/-- A word cut in three. -/
structure Split where
  before : List Char
  stem : List Char
  ending : List Char

def Split.length (s : Split) : Nat :=
  s.stem.length + s.ending.length

/-- The word cut at this tail, if it ends in it. -/
def Tail.split? (t : Tail) (word : List Char) : Option Split :=
  match Spelling.take? t.ending.reverse word.reverse with
  | none => none
  | some (ending, rest) =>
    match Spelling.take? t.stem.reverse rest with
    | none => none
    | some (stem, before) =>
      if t.start.follows before then some ⟨before.reverse, stem.reverse, ending.reverse⟩ else none

/-- The longer of two splits, the first if neither is longer. -/
def Split.longer? : Option Split → Option Split → Option Split
  | none, b => b
  | a, none => a
  | some a, some b => if a.length < b.length then some b else some a

/-- What takes the place of the ending of a word. -/
structure Rule where
  tails : List Tail
  replacement : String

/-- The word cut at the longest of the rule's tails that it ends in. -/
def Rule.split? (r : Rule) (word : List Char) : Option Split :=
  r.tails.foldl (fun best t => Split.longer? best (t.split? word)) none

/-- Removes every `$` with the character after it, if there is one. -/
def dropMarkers : List Char → List Char
  | [] => []
  | c :: cs =>
    if c = '$' then
      match cs with
      | [] => []
      | _ :: rest => dropMarkers rest
    else c :: dropMarkers cs

/-- The inflected word of a split.  A word whose tail cannot be given its casing is refused,
even if nothing of the tail is kept. -/
def Split.inflect (s : Split) (word replacement : List Char) :
    Except InflectionError (List Char) := do
  let _ ← recase word (s.stem ++ s.ending)
  let stem ← recase word s.stem
  let ending ← recase word replacement
  return dropMarkers (s.before ++ stem ++ ending)

/-- The word by this rule, if the rule is about it. -/
def Rule.inflect? (r : Rule) (word : List Char) : Option (Except InflectionError (List Char)) :=
  (r.split? word).map (·.inflect word r.replacement.toList)

/-! ## Writing rules -/

/-- Every stem with every ending. -/
def tails (start : Start) (stems : List Spelling) (endings : List String) : List Tail :=
  stems.flatMap fun stem => endings.map fun ending => ⟨start, stem, spell ending⟩

/-- A rule for words that end in a stem and an ending. -/
def Rule.after (stems : List Spelling) (endings : List String) (replacement : String) : Rule :=
  { tails := Inflection.tails .anywhere stems endings, replacement }

/-- A rule for whole words of a stem and an ending, at the end of a longer text too. -/
def Rule.wordAfter (stems : List Spelling) (endings : List String) (replacement : String) : Rule :=
  { tails := Inflection.tails .word stems endings, replacement }

/-- A rule for an ending, whatever comes before it. -/
def Rule.change (endings : List String) (replacement : String) : Rule :=
  .after [[]] endings replacement

/-- A rule by which words that end in one of the stems stay as they are. -/
def Rule.keep (stems : List Spelling) : Rule :=
  .after stems [""] ""

/-! ## Splits -/

theorem Spelling.Spells.append {ls ms : Spelling} {cs ds : List Char} (h : Spelling.Spells ls cs)
    (h' : Spelling.Spells ms ds) : Spelling.Spells (ls ++ ms) (cs ++ ds) := by
  induction h with
  | nil => exact h'
  | cons hc _ ih => exact .cons hc ih

theorem Spelling.Spells.reverse {ls : Spelling} {cs : List Char} (h : Spelling.Spells ls cs) :
    Spelling.Spells ls.reverse cs.reverse := by
  induction h with
  | nil => exact .nil
  | cons hc _ ih => simpa using ih.append (.cons hc .nil)

theorem Spelling.spells_reverse_iff {ls : Spelling} {cs : List Char} :
    Spelling.Spells ls.reverse cs ↔ Spelling.Spells ls cs.reverse :=
  ⟨fun h => by simpa using h.reverse, fun h => by simpa using h.reverse⟩

theorem Tail.split?_eq_some {t : Tail} {word : List Char} {s : Split} :
    t.split? word = some s ↔
      word = s.before ++ s.stem ++ s.ending ∧ Spelling.Spells t.stem s.stem ∧
        Spelling.Spells t.ending s.ending ∧ t.start.follows s.before.reverse := by
  obtain ⟨before, stem, ending⟩ := s
  unfold Tail.split?
  constructor
  · intro h
    split at h
    · cases h
    · rename_i e r he
      split at h
      · cases h
      · rename_i st b hst
        split at h
        · rename_i hf
          obtain ⟨rfl, rfl, rfl⟩ := Split.mk.inj (Option.some.inj h)
          obtain ⟨hes, hew⟩ := Spelling.take?_eq_some.1 he
          obtain ⟨hss, rfl⟩ := Spelling.take?_eq_some.1 hst
          refine ⟨?_, Spelling.spells_reverse_iff.1 hss, Spelling.spells_reverse_iff.1 hes, ?_⟩
          · have := congrArg List.reverse hew
            simpa using this
          · simpa using hf
        · cases h
  · rintro ⟨hw, hs, he, hf⟩
    have h1 : Spelling.take? t.ending.reverse word.reverse
        = some (ending.reverse, (before ++ stem).reverse) :=
      Spelling.take?_eq_some.2 ⟨he.reverse, by simp [hw]⟩
    have h2 : Spelling.take? t.stem.reverse (before ++ stem).reverse
        = some (stem.reverse, before.reverse) :=
      Spelling.take?_eq_some.2 ⟨hs.reverse, by simp⟩
    simp only [h1, h2]
    exact (if_pos hf).trans (by simp)

theorem Split.longer?_eq_or (a b : Option Split) :
    Split.longer? a b = a ∨ Split.longer? a b = b := by
  cases a <;> cases b <;> simp only [Split.longer?, true_or, or_true]
  split <;> simp

theorem Split.longer?_isSome (a b : Option Split) :
    (Split.longer? a b).isSome = (a.isSome || b.isSome) := by
  cases a with
  | none => simp [Split.longer?]
  | some a =>
    cases b with
    | none => rfl
    | some b =>
      simp only [Split.longer?]
      split <;> rfl

/-- A split that a rule finds comes from one of its tails. -/
theorem Rule.exists_mem_of_split? {r : Rule} {word : List Char} {s : Split}
    (h : r.split? word = some s) : ∃ t ∈ r.tails, t.split? word = some s := by
  have key : ∀ (ts : List Tail) (best : Option Split),
      ts.foldl (fun best t => Split.longer? best (t.split? word)) best = some s →
        best = some s ∨ ∃ t ∈ ts, t.split? word = some s := by
    intro ts
    induction ts with
    | nil => intro best h; exact Or.inl h
    | cons t ts ih =>
      intro best h
      rcases ih _ h with h | ⟨u, hu, h⟩
      · rcases Split.longer?_eq_or best (t.split? word) with hb | hb
        · exact Or.inl (hb ▸ h)
        · exact Or.inr ⟨t, List.mem_cons_self, hb ▸ h⟩
      · exact Or.inr ⟨u, List.mem_cons_of_mem _ hu, h⟩
  rcases key r.tails none h with h | h
  · cases h
  · exact h

theorem Rule.split?_of_mem {r : Rule} {t : Tail} (ht : t ∈ r.tails) {word : List Char}
    (h : (t.split? word).isSome) : (r.split? word).isSome := by
  have key : ∀ (ts : List Tail) (best : Option Split), (best.isSome ∨ t ∈ ts) →
      (ts.foldl (fun best t => Split.longer? best (t.split? word)) best).isSome := by
    intro ts
    induction ts with
    | nil => intro best hb; simpa using hb
    | cons u ts ih =>
      intro best hb
      refine ih _ ?_
      rw [Split.longer?_isSome]
      rcases hb with hb | hb
      · simp [hb]
      · rcases List.mem_cons.1 hb with rfl | hb
        · simp [h]
        · exact Or.inr hb
  exact key r.tails none (Or.inr ht)

end SchemaCatalog.Inflection
