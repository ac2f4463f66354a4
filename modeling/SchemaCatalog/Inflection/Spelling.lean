import SchemaCatalog.Text.Letter

/-!
# Spellings

A spelling says, position by position, which characters a stretch of a word may have.  Letters are
matched whatever their case.

* `take?_eq_some`: what is taken matches the spelling, and nothing is lost.
-/

namespace SchemaCatalog.Inflection

open Text

/-- A representative of the characters that differ only in case, for the letters that spellings
name.  The Kelvin sign counts as a `k` and the long s as an `s`. -/
def foldCase (c : Char) : Char :=
  if c = '\u212A' then 'k'
  else if c = 'ſ' then 's'
  else if c = 'É' then 'é'
  else c.toLower

/-- What one position of a spelling accepts. -/
inductive Letter where
  | only (c : Char)
  | oneOf (cs : List Char)
  | noneOf (cs : List Char)
  | notAscii
  | notWordChar
deriving DecidableEq

/-- Whether the character stands at a position of this kind.  A letter that folds to an ASCII letter
is taken for one. -/
def Letter.accepts (l : Letter) (c : Char) : Bool :=
  match l with
  | .only d => foldCase c == d
  | .oneOf cs => cs.contains (foldCase c)
  | .noneOf cs => !cs.contains (foldCase c)
  | .notAscii => !isAscii (foldCase c)
  | .notWordChar => !isWordChar c

abbrev Spelling := List Letter

/-- The spelling with exactly these letters. -/
def spell (s : String) : Spelling :=
  s.toList.map .only

def oneOf (s : String) : Letter :=
  .oneOf s.toList

def noneOf (s : String) : Letter :=
  .noneOf s.toList

/-- A text begins with a spelling: the characters that it takes and the rest. -/
def Spelling.take? : Spelling → List Char → Option (List Char × List Char)
  | [], cs => some ([], cs)
  | _ :: _, [] => none
  | l :: ls, c :: cs =>
    if l.accepts c then (take? ls cs).map fun (taken, rest) => (c :: taken, rest) else none

/-- A text has a spelling: as many characters, each accepted at its position. -/
inductive Spelling.Spells : Spelling → List Char → Prop where
  | nil : Spells [] []
  | cons {l ls c cs} : l.accepts c → Spells ls cs → Spells (l :: ls) (c :: cs)

theorem Spelling.take?_eq_some {ls : Spelling} {cs taken rest : List Char} :
    take? ls cs = some (taken, rest) ↔ Spells ls taken ∧ cs = taken ++ rest := by
  induction ls generalizing cs taken with
  | nil =>
    simp only [take?, Option.some.injEq, Prod.mk.injEq]
    constructor
    · rintro ⟨rfl, rfl⟩; exact ⟨.nil, rfl⟩
    · rintro ⟨h, rfl⟩; cases h; simp
  | cons l ls ih =>
    cases cs with
    | nil =>
      simp only [take?, reduceCtorEq, false_iff]
      rintro ⟨h, heq⟩
      cases h; simp at heq
    | cons c cs =>
      unfold take?
      by_cases hc : l.accepts c
      · simp only [hc, if_true, Option.map_eq_some_iff, Prod.exists, Prod.mk.injEq]
        constructor
        · rintro ⟨t, r, h, rfl, rfl⟩
          obtain ⟨hs, rfl⟩ := ih.1 h
          exact ⟨.cons hc hs, rfl⟩
        · rintro ⟨h, heq⟩
          cases h with
          | cons hc' hs =>
            obtain ⟨rfl, rfl⟩ := List.cons.inj heq
            exact ⟨_, _, ih.2 ⟨hs, rfl⟩, rfl, rfl⟩
      · simp only [hc, Bool.false_eq_true, if_false, reduceCtorEq, false_iff]
        rintro ⟨h, heq⟩
        cases h with
        | cons hc' hs =>
          obtain ⟨rfl, -⟩ := List.cons.inj heq
          exact hc hc'

end SchemaCatalog.Inflection
