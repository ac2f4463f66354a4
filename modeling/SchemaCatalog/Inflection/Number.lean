import SchemaCatalog.Inflection.English
import SchemaCatalog.Inflection.Irregular

/-!
# Grammatical number

A word put into the singular or the plural.  Irregular words are looked up, words without a plural
stay as they are, and for all others the first rule that is about the word decides; a word that none
is about stays as it is.  A compound name is inflected at its end, since rules look at endings.

`inflect` stands for what the external library for number inflection is asked (see `Rule`).
-/

namespace SchemaCatalog.Inflection

open Text

inductive GrammaticalNumber where
  | singular
  | plural
deriving DecidableEq

/-- The rules that lead to this number. -/
def GrammaticalNumber.rules : GrammaticalNumber → List Rule
  | .singular => singularRules
  | .plural => pluralRules

/-- The form in this number of an irregular word, given in lowercase.  A word that is listed in this
number is its own form. -/
def GrammaticalNumber.irregular? (number : GrammaticalNumber) (word : String) : Option String :=
  match number with
  | .singular => if (pluralOf? word).isSome then some word else singularOf? word
  | .plural => if (singularOf? word).isSome then some word else pluralOf? word

/-- The word by the first of the rules that is about it. -/
def applyFirst (rules : List Rule) (word : List Char) : Except InflectionError (List Char) :=
  (rules.findSome? (·.inflect? word)).getD (.ok word)

/-- The word in this number. -/
def inflectChars (number : GrammaticalNumber) (word : List Char) :
    Except InflectionError (List Char) :=
  let key := String.ofList (lowercase word)
  match number.irregular? key with
  | some form => recase word form.toList
  | none =>
    if key = "" ∨ key ∈ uncountable then .ok word
    else applyFirst number.rules word

def inflect (number : GrammaticalNumber) (word : String) : Except InflectionError String :=
  (inflectChars number word.toList).map String.ofList

def singularize (word : String) : Except InflectionError String :=
  inflect .singular word

def pluralize (word : String) : Except InflectionError String :=
  inflect .plural word

end SchemaCatalog.Inflection
