import SchemaCatalog.Text.Case

/-!
# Casing

An inflected form keeps the case of the word it was made from: `recase word text` gives a text the
casing of a word.  Under a capitalized word a text is kept as it is; its first character is then
looked at alone, and one outside ASCII is refused.

Number inflection is left to an external library, and this module stands for how that library cases
the forms it gives.  Results about `NameForms.ofName`, and about which names are refused, rest on
the two agreeing.
-/

namespace SchemaCatalog.Inflection

open Text

/-- How a word is cased as a whole. -/
inductive Casing where
  | lower
  | upper
  | capitalized
  | mixed
deriving DecidableEq

/-- A word without letters counts as lowercase. -/
def Casing.ofWord (word : List Char) : Casing :=
  if word = lowercase word then .lower
  else if word = uppercase word then .upper
  else if word.head?.any isUppercase then .capitalized
  else .mixed

/-- Why a word could not be inflected. -/
inductive InflectionError where
  /-- A text to be kept under a capitalized word begins outside ASCII. -/
  | wideInitial (text : String)
deriving DecidableEq, Repr

/-- The text in the casing of the word. -/
def recase (word text : List Char) : Except InflectionError (List Char) :=
  if word = text then .ok text
  else match Casing.ofWord word with
    | .lower | .mixed => .ok (lowercase text)
    | .upper => .ok (uppercase text)
    | .capitalized =>
      if text.head?.all isAscii then .ok text else .error (.wideInitial (String.ofList text))

end SchemaCatalog.Inflection
