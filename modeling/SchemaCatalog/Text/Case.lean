import SchemaCatalog.Text.Letter
import SchemaCatalog.Text.Table.CaseMap

/-!
# Case conversion

`lowercase` and `uppercase` convert a whole text by the full mappings of Unicode, in which one
character may become several.  The Greek capital sigma is the one letter whose lowercase form
depends on its neighbours: it is `ς` at the end of a word and `σ` elsewhere.  `lowercaseWord` is for
a text known to be one word: there a sigma is final exactly when it is the last character.
-/

namespace SchemaCatalog.Text

/-- The lowercase form of a character by itself. -/
def lowerChar (c : Char) : List Char :=
  if isAscii c then [c.toLower]
  else match Table.toLowerSeveral.lookup c.toNat with
    | some several => several.map Char.ofNat
    | none => [((Shift.move? Table.toLower c.toNat).map Char.ofNat).getD c]

/-- The uppercase form of a character by itself. -/
def upperChar (c : Char) : List Char :=
  if isAscii c then [c.toUpper]
  else match Table.toUpperSeveral.lookup c.toNat with
    | some several => several.map Char.ofNat
    | none => [((Shift.move? Table.toUpper c.toNat).map Char.ofNat).getD c]

/-- Whether the first character that is not case-ignorable has case. -/
def casedNext : List Char → Bool
  | [] => false
  | c :: cs => if isCaseIgnorable c then casedNext cs else isCased c

/-- The lowercase form of a text that stands after `before`, which is given last character first. -/
def lowercaseAfter (before : List Char) : List Char → List Char
  | [] => []
  | c :: cs =>
    (if c = 'Σ' then [if casedNext before && !casedNext cs then 'ς' else 'σ'] else lowerChar c)
      ++ lowercaseAfter (c :: before) cs

def lowercase (cs : List Char) : List Char :=
  lowercaseAfter [] cs

def uppercase (cs : List Char) : List Char :=
  cs.flatMap upperChar

/-- The lowercase form of a single word. -/
def lowercaseWord : List Char → List Char
  | [] => []
  | [c] => if c = 'Σ' then ['ς'] else lowerChar c
  | c :: cs => lowerChar c ++ lowercaseWord cs

/-- A word with its first character in uppercase and the rest in lowercase. -/
def capitalize : List Char → List Char
  | [] => []
  | c :: cs => upperChar c ++ lowercaseWord cs

/-- A text with its first character in uppercase and the rest as it is. -/
def upperFirst : List Char → List Char
  | [] => []
  | c :: cs => upperChar c ++ cs

/-- A text with its first character in lowercase and the rest as it is. -/
def lowerFirst : List Char → List Char
  | [] => []
  | c :: cs => lowerChar c ++ cs

end SchemaCatalog.Text
