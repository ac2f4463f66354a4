import SchemaCatalog.Naming.Words

/-!
# Spelling styles

The ways in which one identifier is respelled: `snake_case` and `Title Case` from its words,
`camelCase` from its segments between underscores, and prose for a label.
-/

namespace SchemaCatalog.Naming

open Text

/-- The words in lowercase with underscores between them: `CamelCases` becomes `camel_cases`. -/
def snakeChars (cs : List Char) : List Char :=
  List.intercalate ['_'] ((words cs).map lowercaseWord)

/-- The words capitalized with blanks between them: `camel_case` becomes `Camel Case`. -/
def titleChars (cs : List Char) : List Char :=
  List.intercalate [' '] ((words cs).map capitalize)

/-- The segments between underscores run together, each but the first with an uppercase first
letter: `snake_case` becomes `snakeCase`.  Segments keep their inner case, so `userID` is left as it
is. -/
def camelChars (cs : List Char) : List Char :=
  lowerFirst ((segments (· == '_') cs).flatMap upperFirst)

/-- Drops the ending `_id` if the text has it. -/
def dropIdSuffix (cs : List Char) : List Char :=
  if ['_', 'i', 'd'].isSuffixOf cs then cs.take (cs.length - 3) else cs

/-- Prose: lowercase, without an ending `_id`, with blanks for underscores and an uppercase first
letter: `author_id` becomes `Author`. -/
def humanizeChars (cs : List Char) : List Char :=
  upperFirst ((dropIdSuffix (lowercase cs)).map fun c => if c = '_' then ' ' else c)

def snakeCase (s : String) : String :=
  String.ofList (snakeChars s.toList)

def titleCase (s : String) : String :=
  String.ofList (titleChars s.toList)

def camelCase (s : String) : String :=
  String.ofList (camelChars s.toList)

def humanize (s : String) : String :=
  String.ofList (humanizeChars s.toList)

end SchemaCatalog.Naming
