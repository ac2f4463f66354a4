/-!
# Outlines

Nested data written over several lines: the parts of a thing stand on lines of their own, indented
by four blanks and ended by a comma.
-/

namespace SchemaCatalog.Text

/-- The lines of something nested, from the first to the last. -/
abbrev Outline := List String

/-- The lines with a text in front of the first one. -/
def Outline.after (label : String) : Outline → Outline
  | [] => []
  | line :: rest => (label ++ line) :: rest

/-- The lines of a part: indented, and with a comma at the end of the last one. -/
def Outline.part : Outline → Outline
  | [] => []
  | [line] => ["    " ++ line ++ ","]
  | line :: rest => ("    " ++ line) :: part rest

/-- A thing with one part, between parentheses. -/
def Outline.wrap (name : String) (inner : Outline) : Outline :=
  (name ++ "(") :: inner.part ++ [")"]

/-- A thing with labelled parts, between braces. -/
def Outline.record (name : String) (parts : List (String × Outline)) : Outline :=
  (name ++ " \x7b") :: parts.flatMap (fun (label, inner) => (inner.after (label ++ ": ")).part)
    ++ ["\x7d"]

/-- The lines as one text. -/
def Outline.text (o : Outline) : String :=
  String.intercalate "\n" o

end SchemaCatalog.Text
