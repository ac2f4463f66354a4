import SchemaCatalog.Text.Span
import SchemaCatalog.Text.Table.Display

/-!
# Quoted text

`quote` writes a text between double quotes so that every character of it can be told apart: a
quote or a backslash has a backslash before it, and what has no visible form of its own is written
by its name or its code point.
-/

namespace SchemaCatalog.Text

/-- Characters that only add to the one before them. -/
def isGraphemeExtend (c : Char) : Bool :=
  128 ≤ c.toNat && Table.graphemeExtend.any (·.contains c.toNat)

/-- Characters with a visible form, and the blank. -/
def isPrintable (c : Char) : Bool :=
  if c.toNat < 128 then 32 ≤ c.toNat && c.toNat < 127
  else !Table.unprintable.any (·.contains c.toNat)

/-- A character by its code point, such as `\u{7f}`. -/
def codePointEscape (c : Char) : List Char :=
  ['\\', 'u', '{'] ++ Nat.toDigits 16 c.toNat ++ ['}']

/-- How a character is written between quotes. -/
def escapeChar (c : Char) : List Char :=
  match c with
  | '\x00' => ['\\', '0']
  | '\t' => ['\\', 't']
  | '\r' => ['\\', 'r']
  | '\n' => ['\\', 'n']
  | '"' => ['\\', '"']
  | '\\' => ['\\', '\\']
  | c => if isGraphemeExtend c || !isPrintable c then codePointEscape c else [c]

def quoteChars (cs : List Char) : List Char :=
  '"' :: cs.flatMap escapeChar ++ ['"']

/-- A text between double quotes. -/
def quote (s : String) : String :=
  String.ofList (quoteChars s.toList)

end SchemaCatalog.Text
