import SchemaCatalog.Text.Quoted

/-!
# Assertions

Checks of a value whose failure says what was expected and what was found instead.

* `isUnique_iff`: a list is unique exactly when no value occurs in it twice.
-/

namespace SchemaCatalog

open Text

/-- Whether no value occurs twice. -/
def isUnique {α : Type} [BEq α] : List α → Bool
  | [] => true
  | a :: as => !as.contains a && isUnique as

theorem isUnique_iff {α : Type} [BEq α] [LawfulBEq α] {as : List α} :
    isUnique as = true ↔ as.Nodup := by
  induction as with
  | nil => simp [isUnique]
  | cons a as ih => simp [isUnique, ih]

namespace Assertion

/-- A list of texts, for inspection. -/
def listText (items : List String) : String :=
  "[" ++ String.intercalate ", " (items.map quote) ++ "]"

/-- What was expected and what was found. -/
def failure (expected actual : String) : String :=
  "expected " ++ expected ++ "; actual=" ++ actual

def expectNone : Option String → Except String Unit
  | none => .ok ()
  | some s => .error (failure "\x60None\x60" ("Some(" ++ quote s ++ ")"))

def expectSome : Option String → Except String String
  | some s => .ok s
  | none => .error (failure "\x60Some\x60" "None")

/-- Expects an error; a note, if given, is added to what a failure says. -/
def expectError (note : Option String) : Except String String → Except String String
  | .error e => .ok e
  | .ok s =>
    .error (failure "\x60Err\x60" ("Ok(" ++ quote s ++ ")") ++ note.elim "" (", " ++ ·))

def expectOk : Except String String → Except String String
  | .ok s => .ok s
  | .error e => .error (failure "\x60Ok\x60" ("Err(" ++ quote e ++ ")"))

/-- Expects the list of this name to have no value twice. -/
def expectUnique (name : String) (items : List String) : Except String Unit :=
  if isUnique items then .ok ()
  else .error (failure ("\x60" ++ name ++ "\x60 to be unique, but it wasn't") (listText items))

def expectEmpty (items : List String) : Except String Unit :=
  if items.isEmpty then .ok () else .error (failure "slice to be empty" (listText items))

end Assertion

end SchemaCatalog
