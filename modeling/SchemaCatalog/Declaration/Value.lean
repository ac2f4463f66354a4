import SchemaCatalog.Text.Quoted

/-!
# Attribute values

The values that attributes take as arguments, and the text in which they are written.
-/

namespace SchemaCatalog

inductive Value where
  /-- A bare identifier, such as `DRAFT` or the name of a field. -/
  | ident (name : String)
  /-- A string literal, without its quotes. -/
  | string (content : String)
  /-- A number in the spelling of its source. -/
  | number (spelling : String)
  | boolean (b : Bool)
  | array (items : List Value)
  /-- A call, such as `autoincrement()`. -/
  | call (function : String) (args : List Value)

namespace Value

/-- An array of identifiers, as in `fields: [authorId]`. -/
def idents (names : List String) : Value :=
  .array (names.map .ident)

/-- The name of the function, of a call. -/
def function? : Value → Option String
  | .call function _ => some function
  | _ => none

def items? : Value → Option (List Value)
  | .array items => some items
  | _ => none

/-- The identifier that a value names: itself, or what the first item of an array names. -/
def firstIdent? : Value → Option String
  | .ident name => some name
  | .array (item :: _) => item.firstIdent?
  | _ => none

mutual

/-- The characters of a value as written: identifiers and numbers as they are, strings between
quotes, arrays between brackets, and calls with their arguments between parentheses. -/
def chars : Value → List Char
  | .ident name => name.toList
  | .string content => Text.quoteChars content.toList
  | .number spelling => spelling.toList
  | .boolean b => if b then "true".toList else "false".toList
  | .array items => '[' :: charsList items ++ [']']
  | .call function args => function.toList ++ '(' :: charsList args ++ [')']

/-- Values with a comma and a blank between them. -/
def charsList : List Value → List Char
  | [] => []
  | [v] => v.chars
  | v :: w :: vs => v.chars ++ ',' :: ' ' :: charsList (w :: vs)

end

/-- A value as written. -/
def text (v : Value) : String :=
  String.ofList v.chars

/-! ## Equality -/

mutual

def decideEq (v w : Value) : Decidable (v = w) :=
  match v, w with
  | .ident a, .ident b => decidable_of_iff (a = b) (by simp)
  | .string a, .string b => decidable_of_iff (a = b) (by simp)
  | .number a, .number b => decidable_of_iff (a = b) (by simp)
  | .boolean a, .boolean b => decidable_of_iff (a = b) (by simp)
  | .array a, .array b =>
    have := decideEqList a b
    decidable_of_iff (a = b) (by simp)
  | .call f a, .call g b =>
    have := decideEqList a b
    decidable_of_iff (f = g ∧ a = b) (by simp)
  | .ident _, .string _ | .ident _, .number _ | .ident _, .boolean _ | .ident _, .array _
  | .ident _, .call _ _ | .string _, .ident _ | .string _, .number _ | .string _, .boolean _
  | .string _, .array _ | .string _, .call _ _ | .number _, .ident _ | .number _, .string _
  | .number _, .boolean _ | .number _, .array _ | .number _, .call _ _ | .boolean _, .ident _
  | .boolean _, .string _ | .boolean _, .number _ | .boolean _, .array _ | .boolean _, .call _ _
  | .array _, .ident _ | .array _, .string _ | .array _, .number _ | .array _, .boolean _
  | .array _, .call _ _ | .call _ _, .ident _ | .call _ _, .string _ | .call _ _, .number _
  | .call _ _, .boolean _ | .call _ _, .array _ => isFalse (by simp)

def decideEqList (vs ws : List Value) : Decidable (vs = ws) :=
  match vs, ws with
  | [], [] => isTrue rfl
  | [], _ :: _ | _ :: _, [] => isFalse (by simp)
  | v :: vs, w :: ws =>
    have := decideEq v w
    have := decideEqList vs ws
    decidable_of_iff (v = w ∧ vs = ws) (by simp)

end

instance : DecidableEq Value := decideEq

end Value

end SchemaCatalog
