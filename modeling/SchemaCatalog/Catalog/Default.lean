import SchemaCatalog.Declaration.Basic

/-!
# Defaults

What a field holds when nothing is given for it.  A default that generates identifiers is told from
any other by the name of the function that is called.

* `Generator.ofFunction?_eq_some`: a generator is called by its own name and by no other.
-/

namespace SchemaCatalog

/-- Functions that generate the identifier of a row. -/
inductive Generator where
  | increment
  | uuid
  | cuid
deriving DecidableEq

namespace Generator

/-- The name under which a schema calls the generator. -/
def function : Generator → String
  | .increment => "autoincrement"
  | .uuid => "uuid"
  | .cuid => "cuid"

/-- The name of the strategy behind the generator. -/
def strategy : Generator → String
  | .increment => "Increment"
  | .uuid => "Uuid"
  | .cuid => "Cuid"

def ofFunction? (name : String) : Option Generator :=
  [increment, uuid, cuid].find? (·.function = name)

theorem ofFunction?_function (g : Generator) : ofFunction? g.function = some g := by
  cases g <;> decide

theorem ofFunction?_eq_some {name : String} {g : Generator} :
    ofFunction? name = some g ↔ name = g.function := by
  constructor
  · intro h
    have hg : g.function = name := by simpa using List.find?_some h
    exact hg.symm
  · rintro rfl
    exact ofFunction?_function g

end Generator

/-- The argument of a field's `@default(...)`. -/
inductive FieldDefault where
  | generated (generator : Generator)
  | value (value : Value)
deriving DecidableEq

namespace FieldDefault

/-- A call of a generator, whatever its arguments, is generated; all else is a value. -/
def ofValue (v : Value) : FieldDefault :=
  match v.function?.bind Generator.ofFunction? with
  | some g => .generated g
  | none => .value v

def generator? : FieldDefault → Option Generator
  | .generated g => some g
  | .value _ => none

/-- The name of the function that is called, if one is. -/
def function? : FieldDefault → Option String
  | .generated g => some g.function
  | .value v => v.function?

def text : FieldDefault → String
  | .generated g => g.function ++ "()"
  | .value v => v.text

end FieldDefault

end SchemaCatalog
