import SchemaCatalog.Declaration.Value

/-!
# Declarations

What a schema declares: models with their fields and enums with their enumerators, in the order in
which they are written.  The attributes of a field are kept as they are written; what they mean is
decided when a catalog is built.
-/

namespace SchemaCatalog

/-- An argument of an attribute, by position or by name. -/
inductive Argument where
  | positional (value : Value)
  | named (key : String) (value : Value)
deriving DecidableEq

/-- An attribute, such as `@default(now())`; its name is without the `@`. -/
structure Attribute where
  name : String
  args : List Argument := []
deriving DecidableEq

namespace Attribute

/-- The first argument given by position. -/
def firstPositional? (a : Attribute) : Option Value :=
  a.args.findSome? fun
    | .positional value => some value
    | .named _ _ => none

/-- The first argument given under this name. -/
def named? (a : Attribute) (key : String) : Option Value :=
  a.args.findSome? fun
    | .positional _ => none
    | .named k value => if k = key then some value else none

end Attribute

/-- A field: `name Type[]? @attribute ...`, its type token without `[]` and `?`. -/
structure FieldDecl where
  name : String
  type : String
  array : Bool := false
  optional : Bool := false
  attributes : List Attribute := []
deriving DecidableEq

structure ModelDecl where
  name : String
  fields : List FieldDecl := []
deriving DecidableEq

/-- A value of an enum, with the comment on its line if there is one. -/
structure EnumeratorDecl where
  name : String
  comment : Option String := none
deriving DecidableEq

structure EnumDecl where
  name : String
  enumerators : List EnumeratorDecl := []
deriving DecidableEq

inductive Declaration where
  | model (decl : ModelDecl)
  | enum (decl : EnumDecl)
deriving DecidableEq

/-- The model with one more field. -/
def ModelDecl.withField (d : ModelDecl) (field : FieldDecl) : ModelDecl :=
  { d with fields := d.fields ++ [field] }

/-- The enum with one more enumerator. -/
def EnumDecl.withEnumerator (d : EnumDecl) (e : EnumeratorDecl) : EnumDecl :=
  { d with enumerators := d.enumerators ++ [e] }

/-- The declared models among the declarations, in order. -/
def Declaration.models (ds : List Declaration) : List ModelDecl :=
  ds.filterMap fun
    | .model d => some d
    | .enum _ => none

/-- The declared enums among the declarations, in order. -/
def Declaration.enums (ds : List Declaration) : List EnumDecl :=
  ds.filterMap fun
    | .model _ => none
    | .enum d => some d

theorem Declaration.mem_models {ds : List Declaration} {d : ModelDecl} :
    d ∈ models ds ↔ .model d ∈ ds := by
  rw [models, List.mem_filterMap]
  constructor
  · rintro ⟨e, he, hd⟩
    cases e with
    | model e => cases hd; exact he
    | enum e => cases hd
  · intro h
    exact ⟨.model d, h, rfl⟩

theorem Declaration.mem_enums {ds : List Declaration} {d : EnumDecl} :
    d ∈ enums ds ↔ .enum d ∈ ds := by
  rw [enums, List.mem_filterMap]
  constructor
  · rintro ⟨e, he, hd⟩
    cases e with
    | model e => cases hd
    | enum e => cases hd; exact he
  · intro h
    exact ⟨.enum d, h, rfl⟩

end SchemaCatalog
