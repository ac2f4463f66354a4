import SchemaCatalog.Catalog.Default
import SchemaCatalog.Catalog.Role
import SchemaCatalog.Naming.NameForms

/-!
# Fields and their classification

A field is classified by its own declaration: its type token and its attributes.  Whether a type
that is not primitive names a model or an enum is not known then; for such a field there is only a
guess, which linking confirms or drops.

* `lastSome?_eq`: of several attributes that say something the last one counts.
-/

namespace SchemaCatalog

open Naming Inflection

/-- The primitive types. -/
def scalarTypes : List String :=
  ["Float", "String", "Int", "Boolean", "DateTime", "Bytes", "Decimal"]

def isScalarType (token : String) : Bool :=
  scalarTypes.contains token

/-- A field of a model in a catalog. -/
structure Field where
  id : FieldId
  name : String
  names : NameForms
  /-- The type token as declared. -/
  type : String
  array : Bool
  nullable : Bool
  /-- Whether it bears `@id`. -/
  primaryKey : Bool
  /-- Whether it bears `@unique`. -/
  unique : Bool
  default : Option FieldDefault
  role : FieldRole
  attributes : List Attribute
deriving DecidableEq

namespace Field

/-- The sibling field that holds the foreign key, of a field that belongs to another model. -/
def foreignKey? (f : Field) : Option String :=
  f.role.belongsTo?.map (·.foreignKey)

/-- The field of the other model that the foreign key refers to, if it is given. -/
def references? (f : Field) : Option String :=
  f.role.belongsTo?.bind (·.references)

end Field

/-- What a field that is not of a primitive type may turn out to be. -/
inductive Tentative where
  /-- An array of what may be a model. -/
  | hasMany
  /-- A single value of what may be an enum. -/
  | enum
deriving DecidableEq

/-- A field classified by itself, with a guess where it has no role yet. -/
structure Classified where
  field : Field
  tentative : Option Tentative
deriving DecidableEq

/-! ## Reading attributes -/

/-- The default that an attribute gives. -/
def Attribute.default? (a : Attribute) : Option FieldDefault :=
  if a.name = "default" then a.firstPositional?.map FieldDefault.ofValue else none

/-- The relation that an attribute gives.  Of each of its lists of columns the first one counts. -/
def Attribute.belongsTo? (a : Attribute) : Option BelongsTo :=
  if a.name = "relation" then
    ((a.named? "fields").bind Value.firstIdent?).map fun foreignKey =>
      { foreignKey, references := (a.named? "references").bind Value.firstIdent?, target := none }
  else none

/-- What the last element for which there is something says. -/
def lastSome? {α β : Type} (pick? : α → Option β) (as : List α) : Option β :=
  as.foldl (fun found a => (pick? a).or found) none

/-! ## Classification -/

/-- The role that a declaration gives its field by itself, and a guess if it gives none.  A default
that generates identifiers makes a key; a relation with a foreign key comes next, then a primitive
type. -/
def classifyRole (decl : FieldDecl) : FieldRole × Option Tentative :=
  match (lastSome? Attribute.default? decl.attributes).bind FieldDefault.generator? with
  | some _ => (.key, none)
  | none =>
    match lastSome? Attribute.belongsTo? decl.attributes with
    | some relation => (.belongsTo relation, none)
    | none =>
      if isScalarType decl.type then (.scalar, none)
      else (.unclassified, some (if decl.array then .hasMany else .enum))

/-- A field declaration classified by itself. -/
def classify (id : FieldId) (decl : FieldDecl) : Except InflectionError Classified := do
  let names ← NameForms.ofName decl.name
  let (role, tentative) := classifyRole decl
  return {
    tentative
    field := {
      id, names, role
      name := decl.name
      type := decl.type
      array := decl.array
      nullable := decl.optional
      primaryKey := decl.attributes.any (·.name = "id")
      unique := decl.attributes.any (·.name = "unique")
      default := lastSome? Attribute.default? decl.attributes
      attributes := decl.attributes } }

/-! ## Laws -/

theorem foldl_pick {α β : Type} (pick? : α → Option β) (as : List α) (found : Option β) :
    as.foldl (fun found a => (pick? a).or found) found
      = (as.reverse.findSome? pick?).or found := by
  induction as generalizing found with
  | nil => simp
  | cons a as ih =>
    rw [List.foldl_cons, ih, List.reverse_cons, List.findSome?_append, Option.or_assoc]
    cases h : pick? a <;> simp [h]

/-- The last element for which there is something is the first one from the end. -/
theorem lastSome?_eq {α β : Type} (pick? : α → Option β) (as : List α) :
    lastSome? pick? as = as.reverse.findSome? pick? := by
  simp [lastSome?, foldl_pick]

end SchemaCatalog
