import SchemaCatalog.Catalog.Id
import SchemaCatalog.Text.Quoted

/-!
# Roles of fields

What a field is for.  Every field has exactly one role; one for which no rule finds a role is
unclassified.
-/

namespace SchemaCatalog

open Text

/-- The side of a relation that bears the foreign key. -/
structure BelongsTo where
  /-- The sibling field that holds the key. -/
  foreignKey : String
  /-- The field of the other model that the key refers to, if it is given. -/
  references : Option String
  /-- The other model, once it is linked and if it is declared. -/
  target : Option ModelId
deriving DecidableEq

inductive FieldRole where
  /-- Its default generates an identifier. -/
  | key
  /-- A value of a primitive type. -/
  | scalar
  | belongsTo (relation : BelongsTo)
  /-- An array of another model. -/
  | hasMany (target : ModelId)
  | enum (target : EnumId)
  | unclassified
deriving DecidableEq

namespace FieldRole

@[simp]
def isKey (r : FieldRole) : Bool := r matches .key

@[simp]
def isScalar (r : FieldRole) : Bool := r matches .scalar

@[simp]
def isBelongsTo (r : FieldRole) : Bool := r matches .belongsTo _

@[simp]
def isHasMany (r : FieldRole) : Bool := r matches .hasMany _

@[simp]
def isEnum (r : FieldRole) : Bool := r matches .enum _

@[simp]
def isUnclassified (r : FieldRole) : Bool := r matches .unclassified

/-- Whether the field relates its model to another one. -/
def isRelation (r : FieldRole) : Bool :=
  r.isBelongsTo || r.isHasMany

@[simp]
def belongsTo? : FieldRole → Option BelongsTo
  | .belongsTo relation => some relation
  | _ => none

def hasMany? : FieldRole → Option ModelId
  | .hasMany target => some target
  | _ => none

def enum? : FieldRole → Option EnumId
  | .enum target => some target
  | _ => none

/-- The model that a relation leads to. -/
def relatedModel? : FieldRole → Option ModelId
  | .belongsTo relation => relation.target
  | .hasMany target => some target
  | _ => none

/-! ## Roles in full -/

/-- A text that may be missing, for inspection. -/
def optionText : Option String → String
  | none => "None"
  | some s => "Some(" ++ s ++ ")"

/-- A record with its fields on one line, for inspection. -/
def recordText (name : String) (fields : List (String × String)) : String :=
  name ++ " \x7b " ++ String.intercalate ", " (fields.map fun (label, s) => label ++ ": " ++ s)
    ++ " \x7d"

/-- A relation with all that it holds, for inspection. -/
def relationText (b : BelongsTo) : String :=
  recordText "BelongsTo" [("foreign_key", quote b.foreignKey),
    ("references", optionText (b.references.map quote)),
    ("target", optionText (b.target.map ModelId.text))]

/-- A role with all that it holds, for inspection. -/
def text : FieldRole → String
  | .key => "Key"
  | .scalar => "Scalar"
  | .belongsTo relation => "BelongsTo(" ++ relationText relation ++ ")"
  | .hasMany target => "HasMany(" ++ recordText "HasMany" [("target", target.text)] ++ ")"
  | .enum target => "Enum(" ++ recordText "EnumField" [("target", target.text)] ++ ")"
  | .unclassified => "Unclassified"

end FieldRole

/-! ## Asking for one role -/

/-- A field was taken to have a role that it does not have. -/
structure RoleMismatch where
  expected : String
  actual : FieldRole

def RoleMismatch.message (e : RoleMismatch) : String :=
  "expected field to be \x60" ++ e.expected ++ "\x60, but was " ++ e.actual.text

namespace FieldRole

/-- What a role holds, when the field is taken to have it. -/
def expect {α : Type} (expected : String) (pick? : FieldRole → Option α) (r : FieldRole) :
    Except RoleMismatch α :=
  match pick? r with
  | some a => .ok a
  | none => .error ⟨expected, r⟩

def expectBelongsTo : FieldRole → Except RoleMismatch BelongsTo :=
  expect "BelongsTo" belongsTo?

def expectHasMany : FieldRole → Except RoleMismatch ModelId :=
  expect "HasMany" hasMany?

def expectEnum : FieldRole → Except RoleMismatch EnumId :=
  expect "Enum" enum?

end FieldRole

end SchemaCatalog
