import SchemaCatalog.Catalog.Registry

/-!
# Catalogs

The models and enums of a schema, with what their fields lead to.
-/

namespace SchemaCatalog

structure Catalog where
  models : Registry Model
  enums : Registry Enum

namespace Catalog

def model (c : Catalog) (id : ModelId) : Except LookupError Model :=
  c.models.nth id.index

def enumeration (c : Catalog) (id : EnumId) : Except LookupError Enum :=
  c.enums.nth id.index

def field (c : Catalog) (id : FieldId) : Except LookupError Field := do
  (← c.model id.model).field id

/-- Every field without a role, model by model. -/
def unclassified (c : Catalog) : List Field :=
  c.models.items.flatMap Model.unclassified

/-- The fields that belong to this model, over all models. -/
def referencing (c : Catalog) (id : ModelId) : List Field :=
  c.models.items.flatMap fun m =>
    (m.bucket .belongsTo).filter fun f => f.role.relatedModel? = some id

end Catalog

namespace Field

/-- The model that a relation leads to, if it leads to one. -/
def relatedModel (f : Field) (c : Catalog) : Except LookupError (Option Model) :=
  match f.role.relatedModel? with
  | some id => (c.model id).map some
  | none => .ok none

/-- The enum that the field refers to, if it refers to one. -/
def relatedEnum (f : Field) (c : Catalog) : Except LookupError (Option Enum) :=
  match f.role.enum? with
  | some id => (c.enumeration id).map some
  | none => .ok none

/-- The name of the field with that of its model. -/
def fullName (f : Field) (c : Catalog) : Except LookupError String := do
  return (← c.model f.id.model).name ++ "::" ++ f.name

end Field

end SchemaCatalog
