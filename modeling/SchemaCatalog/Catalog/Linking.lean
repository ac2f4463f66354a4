import SchemaCatalog.Catalog.Event
import SchemaCatalog.Catalog.Model
import SchemaCatalog.Catalog.NameTable

/-!
# Linking

The roles that depend on which models and enums are declared.  They are found once all declarations
are known, so a field may refer to a type that is declared after it.  Linking goes over the fields
three times and changes the models in place: it confirms guesses first for arrays of models, then for
enums, and points relations to their models last.  The order matters: an array that does not name a
model may still name an enum.
-/

namespace SchemaCatalog

/-- Why linking stops.  Models that were put together from declarations never make it stop. -/
inductive LinkError where
  /-- No model stands at the place. -/
  | unknownModel (id : ModelId)
  | lookup (e : LookupError)
  | role (e : RoleMismatch)

/-- What a stop says, if anything. -/
def LinkError.message? : LinkError → Option String
  | .unknownModel _ => none
  | .lookup e => e.message?
  | .role e => some e.message

/-- Models that are being linked, and what was noted so far. -/
structure Linking where
  models : List Model
  events : List Event := []

namespace Linking

def modelAt (s : Linking) (id : ModelId) : Except LinkError Model :=
  match s.models[id.index]? with
  | some m => .ok m
  | none => .error (.unknownModel id)

/-- Puts a model in the place of another one, and notes what happened to it. -/
def replace (s : Linking) (id : ModelId) (m : Model) (noted : List Event) : Linking :=
  { models := s.models.set id.index m, events := s.events ++ noted }

/-! ## The three passes -/

/-- Gives the field the role that is found for it, if one is, and puts it into the bucket.  That is
noted, unless the field was in the bucket before. -/
def confirm (bucket : Bucket) (kind : FieldEvent) (find? : Field → Option FieldRole) (s : Linking)
    (id : FieldId) : Except LinkError Linking := do
  let m ← s.modelAt id.model
  let f ← (m.field id).mapError .lookup
  match find? f with
  | none => return s
  | some role =>
    let changed ← (m.withRole id role).mapError .lookup
    let (filed, isNew) ← (changed.put bucket id).mapError .lookup
    return s.replace id.model filed (if isNew then [.about kind m.name f.name f.type] else [])

/-- The role of an array whose type names a model. -/
def hasManyRole? (models : NameTable ModelId) (f : Field) : Option FieldRole :=
  (models.find? f.type).map .hasMany

/-- The role of a field whose type names an enum and that is no array of a model. -/
def enumRole? (enums : NameTable EnumId) (f : Field) : Option FieldRole :=
  if f.role.isHasMany then none else (enums.find? f.type).map .enum

/-- Confirms the fields that are guessed to be arrays of a model. -/
def linkHasMany (models : NameTable ModelId) (tentative : List (FieldId × Tentative))
    (s : Linking) : Except LinkError Linking :=
  (tentative.filter (·.2 = .hasMany)).foldlM
    (fun s (id, _) => s.confirm .hasMany .linkedHasMany (hasManyRole? models) id) s

/-- Confirms the fields that refer to an enum, arrays included. -/
def linkEnums (enums : NameTable EnumId) (tentative : List (FieldId × Tentative)) (s : Linking) :
    Except LinkError Linking :=
  tentative.foldlM (fun s (id, _) => s.confirm .enum .linkedEnum (enumRole? enums) id) s

/-- Points the field, if it is a relation, to the model that its type names.  If there is none, that
is noted. -/
def point (models : NameTable ModelId) (s : Linking) (id : FieldId) : Except LinkError Linking := do
  let m ← s.modelAt id.model
  let f ← (m.fieldAt id.index).mapError .lookup
  if f.role.isBelongsTo then
    let target := models.find? f.type
    let relation ← f.role.expectBelongsTo.mapError .role
    let changed ← (m.withRoleAt id.index (.belongsTo { relation with target })).mapError .lookup
    return s.replace id.model changed
      (if target.isNone then [.about .danglingBelongsTo m.name f.name f.type] else [])
  else return s

/-- Points the relations of the model at the place. -/
def pointModel (models : NameTable ModelId) (s : Linking) (id : ModelId) :
    Except LinkError Linking := do
  let m ← s.modelAt id
  (List.range m.fields.length).foldlM (fun s j => s.point models (id.field j)) s

/-- Points the relations of every model. -/
def linkBelongsTo (models : NameTable ModelId) (s : Linking) : Except LinkError Linking :=
  (List.range s.models.length).foldlM (fun s i => s.pointModel models ⟨i⟩) s

/-- What is noted about the fields that have no role. -/
def unclassifiedEvents (s : Linking) : List Event :=
  s.models.flatMap fun m =>
    m.unclassified.map fun f => .about .leftUnclassified m.name f.name f.type

end Linking

end SchemaCatalog
