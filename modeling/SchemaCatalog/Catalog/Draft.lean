import SchemaCatalog.Catalog.Model

/-!
# Drafts of models

A declared model with its fields classified each by itself.  Where a field has no role yet the draft
keeps the guess that linking will confirm or drop.
-/

namespace SchemaCatalog

open Naming Inflection

structure Draft where
  id : ModelId
  name : String
  names : NameForms
  fields : List Classified
  buckets : Buckets
deriving DecidableEq

namespace Draft

/-- The fields of a model, each classified by itself, with their places as identifiers. -/
def classifyFields (id : ModelId) (decls : List FieldDecl) :
    Except InflectionError (List Classified) :=
  decls.zipIdx.mapM fun (d, i) => classify (id.field i) d

/-- A declared model with its fields classified and sorted into the buckets of their own. -/
def ofDecl (id : ModelId) (decl : ModelDecl) : Except InflectionError Draft := do
  let fields ← classifyFields id decl.fields
  return { id, fields, name := decl.name, names := ← NameForms.ofName decl.name,
           buckets := .ofFields (fields.map (·.field)) }

/-- The model without the guesses. -/
def toModel (d : Draft) : Model :=
  { id := d.id, name := d.name, names := d.names, fields := d.fields.map (·.field),
    buckets := d.buckets }

/-- The guesses, each with the field that it is about. -/
def tentative (d : Draft) : List (FieldId × Tentative) :=
  d.fields.filterMap fun c => c.tentative.map fun t => (c.field.id, t)

end Draft

end SchemaCatalog
