import SchemaCatalog.Catalog.Basic
import SchemaCatalog.Declaration.Codec

/-!
# Catalogs as data

How a catalog is written as a data tree for the programs that generate code from it.  Models and
enums are lists in declaration order; entities refer to each other by position.
-/

namespace SchemaCatalog

open Naming

def Naming.NameForms.toTree (n : NameForms) : Tree :=
  .object [("singular_name", .text n.singularName), ("plural_name", .text n.pluralName),
    ("singular_variable", .text n.singularVariable), ("plural_variable", .text n.pluralVariable),
    ("singular_title", .text n.singularTitle), ("plural_title", .text n.pluralTitle),
    ("singular_label", .text n.singularLabel), ("plural_label", .text n.pluralLabel)]

def ModelId.toTree (id : ModelId) : Tree :=
  .index id.index

def EnumId.toTree (id : EnumId) : Tree :=
  .index id.index

def FieldId.toTree (id : FieldId) : Tree :=
  .object [("model", id.model.toTree), ("index", .index id.index)]

def FieldDefault.toTree : FieldDefault → Tree
  | .generated g => .tagged "Auto" (.text g.strategy)
  | .value v => .tagged "Value" v.toTree

def BelongsTo.toTree (b : BelongsTo) : Tree :=
  .object [("foreign_key", .text b.foreignKey), ("references", .ofText? b.references),
    ("target", b.target.elim .null ModelId.toTree)]

def FieldRole.toTree : FieldRole → Tree
  | .key => .text "Key"
  | .scalar => .text "Scalar"
  | .unclassified => .text "Unclassified"
  | .belongsTo relation => .tagged "BelongsTo" relation.toTree
  | .hasMany target => .tagged "HasMany" (.object [("target", target.toTree)])
  | .enum target => .tagged "Enum" (.object [("target", target.toTree)])

def Field.toTree (f : Field) : Tree :=
  .object [("id", f.id.toTree), ("name", .text f.name), ("names", f.names.toTree),
    ("ty", .text f.type), ("array", .bool f.array), ("nullable", .bool f.nullable),
    ("primary_key", .bool f.primaryKey), ("unique", .bool f.unique),
    ("default", f.default.elim .null FieldDefault.toTree), ("role", f.role.toTree),
    ("attrs", .list (f.attributes.map Attribute.toTree))]

def Buckets.toTree (b : Buckets) : Tree :=
  let places (l : List Nat) : Tree := .list (l.map .index)
  .object [("key", places b.key), ("scalar", places b.scalar),
    ("belongs_to", places b.belongsTo), ("has_many", places b.hasMany), ("enums", places b.enum)]

def Model.toTree (m : Model) : Tree :=
  .object [("id", m.id.toTree), ("name", .text m.name), ("names", m.names.toTree),
    ("fields", .list (m.fields.map Field.toTree)), ("buckets", m.buckets.toTree)]

def Enumerator.toTree (e : Enumerator) : Tree :=
  .object [("name", .text e.name), ("title", .text e.title), ("label", .text e.label),
    ("comment", .ofText? e.comment)]

def Enum.toTree (e : Enum) : Tree :=
  .object [("id", e.id.toTree), ("name", .text e.name), ("names", e.names.toTree),
    ("enumerators", .list (e.enumerators.map Enumerator.toTree))]

def Catalog.toTree (c : Catalog) : Tree :=
  .object [("models", .list (c.models.items.map Model.toTree)),
    ("enums", .list (c.enums.items.map Enum.toTree))]

end SchemaCatalog
