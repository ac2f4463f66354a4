import SchemaCatalog.Inflection.Number
import SchemaCatalog.Naming.Style

/-!
# Name forms

The names that generated code and prose use for one identifier.  All of them are functions of the
identifier alone, so two catalogs of the same declarations agree on every name.

Here they are put together.  Where words begin is told by `Words` and how they inflect by
`Inflection.Number`, each of which stands for an external library; what is proved of
`NameForms.ofName` rests on both.
-/

namespace SchemaCatalog.Naming

open Inflection

/-- The forms of an identifier.  For `BlogPost` they are `BlogPost` and `BlogPosts` (names),
`blogPost` and `blogPosts` (variables), `Blog Post` and `Blog Posts` (titles), `Blog post` and
`Blog posts` (labels). -/
structure NameForms where
  singularName : String
  pluralName : String
  singularVariable : String
  pluralVariable : String
  singularTitle : String
  pluralTitle : String
  singularLabel : String
  pluralLabel : String
deriving DecidableEq

/-- The forms of an identifier.  Titles and labels inflect its words, written in `snake_case`, so
that every style of identifier ends up as separate words. -/
def NameForms.ofName (raw : String) : Except InflectionError NameForms := do
  let singular ← singularize raw
  let plural ← pluralize raw
  let singularWords ← singularize (snakeCase raw)
  let pluralWords ← pluralize (snakeCase raw)
  return {
    singularName := singular
    pluralName := plural
    singularVariable := camelCase singular
    pluralVariable := camelCase plural
    singularTitle := titleCase singularWords
    pluralTitle := titleCase pluralWords
    singularLabel := humanize singularWords
    pluralLabel := humanize pluralWords }

/-- The title of an enumerator: `ACTIVE_STATE` becomes `Active State`. -/
def enumeratorTitle (raw : String) : String :=
  titleCase (String.ofList (Text.lowercase raw.toList))

/-- The label of an enumerator: `ACTIVE_STATE` becomes `Active state`. -/
def enumeratorLabel (raw : String) : String :=
  humanize (String.ofList (Text.lowercase raw.toList))

end SchemaCatalog.Naming
