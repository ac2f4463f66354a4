import SchemaCatalog.Catalog.Basic
import SchemaCatalog.Catalog.Draft
import SchemaCatalog.Catalog.Linking
import SchemaCatalog.Catalog.Source

/-!
# Building a catalog

Declarations are assembled in order, each model classified by itself, and linked once all of them
are known; so a field may refer to a type that is declared after it.  A strict build refuses a
catalog in which some field has no role.
-/

namespace SchemaCatalog

open Inflection

/-- Declarations put together, with what their names stand for and the guesses about their fields. -/
structure Assembly where
  models : List Model := []
  enums : List Enum := []
  modelNames : NameTable ModelId := {}
  enumNames : NameTable EnumId := {}
  tentative : List (FieldId × Tentative) := []

namespace Assembly

/-- The assembly with one more declaration. -/
def add (a : Assembly) : Declaration → Except InflectionError Assembly
  | .model decl => do
    let id : ModelId := ⟨a.models.length⟩
    let draft ← Draft.ofDecl id decl
    return { a with
      models := a.models ++ [draft.toModel], modelNames := a.modelNames.add decl.name id
      tentative := a.tentative ++ draft.tentative }
  | .enum decl => do
    let id : EnumId := ⟨a.enums.length⟩
    let enumeration ← Enum.ofDecl id decl
    return { a with
      enums := a.enums ++ [enumeration], enumNames := a.enumNames.add decl.name id }

def ofDeclarations (ds : List Declaration) : Except InflectionError Assembly :=
  ds.foldlM add {}

/-- The assembly with every field linked, and what was noted on the way: pass by pass, and the
fields left without a role at the end. -/
def link (a : Assembly) : Except LinkError (Assembly × List Event) := do
  let s : Linking := { models := a.models }
  let s ← s.linkHasMany a.modelNames a.tentative
  let s ← s.linkEnums a.enumNames a.tentative
  let s ← s.linkBelongsTo a.modelNames
  return ({ a with models := s.models }, s.events ++ s.unclassifiedEvents)

/-- What is wrong with each field that has no role, model by model. -/
def unresolved (a : Assembly) : List String :=
  a.models.flatMap fun m => m.unclassified.map fun f =>
    "field \x60" ++ m.name ++ "::" ++ f.name ++ "\x60 has type \x60" ++ f.type
      ++ "\x60 which is not a scalar, model, or enum"

def toCatalog (a : Assembly) : Catalog where
  models := .ofList a.models
  enums := .ofList a.enums

end Assembly

/-- The fault of a strict build that leaves fields without a role. -/
def unresolvedFault (unresolved : List String) : Fault Unit :=
  .caused ()
    (.adhoc ("strict build found " ++ toString unresolved.length ++ " unresolved field(s)"))
    (.root () (.invalidSchema (String.intercalate "; " unresolved)))

/-- How catalogs are built. -/
structure Builder where
  /-- Whether fields without a role make the build fail. -/
  strict : Bool := false

/-- What comes of a build: a catalog or a fault, and what was noted on the way. -/
structure Outcome where
  result : Except (Fault Unit) Catalog
  events : List Event

/-- Why nothing comes of a build. -/
inductive BuildError where
  | inflection (e : InflectionError)
  | link (e : LinkError)

/-- What a build that comes to nothing says, if anything. -/
def BuildError.message? : BuildError → Option String
  | .inflection _ => none
  | .link e => e.message?

namespace Builder

/-- The outcome for declarations that are linked. -/
def finish (b : Builder) (a : Assembly) (events : List Event) : Outcome :=
  if b.strict ∧ a.unresolved ≠ [] then { result := .error (unresolvedFault a.unresolved), events }
  else { result := .ok a.toCatalog, events := events ++ [.built a.models.length a.enums.length] }

/-- Builds the catalog of a source.  A failure of the source is passed on as it is; a name that
cannot be inflected is an error of its own. -/
def build (b : Builder) (source : Source) : Except BuildError Outcome :=
  match source.declarations with
  | .error report => .ok { result := .error (.root () (.source report)), events := [] }
  | .ok ds => do
    let assembled ← (Assembly.ofDeclarations ds).mapError .inflection
    let (linked, events) ← assembled.link.mapError .link
    return b.finish linked events

end Builder

/-- Builds a catalog without asking for every field to have a role. -/
def Catalog.ofSource (source : Source) : Except BuildError Outcome :=
  ({} : Builder).build source

end SchemaCatalog
