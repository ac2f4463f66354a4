import SchemaCatalog.Catalog.Build

/-!
# Workspaces

A list of declarations that grows while it is being written, the options for building from it, and
the last catalog that was built.

* `Workspace.build_catalog`: a build that does not succeed leaves the last catalog in place.
-/

namespace SchemaCatalog

structure Workspace where
  declarations : List Declaration := []
  builder : Builder := {}
  catalog : Option Catalog := none

/-- Why a part cannot be added to the last declaration. -/
inductive WorkspaceError where
  | lastNotModel
  | lastNotEnum
deriving DecidableEq

def WorkspaceError.message : WorkspaceError → String
  | .lastNotModel => "last declaration is not a model"
  | .lastNotEnum => "last declaration is not an enum"

namespace Workspace

def addDeclaration (w : Workspace) (d : Declaration) : Workspace :=
  { w with declarations := w.declarations ++ [d] }

/-- Adds a field to the last declaration, which has to be a model. -/
def addField (w : Workspace) (field : FieldDecl) : Except WorkspaceError Workspace :=
  match w.declarations.getLast? with
  | some (.model d) =>
    .ok { w with declarations := w.declarations.dropLast ++ [.model (d.withField field)] }
  | _ => .error .lastNotModel

/-- Adds an enumerator to the last declaration, which has to be an enum. -/
def addEnumerator (w : Workspace) (e : EnumeratorDecl) : Except WorkspaceError Workspace :=
  match w.declarations.getLast? with
  | some (.enum d) =>
    .ok { w with declarations := w.declarations.dropLast ++ [.enum (d.withEnumerator e)] }
  | _ => .error .lastNotEnum

def clear (w : Workspace) : Workspace :=
  { w with declarations := [] }

def setStrict (w : Workspace) (strict : Bool) : Workspace :=
  { w with builder := { strict } }

/-- Builds from a source; a catalog takes the place of the last one. -/
def build (w : Workspace) (source : Source) :
    Workspace × Except BuildError Outcome :=
  match w.builder.build source with
  | .error e => (w, .error e)
  | .ok outcome =>
    match outcome.result with
    | .ok catalog => ({ w with catalog := some catalog }, .ok outcome)
    | .error _ => (w, .ok outcome)

theorem build_catalog {w : Workspace} {source : Source} {outcome : Outcome} {f : Fault Unit}
    (h : w.builder.build source = .ok outcome) (hf : outcome.result = .error f) :
    (w.build source).1 = w := by
  unfold build
  rw [h]
  simp [hf]

end Workspace

end SchemaCatalog
