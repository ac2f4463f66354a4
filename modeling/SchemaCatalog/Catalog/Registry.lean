import SchemaCatalog.Catalog.Model
import SchemaCatalog.Catalog.NameTable
import SchemaCatalog.Fault.Basic

/-!
# Registries

The entities of one kind in declaration order, with look-up by name and by place.  Of entities that
share a name the first one declared is found.

* `Registry.get?_ofList`: look-up by name finds the first entity of the name.
* `Registry.find_eq_ok_iff`: asking by name succeeds exactly when look-up does.
-/

namespace SchemaCatalog

/-- What can be looked up by name. -/
class Entity (α : Type) where
  kind : EntityKind
  name : α → String

instance : Entity Model := ⟨.model, Model.name⟩

instance : Entity Enum := ⟨.enum, Enum.name⟩

/-- Entities in order, and where each name is found among them. -/
structure Registry (α : Type) where
  items : List α
  places : NameTable Nat

namespace Registry

variable {α : Type} [Entity α]

def ofList (items : List α) : Registry α where
  items := items
  places := .ofList (items.zipIdx.map fun (a, i) => (Entity.name a, i))

/-- The first entity of this name, if there is one. -/
def get? (r : Registry α) (name : String) : Option α :=
  (r.places.find? name).bind (r.items[·]?)

/-- The first entity of this name, or a fault that tells what was looked for. -/
def find (r : Registry α) (name : String) : Except (Fault Unit) α :=
  match r.get? name with
  | some a => .ok a
  | none => .error (.root () (.notFound (Entity.kind α) name))

omit [Entity α] in
def contains (r : Registry α) (name : String) : Bool :=
  r.places.contains name

omit [Entity α] in
def size (r : Registry α) : Nat :=
  r.items.length

omit [Entity α] in
def isEmpty (r : Registry α) : Bool :=
  r.items.isEmpty

omit [Entity α] in
/-- The entity at this place. -/
def nth (r : Registry α) (index : Nat) : Except LookupError α :=
  match r.items[index]? with
  | some a => .ok a
  | none => .error .unknownEntity

theorem places_ofList (items : List α) (name : String) :
    (ofList items).places.find? name = items.findIdx? (Entity.name · = name) := by
  have h := NameTable.find?_ofList_mapIdx Entity.name id items name
  rw [List.mapIdx_eq_zipIdx_map, Option.map_id] at h
  exact h

/-- Look-up by name finds the first entity of the name. -/
theorem get?_ofList (items : List α) (name : String) :
    (ofList items).get? name = items.find? (Entity.name · = name) := by
  unfold get?
  rw [places_ofList, List.find?_eq_bind_findIdx?_getElem?]
  rfl

theorem find_eq_ok_iff {r : Registry α} {name : String} {a : α} :
    r.find name = .ok a ↔ r.get? name = some a := by
  unfold find
  cases r.get? name <;> simp

end Registry

end SchemaCatalog
