/-!
# Identifiers of catalog entries

Models, enums and fields are identified by position: a model or an enum by its place among its kind,
a field by its model and its place there.  Fields are ordered by model and then by place.

* `FieldId.sort_pairwise`: sorted identifiers are in this order, which is total and transitive.
-/

namespace SchemaCatalog

structure ModelId where
  index : Nat
deriving DecidableEq

structure EnumId where
  index : Nat
deriving DecidableEq

structure FieldId where
  model : ModelId
  index : Nat
deriving DecidableEq

def ModelId.text (id : ModelId) : String :=
  "ModelId(" ++ toString id.index ++ ")"

def EnumId.text (id : EnumId) : String :=
  "EnumId(" ++ toString id.index ++ ")"

def FieldId.text (id : FieldId) : String :=
  "FieldId(" ++ toString id.model.index ++ "/" ++ toString id.index ++ ")"

/-- The field at this place of a model. -/
def ModelId.field (id : ModelId) (index : Nat) : FieldId :=
  ⟨id, index⟩

/-- The order of fields: by model, then by place. -/
def FieldId.le (a b : FieldId) : Bool :=
  a.model.index < b.model.index || (a.model.index == b.model.index && a.index ≤ b.index)

theorem FieldId.le_total (a b : FieldId) : a.le b || b.le a := by
  simp only [le, Bool.or_eq_true, Bool.and_eq_true, decide_eq_true_eq, beq_iff_eq]
  omega

theorem FieldId.le_trans {a b c : FieldId} (hab : a.le b) (hbc : b.le c) : a.le c := by
  simp only [le, Bool.or_eq_true, Bool.and_eq_true, decide_eq_true_eq, beq_iff_eq] at *
  omega

/-- The identifiers in order. -/
def FieldId.sort (ids : List FieldId) : List FieldId :=
  ids.mergeSort FieldId.le

theorem FieldId.sort_pairwise (ids : List FieldId) : (sort ids).Pairwise (le · ·) := by
  apply List.pairwise_mergeSort
  · intro a b c hab hbc
    exact le_trans hab hbc
  · exact le_total

end SchemaCatalog
