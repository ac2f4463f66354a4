import SchemaCatalog.Catalog.Field

/-!
# Models and enums

A model keeps its fields in declaration order and, for each role, the places of the fields that have
it.  A scalar field that serves a relation of the same model as its foreign key is no column of its
own and is left out.

* `mem_placesWhere`, `filterMap_placesWhere`: the places lead to what passes the test.
* `placesWhere_pairwise_lt`: they are listed in order, and none of them twice.
-/

namespace SchemaCatalog

open Naming Inflection

/-- Places in the list of fields of a model, by role. -/
structure Buckets where
  key : List Nat := []
  scalar : List Nat := []
  belongsTo : List Nat := []
  hasMany : List Nat := []
  enum : List Nat := []
deriving DecidableEq

/-- The roles that have a bucket. -/
inductive Bucket where
  | key
  | scalar
  | belongsTo
  | hasMany
  | enum
deriving DecidableEq

namespace Buckets

def get (b : Buckets) : Bucket → List Nat
  | .key => b.key
  | .scalar => b.scalar
  | .belongsTo => b.belongsTo
  | .hasMany => b.hasMany
  | .enum => b.enum

/-- The buckets with more places in one of them. -/
def push (b : Buckets) (bucket : Bucket) (places : List Nat) : Buckets :=
  match bucket with
  | .key => { b with key := b.key ++ places }
  | .scalar => { b with scalar := b.scalar ++ places }
  | .belongsTo => { b with belongsTo := b.belongsTo ++ places }
  | .hasMany => { b with hasMany := b.hasMany ++ places }
  | .enum => { b with enum := b.enum ++ places }

theorem get_push (b : Buckets) (bucket other : Bucket) (places : List Nat) :
    (b.push bucket places).get other
      = if other = bucket then b.get other ++ places else b.get other := by
  cases bucket <;> cases other <;> rfl

end Buckets

/-- The places, counted from `start`, of what passes the test. -/
def placesWhere {α : Type} (test : α → Bool) (as : List α) (start : Nat := 0) : List Nat :=
  (as.zipIdx start).filterMap fun (a, i) => if test a then some i else none

section
variable {α : Type} {test : α → Bool}

theorem placesWhere_cons (a : α) (as : List α) (start : Nat) :
    placesWhere test (a :: as) start
      = if test a then start :: placesWhere test as (start + 1)
        else placesWhere test as (start + 1) := by
  unfold placesWhere
  rw [List.zipIdx_cons]
  cases h : test a <;> simp [h]

theorem mem_placesWhere {as : List α} {i : Nat} :
    i ∈ placesWhere test as ↔ ∃ a, as[i]? = some a ∧ test a := by
  unfold placesWhere
  rw [List.mem_filterMap]
  constructor
  · rintro ⟨⟨a, j⟩, ha, hi⟩
    rw [Option.ite_none_right_eq_some, Option.some.injEq] at hi
    obtain ⟨ht, rfl⟩ := hi
    exact ⟨a, List.mem_zipIdx_iff_getElem?.1 ha, ht⟩
  · rintro ⟨a, ha, ht⟩
    exact ⟨(a, i), List.mem_zipIdx_iff_getElem?.2 ha, if_pos ht⟩

/-- Places are listed in order, and none of them twice. -/
theorem placesWhere_pairwise_lt (as : List α) (start : Nat) :
    (placesWhere test as start).Pairwise (· < ·) ∧ ∀ i ∈ placesWhere test as start, start ≤ i := by
  induction as generalizing start with
  | nil => simp [placesWhere]
  | cons a as ih =>
    obtain ⟨hsorted, hle⟩ := ih (start + 1)
    rw [placesWhere_cons]
    split
    · refine ⟨List.pairwise_cons.2 ⟨fun i hi => hle i hi, hsorted⟩, ?_⟩
      intro i hi
      rcases List.mem_cons.1 hi with rfl | hi
      · exact Nat.le_refl _
      · have := hle i hi
        omega
    · refine ⟨hsorted, fun i hi => ?_⟩
      have := hle i hi
      omega

/-- What stands at the places is what passes the test. -/
theorem filterMap_placesWhere (pre as : List α) :
    (placesWhere test as pre.length).filterMap ((pre ++ as)[·]?) = as.filter test := by
  induction as generalizing pre with
  | nil => rfl
  | cons a as ih =>
    have hrest : (placesWhere test as (pre.length + 1)).filterMap ((pre ++ a :: as)[·]?)
        = as.filter test := by
      have hshift := ih (pre ++ [a])
      rw [List.length_append, List.length_singleton, List.append_assoc] at hshift
      exact hshift
    rw [placesWhere_cons, List.filter_cons]
    split
    · have ha : (pre ++ a :: as)[pre.length]? = some a := by simp
      rw [List.filterMap_cons_some ha, hrest]
    · exact hrest

theorem filter_placesWhere {keep : Nat → Bool} {both : α → Bool} (as : List α) (start : Nat)
    (h : ∀ i a, as[i]? = some a → (test a && keep (start + i)) = both a) :
    (placesWhere test as start).filter keep = placesWhere both as start := by
  induction as generalizing start with
  | nil => rfl
  | cons a as ih =>
    have hhead : (test a && keep start) = both a := h 0 a rfl
    have htail := ih (start + 1) fun i b hb => by
      rw [Nat.add_right_comm]
      exact h (i + 1) b hb
    rw [placesWhere_cons, placesWhere_cons, ← htail, ← hhead]
    cases test a <;> cases hk : keep start <;> simp [hk]

theorem placesWhere_mapIdx_congr {β γ : Type} {test' : β → Bool} {g : Nat → γ → α}
    {g' : Nat → γ → β} (h : ∀ i c, test (g i c) = test' (g' i c)) (cs : List γ) (start : Nat) :
    placesWhere test (cs.mapIdx g) start = placesWhere test' (cs.mapIdx g') start := by
  induction cs generalizing start g g' with
  | nil => rfl
  | cons c cs ih =>
    rw [List.mapIdx_cons, List.mapIdx_cons, placesWhere_cons, placesWhere_cons, h,
      ih fun i c => h (i + 1) c]

end

/-- Whether one of the relations has the field at this place as its foreign key. -/
def servesRelation (fields : List Field) (relations : List Nat) (place : Nat) : Bool :=
  fields[place]?.any fun f => relations.any fun r => fields[r]?.any (·.foreignKey? = some f.name)

/-- The buckets that depend on the fields of the model alone.  Scalars that serve a relation are
left out. -/
def Buckets.ofFields (fields : List Field) : Buckets :=
  let belongsTo := placesWhere (·.role.isBelongsTo) fields
  { key := placesWhere (·.role.isKey) fields
    scalar := (placesWhere (·.role.isScalar) fields).filter (!servesRelation fields belongsTo ·)
    belongsTo }

structure Model where
  id : ModelId
  name : String
  names : NameForms
  fields : List Field
  buckets : Buckets
deriving DecidableEq

/-- Why a look-up by identifier fails. -/
inductive LookupError where
  /-- No model or enum has the identifier. -/
  | unknownEntity
  /-- The field is of another model. -/
  | foreignField (id : FieldId)
  /-- The model has no such field. -/
  | unknownField (id : FieldId)
deriving DecidableEq

/-- What a failed look-up says, if anything. -/
def LookupError.message? : LookupError → Option String
  | .unknownEntity => some "invalid entity ID"
  | .foreignField _ | .unknownField _ => none

namespace Model

def fieldAt (m : Model) (place : Nat) : Except LookupError Field :=
  match m.fields[place]? with
  | some f => .ok f
  | none => .error (.unknownField (m.id.field place))

/-- The field of this identifier, which has to be one of the model. -/
def field (m : Model) (id : FieldId) : Except LookupError Field :=
  if id.model = m.id then m.fieldAt id.index else .error (.foreignField id)

/-- The first field of this name. -/
def field? (m : Model) (name : String) : Option Field :=
  m.fields.find? (·.name = name)

/-- The fields in a bucket. -/
def bucket (m : Model) (b : Bucket) : List Field :=
  (m.buckets.get b).filterMap (m.fields[·]?)

/-- The fields without a role, which are in no bucket. -/
def unclassified (m : Model) : List Field :=
  m.fields.filter (·.role.isUnclassified)

/-- The names of the foreign keys of the model's relations, as often as they are used. -/
def foreignKeys (m : Model) : List String :=
  (m.bucket .belongsTo).filterMap Field.foreignKey?

/-! ### Changes to one field -/

/-- The model with this role for the field at the place. -/
def withRoleAt (m : Model) (place : Nat) (role : FieldRole) : Except LookupError Model := do
  let f ← m.fieldAt place
  return { m with fields := m.fields.set place { f with role } }

/-- The model with this role for one of its fields. -/
def withRole (m : Model) (id : FieldId) (role : FieldRole) : Except LookupError Model :=
  if id.model = m.id then m.withRoleAt id.index role else .error (.foreignField id)

/-- Puts one of the model's fields into a bucket, unless it is there already, and tells whether it
was put. -/
def put (m : Model) (bucket : Bucket) (id : FieldId) : Except LookupError (Model × Bool) :=
  if id.model = m.id then
    if id.index ∈ m.buckets.get bucket then .ok (m, false)
    else .ok ({ m with buckets := m.buckets.push bucket [id.index] }, true)
  else .error (.foreignField id)

end Model

/-- A value of an enum, with its title and label for prose. -/
structure Enumerator where
  name : String
  title : String
  label : String
  comment : Option String
deriving DecidableEq

def Enumerator.ofDecl (d : EnumeratorDecl) : Enumerator :=
  { name := d.name, title := enumeratorTitle d.name, label := enumeratorLabel d.name,
    comment := d.comment }

structure Enum where
  id : EnumId
  name : String
  names : NameForms
  enumerators : List Enumerator
deriving DecidableEq

namespace Enum

def ofDecl (id : EnumId) (d : EnumDecl) : Except InflectionError Enum := do
  return { id, name := d.name, names := ← NameForms.ofName d.name,
           enumerators := d.enumerators.map Enumerator.ofDecl }

/-- The first enumerator of this name. -/
def enumerator? (e : Enum) (name : String) : Option Enumerator :=
  e.enumerators.find? (·.name = name)

end Enum

end SchemaCatalog
