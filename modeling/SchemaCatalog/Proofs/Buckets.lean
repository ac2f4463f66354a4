import SchemaCatalog.Proofs.Build

/-!
# Buckets of a finished model

What the buckets of a model hold once a build is done (`Model.BucketsAgree`): the fields of their
role, in order and each once; of the scalars, those that no relation of the model has as its foreign
key.  So a field is in exactly one bucket, or in none if it has no role or is such a foreign key.

    b.build source = .ok o → o.result = .ok c → ∀ m ∈ c.models.items, m.BucketsAgree
                                                                          (build_bucketsAgree)
-/

namespace SchemaCatalog

/-- Whether a field belongs in the bucket, among the fields of its model. -/
def Field.belongsIn (fields : List Field) : Bucket → Field → Bool
  | .key, f => f.role.isKey
  | .scalar, f => f.isColumn fields
  | .belongsTo, f => f.role.isBelongsTo
  | .hasMany, f => f.role.isHasMany
  | .enum, f => f.role.isEnum

/-- The bucket of a role. -/
def FieldRole.bucket? : FieldRole → Option Bucket
  | .key => some .key
  | .scalar => some .scalar
  | .belongsTo _ => some .belongsTo
  | .hasMany _ => some .hasMany
  | .enum _ => some .enum
  | .unclassified => none

namespace Model

/-- Whether no bucket has a place for the field: it has no role, or is a scalar that serves a
relation. -/
def leavesOut (m : Model) (f : Field) : Prop :=
  f.role.isUnclassified ∨ f.role.isScalar ∧ f.name ∈ m.foreignKeys

/-- The buckets of the model agree with the roles of its fields. -/
structure BucketsAgree (m : Model) : Prop where
  bucket : ∀ b, m.bucket b = m.fields.filter (Field.belongsIn m.fields b)
  unclassified : m.unclassified = m.fields.filter (·.role.isUnclassified)
  /-- One name for each relation, in order and as often as it is used. -/
  foreignKeys : m.foreignKeys = (m.fields.filterMap (·.role.belongsTo?)).map (·.foreignKey)
  increasing : ∀ b, (m.buckets.get b).Pairwise (· < ·)
  inRange : ∀ b, ∀ i ∈ m.buckets.get b, i < m.fields.length
  inNone : ∀ i f, m.fields[i]? = some f → m.leavesOut f → ∀ b, i ∉ m.buckets.get b
  inOne : ∀ i f, m.fields[i]? = some f → ¬ m.leavesOut f → ∃! b, i ∈ m.buckets.get b

end Model

/-! ## Lemmas -/

theorem Buckets.get_ofRoles (fields : List Field) (b : Bucket) :
    (Buckets.ofRoles fields).get b = placesWhere (Field.belongsIn fields b) fields := by
  cases b <;> rfl

namespace Model

variable {m : Model} (h : m.buckets = .ofRoles m.fields)
include h

theorem bucket_eq_filter (b : Bucket) :
    m.bucket b = m.fields.filter (Field.belongsIn m.fields b) := by
  rw [bucket, h, Buckets.get_ofRoles]
  exact filterMap_placesWhere [] m.fields

theorem mem_bucket_iff {b : Bucket} {i : Nat} {f : Field} (hf : m.fields[i]? = some f) :
    i ∈ m.buckets.get b ↔ Field.belongsIn m.fields b f := by
  rw [h, Buckets.get_ofRoles, mem_placesWhere, hf]
  simp

theorem foreignKeys_eq : m.foreignKeys = m.fields.filterMap Field.foreignKey? := by
  rw [foreignKeys, bucket_eq_filter h, List.filterMap_filter]
  congr 1
  funext f
  cases hr : f.role <;> simp [Field.belongsIn, Field.foreignKey?, hr]

theorem isColumn_iff (f : Field) :
    f.isColumn m.fields ↔ f.role.isScalar ∧ f.name ∉ m.foreignKeys := by
  rw [foreignKeys_eq h, Field.isColumn, List.mem_filterMap]
  simp

/-- A field belongs in the bucket of its role, unless it is left out. -/
theorem belongsIn_iff (b : Bucket) (f : Field) :
    Field.belongsIn m.fields b f ↔ f.role.bucket? = some b ∧ ¬ m.leavesOut f := by
  cases hr : f.role <;> cases b <;>
    simp [Field.belongsIn, isColumn_iff h, leavesOut, FieldRole.bucket?, hr]

theorem bucketsAgree : m.BucketsAgree where
  bucket := bucket_eq_filter h
  unclassified := rfl
  foreignKeys := by
    rw [foreignKeys_eq h, List.map_filterMap]
    rfl
  increasing b := by
    rw [h, Buckets.get_ofRoles]
    exact (placesWhere_pairwise_lt m.fields 0).1
  inRange b i hi := by
    rw [h, Buckets.get_ofRoles] at hi
    obtain ⟨f, hf, -⟩ := mem_placesWhere.1 hi
    exact (List.getElem?_eq_some_iff.1 hf).1
  inNone i f hf hout b := by
    rw [mem_bucket_iff h hf, belongsIn_iff h]
    exact fun hb => hb.2 hout
  inOne i f hf hin := by
    have hmem : ∀ b, i ∈ m.buckets.get b ↔ f.role.bucket? = some b := by
      intro b
      rw [mem_bucket_iff h hf, belongsIn_iff h]
      exact and_iff_left hin
    have hrole : ¬ f.role.isUnclassified := fun hu => hin (.inl hu)
    obtain ⟨b, hb⟩ : ∃ b, f.role.bucket? = some b := by
      cases hr : f.role <;> simp [FieldRole.bucket?, hr] at hrole ⊢
    refine ⟨b, (hmem b).2 hb, fun b' hb' => ?_⟩
    exact Option.some.inj (((hmem b').1 hb').symm.trans hb)

end Model

/-- The buckets of every model of a catalog that comes of a build agree with the roles. -/
theorem build_bucketsAgree {b : Builder} {source : Source} {o : Outcome} {c : Catalog}
    (hbuild : b.build source = .ok o) (hok : o.result = .ok c) :
    ∀ m ∈ c.models.items, m.BucketsAgree := by
  obtain ⟨ds, -, -, rfl⟩ := eq_resolvedCatalog hbuild hok
  intro m hm
  obtain ⟨i, hi, rfl⟩ := List.mem_mapIdx.1 hm
  exact Model.bucketsAgree rfl

/-- Four buckets of a post have a field each.  Its only scalar is the foreign key of the author and
is in no bucket, and neither is the cover, which has no role. -/
theorem blogDeclarations_bucketsAgree :
    ∃ o c, Builder.build { strict := false } (.declared blogDeclarations) = .ok o ∧
      o.result = .ok c ∧ (∀ m ∈ c.models.items, m.BucketsAgree) ∧
      ∃ post user, c.models.items = [post, user] ∧
        ([.key, .scalar, .belongsTo, .hasMany, .enum].map fun b => (post.bucket b).map (·.name))
          = [["id"], [], ["author"], ["replies"], ["tags"]] ∧
        post.foreignKeys = ["authorId"] ∧ post.unclassified.map (·.name) = ["cover"] ∧
        (user.bucket .hasMany).map (·.name) = ["posts"] := by
  have hbuild := blogDeclarations_build { strict := false }
  exact ⟨_, resolvedCatalog blogDeclarations, hbuild, rfl, build_bucketsAgree hbuild rfl, _, _, rfl,
    by decide, by decide, by decide, by decide⟩

end SchemaCatalog
