import SchemaCatalog.Proofs.Outcome

/-!
# Lists of declarations that grow

What becomes of a catalog when declarations are added at the end of the list.  All entities keep
their places, and new ones come after them.  Of a field only the role may change, and a further
declaration changes it only if it is the first of its kind to have the name that is the field's type
(`Field.roleAfter`).  So a field that has a role never loses it, and what it leads to stays
(`Field.Keeps`); but an array of an enum turns into one of a model when a model of that name is
added.

    the role of f among ds ++ [d] is f.roleAfter ds d                                (role_append)
    NamesInflect (ds ++ [d]) → the catalog of ds grows by d into that of ds ++ [d]    (build_grows)
    NamesInflect (ds ++ es) → the catalog of ds is kept in that of ds ++ es           (build_keeps)
-/

namespace SchemaCatalog

/-! ## What may change -/

namespace Declaration

def name : Declaration → String
  | .model d => d.name
  | .enum d => d.name

/-- No declaration of the list is of the same kind and has the same name. -/
def IsNew (d : Declaration) (ds : List Declaration) : Prop :=
  match d with
  | .model d => ∀ e ∈ models ds, e.name ≠ d.name
  | .enum d => ∀ e ∈ enums ds, e.name ≠ d.name

instance (d : Declaration) (ds : List Declaration) : Decidable (d.IsNew ds) :=
  match d with
  | .model d => inferInstanceAs (Decidable (∀ e ∈ models ds, e.name ≠ d.name))
  | .enum d => inferInstanceAs (Decidable (∀ e ∈ enums ds, e.name ≠ d.name))

end Declaration

namespace Field

/-- The role that a field gets when its type is declared after the list.  A model becomes the target
of a relation without one, and takes the arrays that have no role or that of an enum; an enum takes
the fields that have no role. -/
def reached? (f : Field) (ds : List Declaration) : Declaration → Option FieldRole
  | .model _ =>
    match f.role with
    | .belongsTo relation =>
      if relation.target.isNone then
        some (.belongsTo { relation with target := some ⟨(Declaration.models ds).length⟩ })
      else none
    | .enum _ | .unclassified =>
      if f.array && !isScalarType f.type then some (.hasMany ⟨(Declaration.models ds).length⟩)
      else none
    | _ => none
  | .enum _ =>
    match f.role with
    | .unclassified => some (.enum ⟨(Declaration.enums ds).length⟩)
    | _ => none

/-- The role of a field once the declaration is added to the list. -/
def roleAfter (f : Field) (ds : List Declaration) (d : Declaration) : FieldRole :=
  if f.type = d.name ∧ d.IsNew ds then (f.reached? ds d).getD f.role else f.role

/-- What a field keeps when declarations are added: all but its role, and of that what it has come
to. -/
structure Keeps (f f' : Field) : Prop where
  record : f' = { f with role := f'.role }
  classified : f'.role = .unclassified → f.role = .unclassified
  hasMany : ∀ id, f.role = .hasMany id → f'.role = .hasMany id
  target : ∀ relation, f.role = .belongsTo relation → relation.target.isSome →
    f'.role = .belongsTo relation

/-- What becomes of a field when the declaration is added to the list. -/
structure Grows (ds : List Declaration) (d : Declaration) (f f' : Field) : Prop
    extends Keeps f f' where
  role : f'.role = f.roleAfter ds d
  otherType : f.type ≠ d.name → f' = f

end Field

namespace Model

/-- What a model keeps when declarations are added. -/
structure Keeps (m m' : Model) : Prop where
  id : m'.id = m.id
  name : m'.name = m.name
  names : m'.names = m.names
  fields : List.Forall₂ Field.Keeps m.fields m'.fields
  key : m'.buckets.key = m.buckets.key
  scalar : m'.buckets.scalar = m.buckets.scalar
  belongsTo : m'.buckets.belongsTo = m.buckets.belongsTo

/-- What becomes of a model when the declaration is added to the list. -/
structure Grows (ds : List Declaration) (d : Declaration) (m m' : Model) : Prop
    extends Keeps m m' where
  grown : List.Forall₂ (Field.Grows ds d) m.fields m'.fields

end Model

namespace Catalog

/-- What a catalog keeps when declarations are added. -/
structure Keeps (c c' : Catalog) : Prop where
  models : ∃ kept new, List.Forall₂ Model.Keeps c.models.items kept ∧
    c'.models.items = kept ++ new
  enums : ∃ new, c'.enums.items = c.enums.items ++ new

/-- What becomes of a catalog when the declaration is added to the list: there is one more model or
one more enum, at the end of its kind. -/
inductive Grows (ds : List Declaration) (c c' : Catalog) : Declaration → Prop
  | model (d : ModelDecl) (grown : List Model) (new : Model)
      (old : List.Forall₂ (Model.Grows ds (.model d)) c.models.items grown)
      (models : c'.models.items = grown ++ [new]) (id : new.id = ⟨c.models.items.length⟩)
      (name : new.name = d.name) (enums : c'.enums.items = c.enums.items) : Grows ds c c' (.model d)
  | enum (d : EnumDecl) (new : Enum)
      (old : List.Forall₂ (Model.Grows ds (.enum d)) c.models.items c'.models.items)
      (enums : c'.enums.items = c.enums.items ++ [new]) (id : new.id = ⟨c.enums.items.length⟩)
      (name : new.name = d.name) : Grows ds c c' (.enum d)

end Catalog

/-! ## Names in scope -/

namespace Scope

/-- The first place of a name, when one more name is added at the end. -/
theorem map_findIdx?_append {α : Type} (mk : Nat → α) (names : List String) (new name : String) :
    ((names ++ [new]).findIdx? (· = name)).map mk
      = ((names.findIdx? (· = name)).map mk).or
          (if new = name then some (mk names.length) else none) := by
  rw [List.findIdx?_append, Option.map_or]
  congr 1
  by_cases h : new = name <;> simp [h]

section
variable (ds : List Declaration) (name : String)

theorem model?_append_model (d : ModelDecl) :
    (ofDeclarations (ds ++ [.model d])).model? name
      = ((ofDeclarations ds).model? name).or
          (if d.name = name then some ⟨(Declaration.models ds).length⟩ else none) := by
  have hnames : (ofDeclarations (ds ++ [.model d])).models
      = (ofDeclarations ds).models ++ [d.name] := by
    simp [ofDeclarations, Declaration.models]
  have hlen : (ofDeclarations ds).models.length = (Declaration.models ds).length :=
    List.length_map _
  rw [model?, hnames, map_findIdx?_append, hlen, ← model?]

theorem enum?_append_enum (d : EnumDecl) :
    (ofDeclarations (ds ++ [.enum d])).enum? name
      = ((ofDeclarations ds).enum? name).or
          (if d.name = name then some ⟨(Declaration.enums ds).length⟩ else none) := by
  have hnames : (ofDeclarations (ds ++ [.enum d])).enums
      = (ofDeclarations ds).enums ++ [d.name] := by
    simp [ofDeclarations, Declaration.enums]
  have hlen : (ofDeclarations ds).enums.length = (Declaration.enums ds).length :=
    List.length_map _
  rw [enum?, hnames, map_findIdx?_append, hlen, ← enum?]

theorem enum?_append_model (d : ModelDecl) :
    (ofDeclarations (ds ++ [.model d])).enum? name = (ofDeclarations ds).enum? name := by
  simp [ofDeclarations, enum?, Declaration.enums]

theorem model?_append_enum (d : EnumDecl) :
    (ofDeclarations (ds ++ [.enum d])).model? name = (ofDeclarations ds).model? name := by
  simp [ofDeclarations, model?, Declaration.models]

end

variable {ds : List Declaration} {name : String}

/-- A further candidate is no use where there was one, or when it has another name. -/
theorem or_ite_eq_self {α : Type} {found : Option α} {p : Prop} [Decidable p] {new : α}
    (h : found = none → ¬ p) : found.or (if p then some new else none) = found := by
  cases found with
  | some a => rfl
  | none =>
    rw [if_neg (h rfl)]
    rfl

/-- A declaration changes nothing for a name that it does not have, or that was taken. -/
theorem lookups_append {d : Declaration} (h : ¬ (name = d.name ∧ d.IsNew ds)) :
    (ofDeclarations (ds ++ [d])).model? name = (ofDeclarations ds).model? name ∧
    (ofDeclarations (ds ++ [d])).enum? name = (ofDeclarations ds).enum? name := by
  cases d with
  | model d =>
    refine ⟨?_, enum?_append_model ds name d⟩
    rw [model?_append_model]
    refine or_ite_eq_self ?_
    rintro hnone rfl
    exact h ⟨rfl, model?_eq_none_iff.1 hnone⟩
  | enum d =>
    refine ⟨model?_append_enum ds name d, ?_⟩
    rw [enum?_append_enum]
    refine or_ite_eq_self ?_
    rintro hnone rfl
    exact h ⟨rfl, enum?_eq_none_iff.1 hnone⟩

/-! ## Roles -/

variable {f : FieldDecl}

/-- The role of a field whose type is declared as a model after the list. -/
theorem role_append_model {d : ModelDecl} (id : FieldId) (htype : f.type = d.name)
    (hnew : (Declaration.model d).IsNew ds) :
    (ofDeclarations (ds ++ [.model d])).role f
      = ((f.resolved (ofDeclarations ds) id).reached? ds (.model d)).getD
          ((ofDeclarations ds).role f) := by
  have hnone : (ofDeclarations ds).model? f.type = none := by
    rw [htype]
    exact model?_eq_none_iff.2 hnew
  have hsome : (ofDeclarations (ds ++ [.model d])).model? f.type
      = some ⟨(Declaration.models ds).length⟩ := by
    rw [model?_append_model, hnone, if_pos htype.symm]
    rfl
  have henum := enum?_append_model ds f.type d
  rcases classifyRole_cases f with hc | ⟨relation, hc⟩ | ⟨hty, hc⟩ | ⟨hty, hc⟩
  · simp [role_of_key _ hc, Field.reached?]
  · simp [role_of_belongsTo _ hc, Field.reached?, hnone, hsome]
  · simp [role_of_scalar _ hty hc, Field.reached?]
  · simp only [role_of_guess _ hty hc, Field.reached?, FieldDecl.resolved_role,
      FieldDecl.resolved_type, FieldDecl.resolved_array, hty, hnone, hsome, henum]
    cases f.array <;> cases (ofDeclarations ds).enum? f.type <;> rfl

/-- The role of a field whose type is declared as an enum after the list. -/
theorem role_append_enum {d : EnumDecl} (id : FieldId) (htype : f.type = d.name)
    (hnew : (Declaration.enum d).IsNew ds) :
    (ofDeclarations (ds ++ [.enum d])).role f
      = ((f.resolved (ofDeclarations ds) id).reached? ds (.enum d)).getD
          ((ofDeclarations ds).role f) := by
  have hnone : (ofDeclarations ds).enum? f.type = none := by
    rw [htype]
    exact enum?_eq_none_iff.2 hnew
  have hsome : (ofDeclarations (ds ++ [.enum d])).enum? f.type
      = some ⟨(Declaration.enums ds).length⟩ := by
    rw [enum?_append_enum, hnone, if_pos htype.symm]
    rfl
  have hmodel := model?_append_enum ds f.type d
  rcases classifyRole_cases f with hc | ⟨relation, hc⟩ | ⟨hty, hc⟩ | ⟨hty, hc⟩
  · simp [role_of_key _ hc, Field.reached?]
  · simp [role_of_belongsTo _ hc, Field.reached?, hmodel]
  · simp [role_of_scalar _ hty hc, Field.reached?]
  · simp only [role_of_guess _ hty hc, Field.reached?, FieldDecl.resolved_role, hnone, hsome,
      hmodel]
    cases f.array <;> cases (ofDeclarations ds).model? f.type <;> rfl

/-- What a further declaration makes of a role can be told from the field as it was before. -/
theorem role_append (ds : List Declaration) (d : Declaration) (f : FieldDecl) (id : FieldId) :
    (ofDeclarations (ds ++ [d])).role f = (f.resolved (ofDeclarations ds) id).roleAfter ds d := by
  rw [Field.roleAfter]
  split
  case isTrue h =>
    cases d with
    | model d => exact role_append_model id h.1 h.2
    | enum d => exact role_append_enum id h.1 h.2
  case isFalse h =>
    obtain ⟨hmodel, henum⟩ := lookups_append h
    exact role_congr hmodel henum

end Scope

/-! ## Fields -/

namespace Field

theorem Keeps.refl (f : Field) : f.Keeps f where
  record := rfl
  classified h := h
  hasMany _ h := h
  target _ h _ := h

theorem Keeps.trans {f g h : Field} (hfg : f.Keeps g) (hgh : g.Keeps h) : f.Keeps h where
  record := by
    rw [hgh.record, hfg.record]
  classified hh := hfg.classified (hgh.classified hh)
  hasMany id hf := hgh.hasMany id (hfg.hasMany id hf)
  target relation hf htarget := hgh.target relation (hfg.target relation hf htarget) htarget

section
variable (f : Field) (ds : List Declaration) (d : Declaration)

theorem reached?_ne_unclassified : f.reached? ds d ≠ some .unclassified := by
  cases d <;> cases hr : f.role <;> simp [reached?, hr]

variable {f ds d}

theorem roleAfter_of_reached?_eq_none (h : f.reached? ds d = none) :
    f.roleAfter ds d = f.role := by
  rw [roleAfter, h]
  exact ite_self _

theorem eq_unclassified_of_roleAfter (h : f.roleAfter ds d = .unclassified) :
    f.role = .unclassified := by
  cases hr : f.reached? ds d with
  | none => exact (roleAfter_of_reached?_eq_none hr).symm.trans h
  | some role =>
    rw [roleAfter, hr] at h
    split at h
    case isTrue => exact absurd (hr.trans (congrArg some h)) (reached?_ne_unclassified f ds d)
    case isFalse => exact h

theorem grows (f : Field) (ds : List Declaration) (d : Declaration) :
    f.Grows ds d { f with role := f.roleAfter ds d } where
  record := rfl
  classified := eq_unclassified_of_roleAfter
  hasMany id h := by
    have hnone : f.reached? ds d = none := by cases d <;> simp [reached?, h]
    exact (roleAfter_of_reached?_eq_none hnone).trans h
  target relation h htarget := by
    have hset := Option.isSome_iff_ne_none.1 htarget
    have hnone : f.reached? ds d = none := by cases d <;> simp [reached?, h, hset]
    exact (roleAfter_of_reached?_eq_none hnone).trans h
  role := rfl
  otherType h := by
    have hrole : f.roleAfter ds d = f.role := if_neg fun hd => h hd.1
    rw [hrole]

end

end Field

theorem FieldDecl.grows (f : FieldDecl) (ds : List Declaration) (d : Declaration) (id : FieldId) :
    (f.resolved (.ofDeclarations ds) id).Grows ds d
      (f.resolved (.ofDeclarations (ds ++ [d])) id) := by
  have hgrows := (f.resolved (.ofDeclarations ds) id).grows ds d
  rw [← Scope.role_append] at hgrows
  exact hgrows

theorem FieldDecl.keeps (f : FieldDecl) (ds es : List Declaration) (id : FieldId) :
    (f.resolved (.ofDeclarations ds) id).Keeps (f.resolved (.ofDeclarations (ds ++ es)) id) := by
  induction es using List.reverseRecOn with
  | nil =>
    rw [List.append_nil]
    exact .refl _
  | append_singleton es e ih =>
    rw [← List.append_assoc]
    exact ih.trans (f.grows (ds ++ es) e id).toKeeps

/-! ## Catalogs -/

theorem ModelDecl.keeps (m : ModelDecl) (ds es : List Declaration) (id : ModelId) :
    (m.resolved (.ofDeclarations ds) id).Keeps (m.resolved (.ofDeclarations (ds ++ es)) id) := by
  obtain ⟨hkey, hscalar, hbelongsTo⟩ :=
    localBuckets_resolved m (.ofDeclarations (ds ++ es)) (.ofDeclarations ds) id id
  refine ⟨rfl, rfl, rfl, ?_, hkey, hscalar, hbelongsTo⟩
  exact forall₂_mapIdx (fun j f => f.keeps ds es (id.field j)) _

theorem ModelDecl.grows (m : ModelDecl) (ds : List Declaration) (d : Declaration) (id : ModelId) :
    Model.Grows ds d (m.resolved (.ofDeclarations ds) id)
      (m.resolved (.ofDeclarations (ds ++ [d])) id) where
  toKeeps := m.keeps ds [d] id
  grown := forall₂_mapIdx (fun j f => f.grows ds d (id.field j)) _

theorem resolvedModels_append (ds es : List Declaration) :
    resolvedModels (ds ++ es)
      = ((Declaration.models ds).mapIdx fun i m => m.resolved (.ofDeclarations (ds ++ es)) ⟨i⟩)
        ++ (Declaration.models es).mapIdx fun i m =>
          m.resolved (.ofDeclarations (ds ++ es)) ⟨i + (Declaration.models ds).length⟩ := by
  simp [resolvedModels, Declaration.models, List.mapIdx_append]

theorem resolvedEnums_append (ds es : List Declaration) :
    resolvedEnums (ds ++ es)
      = resolvedEnums ds ++ (Declaration.enums es).mapIdx fun k e =>
          e.toEnum ⟨k + (Declaration.enums ds).length⟩ := by
  simp [resolvedEnums, Declaration.enums, List.mapIdx_append]

theorem resolvedCatalog_keeps (ds es : List Declaration) :
    (resolvedCatalog ds).Keeps (resolvedCatalog (ds ++ es)) where
  models := ⟨_, _, forall₂_mapIdx (fun i m => m.keeps ds es ⟨i⟩) _, resolvedModels_append ds es⟩
  enums := ⟨_, resolvedEnums_append ds es⟩

theorem resolvedCatalog_grows (ds : List Declaration) (d : Declaration) :
    (resolvedCatalog ds).Grows ds (resolvedCatalog (ds ++ [d])) d := by
  have old := forall₂_mapIdx (fun i m => ModelDecl.grows m ds d ⟨i⟩) (Declaration.models ds)
  have hmodels := resolvedModels_append ds [d]
  have henums := resolvedEnums_append ds [d]
  cases d with
  | model d =>
    refine .model d _ _ old hmodels ?_ rfl (henums.trans (List.append_nil _))
    simp [ModelDecl.resolved, resolvedModels]
  | enum d =>
    refine .enum d _ ?_ henums ?_ rfl
    · have hkind : resolvedModels (ds ++ [.enum d]) = _ := hmodels.trans (List.append_nil _)
      rw [resolvedCatalog_models, resolvedCatalog_models, hkind]
      exact old
    · simp [EnumDecl.toEnum, resolvedEnums]

/-- Declarations that are added to a list leave what there was before. -/
theorem build_keeps (ds es : List Declaration) (h : NamesInflect (ds ++ es)) :
    ∃ c events c' events',
      Builder.build { strict := false } (.declared ds) = .ok { result := .ok c, events } ∧
      Builder.build { strict := false } (.declared (ds ++ es))
        = .ok { result := .ok c', events := events' } ∧
      c.Keeps c' := by
  obtain ⟨events, hbuild⟩ := permissive_build ((namesInflect_append ds es).1 h).1
  obtain ⟨events', hbuild'⟩ := permissive_build h
  exact ⟨_, events, _, events', hbuild, hbuild', resolvedCatalog_keeps ds es⟩

/-- One more declaration brings one more entity, and reaches only the fields that wait for its
name. -/
theorem build_grows (ds : List Declaration) (d : Declaration) (h : NamesInflect (ds ++ [d])) :
    ∃ c events c' events',
      Builder.build { strict := false } (.declared ds) = .ok { result := .ok c, events } ∧
      Builder.build { strict := false } (.declared (ds ++ [d]))
        = .ok { result := .ok c', events := events' } ∧
      c.Grows ds c' d := by
  obtain ⟨events, hbuild⟩ := permissive_build ((namesInflect_append ds [d]).1 h).1
  obtain ⟨events', hbuild'⟩ := permissive_build h
  exact ⟨_, events, _, events', hbuild, hbuild', resolvedCatalog_grows ds d⟩

/-- Posts and their tags, which are an enum until a model of the same name is declared. -/
def taggedDeclarations : List Declaration :=
  blogDeclarations ++ [.model { name := "Tag", fields := [{ name := "label", type := "String" }] }]

theorem taggedDeclarations_inflect : NamesInflect taggedDeclarations := by
  rw [taggedDeclarations, namesInflect_append]
  exact ⟨blogDeclarations_inflect, by decide +kernel⟩

/-- The tags of a post turn from an array of the enum into one of the model. -/
theorem taggedDeclarations_grows :
    NamesInflect taggedDeclarations ∧
    ∃ c events c' events',
      Builder.build { strict := false } (.declared blogDeclarations)
        = .ok { result := .ok c, events } ∧
      Builder.build { strict := false } (.declared taggedDeclarations)
        = .ok { result := .ok c', events := events' } ∧
      c.Grows blogDeclarations c'
        (.model { name := "Tag", fields := [{ name := "label", type := "String" }] }) ∧
      (c.models.items.map fun m => m.fields.map (·.role))
        = [[.key, .belongsTo ⟨"authorId", none, some ⟨1⟩⟩, .scalar, .hasMany ⟨0⟩, .enum ⟨0⟩,
            .unclassified],
          [.hasMany ⟨0⟩]] ∧
      (c'.models.items.map fun m => m.fields.map (·.role))
        = [[.key, .belongsTo ⟨"authorId", none, some ⟨1⟩⟩, .scalar, .hasMany ⟨0⟩, .hasMany ⟨2⟩,
            .unclassified],
          [.hasMany ⟨0⟩], [.scalar]] := by
  obtain ⟨c, events, c', events', hbuild, hbuild', hgrows⟩ :=
    build_grows blogDeclarations _ taggedDeclarations_inflect
  obtain ⟨ds, hds, -, rfl⟩ := eq_resolvedCatalog hbuild rfl
  obtain ⟨ds', hds', -, rfl⟩ := eq_resolvedCatalog hbuild' rfl
  obtain rfl : blogDeclarations = ds := Except.ok.inj hds
  obtain rfl : taggedDeclarations = ds' := Except.ok.inj hds'
  exact ⟨taggedDeclarations_inflect, _, events, _, events', hbuild, hbuild', hgrows, by decide,
    by decide⟩

end SchemaCatalog
