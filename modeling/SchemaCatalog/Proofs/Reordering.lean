import SchemaCatalog.Proofs.Growth

/-!
# The order of declarations

Where no two models and no two enums share a name, the order of declarations decides about
identifiers and nothing else.  The two catalogs of reordered declarations hold the same models and
enums under their names, with the same fields in the same order; a field has the same role in both,
and leads to entities of the same name (`Catalog.Alike`).

    s and s' name related models and enums → (s.role d).Alike M E (s'.role d)          (role_alike)
    ds.Perm ds' → UniqueNames ds → NamesInflect ds →
      the catalogs of ds and ds' are alike, and a strict build accepts both or none
                                                                                 (build_reordered)
-/

namespace SchemaCatalog

/-! ## Catalogs that are alike -/

/-- No two models share a name, and no two enums. -/
structure UniqueNames (ds : List Declaration) : Prop where
  models : ((Declaration.models ds).map (·.name)).Nodup
  enums : ((Declaration.enums ds).map (·.name)).Nodup

/-- The same role, with targets that are related. -/
inductive FieldRole.Alike (M : ModelId → ModelId → Prop) (E : EnumId → EnumId → Prop) :
    FieldRole → FieldRole → Prop
  | key : Alike M E .key .key
  | scalar : Alike M E .scalar .scalar
  | unclassified : Alike M E .unclassified .unclassified
  | belongsTo {foreignKey : String} {references : Option String} {t t' : Option ModelId}
      (target : Option.Rel M t t') :
      Alike M E (.belongsTo ⟨foreignKey, references, t⟩) (.belongsTo ⟨foreignKey, references, t'⟩)
  | hasMany {t t' : ModelId} (target : M t t') : Alike M E (.hasMany t) (.hasMany t')
  | enum {t t' : EnumId} (target : E t t') : Alike M E (.enum t) (.enum t')

/-- The same field at the same place of its model, with a role that is alike. -/
structure Field.Alike (M : ModelId → ModelId → Prop) (E : EnumId → EnumId → Prop) (f f' : Field) :
    Prop where
  record : f' = { f with id := f'.id, role := f'.role }
  place : f'.id.index = f.id.index
  role : f.role.Alike M E f'.role

/-- The same model under another identifier, with fields that are alike. -/
structure Model.Alike (M : ModelId → ModelId → Prop) (E : EnumId → EnumId → Prop) (m m' : Model) :
    Prop where
  name : m'.name = m.name
  names : m'.names = m.names
  fields : List.Forall₂ (Field.Alike M E) m.fields m'.fields
  buckets : m'.buckets = m.buckets

/-- The same enum under another identifier. -/
def Enum.Alike (e e' : Enum) : Prop :=
  e' = { e with id := e'.id }

/-- Two look-ups find related entities, or fail with the same fault. -/
inductive FoundAlike {α : Type} (R : α → α → Prop) :
    Except (Fault Unit) α → Except (Fault Unit) α → Prop
  | found {a a' : α} (h : R a a') : FoundAlike R (.ok a) (.ok a')
  | missing (f : Fault Unit) : FoundAlike R (.error f) (.error f)

namespace Catalog

/-- The identifiers lead to models of the same name. -/
def SameModel (c c' : Catalog) (id id' : ModelId) : Prop :=
  ∃ m m', c.model id = .ok m ∧ c'.model id' = .ok m' ∧ m.name = m'.name

/-- The identifiers lead to enums of the same name. -/
def SameEnum (c c' : Catalog) (id id' : EnumId) : Prop :=
  ∃ e e', c.enumeration id = .ok e ∧ c'.enumeration id' = .ok e' ∧ e.name = e'.name

/-- The same models and enums, each found under its name, that refer to each other in the same
way. -/
structure Alike (c c' : Catalog) : Prop where
  modelNames : (c.models.items.map (·.name)).Perm (c'.models.items.map (·.name))
  enumNames : (c.enums.items.map (·.name)).Perm (c'.enums.items.map (·.name))
  models : ∀ name, FoundAlike (Model.Alike (c.SameModel c') (c.SameEnum c'))
    (c.models.find name) (c'.models.find name)
  enums : ∀ name, FoundAlike Enum.Alike (c.enums.find name) (c'.enums.find name)

end Catalog

/-! ## Roles -/

namespace FieldRole.Alike

variable {M : ModelId → ModelId → Prop} {E : EnumId → EnumId → Prop} {r r' : FieldRole}
  (h : r.Alike M E r')
include h

theorem isHasMany_eq : r.isHasMany = r'.isHasMany := by
  cases h <;> rfl

theorem isEnum_eq : r.isEnum = r'.isEnum := by
  cases h <;> rfl

theorem isUnclassified_eq : r.isUnclassified = r'.isUnclassified := by
  cases h <;> rfl

omit h in
/-- What guesses come to is alike when the names stand for related entities. -/
theorem ofLookups {t t' : Option ModelId} {u u' : Option EnumId} (hmodel : Option.Rel M t t')
    (henum : Option.Rel E u u') :
    FieldRole.Alike M E (((t.map .hasMany).or (u.map .enum)).getD .unclassified)
      (((t'.map .hasMany).or (u'.map .enum)).getD .unclassified) := by
  cases hmodel with
  | some target => exact .hasMany target
  | none =>
    cases henum with
    | some target => exact .enum target
    | none => exact .unclassified

end FieldRole.Alike

section
variable {M : ModelId → ModelId → Prop} {E : EnumId → EnumId → Prop} {s s' : Scope}
  (hmodel : ∀ name, Option.Rel M (s.model? name) (s'.model? name))
  (henum : ∀ name, Option.Rel E (s.enum? name) (s'.enum? name))
include hmodel henum

/-- Scopes that relate what names stand for relate roles. -/
theorem Scope.role_alike (d : FieldDecl) : (s.role d).Alike M E (s'.role d) := by
  rcases classifyRole_cases d with hc | ⟨relation, hc⟩ | ⟨hty, hc⟩ | ⟨hty, hc⟩
  · rw [s.role_of_key hc, s'.role_of_key hc]
    exact .key
  · rw [s.role_of_belongsTo hc, s'.role_of_belongsTo hc]
    exact .belongsTo (hmodel d.type)
  · rw [s.role_of_scalar hty hc, s'.role_of_scalar hty hc]
    exact .scalar
  · rw [s.role_of_guess hty hc, s'.role_of_guess hty hc]
    refine .ofLookups ?_ (henum d.type)
    split
    · exact hmodel d.type
    · exact .none

theorem ModelDecl.resolved_alike (d : ModelDecl) (id id' : ModelId) :
    (d.resolved s id).Alike M E (d.resolved s' id') := by
  have hrole : ∀ f : FieldDecl, (s.role f).Alike M E (s'.role f) := Scope.role_alike hmodel henum
  have hbuckets : (d.resolved s' id').buckets = (d.resolved s id).buckets := by
    obtain ⟨hkey, hscalar, hbelongsTo⟩ := localBuckets_resolved d s' s id' id
    refine Buckets.mk.injEq .. ▸ ⟨hkey, hscalar, hbelongsTo, ?hasMany, ?enum⟩ <;>
      apply placesWhere_mapIdx_congr <;> intro j f
    case hasMany => exact (hrole f).isHasMany_eq.symm
    case enum => exact (hrole f).isEnum_eq.symm
  exact ⟨rfl, rfl, forall₂_mapIdx (fun j f => ⟨rfl, rfl, hrole f⟩) _, hbuckets⟩

end

/-! ## Look-up in another order -/

section
variable {α β : Type} [Entity β] {nameOf : α → String}

/-- Where names are unique, what is made of a declaration is found under its name. -/
theorem exists_find?_mapIdx {f : Nat → α → β} (hname : ∀ i a, Entity.name (f i a) = nameOf a)
    {as : List α} (hunique : (as.map nameOf).Nodup) {a : α} (ha : a ∈ as) :
    ∃ i, (as.mapIdx f).find? (Entity.name · = nameOf a) = some (f i a) := by
  induction as generalizing f with
  | nil => cases ha
  | cons b as ih =>
    rw [List.map_cons, List.nodup_cons] at hunique
    rw [List.mapIdx_cons]
    rcases List.mem_cons.1 ha with rfl | ha
    · exact ⟨0, List.find?_cons_of_pos (by simp [hname])⟩
    · have hne : nameOf b ≠ nameOf a := fun h => hunique.1 (h ▸ List.mem_map_of_mem ha)
      obtain ⟨i, hi⟩ := ih (fun i => hname (i + 1)) hunique.2 ha
      refine ⟨i + 1, ?_⟩
      rw [List.find?_cons_of_neg (by simpa [hname] using hne)]
      exact hi

theorem find?_mapIdx_eq_none {f : Nat → α → β} (hname : ∀ i a, Entity.name (f i a) = nameOf a)
    {as : List α} {name : String} (h : ∀ a ∈ as, nameOf a ≠ name) :
    (as.mapIdx f).find? (Entity.name · = name) = none := by
  rw [List.find?_eq_none]
  intro b hb
  obtain ⟨i, hi, rfl⟩ := List.mem_mapIdx.1 hb
  simpa [hname] using h as[i] (List.getElem_mem hi)

/-- Look-up by name does not depend on the order of entities whose names are unique. -/
theorem Registry.find_alike {R : β → β → Prop} {f g : Nat → α → β} {as bs : List α}
    (hperm : as.Perm bs) (hunique : (as.map nameOf).Nodup)
    (hf : ∀ i a, Entity.name (f i a) = nameOf a) (hg : ∀ i a, Entity.name (g i a) = nameOf a)
    (hR : ∀ i j a, R (f i a) (g j a)) (name : String) :
    FoundAlike R ((ofList (as.mapIdx f)).find name) ((ofList (bs.mapIdx g)).find name) := by
  unfold find
  rw [get?_ofList, get?_ofList]
  by_cases h : ∃ a ∈ as, nameOf a = name
  · obtain ⟨a, ha, rfl⟩ := h
    have hunique' : (bs.map nameOf).Nodup := (hperm.map nameOf).nodup_iff.1 hunique
    obtain ⟨i, hi⟩ := exists_find?_mapIdx hf hunique ha
    obtain ⟨j, hj⟩ := exists_find?_mapIdx hg hunique' (hperm.mem_iff.1 ha)
    rw [hi, hj]
    exact .found (hR i j a)
  · have hnone : ∀ a ∈ as, nameOf a ≠ name := fun a ha hname => h ⟨a, ha, hname⟩
    rw [find?_mapIdx_eq_none hf hnone,
      find?_mapIdx_eq_none hg fun a ha => hnone a (hperm.mem_iff.2 ha)]
    exact .missing _

end

/-! ## Reordered declarations -/

/-- Two searches are related that fail together and find related things. -/
theorem optionRel_of_found {α β : Type} {R : α → β → Prop} {o : Option α} {o' : Option β}
    (hnone : o = none ↔ o' = none) (hsome : ∀ a b, o = some a → o' = some b → R a b) :
    Option.Rel R o o' := by
  cases o with
  | none =>
    rw [hnone.1 rfl]
    exact .none
  | some a =>
    cases o' with
    | none => cases hnone.2 rfl
    | some b => exact .some (hsome a b rfl rfl)

theorem models_perm {ds ds' : List Declaration} (h : ds.Perm ds') :
    (Declaration.models ds).Perm (Declaration.models ds') :=
  h.filterMap _

theorem enums_perm {ds ds' : List Declaration} (h : ds.Perm ds') :
    (Declaration.enums ds).Perm (Declaration.enums ds') :=
  h.filterMap _

section
variable {ds ds' : List Declaration} (hperm : ds.Perm ds')
include hperm

theorem namesInflect_perm : NamesInflect ds ↔ NamesInflect ds' :=
  ⟨fun h d hd => h d (hperm.mem_iff.2 hd), fun h d hd => h d (hperm.mem_iff.1 hd)⟩

/-- A name stands for models of that name in both orders, or for none. -/
theorem model?_sameModel (name : String) :
    Option.Rel ((resolvedCatalog ds).SameModel (resolvedCatalog ds'))
      ((Scope.ofDeclarations ds).model? name) ((Scope.ofDeclarations ds').model? name) := by
  refine optionRel_of_found ?_ ?_
  · rw [Scope.model?_eq_none_iff, Scope.model?_eq_none_iff]
    simp only [(models_perm hperm).mem_iff]
  · intro id id' hm hm'
    obtain ⟨m, hid, hname⟩ := exists_model hm
    obtain ⟨m', hid', hname'⟩ := exists_model hm'
    exact ⟨m, m', hid, hid',
      (Registry.name_of_get? hname).trans (Registry.name_of_get? hname').symm⟩

/-- A name stands for enums of that name in both orders, or for none. -/
theorem enum?_sameEnum (name : String) :
    Option.Rel ((resolvedCatalog ds).SameEnum (resolvedCatalog ds'))
      ((Scope.ofDeclarations ds).enum? name) ((Scope.ofDeclarations ds').enum? name) := by
  refine optionRel_of_found ?_ ?_
  · rw [Scope.enum?_eq_none_iff, Scope.enum?_eq_none_iff]
    simp only [(enums_perm hperm).mem_iff]
  · intro id id' he he'
    obtain ⟨e, hid, hname⟩ := exists_enumeration he
    obtain ⟨e', hid', hname'⟩ := exists_enumeration he'
    exact ⟨e, e', hid, hid',
      (Registry.name_of_get? hname).trans (Registry.name_of_get? hname').symm⟩

theorem resolvedCatalog_alike (hunique : UniqueNames ds) :
    (resolvedCatalog ds).Alike (resolvedCatalog ds') where
  modelNames := by
    show ((resolvedModels ds).map Entity.name).Perm ((resolvedModels ds').map Entity.name)
    rw [resolvedModels_names, resolvedModels_names]
    exact (models_perm hperm).map _
  enumNames := by
    show ((resolvedEnums ds).map Entity.name).Perm ((resolvedEnums ds').map Entity.name)
    rw [resolvedEnums_names, resolvedEnums_names]
    exact (enums_perm hperm).map _
  models name := by
    refine Registry.find_alike (models_perm hperm) hunique.models (fun _ _ => rfl) (fun _ _ => rfl)
      ?_ name
    intro i j d
    exact d.resolved_alike (model?_sameModel hperm) (enum?_sameEnum hperm) ⟨i⟩ ⟨j⟩
  enums name := by
    refine Registry.find_alike (enums_perm hperm) hunique.enums (fun _ _ => rfl) (fun _ _ => rfl)
      ?_ name
    intro i j d
    rfl

end

theorem resolvedModels_roles (ds : List Declaration) :
    ((resolvedModels ds).map fun m => m.fields.map (·.role))
      = (Declaration.models ds).map fun d => d.fields.map (Scope.ofDeclarations ds).role := by
  apply map_mapIdx_eq_map
  intro i d
  apply map_mapIdx_eq_map
  intro j f
  rfl

theorem unclassified_eq_nil_iff (ds : List Declaration) :
    (resolvedCatalog ds).unclassified = [] ↔ ∀ d ∈ Declaration.models ds, ∀ f ∈ d.fields,
      ((Scope.ofDeclarations ds).role f).isUnclassified = false := by
  calc (resolvedCatalog ds).unclassified = []
      ↔ ∀ m ∈ resolvedModels ds, ∀ f ∈ m.fields, f.role.isUnclassified = false := by
        simp [Catalog.unclassified, Model.unclassified]
    _ ↔ ∀ roles ∈ (resolvedModels ds).map (fun m => m.fields.map (·.role)), ∀ r ∈ roles,
          r.isUnclassified = false := by
        simp only [List.forall_mem_map]
    _ ↔ _ := by
        rw [resolvedModels_roles]
        simp only [List.forall_mem_map]

theorem unclassified_eq_nil_perm {ds ds' : List Declaration} (hperm : ds.Perm ds') :
    (resolvedCatalog ds).unclassified = [] ↔ (resolvedCatalog ds').unclassified = [] := by
  have hrole : ∀ f, ((Scope.ofDeclarations ds).role f).isUnclassified
      = ((Scope.ofDeclarations ds').role f).isUnclassified := fun f =>
    (Scope.role_alike (model?_sameModel hperm) (enum?_sameEnum hperm) f).isUnclassified_eq
  rw [unclassified_eq_nil_iff, unclassified_eq_nil_iff]
  simp only [hrole, (models_perm hperm).mem_iff]

/-- The order in which entities of unique names are declared makes no difference but for their
identifiers. -/
theorem build_reordered {ds ds' : List Declaration} (hperm : ds.Perm ds')
    (hunique : UniqueNames ds) (h : NamesInflect ds) :
    ∃ c events c' events',
      Builder.build { strict := false } (.declared ds) = .ok { result := .ok c, events } ∧
      Builder.build { strict := false } (.declared ds')
        = .ok { result := .ok c', events := events' } ∧
      c.Alike c' ∧
      ((∃ d events, Builder.build { strict := true } (.declared ds)
          = .ok { result := .ok d, events }) ↔
        ∃ d events, Builder.build { strict := true } (.declared ds')
          = .ok { result := .ok d, events }) := by
  have h' : NamesInflect ds' := (namesInflect_perm hperm).1 h
  obtain ⟨events, hbuild⟩ := permissive_build h
  obtain ⟨events', hbuild'⟩ := permissive_build h'
  refine ⟨_, events, _, events', hbuild, hbuild', resolvedCatalog_alike hperm hunique, ?_⟩
  rw [strict_build_accepts_iff h, strict_build_accepts_iff h']
  exact unclassified_eq_nil_perm hperm

/-- Tags and users declared before the posts that refer to them have other identifiers. -/
theorem taggedDeclarations_reordered :
    taggedDeclarations.Perm taggedDeclarations.reverse ∧ UniqueNames taggedDeclarations ∧
    NamesInflect taggedDeclarations ∧
    ∃ c events c' events',
      Builder.build { strict := false } (.declared taggedDeclarations)
        = .ok { result := .ok c, events } ∧
      Builder.build { strict := false } (.declared taggedDeclarations.reverse)
        = .ok { result := .ok c', events := events' } ∧
      c.Alike c' ∧
      (c.models.items.map fun m => m.fields.map (·.role))
        = [[.key, .belongsTo ⟨"authorId", none, some ⟨1⟩⟩, .scalar, .hasMany ⟨0⟩, .hasMany ⟨2⟩,
            .unclassified],
          [.hasMany ⟨0⟩], [.scalar]] ∧
      (c'.models.items.map fun m => m.fields.map (·.role))
        = [[.scalar], [.hasMany ⟨2⟩],
          [.key, .belongsTo ⟨"authorId", none, some ⟨1⟩⟩, .scalar, .hasMany ⟨2⟩, .hasMany ⟨0⟩,
            .unclassified]] := by
  have hperm : taggedDeclarations.Perm taggedDeclarations.reverse :=
    (List.reverse_perm _).symm
  have hunique : UniqueNames taggedDeclarations := ⟨by decide, by decide⟩
  obtain ⟨c, events, c', events', hbuild, hbuild', halike, -⟩ :=
    build_reordered hperm hunique taggedDeclarations_inflect
  obtain ⟨ds, hds, -, rfl⟩ := eq_resolvedCatalog hbuild rfl
  obtain ⟨ds', hds', -, rfl⟩ := eq_resolvedCatalog hbuild' rfl
  obtain rfl : taggedDeclarations = ds := Except.ok.inj hds
  obtain rfl : taggedDeclarations.reverse = ds' := Except.ok.inj hds'
  exact ⟨hperm, hunique, taggedDeclarations_inflect, _, events, _, events', hbuild, hbuild',
    halike, by decide, by decide⟩

end SchemaCatalog
