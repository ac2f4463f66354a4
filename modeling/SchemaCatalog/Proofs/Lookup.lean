import SchemaCatalog.Proofs.Build

/-!
# Looking up in a finished catalog

Identifiers are places (`Catalog.Placed`), so look-up by identifier gives back the entity that bears
it, and fields are listed in the order of their identifiers.  Look-up by name finds the first entity
of the name (`Registry.FindsFirst`).  The two agree on what fields lead to: the target of a field is
what its type token names (`Field.LeadsByType`).

    b.build source = .ok o → o.result = .ok c →
      c.IdsAgree ∧ c.models.FindsFirst ∧ c.enums.FindsFirst ∧
      ∀ m ∈ c.models.items, ∀ f ∈ m.fields, f.LeadsByType c                  (build_lookupsAgree)
-/

namespace SchemaCatalog

/-! ## Identifiers -/

namespace Catalog

/-- Every entity bears its place as its identifier. -/
structure Placed (c : Catalog) : Prop where
  model : ∀ i (m : Model), c.models.items[i]? = some m → m.id = ⟨i⟩
  field : ∀ i (m : Model) j (f : Field), c.models.items[i]? = some m → m.fields[j]? = some f →
    f.id = ⟨⟨i⟩, j⟩
  enumeration : ∀ k (e : Enum), c.enums.items[k]? = some e → e.id = ⟨k⟩

/-- Identifiers lead back to their entities, and are listed in order. -/
structure IdsAgree (c : Catalog) : Prop extends c.Placed where
  increasing : (c.models.items.flatMap fun m => m.fields.map (·.id)).Pairwise
    fun a b => a.le b ∧ a ≠ b
  model_id : ∀ m ∈ c.models.items, c.model m.id = .ok m
  enumeration_id : ∀ e ∈ c.enums.items, c.enumeration e.id = .ok e
  field_id : ∀ m ∈ c.models.items, ∀ f ∈ m.fields, c.field f.id = .ok f
  fullName : ∀ m ∈ c.models.items, ∀ f ∈ m.fields, f.fullName c = .ok (m.name ++ "::" ++ f.name)

namespace Placed

variable {c : Catalog} (h : c.Placed) {m : Model} {f : Field}
include h

theorem model_eq (hm : m ∈ c.models.items) : c.model m.id = .ok m := by
  obtain ⟨i, hi⟩ := List.mem_iff_getElem?.1 hm
  rw [h.model i m hi, Catalog.model, Registry.nth, hi]

theorem enumeration_eq {e : Enum} (he : e ∈ c.enums.items) : c.enumeration e.id = .ok e := by
  obtain ⟨k, hk⟩ := List.mem_iff_getElem?.1 he
  rw [h.enumeration k e hk, Catalog.enumeration, Registry.nth, hk]

theorem field_model (hm : m ∈ c.models.items) (hf : f ∈ m.fields) : f.id.model = m.id := by
  obtain ⟨i, hi⟩ := List.mem_iff_getElem?.1 hm
  obtain ⟨j, hj⟩ := List.mem_iff_getElem?.1 hf
  rw [h.field i m j f hi hj, h.model i m hi]

theorem field_eq (hm : m ∈ c.models.items) (hf : f ∈ m.fields) : c.field f.id = .ok f := by
  have hmodel := h.field_model hm hf
  obtain ⟨i, hi⟩ := List.mem_iff_getElem?.1 hm
  obtain ⟨j, hj⟩ := List.mem_iff_getElem?.1 hf
  have hplace : f.id.index = j := by rw [h.field i m j f hi hj]
  unfold Catalog.field
  rw [hmodel, h.model_eq hm]
  show m.field f.id = .ok f
  rw [Model.field, if_pos hmodel, Model.fieldAt, hplace, hj]

theorem fullName_eq (hm : m ∈ c.models.items) (hf : f ∈ m.fields) :
    f.fullName c = .ok (m.name ++ "::" ++ f.name) := by
  unfold Field.fullName
  rw [h.field_model hm hf, h.model_eq hm]
  rfl

/-- Fields are listed in the order of their identifiers, and none of them twice. -/
theorem pairwise_ids :
    (c.models.items.flatMap fun m => m.fields.map (·.id)).Pairwise fun a b => a.le b ∧ a ≠ b := by
  rw [List.pairwise_flatMap]
  constructor
  · intro m hm
    obtain ⟨i, hi⟩ := List.mem_iff_getElem?.1 hm
    rw [List.pairwise_map, List.pairwise_iff_getElem]
    intro j k hj hk hjk
    rw [h.field i m j _ hi (List.getElem?_eq_getElem hj),
      h.field i m k _ hi (List.getElem?_eq_getElem hk)]
    simp [FieldId.le]
    omega
  · rw [List.pairwise_iff_getElem]
    intro i k hi hk hik a ha b hb
    obtain ⟨f, hf, rfl⟩ := List.mem_map.1 ha
    obtain ⟨g, hg, rfl⟩ := List.mem_map.1 hb
    obtain ⟨j, hj⟩ := List.mem_iff_getElem?.1 hf
    obtain ⟨l, hl⟩ := List.mem_iff_getElem?.1 hg
    rw [h.field i _ j f (List.getElem?_eq_getElem hi) hj,
      h.field k _ l g (List.getElem?_eq_getElem hk) hl]
    simp [FieldId.le]
    omega

theorem idsAgree : c.IdsAgree where
  toPlaced := h
  increasing := h.pairwise_ids
  model_id _ hm := h.model_eq hm
  enumeration_id _ he := h.enumeration_eq he
  field_id _ hm _ hf := h.field_eq hm hf
  fullName _ hm _ hf := h.fullName_eq hm hf

end Placed

end Catalog

theorem getElem?_resolvedModels {ds : List Declaration} {i : Nat} {m : Model}
    (h : (resolvedModels ds)[i]? = some m) :
    ∃ d ∈ Declaration.models ds, m = d.resolved (.ofDeclarations ds) ⟨i⟩ := by
  rw [resolvedModels, List.getElem?_mapIdx, Option.map_eq_some_iff] at h
  obtain ⟨d, hd, rfl⟩ := h
  exact ⟨d, List.mem_of_getElem? hd, rfl⟩

theorem getElem?_resolved {d : ModelDecl} {s : Scope} {id : ModelId} {j : Nat} {f : Field}
    (h : (d.resolved s id).fields[j]? = some f) :
    ∃ g ∈ d.fields, f = g.resolved s (id.field j) := by
  rw [ModelDecl.resolved, List.getElem?_mapIdx, Option.map_eq_some_iff] at h
  obtain ⟨g, hg, rfl⟩ := h
  exact ⟨g, List.mem_of_getElem? hg, rfl⟩

theorem placed_resolvedCatalog (ds : List Declaration) : (resolvedCatalog ds).Placed where
  model i m hi := by
    obtain ⟨d, -, rfl⟩ := getElem?_resolvedModels hi
    rfl
  field i m j f hi hj := by
    obtain ⟨d, -, rfl⟩ := getElem?_resolvedModels hi
    obtain ⟨g, -, rfl⟩ := getElem?_resolved hj
    rfl
  enumeration k e hk := by
    have h : (resolvedEnums ds)[k]? = some e := hk
    rw [resolvedEnums, List.getElem?_mapIdx, Option.map_eq_some_iff] at h
    obtain ⟨d, -, rfl⟩ := h
    rfl

/-! ## Names -/

/-- Look-up by name finds the first entity that bears the name, in each of its forms. -/
structure Registry.FindsFirst {α : Type} [Entity α] (r : Registry α) : Prop where
  get : ∀ name, r.get? name = r.items.find? (Entity.name · = name)
  find : ∀ name a, r.find name = .ok a ↔ r.get? name = some a
  missing : ∀ name, r.find name = .error (.root () (.notFound (Entity.kind α) name)) ↔
    ∀ a ∈ r.items, Entity.name a ≠ name
  contains : ∀ name, r.contains name = (r.get? name).isSome

namespace Registry

variable {α : Type} [Entity α] (items : List α) (name : String)

theorem name_of_get? {items : List α} {name : String} {a : α}
    (h : (ofList items).get? name = some a) : Entity.name a = name := by
  rw [get?_ofList] at h
  simpa using List.find?_some h

theorem find_ofList_eq_error_iff :
    (ofList items).find name = .error (.root () (.notFound (Entity.kind α) name)) ↔
      ∀ a ∈ items, Entity.name a ≠ name := by
  rw [find, get?_ofList]
  cases h : items.find? (Entity.name · = name) with
  | none => simpa using h
  | some a =>
    simp only [reduceCtorEq, false_iff]
    intro hall
    exact hall a (List.mem_of_find?_eq_some h) (by simpa using List.find?_some h)

theorem contains_ofList : (ofList items).contains name = ((ofList items).get? name).isSome := by
  rw [contains, NameTable.contains, places_ofList, get?_ofList, List.findIdx?_isSome,
    Bool.eq_iff_iff, List.any_eq_true, List.find?_isSome]

theorem findsFirst_ofList : (ofList items).FindsFirst where
  get := get?_ofList items
  find _ _ := find_eq_ok_iff
  missing := find_ofList_eq_error_iff items
  contains := contains_ofList items

end Registry

/-! ## What fields lead to -/

/-- What the field leads to is what its type token names. -/
structure Field.LeadsByType (f : Field) (c : Catalog) : Prop where
  belongsTo : f.role.isBelongsTo → f.relatedModel c = .ok (c.models.get? f.type)
  hasMany : f.role.isHasMany →
    ∃ m, f.relatedModel c = .ok (some m) ∧ c.models.get? f.type = some m
  enum : f.role.isEnum → ∃ e, f.relatedEnum c = .ok (some e) ∧ c.enums.get? f.type = some e
  noModel : ¬ f.role.isRelation → f.relatedModel c = .ok none
  noEnum : ¬ f.role.isEnum → f.relatedEnum c = .ok none

namespace Registry

variable {α : Type} [Entity α] {items : List α} {name : String}

/-- The first place of a name is where look-up by the name ends. -/
theorem exists_of_findIdx? {i : Nat}
    (h : (items.map Entity.name).findIdx? (· = name) = some i) :
    ∃ a, (ofList items).nth i = .ok a ∧ (ofList items).get? name = some a := by
  obtain ⟨hlt, -⟩ := List.findIdx?_eq_some_iff_getElem.1 h
  rw [List.length_map] at hlt
  have hget : items[i]? = some items[i] := List.getElem?_eq_getElem hlt
  rw [List.findIdx?_map] at h
  refine ⟨items[i], ?_, ?_⟩
  · simp only [nth, ofList, hget]
  · rw [get?, places_ofList]
    exact (congrArg (Option.bind · (items[·]?)) h).trans hget

theorem get?_of_findIdx?_eq_none (h : (items.map Entity.name).findIdx? (· = name) = none) :
    (ofList items).get? name = none := by
  rw [List.findIdx?_map] at h
  rw [get?, places_ofList]
  exact congrArg (Option.bind · (items[·]?)) h

end Registry

section
variable (ds : List Declaration)

theorem resolvedModels_names :
    (resolvedModels ds).map Entity.name = (Scope.ofDeclarations ds).models := by
  apply map_mapIdx_eq_map
  intro i d
  rfl

theorem resolvedEnums_names :
    (resolvedEnums ds).map Entity.name = (Scope.ofDeclarations ds).enums := by
  apply map_mapIdx_eq_map
  intro i d
  rfl

variable {ds} {name : String}

/-- A model in scope is found by its name and by its identifier. -/
theorem exists_model {id : ModelId} (h : (Scope.ofDeclarations ds).model? name = some id) :
    ∃ m, (resolvedCatalog ds).model id = .ok m ∧
      (resolvedCatalog ds).models.get? name = some m := by
  obtain ⟨i, hi, rfl⟩ := Option.map_eq_some_iff.1 h
  rw [← resolvedModels_names] at hi
  exact Registry.exists_of_findIdx? hi

theorem get?_models_eq_none (h : (Scope.ofDeclarations ds).model? name = none) :
    (resolvedCatalog ds).models.get? name = none := by
  have hnone := Option.map_eq_none_iff.1 h
  rw [← resolvedModels_names] at hnone
  exact Registry.get?_of_findIdx?_eq_none hnone

/-- An enum in scope is found by its name and by its identifier. -/
theorem exists_enumeration {id : EnumId} (h : (Scope.ofDeclarations ds).enum? name = some id) :
    ∃ e, (resolvedCatalog ds).enumeration id = .ok e ∧
      (resolvedCatalog ds).enums.get? name = some e := by
  obtain ⟨k, hk, rfl⟩ := Option.map_eq_some_iff.1 h
  rw [← resolvedEnums_names] at hk
  exact Registry.exists_of_findIdx? hk

/-- A relation to a model leads to what its type token names, even if that is nothing. -/
theorem relatedModel_of_belongsTo {f : Field} {relation : BelongsTo}
    (hrole : f.role = .belongsTo relation)
    (htarget : relation.target = (Scope.ofDeclarations ds).model? f.type) :
    f.relatedModel (resolvedCatalog ds) = .ok ((resolvedCatalog ds).models.get? f.type) := by
  rw [Field.relatedModel, hrole, FieldRole.relatedModel?, htarget]
  cases hm : (Scope.ofDeclarations ds).model? f.type with
  | none =>
    rw [get?_models_eq_none hm]
  | some id =>
    obtain ⟨m, hid, hname⟩ := exists_model hm
    rw [hname]
    show ((resolvedCatalog ds).model id).map some = _
    rw [hid]
    rfl

theorem leadsByType {f : Field} {d : FieldDecl} (hf : f.role = (Scope.ofDeclarations ds).role d)
    (htype : f.type = d.type) : f.LeadsByType (resolvedCatalog ds) := by
  have hnoModel (h : f.role.relatedModel? = none) :
      f.relatedModel (resolvedCatalog ds) = .ok none := by
    rw [Field.relatedModel, h]
  have hnoEnum (h : f.role.enum? = none) : f.relatedEnum (resolvedCatalog ds) = .ok none := by
    rw [Field.relatedEnum, h]
  cases (Scope.ofDeclarations ds).roleCase d with
  | belongsTo relation _ hr =>
    have hrole := hf.trans hr
    have hleads := relatedModel_of_belongsTo hrole (by rw [htype])
    constructor <;> simp [hrole, hleads, hnoEnum, FieldRole.isRelation, FieldRole.enum?]
  | hasMany target _ hm _ hr =>
    have hrole := hf.trans hr
    rw [← htype] at hm
    obtain ⟨m, hid, hname⟩ := exists_model hm
    have hleads : f.relatedModel (resolvedCatalog ds) = .ok (some m) := by
      rw [Field.relatedModel, hrole]
      exact congrArg (Except.map some) hid
    constructor <;> simp [hrole, hleads, hname, hnoEnum, FieldRole.isRelation, FieldRole.enum?]
  | enum target _ he _ hr =>
    have hrole := hf.trans hr
    rw [← htype] at he
    obtain ⟨e, hid, hname⟩ := exists_enumeration he
    have hleads : f.relatedEnum (resolvedCatalog ds) = .ok (some e) := by
      rw [Field.relatedEnum, hrole]
      exact congrArg (Except.map some) hid
    constructor <;> simp [hrole, hleads, hname, hnoModel, FieldRole.relatedModel?]
  | key _ hr | scalar _ hr | unclassified _ _ _ hr =>
    have hrole := hf.trans hr
    constructor <;> simp [hrole, hnoModel, hnoEnum, FieldRole.relatedModel?, FieldRole.enum?]

end

/-- In a catalog that comes of a build look-up by identifier, by name and by what a field leads to
agree. -/
theorem build_lookupsAgree {b : Builder} {source : Source} {o : Outcome} {c : Catalog}
    (hbuild : b.build source = .ok o) (hok : o.result = .ok c) :
    c.IdsAgree ∧ c.models.FindsFirst ∧ c.enums.FindsFirst ∧
    ∀ m ∈ c.models.items, ∀ f ∈ m.fields, f.LeadsByType c := by
  obtain ⟨ds, -, -, rfl⟩ := eq_resolvedCatalog hbuild hok
  refine ⟨(placed_resolvedCatalog ds).idsAgree, Registry.findsFirst_ofList _,
    Registry.findsFirst_ofList _, ?_⟩
  intro m hm f hf
  obtain ⟨i, hi⟩ := List.mem_iff_getElem?.1 hm
  obtain ⟨j, hj⟩ := List.mem_iff_getElem?.1 hf
  obtain ⟨d, -, rfl⟩ := getElem?_resolvedModels hi
  obtain ⟨g, -, rfl⟩ := getElem?_resolved hj
  exact leadsByType rfl rfl

/-- The author of a post leads to the model that is found under the name of its type, the second
one; nothing is found under the type of the cover. -/
theorem blogDeclarations_lookupsAgree :
    ∃ o c, Builder.build { strict := false } (.declared blogDeclarations) = .ok o ∧
      o.result = .ok c ∧
      (c.IdsAgree ∧ c.models.FindsFirst ∧ c.enums.FindsFirst ∧
        ∀ m ∈ c.models.items, ∀ f ∈ m.fields, f.LeadsByType c) ∧
      ∃ author user, c.field ⟨⟨0⟩, 1⟩ = .ok author ∧ author.fullName c = .ok "Post::author" ∧
        author.relatedModel c = .ok (some user) ∧ c.models.find "User" = .ok user ∧
        user.id = ⟨1⟩ ∧ c.models.find "Image" = .error (.root () (.notFound .model "Image")) := by
  have hbuild := blogDeclarations_build { strict := false }
  exact ⟨_, resolvedCatalog blogDeclarations, hbuild, rfl, build_lookupsAgree hbuild rfl, _, _, rfl,
    rfl, rfl, rfl, rfl, rfl⟩

end SchemaCatalog
