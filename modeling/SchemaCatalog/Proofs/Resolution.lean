import SchemaCatalog.Proofs.Linking

/-!
# Resolution at one glance

The catalog read off the declarations without passes: the role of a field from its own declaration
and from the names that are declared (`Scope.role`), the buckets of a model from the roles of its
fields (`Buckets.ofRoles`), the events of linking from the finished models (`linkEvents`).

For one field and for one model the three passes come to the same, with tables that know the names
in scope:

    (d.classified id).PassesTo models enums (d.resolved s id)                   (passesTo_resolved)
    ((d.draft id).linked models enums).toModel = d.resolved s id                     (linked_draft)
-/

namespace SchemaCatalog

/-! ## Roles -/

/-- The names of the declared models and of the declared enums, in order. -/
structure Scope where
  models : List String
  enums : List String

namespace Scope

def ofDeclarations (ds : List Declaration) : Scope where
  models := (Declaration.models ds).map (·.name)
  enums := (Declaration.enums ds).map (·.name)

/-- The first model of this name. -/
def model? (s : Scope) (name : String) : Option ModelId :=
  (s.models.findIdx? (· = name)).map ModelId.mk

/-- The first enum of this name. -/
def enum? (s : Scope) (name : String) : Option EnumId :=
  (s.enums.findIdx? (· = name)).map EnumId.mk

/-- The role of a declared field, by the first rule that applies: a key or a relation by its own
attributes, a scalar by its type, an array of a model, and last a reference to an enum. -/
def role (s : Scope) (d : FieldDecl) : FieldRole :=
  match (classifyRole d).1 with
  | .key => .key
  | .belongsTo relation => .belongsTo { relation with target := s.model? d.type }
  | _ =>
    if isScalarType d.type then .scalar
    else match (if d.array then s.model? d.type else none), s.enum? d.type with
      | some id, _ => .hasMany id
      | none, some id => .enum id
      | none, none => .unclassified

end Scope

/-- Whether the role is that of a relation to a model that is not declared. -/
def FieldRole.isDangling : FieldRole → Bool
  | .belongsTo relation => relation.target.isNone
  | _ => false

/-! ## Catalogs -/

/-- Whether the field is a scalar that none of the fields has as its foreign key. -/
def Field.isColumn (fields : List Field) (f : Field) : Bool :=
  f.role.isScalar && !fields.any (·.foreignKey? = some f.name)

/-- The buckets of fields whose roles are settled. -/
def Buckets.ofRoles (fields : List Field) : Buckets where
  key := placesWhere (·.role.isKey) fields
  scalar := placesWhere (Field.isColumn fields) fields
  belongsTo := placesWhere (·.role.isBelongsTo) fields
  hasMany := placesWhere (·.role.isHasMany) fields
  enum := placesWhere (·.role.isEnum) fields

/-- The field of a catalog with these names declared. -/
def FieldDecl.resolved (d : FieldDecl) (s : Scope) (id : FieldId) : Field :=
  { (d.classified id).field with role := s.role d }

section
variable (d : FieldDecl) (s : Scope) (id : FieldId)

@[simp]
theorem FieldDecl.resolved_role : (d.resolved s id).role = s.role d := rfl

@[simp]
theorem FieldDecl.resolved_type : (d.resolved s id).type = d.type := rfl

@[simp]
theorem FieldDecl.resolved_array : (d.resolved s id).array = d.array := rfl

end

/-- The model of a catalog with these names declared. -/
def ModelDecl.resolved (d : ModelDecl) (s : Scope) (id : ModelId) : Model :=
  let fields := d.fields.mapIdx fun j f => f.resolved s (id.field j)
  { id, fields, name := d.name, names := formsOf d.name, buckets := .ofRoles fields }

def resolvedModels (ds : List Declaration) : List Model :=
  (Declaration.models ds).mapIdx fun i d => d.resolved (.ofDeclarations ds) ⟨i⟩

def resolvedEnums (ds : List Declaration) : List Enum :=
  (Declaration.enums ds).mapIdx fun k d => d.toEnum ⟨k⟩

/-- What is noted about the fields of the models that pass the test. -/
def notedAbout (kind : FieldEvent) (test : FieldRole → Bool) (models : List Model) : List Event :=
  models.flatMap fun m =>
    (m.fields.filter (test ·.role)).map fun f => .about kind m.name f.name f.type

/-- What is noted while models are linked, pass by pass. -/
def linkEvents (models : List Model) : List Event :=
  notedAbout .linkedHasMany FieldRole.isHasMany models
    ++ notedAbout .linkedEnum FieldRole.isEnum models
    ++ notedAbout .danglingBelongsTo FieldRole.isDangling models
    ++ notedAbout .leftUnclassified FieldRole.isUnclassified models

/-! ## Names in scope -/

namespace Scope

theorem model?_eq_none_iff {ds : List Declaration} {name : String} :
    (ofDeclarations ds).model? name = none ↔ ∀ d ∈ Declaration.models ds, d.name ≠ name := by
  rw [model?, Option.map_eq_none_iff, ofDeclarations, List.findIdx?_map, List.findIdx?_eq_none_iff]
  simp

theorem enum?_eq_none_iff {ds : List Declaration} {name : String} :
    (ofDeclarations ds).enum? name = none ↔ ∀ d ∈ Declaration.enums ds, d.name ≠ name := by
  rw [enum?, Option.map_eq_none_iff, ofDeclarations, List.findIdx?_map, List.findIdx?_eq_none_iff]
  simp

/-- The role depends on the scope only in what the field's type names there. -/
theorem role_congr {s s' : Scope} {d : FieldDecl} (hmodel : s.model? d.type = s'.model? d.type)
    (henum : s.enum? d.type = s'.enum? d.type) : s.role d = s'.role d := by
  simp only [role, hmodel, henum]

end Scope

/-! ## Cases of roles -/

/-- The ways in which a field comes to its role: what it is by itself, with the guess about it if
there is one, and what it is among the names in scope. -/
inductive Scope.RoleCase (s : Scope) (d : FieldDecl) : Prop where
  | key (hc : classifyRole d = (.key, none)) (hr : s.role d = .key)
  | belongsTo (relation : BelongsTo) (hc : classifyRole d = (.belongsTo relation, none))
      (hr : s.role d = .belongsTo { relation with target := s.model? d.type })
  | scalar (hc : classifyRole d = (.scalar, none)) (hr : s.role d = .scalar)
  | hasMany (id : ModelId) (ha : d.array) (hm : s.model? d.type = some id)
      (hc : classifyRole d = (.unclassified, some .hasMany)) (hr : s.role d = .hasMany id)
  | enum (id : EnumId) (hm : d.array → s.model? d.type = none) (he : s.enum? d.type = some id)
      (hc : classifyRole d = (.unclassified, some (if d.array then .hasMany else .enum)))
      (hr : s.role d = .enum id)
  | unclassified (hm : d.array → s.model? d.type = none) (he : s.enum? d.type = none)
      (hc : classifyRole d = (.unclassified, some (if d.array then .hasMany else .enum)))
      (hr : s.role d = .unclassified)

theorem classifyRole_cases (d : FieldDecl) :
    classifyRole d = (.key, none) ∨
    (∃ relation, classifyRole d = (.belongsTo relation, none)) ∨
    (isScalarType d.type = true ∧ classifyRole d = (.scalar, none)) ∨
    (isScalarType d.type = false ∧
      classifyRole d = (.unclassified, some (if d.array then .hasMany else .enum))) := by
  unfold classifyRole
  split
  · exact .inl rfl
  · split
    · exact .inr (.inl ⟨_, rfl⟩)
    · cases isScalarType d.type <;> simp

namespace Scope

variable (s : Scope) (d : FieldDecl)

/-! The role of a field by the rule that it falls under. -/

section
variable {d}

theorem role_of_key (hc : classifyRole d = (.key, none)) : s.role d = .key := by
  rw [role, hc]

theorem role_of_belongsTo {relation : BelongsTo} (hc : classifyRole d = (.belongsTo relation, none)) :
    s.role d = .belongsTo { relation with target := s.model? d.type } := by
  rw [role, hc]

theorem role_of_scalar (hty : isScalarType d.type = true) (hc : classifyRole d = (.scalar, none)) :
    s.role d = .scalar := by
  simp [role, hc, hty]

/-- A field with a guess has the role that the guess comes to: that of an array of a model, if not
that of a reference to an enum. -/
theorem role_of_guess {guess : Tentative} (hty : isScalarType d.type = false)
    (hc : classifyRole d = (.unclassified, some guess)) :
    s.role d = (((if d.array then s.model? d.type else none).map .hasMany).or
      ((s.enum? d.type).map .enum)).getD .unclassified := by
  simp only [role, hc, hty]
  cases (if d.array then s.model? d.type else none) <;> cases s.enum? d.type <;> rfl

end

theorem roleCase : s.RoleCase d := by
  rcases classifyRole_cases d with hc | ⟨relation, hc⟩ | ⟨hty, hc⟩ | ⟨hty, hc⟩
  · exact .key hc (s.role_of_key hc)
  · exact .belongsTo relation hc (s.role_of_belongsTo hc)
  · exact .scalar hc (s.role_of_scalar hty hc)
  · have hrole := s.role_of_guess hty hc
    cases hm : (if d.array then s.model? d.type else none) with
    | some id =>
      obtain ⟨ha, hid⟩ := Option.ite_none_right_eq_some.1 hm
      exact .hasMany id ha hid (by rw [hc, if_pos ha]) (by rw [hrole, hm]; rfl)
    | none =>
      have hnone : d.array → s.model? d.type = none := fun ha => by rwa [if_pos ha] at hm
      cases he : s.enum? d.type with
      | some id => exact .enum id hnone he hc (by rw [hrole, hm, he]; rfl)
      | none => exact .unclassified hnone he hc (by rw [hrole, hm, he]; rfl)

/-! Linking leaves alone what the first three buckets depend on. -/

theorem role_isKey : (s.role d).isKey = (classifyRole d).1.isKey := by
  cases s.roleCase d <;> simp [*]

theorem role_isScalar : (s.role d).isScalar = (classifyRole d).1.isScalar := by
  cases s.roleCase d <;> simp [*]

theorem role_isBelongsTo : (s.role d).isBelongsTo = (classifyRole d).1.isBelongsTo := by
  cases s.roleCase d <;> simp [*]

theorem role_foreignKey :
    (s.role d).belongsTo?.map (·.foreignKey)
      = (classifyRole d).1.belongsTo?.map (·.foreignKey) := by
  cases s.roleCase d <;> simp [*]

end Scope

/-! ## The passes on one field -/

/-- A table of names that knows the names in scope. -/
structure Scope.Knows (s : Scope) (models : NameTable ModelId) (enums : NameTable EnumId) :
    Prop where
  models : ∀ name, models.find? name = s.model? name
  enums : ∀ name, enums.find? name = s.enum? name

/-- What the three passes do to a field, told by the field that comes of it. -/
structure Classified.PassesTo (models : NameTable ModelId) (enums : NameTable EnumId)
    (c : Classified) (f : Field) : Prop where
  hasMany : (c.hasManyFound models).isSome = f.role.isHasMany
  enum : ((c.settle (hasManyFound models)).enumFound enums).isSome = f.role.isEnum
  dangling : (c.settled models enums).isDangling models = f.role.isDangling
  field : ((c.settled models enums).pointed models).field = f

section
variable {s : Scope} {models : NameTable ModelId} {enums : NameTable EnumId}

/-- Where no role is found the first two passes leave the field as it is. -/
theorem passesTo_of_not_found {c : Classified} {f : Field}
    (hfirst : c.hasManyFound models = none) (hsecond : c.enumFound enums = none)
    (hmany : f.role.isHasMany = false) (henum : f.role.isEnum = false)
    (hdangling : c.isDangling models = f.role.isDangling) (hfield : (c.pointed models).field = f) :
    c.PassesTo models enums f := by
  have hsettle : c.settle (Classified.hasManyFound models) = c := Classified.settle_of_none hfirst
  have hsettled : c.settled models enums = c := by
    rw [Classified.settled, hsettle, Classified.settle_of_none hsecond]
  refine ⟨?_, ?_, ?_, ?_⟩
  · rw [hfirst, hmany]
    rfl
  · rw [hsettle, hsecond, henum]
    rfl
  · rw [hsettled, hdangling]
  · rw [hsettled, hfield]

theorem hasManyFound_eq_none (h : s.Knows models enums) {d : FieldDecl} {id : FieldId}
    (hm : d.array → s.model? d.type = none)
    (hc : classifyRole d = (.unclassified, some (if d.array then .hasMany else .enum))) :
    (d.classified id).hasManyFound models = none := by
  have hmodel := h.models d.type
  cases ha : d.array <;>
    simp [Classified.hasManyFound, Classified.found, Linking.hasManyRole?, FieldDecl.classified,
      hc, hmodel, hm, ha]

/-- What the three passes do to a declared field. -/
theorem passesTo_resolved (h : s.Knows models enums) (d : FieldDecl) (id : FieldId) :
    (d.classified id).PassesTo models enums (d.resolved s id) := by
  have hmodel := h.models d.type
  have henum := h.enums d.type
  -- a field that has a role by itself comes without a guess
  have byItself (hguess : (classifyRole d).2 = none) :=
    @passesTo_of_not_found models enums (d.classified id) (d.resolved s id)
      (Classified.found_of_no_guess hguess) (Classified.found_of_no_guess hguess)
  cases s.roleCase d with
  | key hc hr =>
    apply byItself <;>
      simp [FieldDecl.classified, FieldDecl.resolved, Classified.isDangling, Classified.pointed,
        FieldRole.isDangling, hc, hr]
  | belongsTo relation hc hr =>
    apply byItself <;>
      simp [FieldDecl.classified, FieldDecl.resolved, Classified.isDangling, Classified.pointed,
        FieldRole.isDangling, Classified.withRole, hmodel, hc, hr]
  | scalar hc hr =>
    apply byItself <;>
      simp [FieldDecl.classified, FieldDecl.resolved, Classified.isDangling, Classified.pointed,
        FieldRole.isDangling, hc, hr]
  | hasMany target ha hm hc hr =>
    have hfirst : (d.classified id).hasManyFound models = some (.hasMany target) := by
      simp [Classified.hasManyFound, Classified.found, Linking.hasManyRole?,
        FieldDecl.classified, hc, hmodel, hm]
    constructor <;>
      simp [Classified.settled, Classified.settle, hfirst, Classified.withRole,
        Classified.enumFound, Classified.found, Linking.enumRole?, FieldDecl.resolved, hr,
        Classified.isDangling, Classified.pointed, FieldRole.isDangling]
  | enum target hm he hc hr =>
    have hfirst : (d.classified id).hasManyFound models = none := hasManyFound_eq_none h hm hc
    have hsecond : (d.classified id).enumFound enums = some (.enum target) := by
      simp [Classified.enumFound, Classified.found, Linking.enumRole?, FieldDecl.classified,
        hc, henum, he]
    constructor <;>
      simp [Classified.settled, Classified.settle, hfirst, hsecond, Classified.withRole,
        FieldDecl.resolved, hr, Classified.isDangling, Classified.pointed, FieldRole.isDangling]
  | unclassified hm he hc hr =>
    have hsecond : (d.classified id).enumFound enums = none := by
      simp [Classified.enumFound, Classified.found, Linking.enumRole?, FieldDecl.classified,
        hc, henum, he]
    apply passesTo_of_not_found (hasManyFound_eq_none h hm hc) hsecond <;>
      simp [FieldDecl.classified, FieldDecl.resolved, Classified.isDangling, Classified.pointed,
        FieldRole.isDangling, hc, hr]

/-! ## Buckets -/

theorem servesRelation_eq (fields : List Field) {i : Nat} {f : Field} (hf : fields[i]? = some f) :
    servesRelation fields (placesWhere (·.role.isBelongsTo) fields) i
      = fields.any (·.foreignKey? = some f.name) := by
  rw [servesRelation, hf, Option.any_some, Bool.eq_iff_iff, List.any_eq_true, List.any_eq_true]
  constructor
  · rintro ⟨r, -, hr⟩
    obtain ⟨g, hg, hkey⟩ := (Option.any_eq_true _ _).1 hr
    exact ⟨g, List.mem_of_getElem? hg, hkey⟩
  · rintro ⟨g, hg, hkey⟩
    obtain ⟨r, hr⟩ := List.mem_iff_getElem?.1 hg
    have hrel : g.role.isBelongsTo := by
      rw [decide_eq_true_eq, Field.foreignKey?] at hkey
      cases hrole : g.role <;> simp_all [FieldRole.belongsTo?, FieldRole.isBelongsTo]
    exact ⟨r, mem_placesWhere.2 ⟨g, hr, hrel⟩, by rw [hr]; exact hkey⟩

theorem Buckets.ofFields_eq (fields : List Field) :
    Buckets.ofFields fields
      = { key := placesWhere (·.role.isKey) fields
          scalar := placesWhere (Field.isColumn fields) fields
          belongsTo := placesWhere (·.role.isBelongsTo) fields } := by
  have hscalar : (placesWhere (·.role.isScalar) fields).filter
        (!servesRelation fields (placesWhere (·.role.isBelongsTo) fields) ·)
      = placesWhere (Field.isColumn fields) fields := by
    apply filter_placesWhere
    intro i f hf
    rw [Nat.zero_add, servesRelation_eq fields hf, Field.isColumn]
  rw [ofFields, hscalar]

theorem isColumn_congr {fields fields' : List Field} {f f' : Field}
    (hkeys : fields.map Field.foreignKey? = fields'.map Field.foreignKey?)
    (hscalar : f.role.isScalar = f'.role.isScalar) (hname : f.name = f'.name) :
    f.isColumn fields = f'.isColumn fields' := by
  have hany := congrArg (List.any · (· = some f.name)) hkeys
  rw [List.any_map, List.any_map] at hany
  rw [Field.isColumn, Field.isColumn, hscalar, ← hname]
  exact congrArg (_ && !·) hany

/-- The fields that are left out of the scalars are the same before linking and afterwards. -/
theorem isColumn_resolved (s : Scope) (fs : List FieldDecl) (id : ModelId) (f : FieldDecl)
    (fid : FieldId) :
    Field.isColumn (fs.mapIdx fun j g => (g.classified (id.field j)).field) (f.classified fid).field
      = Field.isColumn (fs.mapIdx fun j g => g.resolved s (id.field j)) (f.resolved s fid) := by
  refine isColumn_congr ?_ (s.role_isScalar f).symm rfl
  rw [map_mapIdx, map_mapIdx]
  congr 1
  funext j g
  exact (s.role_foreignKey g).symm

/-- The first three buckets of a model do not depend on what is in scope. -/
theorem localBuckets_resolved (d : ModelDecl) (s s' : Scope) (id id' : ModelId) :
    (d.resolved s id).buckets.key = (d.resolved s' id').buckets.key ∧
    (d.resolved s id).buckets.scalar = (d.resolved s' id').buckets.scalar ∧
    (d.resolved s id).buckets.belongsTo = (d.resolved s' id').buckets.belongsTo := by
  simp only [ModelDecl.resolved, Buckets.ofRoles]
  refine ⟨?key, ?scalar, ?belongsTo⟩ <;> apply placesWhere_mapIdx_congr <;> intro j f
  case key => exact (s.role_isKey f).trans (s'.role_isKey f).symm
  case scalar =>
    refine isColumn_congr ?_ ((s.role_isScalar f).trans (s'.role_isScalar f).symm) rfl
    rw [map_mapIdx, map_mapIdx]
    congr 1
    funext j g
    exact (s.role_foreignKey g).trans (s'.role_foreignKey g).symm
  case belongsTo => exact (s.role_isBelongsTo f).trans (s'.role_isBelongsTo f).symm

/-- What the passes put into the buckets are the fields that end up with the role. -/
theorem buckets_resolved (h : s.Knows models enums) (d : ModelDecl) (id : ModelId) :
    ((d.draft id).linked models enums).buckets = (d.resolved s id).buckets := by
  simp only [Draft.linked, Draft.settled, Draft.pointed, Draft.confirm, ModelDecl.draft,
    ModelDecl.classified, Buckets.ofFields_eq, Buckets.push, List.nil_append, map_mapIdx,
    ModelDecl.resolved, Buckets.ofRoles, Buckets.mk.injEq]
  refine ⟨?key, ?scalar, ?belongsTo, ?hasMany, ?enum⟩ <;> apply placesWhere_mapIdx_congr <;>
    intro j f
  case key => exact (s.role_isKey f).symm
  case scalar => exact isColumn_resolved s d.fields id f (id.field j)
  case belongsTo => exact (s.role_isBelongsTo f).symm
  case hasMany => exact (passesTo_resolved h f (id.field j)).hasMany
  case enum => exact (passesTo_resolved h f (id.field j)).enum

/-! ## The passes on one model -/

/-- What the three passes do to a declared model. -/
theorem linked_draft (h : s.Knows models enums) (d : ModelDecl) (id : ModelId) :
    ((d.draft id).linked models enums).toModel = d.resolved s id := by
  have hfields : ((d.draft id).linked models enums).toModel.fields = (d.resolved s id).fields := by
    simp only [Draft.toModel, Draft.linked, Draft.settled, Draft.pointed, Draft.confirm,
      ModelDecl.draft, ModelDecl.classified, map_mapIdx, ModelDecl.resolved]
    congr 1
    funext j f
    exact (passesTo_resolved h f (id.field j)).field
  exact Model.mk.injEq .. ▸ ⟨rfl, rfl, rfl, hfields, buckets_resolved h d id⟩

/-- What is noted about a model can be told from the declaration. -/
theorem notedAbout_resolved (d : ModelDecl) (id : ModelId) (kind : FieldEvent)
    (test : FieldRole → Bool) :
    notedAbout kind test [d.resolved s id]
      = (d.fields.filter fun f => test (s.role f)).map fun f => .about kind d.name f.name f.type := by
  rw [notedAbout, List.flatMap_singleton, ModelDecl.resolved]
  apply filter_map_mapIdx <;> intro j f <;> rfl

theorem noted_eq_notedAbout (d : Draft) (decl : ModelDecl) (id : ModelId) (kind : FieldEvent)
    {g : Nat → FieldDecl → Classified} {test : Classified → Bool} {test' : FieldRole → Bool}
    (hname : d.name = decl.name) (hfields : d.fields = decl.fields.mapIdx g)
    (hg : ∀ j f, (g j f).field.name = f.name ∧ (g j f).field.type = f.type)
    (htest : ∀ j f, test (g j f) = test' (s.role f)) :
    d.noted kind test = notedAbout kind test' [decl.resolved s id] := by
  rw [notedAbout_resolved, Draft.noted, hfields]
  apply filter_map_mapIdx htest
  intro j f
  rw [Model.event, (hg j f).1, (hg j f).2, Draft.toModel, hname]

/-! What each pass notes about a declared model. -/

theorem noted_hasMany (h : s.Knows models enums) (d : ModelDecl) (id : ModelId) :
    (d.draft id).noted .linkedHasMany (Classified.hasManyFound models · |>.isSome)
      = notedAbout .linkedHasMany FieldRole.isHasMany [d.resolved s id] := by
  apply noted_eq_notedAbout _ d id _ rfl rfl
  · intro j f
    exact ⟨rfl, rfl⟩
  · intro j f
    exact (passesTo_resolved h f (id.field j)).hasMany

theorem noted_enum (h : s.Knows models enums) (d : ModelDecl) (id : ModelId) :
    ((d.draft id).confirm .hasMany (Classified.hasManyFound models)).noted .linkedEnum
        (Classified.enumFound enums · |>.isSome)
      = notedAbout .linkedEnum FieldRole.isEnum [d.resolved s id] := by
  apply noted_eq_notedAbout _ d id _ rfl (map_mapIdx _ _ _)
  · intro j f
    exact ⟨rfl, rfl⟩
  · intro j f
    exact (passesTo_resolved h f (id.field j)).enum

theorem noted_dangling (h : s.Knows models enums) (d : ModelDecl) (id : ModelId) :
    ((d.draft id).settled models enums).noted .danglingBelongsTo (Classified.isDangling models)
      = notedAbout .danglingBelongsTo FieldRole.isDangling [d.resolved s id] := by
  apply noted_eq_notedAbout _ d id _ rfl ((congrArg _ (map_mapIdx _ _ _)).trans (map_mapIdx _ _ _))
  · intro j f
    exact ⟨rfl, rfl⟩
  · intro j f
    exact (passesTo_resolved h f (id.field j)).dangling

end

end SchemaCatalog
