import SchemaCatalog.Proofs.Assembly

/-!
# The passes of linking, model by model

Linking changes the models in place, one identifier after the other.  Each pass comes down to one
and the same change to every model, as long as models and fields bear their places as identifiers
(`Draft.Placed`) and the bucket to be filled is empty at the start:

    linkHasMany: every draft d becomes d.confirm .hasMany (hasManyFound models)  (linkHasMany_drafts)
    linkEnums: every draft d becomes d.confirm .enum (enumFound enums)             (linkEnums_drafts)
    linkBelongsTo: every draft d becomes d.pointed models                      (linkBelongsTo_drafts)

No pass stops, and each notes what it does in the order of models and of fields (`link_drafts`).
-/

namespace SchemaCatalog

/-! ## The passes on one model -/

namespace Classified

def withRole (c : Classified) (role : FieldRole) : Classified :=
  { c with field := { c.field with role } }

/-- The role that is found for the field, if there is a guess of the wanted kind. -/
def found (wanted : Tentative → Bool) (find? : Field → Option FieldRole) (c : Classified) :
    Option FieldRole :=
  if c.tentative.any wanted then find? c.field else none

/-- The field with the role that is found for it, or as it is. -/
def settle (found : Classified → Option FieldRole) (c : Classified) : Classified :=
  c.withRole ((found c).getD c.field.role)

/-- The role found in the pass over the arrays of models. -/
def hasManyFound (models : NameTable ModelId) : Classified → Option FieldRole :=
  found (· = .hasMany) (Linking.hasManyRole? models)

/-- The role found in the pass over the references to enums. -/
def enumFound (enums : NameTable EnumId) : Classified → Option FieldRole :=
  found (fun _ => true) (Linking.enumRole? enums)

/-- The field after the first two passes. -/
def settled (models : NameTable ModelId) (enums : NameTable EnumId) (c : Classified) : Classified :=
  (c.settle (hasManyFound models)).settle (enumFound enums)

/-- The identifier of the field, if there is a guess of the wanted kind. -/
def wantedId? (wanted : Tentative → Bool) (c : Classified) : Option FieldId :=
  if c.tentative.any wanted then some c.field.id else none

/-- The field with its relation, if it is one, pointed to the model that its type names. -/
def pointed (models : NameTable ModelId) (c : Classified) : Classified :=
  match c.field.role with
  | .belongsTo relation => c.withRole (.belongsTo { relation with target := models.find? c.field.type })
  | _ => c

/-- Whether the field is a relation whose type names no model. -/
def isDangling (models : NameTable ModelId) (c : Classified) : Bool :=
  c.field.role.isBelongsTo && (models.find? c.field.type).isNone

/-- The fields bear their places in the model as identifiers, from `start` on. -/
def Placed (id : ModelId) : Nat → List Classified → Prop
  | _, [] => True
  | start, c :: cs => c.field.id = id.field start ∧ Placed id (start + 1) cs

end Classified

namespace Model

def event (m : Model) (kind : FieldEvent) (c : Classified) : Event :=
  .about kind m.name c.field.name c.field.type

/-- The model with these fields first, and after them the given ones with the roles that are found
for them and with places in the bucket. -/
def confirmRest (m : Model) (bucket : Bucket) (found : Classified → Option FieldRole)
    (pre : List Field) (rest : List Classified) : Model :=
  { m with
    fields := pre ++ rest.map fun c => (c.settle found).field
    buckets := m.buckets.push bucket (placesWhere (found · |>.isSome) rest pre.length) }

end Model

namespace Draft

/-- One of the first two passes. -/
def confirm (d : Draft) (bucket : Bucket) (found : Classified → Option FieldRole) : Draft :=
  { d with
    fields := d.fields.map (·.settle found)
    buckets := d.buckets.push bucket (placesWhere (found · |>.isSome) d.fields) }

/-- The last pass. -/
def pointed (d : Draft) (models : NameTable ModelId) : Draft :=
  { d with fields := d.fields.map (·.pointed models) }

/-- The draft after the first two passes. -/
def settled (d : Draft) (models : NameTable ModelId) (enums : NameTable EnumId) : Draft :=
  (d.confirm .hasMany (Classified.hasManyFound models)).confirm .enum (Classified.enumFound enums)

/-- The draft after all three passes. -/
def linked (d : Draft) (models : NameTable ModelId) (enums : NameTable EnumId) : Draft :=
  (d.settled models enums).pointed models

/-- What is noted about the fields of the draft that pass the test. -/
def noted (d : Draft) (kind : FieldEvent) (test : Classified → Bool) : List Event :=
  (d.fields.filter test).map (d.toModel.event kind)

/-- The drafts and their fields bear their places as identifiers, from `start` on. -/
def Placed : Nat → List Draft → Prop
  | _, [] => True
  | start, d :: ds => d.id = ⟨start⟩ ∧ Classified.Placed d.id 0 d.fields ∧ Placed (start + 1) ds

end Draft

/-! ## Buckets -/

theorem Buckets.push_nil (b : Buckets) (bucket : Bucket) : b.push bucket [] = b := by
  cases bucket <;> simp [push]

theorem Buckets.push_push (b : Buckets) (bucket : Bucket) (ps qs : List Nat) :
    (b.push bucket ps).push bucket qs = b.push bucket (ps ++ qs) := by
  cases bucket <;> simp [push]

/-! ## What a pass leaves alone -/

theorem Classified.found_of_no_guess {wanted : Tentative → Bool}
    {find? : Field → Option FieldRole} {c : Classified} (h : c.tentative = none) :
    c.found wanted find? = none := by
  simp [found, h]

theorem Classified.settle_of_none {found : Classified → Option FieldRole} {c : Classified}
    (h : found c = none) : c.settle found = c := by
  rw [settle, h]
  rfl

theorem Classified.placed_map_settle {found : Classified → Option FieldRole} {id : ModelId}
    {cs : List Classified} {start : Nat} (h : Placed id start cs) :
    Placed id start (cs.map (·.settle found)) := by
  induction cs generalizing start with
  | nil => trivial
  | cons c cs ih => exact ⟨h.1, ih h.2⟩

namespace Draft

variable {bucket : Bucket} {found : Classified → Option FieldRole}

theorem tentative_confirm (d : Draft) : (d.confirm bucket found).tentative = d.tentative := by
  rw [tentative, confirm, List.filterMap_map]
  rfl

theorem placed_map_confirm {ds : List Draft} {start : Nat} (h : Placed start ds) :
    Placed start (ds.map (·.confirm bucket found)) := by
  induction ds generalizing start with
  | nil => trivial
  | cons d ds ih =>
    obtain ⟨hid, hfields, hds⟩ := h
    exact ⟨hid, Classified.placed_map_settle hfields, ih hds⟩

end Draft

/-! ## One step -/

namespace Linking

variable {before after : List Model} {m : Model} {events : List Event}

theorem modelAt_append :
    modelAt ⟨before ++ m :: after, events⟩ ⟨before.length⟩ = .ok m := by
  simp [modelAt]

theorem replace_append (changed : Model) (noted : List Event) :
    replace ⟨before ++ m :: after, events⟩ ⟨before.length⟩ changed noted
      = ⟨before ++ changed :: after, events ++ noted⟩ := by
  simp [replace]

variable {pre post : List Field} {f : Field}

theorem fieldAt_append (hf : m.fields = pre ++ f :: post) : m.fieldAt pre.length = .ok f := by
  simp [Model.fieldAt, hf]

theorem withRoleAt_append (hf : m.fields = pre ++ f :: post) (role : FieldRole) :
    m.withRoleAt pre.length role
      = .ok { m with fields := pre ++ { f with role } :: post } := by
  unfold Model.withRoleAt
  rw [fieldAt_append hf]
  simp [hf, bind, Except.bind, pure, Except.pure]

variable {bucket : Bucket} {kind : FieldEvent} {find? : Field → Option FieldRole}

theorem confirm_of_none (hid : m.id = ⟨before.length⟩) (hf : m.fields = pre ++ f :: post)
    (hnone : find? f = none) :
    confirm bucket kind find? ⟨before ++ m :: after, events⟩ (m.id.field pre.length)
      = .ok ⟨before ++ m :: after, events⟩ := by
  have hfield : m.field (m.id.field pre.length) = .ok f := by
    simp [Model.field, ModelId.field, fieldAt_append hf]
  have hmodel : modelAt ⟨before ++ m :: after, events⟩ (m.id.field pre.length).model = .ok m := by
    rw [ModelId.field, hid]
    exact modelAt_append
  unfold confirm
  rw [hmodel]
  simp only [bind, Except.bind]
  rw [hfield]
  simp [Except.mapError, hnone, pure, Except.pure]

/-- A field that a role is found for gets it, and a place in the bucket. -/
theorem confirm_of_some (hid : m.id = ⟨before.length⟩) (hf : m.fields = pre ++ f :: post)
    (hnew : pre.length ∉ m.buckets.get bucket) {role : FieldRole} (hsome : find? f = some role) :
    confirm bucket kind find? ⟨before ++ m :: after, events⟩ (m.id.field pre.length)
      = .ok ⟨before ++
          { m with
            fields := pre ++ { f with role } :: post
            buckets := m.buckets.push bucket [pre.length] } :: after,
          events ++ [.about kind m.name f.name f.type]⟩ := by
  have hfield : m.field (m.id.field pre.length) = .ok f := by
    simp [Model.field, ModelId.field, fieldAt_append hf]
  have hmodel : modelAt ⟨before ++ m :: after, events⟩ (m.id.field pre.length).model = .ok m := by
    rw [ModelId.field, hid]
    exact modelAt_append
  have hrole : m.withRole (m.id.field pre.length) role
      = .ok { m with fields := pre ++ { f with role } :: post } := by
    simp [Model.withRole, ModelId.field, withRoleAt_append hf]
  have hput : Model.put { m with fields := pre ++ { f with role } :: post } bucket
        (m.id.field pre.length)
      = .ok ({ m with
            fields := pre ++ { f with role } :: post
            buckets := m.buckets.push bucket [pre.length] }, true) := by
    simp [Model.put, ModelId.field, hnew]
  unfold confirm
  rw [hmodel]
  simp only [bind, Except.bind]
  rw [hfield]
  simp only [Except.mapError, hsome]
  rw [hrole]
  simp only [hput]
  rw [ModelId.field, hid, replace_append]
  rfl

/-! ## The first two passes -/

variable {wanted : Tentative → Bool} {found : Classified → Option FieldRole} {c : Classified}
  {rest : List Classified}

theorem confirmRest_nil (hf : m.fields = pre) : m.confirmRest bucket found pre [] = m := by
  subst hf
  simp [Model.confirmRest, placesWhere, Buckets.push_nil]

theorem confirmRest_cons_none (h : found c = none) :
    m.confirmRest bucket found pre (c :: rest)
      = m.confirmRest bucket found (pre ++ [c.field]) rest := by
  simp [Model.confirmRest, placesWhere_cons, Classified.settle_of_none, h]

theorem confirmRest_cons_some {role : FieldRole} (h : found c = some role) (fields : List Field) :
    m.confirmRest bucket found pre (c :: rest)
      = ({ m with fields, buckets := m.buckets.push bucket [pre.length] } : Model).confirmRest bucket
          found (pre ++ [{ c.field with role }]) rest := by
  simp [Model.confirmRest, placesWhere_cons, Classified.settle, Classified.withRole,
    Buckets.push_push, h]

/-- The pass over the rest of a model, when only earlier places are in the bucket. -/
theorem foldlM_confirm_fields (m : Model) (pre : List Field) (rest : List Classified)
    (events : List Event) (hid : m.id = ⟨before.length⟩)
    (hf : m.fields = pre ++ rest.map (·.field)) (hrest : Classified.Placed m.id pre.length rest)
    (hb : ∀ p ∈ m.buckets.get bucket, p < pre.length) :
    (rest.filterMap (Classified.wantedId? wanted)).foldlM (confirm bucket kind find?)
        ⟨before ++ m :: after, events⟩
      = .ok ⟨before ++ m.confirmRest bucket (Classified.found wanted find?) pre rest :: after,
          events ++ (rest.filter (Classified.found wanted find? · |>.isSome)).map
            (m.event kind)⟩ := by
  induction rest generalizing m pre events with
  | nil =>
    rw [confirmRest_nil (by simpa using hf)]
    simp [pure, Except.pure]
  | cons c rest ih =>
    obtain ⟨hc, hrest⟩ := hrest
    rw [List.map_cons] at hf
    -- where nothing is found the model stays as it is and the field counts as settled
    have skip (hnone : Classified.found wanted find? c = none) :
        (rest.filterMap (Classified.wantedId? wanted)).foldlM (confirm bucket kind find?)
            ⟨before ++ m :: after, events⟩
          = .ok ⟨before ++ m.confirmRest bucket (Classified.found wanted find?) pre (c :: rest)
                :: after,
              events ++ ((c :: rest).filter (Classified.found wanted find? · |>.isSome)).map
                (m.event kind)⟩ := by
      have hb' : ∀ p ∈ m.buckets.get bucket, p < (pre ++ [c.field]).length := by
        intro p hp
        have := hb p hp
        rw [List.length_append, List.length_singleton]
        omega
      rw [ih m (pre ++ [c.field]) events hid (by simp [hf]) (by simpa using hrest) hb']
      rw [confirmRest_cons_none hnone, List.filter_cons_of_neg (by simp [hnone])]
    by_cases hw : c.tentative.any wanted
    · have hid? : c.wantedId? wanted = some (m.id.field pre.length) := by
        rw [Classified.wantedId?, if_pos hw, hc]
      have hfound : c.found wanted find? = find? c.field := by rw [Classified.found, if_pos hw]
      rw [List.filterMap_cons_some hid?, List.foldlM_cons]
      cases hr : find? c.field with
      | none =>
        rw [confirm_of_none hid hf hr]
        exact skip (hfound.trans hr)
      | some role =>
        have hnew : pre.length ∉ m.buckets.get bucket := fun h => absurd (hb _ h) (by omega)
        let filed : Model :=
          { m with
            fields := pre ++ { c.field with role } :: rest.map (·.field)
            buckets := m.buckets.push bucket [pre.length] }
        have hfiled : ∀ p ∈ filed.buckets.get bucket,
            p < (pre ++ [{ c.field with role }]).length := by
          intro p hp
          simp only [filed, Buckets.get_push, if_true, List.mem_append, List.mem_singleton] at hp
          rw [List.length_append, List.length_singleton]
          rcases hp with hp | rfl
          · have := hb p hp
            omega
          · omega
        rw [confirm_of_some hid hf hnew hr]
        have hrun := ih filed (pre ++ [{ c.field with role }]) (events ++ [m.event kind c]) hid
          (by simp [filed]) (by simpa using hrest) hfiled
        refine hrun.trans ?_
        rw [← confirmRest_cons_some (hfound.trans hr),
          List.filter_cons_of_pos (by simp [hfound, hr]), List.append_assoc]
        rfl
    · have hid? : c.wantedId? wanted = none := by rw [Classified.wantedId?, if_neg hw]
      rw [List.filterMap_cons_none hid?]
      exact skip (by rw [Classified.found, if_neg hw])

/-- The pass over the rest of the models. -/
theorem foldlM_confirm_drafts (bucket : Bucket) (kind : FieldEvent) (wanted : Tentative → Bool)
    (find? : Field → Option FieldRole) (before : List Model) (ds : List Draft)
    (events : List Event)
    (hds : Draft.Placed before.length ds) (hb : ∀ d ∈ ds, d.buckets.get bucket = []) :
    (ds.flatMap fun d => d.fields.filterMap (Classified.wantedId? wanted)).foldlM
        (confirm bucket kind find?) ⟨before ++ ds.map Draft.toModel, events⟩
      = .ok ⟨before ++ ds.map fun d =>
            (d.confirm bucket (Classified.found wanted find?)).toModel,
          events ++ ds.flatMap fun d =>
            d.noted kind (Classified.found wanted find? · |>.isSome)⟩ := by
  induction ds generalizing before events with
  | nil => simp [pure, Except.pure]
  | cons d ds ih =>
    obtain ⟨hid, hfields, hds⟩ := hds
    rw [List.forall_mem_cons] at hb
    rw [List.flatMap_cons, List.foldlM_append, List.map_cons,
      foldlM_confirm_fields d.toModel [] d.fields events hid rfl hfields
        (by simp [Draft.toModel, hb.1])]
    have hm : d.toModel.confirmRest bucket (Classified.found wanted find?) [] d.fields
        = (d.confirm bucket (Classified.found wanted find?)).toModel := by
      simp [Model.confirmRest, Draft.confirm, Draft.toModel]
    rw [hm, List.append_cons]
    show List.foldlM _ _ _ = _
    rw [ih _ _ (by simpa using hds) hb.2]
    simp [Draft.noted]

/-- The guesses of the wanted kind, in the order in which the passes come to them. -/
theorem worklist_eq (ds : List Draft) :
    ((ds.flatMap Draft.tentative).filter (wanted ·.2)).map (·.1)
      = ds.flatMap fun d => d.fields.filterMap (Classified.wantedId? wanted) := by
  rw [List.filter_flatMap, List.map_flatMap]
  congr 1
  funext d
  rw [Draft.tentative, List.filter_filterMap, List.map_filterMap]
  congr 1
  funext c
  cases ht : c.tentative with
  | none => simp [Classified.wantedId?, ht]
  | some t => cases hw : wanted t <;> simp [Classified.wantedId?, Option.filter, ht, hw]

theorem linkHasMany_drafts (events : List Event) (models : NameTable ModelId) {ds : List Draft}
    (hds : Draft.Placed 0 ds) (hb : ∀ d ∈ ds, d.buckets.hasMany = []) :
    linkHasMany models (ds.flatMap Draft.tentative) ⟨ds.map Draft.toModel, events⟩
      = .ok ⟨(ds.map (·.confirm .hasMany (Classified.hasManyFound models))).map Draft.toModel,
          events ++ ds.flatMap fun d =>
            d.noted .linkedHasMany (Classified.hasManyFound models · |>.isSome)⟩ := by
  have hrun := foldlM_confirm_drafts .hasMany .linkedHasMany (· = .hasMany) (hasManyRole? models)
    [] ds events hds hb
  rw [← worklist_eq, List.foldlM_map] at hrun
  rw [List.map_map]
  exact hrun

theorem linkEnums_drafts (events : List Event) (enums : NameTable EnumId) {ds : List Draft}
    (hds : Draft.Placed 0 ds) (hb : ∀ d ∈ ds, d.buckets.enum = []) :
    linkEnums enums (ds.flatMap Draft.tentative) ⟨ds.map Draft.toModel, events⟩
      = .ok ⟨(ds.map (·.confirm .enum (Classified.enumFound enums))).map Draft.toModel,
          events ++ ds.flatMap fun d =>
            d.noted .linkedEnum (Classified.enumFound enums · |>.isSome)⟩ := by
  have hrun := foldlM_confirm_drafts .enum .linkedEnum (fun _ => true) (enumRole? enums)
    [] ds events hds hb
  rw [← worklist_eq, List.filter_eq_self.2 fun _ _ => rfl, List.foldlM_map] at hrun
  rw [List.map_map]
  exact hrun

/-! ## The last pass -/

variable {models : NameTable ModelId}

theorem point_append (hf : m.fields = pre ++ c.field :: post) :
    point models ⟨before ++ m :: after, events⟩ (ModelId.field ⟨before.length⟩ pre.length)
      = .ok ⟨before ++ { m with fields := pre ++ (c.pointed models).field :: post } :: after,
          events ++ if c.isDangling models then [m.event .danglingBelongsTo c] else []⟩ := by
  unfold point
  simp only [ModelId.field]
  rw [modelAt_append]
  simp only [bind, Except.bind]
  rw [fieldAt_append hf]
  simp only [Except.mapError]
  cases hr : c.field.role with
  | belongsTo relation =>
    simp only [FieldRole.isBelongsTo, if_true, FieldRole.expectBelongsTo, FieldRole.expect,
      FieldRole.belongsTo?]
    rw [withRoleAt_append hf]
    simp only [replace_append, pure, Except.pure]
    simp [Classified.pointed, Classified.withRole, Classified.isDangling, FieldRole.isBelongsTo,
      Model.event, hr]
  | _ =>
    have hm : { m with fields := pre ++ c.field :: post } = m := by rw [← hf]
    simp [FieldRole.isBelongsTo, Classified.pointed, Classified.isDangling, hr, hm, pure,
      Except.pure]

theorem foldlM_point_fields (before after : List Model) (m : Model) (pre : List Field)
    (rest : List Classified) (events : List Event)
    (hf : m.fields = pre ++ rest.map (·.field)) :
    (List.range' pre.length rest.length).foldlM
        (fun s j => point models s (ModelId.field ⟨before.length⟩ j))
        ⟨before ++ m :: after, events⟩
      = .ok ⟨before ++ { m with fields := pre ++ rest.map fun c => (c.pointed models).field }
            :: after,
          events ++ (rest.filter (Classified.isDangling models)).map
            (m.event .danglingBelongsTo)⟩ := by
  induction rest generalizing m pre events with
  | nil =>
    have hm : { m with fields := pre } = m := by
      rw [List.map_nil, List.append_nil] at hf
      rw [← hf]
    simp [hm, pure, Except.pure]
  | cons c rest ih =>
    rw [List.map_cons] at hf
    rw [List.length_cons, List.range'_succ, List.foldlM_cons, point_append hf]
    have hrun := ih { m with fields := pre ++ (c.pointed models).field :: rest.map (·.field) }
      (pre ++ [(c.pointed models).field])
      (events ++ if c.isDangling models then [m.event .danglingBelongsTo c] else []) (by simp)
    rw [List.length_append, List.length_singleton] at hrun
    refine hrun.trans ?_
    cases hc : c.isDangling models <;> simp [hc, Model.event]

theorem pointModel_append (d : Draft) :
    pointModel models ⟨before ++ d.toModel :: after, events⟩ ⟨before.length⟩
      = .ok ⟨before ++ (d.pointed models).toModel :: after,
          events ++ d.noted .danglingBelongsTo (Classified.isDangling models)⟩ := by
  have hlen : d.toModel.fields.length = d.fields.length := by simp [Draft.toModel]
  unfold pointModel
  rw [modelAt_append]
  show List.foldlM _ _ _ = _
  rw [hlen, List.range_eq_range']
  refine (foldlM_point_fields before after d.toModel [] d.fields events rfl).trans ?_
  simp [Draft.pointed, Draft.toModel, Draft.noted]

theorem foldlM_point_drafts (before : List Model) (ds : List Draft) (events : List Event) :
    (List.range' before.length ds.length).foldlM (fun s i => pointModel models s ⟨i⟩)
        ⟨before ++ ds.map Draft.toModel, events⟩
      = .ok ⟨before ++ ds.map fun d => (d.pointed models).toModel,
          events ++ ds.flatMap fun d =>
            d.noted .danglingBelongsTo (Classified.isDangling models)⟩ := by
  induction ds generalizing before events with
  | nil => simp [pure, Except.pure]
  | cons d ds ih =>
    rw [List.length_cons, List.range'_succ, List.foldlM_cons, List.map_cons, pointModel_append]
    have hrun := ih (before ++ [(d.pointed models).toModel])
      (events ++ d.noted .danglingBelongsTo (Classified.isDangling models))
    rw [List.length_append, List.length_singleton, List.append_assoc] at hrun
    refine hrun.trans ?_
    simp

theorem linkBelongsTo_drafts (events : List Event) (models : NameTable ModelId)
    (ds : List Draft) :
    linkBelongsTo models ⟨ds.map Draft.toModel, events⟩
      = .ok ⟨(ds.map (·.pointed models)).map Draft.toModel,
          events ++ ds.flatMap fun d =>
            d.noted .danglingBelongsTo (Classified.isDangling models)⟩ := by
  rw [linkBelongsTo, List.length_map, List.range_eq_range', List.map_map]
  exact foldlM_point_drafts [] ds events

end Linking

/-! ## All passes -/

namespace Assembly

/-- No pass stops when the one before it has not. -/
theorem link_eq {a : Assembly} {s₁ s₂ s₃ : Linking}
    (h₁ : Linking.linkHasMany a.modelNames a.tentative ⟨a.models, []⟩ = .ok s₁)
    (h₂ : Linking.linkEnums a.enumNames a.tentative s₁ = .ok s₂)
    (h₃ : Linking.linkBelongsTo a.modelNames s₂ = .ok s₃) :
    a.link = .ok ({ a with models := s₃.models }, s₃.events ++ s₃.unclassifiedEvents) := by
  simp only [link, h₁, h₂, h₃, bind, Except.bind]
  rfl

/-- Linking never stops, and comes to the three passes over each model. -/
theorem link_drafts {a : Assembly} {ds : List Draft} (hmodels : a.models = ds.map Draft.toModel)
    (hguesses : a.tentative = ds.flatMap Draft.tentative) (hplaced : Draft.Placed 0 ds)
    (hbuckets : ∀ d ∈ ds, d.buckets.hasMany = [] ∧ d.buckets.enum = []) :
    a.link = .ok (
      { a with models := ds.map fun d => (d.linked a.modelNames a.enumNames).toModel },
      (ds.flatMap fun d =>
          d.noted .linkedHasMany (Classified.hasManyFound a.modelNames · |>.isSome))
        ++ (ds.flatMap fun d => (d.confirm .hasMany (Classified.hasManyFound a.modelNames)).noted
          .linkedEnum (Classified.enumFound a.enumNames · |>.isSome))
        ++ (ds.flatMap fun d => (d.settled a.modelNames a.enumNames).noted .danglingBelongsTo
          (Classified.isDangling a.modelNames))
        ++ Linking.unclassifiedEvents
          ⟨ds.map fun d => (d.linked a.modelNames a.enumNames).toModel, []⟩) := by
  let ds₁ := ds.map (·.confirm .hasMany (Classified.hasManyFound a.modelNames))
  let ds₂ := ds₁.map (·.confirm .enum (Classified.enumFound a.enumNames))
  have hguesses₁ : ds₁.flatMap Draft.tentative = a.tentative := by
    rw [List.flatMap_map, hguesses]
    simp only [Draft.tentative_confirm]
  have henum : ∀ d ∈ ds₁, d.buckets.enum = [] := by
    intro d hd
    obtain ⟨e, he, rfl⟩ := List.mem_map.1 hd
    exact (hbuckets e he).2
  have h₁ := Linking.linkHasMany_drafts [] a.modelNames hplaced fun d hd => (hbuckets d hd).1
  have h₂ := fun events => Linking.linkEnums_drafts events a.enumNames
    (Draft.placed_map_confirm hplaced) henum
  rw [hguesses₁] at h₂
  rw [← hguesses, ← hmodels] at h₁
  rw [link_eq h₁ (h₂ _) (Linking.linkBelongsTo_drafts _ a.modelNames ds₂)]
  simp only [ds₂, ds₁, List.map_map, List.flatMap_map]
  rfl

end Assembly

end SchemaCatalog
