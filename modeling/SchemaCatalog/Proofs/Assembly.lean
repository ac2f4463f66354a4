import Mathlib.Data.List.Forall2
import Mathlib.Data.List.Induction
import SchemaCatalog.Catalog.Build

/-!
# What assembling leaves

Assembling fails on a name that cannot be inflected and for no other reason.  Otherwise what it
leaves is a function of the declared models and of the declared enums, each in order:

    (Assembly.ofDeclarations ds).isOk ↔ NamesInflect ds             (ofDeclarations_isOk_iff)
    NamesInflect ds → Assembly.ofDeclarations ds = .ok (assembled ds)         (ofDeclarations_eq)
-/

namespace SchemaCatalog

open Naming Inflection

/-- The names that are inflected on behalf of a declaration. -/
def Declaration.inflected : Declaration → List String
  | .model d => d.fields.map (·.name) ++ [d.name]
  | .enum d => [d.name]

/-- Every name of a model, a field or an enum can be inflected. -/
def NamesInflect (ds : List Declaration) : Prop :=
  ∀ d ∈ ds, ∀ name ∈ d.inflected, (NameForms.ofName name).isOk

instance (ds : List Declaration) : Decidable (NamesInflect ds) :=
  inferInstanceAs (Decidable (∀ d ∈ ds, ∀ name ∈ d.inflected, (NameForms.ofName name).isOk))

theorem namesInflect_append (ds es : List Declaration) :
    NamesInflect (ds ++ es) ↔ NamesInflect ds ∧ NamesInflect es :=
  List.forall_mem_append

/-! ## The assembly without failure -/

/-- The forms of a name; of one that cannot be inflected all forms are empty. -/
def formsOf (name : String) : NameForms :=
  (NameForms.ofName name).toOption.getD ⟨"", "", "", "", "", "", "", ""⟩

/-- What classification makes of a field declaration. -/
def FieldDecl.classified (d : FieldDecl) (id : FieldId) : Classified where
  tentative := (classifyRole d).2
  field :=
    { id, name := d.name, names := formsOf d.name, type := d.type, array := d.array
      nullable := d.optional
      primaryKey := d.attributes.any (·.name = "id")
      unique := d.attributes.any (·.name = "unique")
      default := lastSome? Attribute.default? d.attributes
      role := (classifyRole d).1
      attributes := d.attributes }

/-- The fields of a model declaration, each classified by itself. -/
def ModelDecl.classified (d : ModelDecl) (id : ModelId) : List Classified :=
  d.fields.mapIdx fun j f => f.classified (id.field j)

def ModelDecl.draft (d : ModelDecl) (id : ModelId) : Draft where
  id := id
  name := d.name
  names := formsOf d.name
  fields := d.classified id
  buckets := .ofFields ((d.classified id).map (·.field))

def EnumDecl.toEnum (d : EnumDecl) (id : EnumId) : Enum where
  id := id
  name := d.name
  names := formsOf d.name
  enumerators := d.enumerators.map Enumerator.ofDecl

def Declaration.drafts (ds : List Declaration) : List Draft :=
  (models ds).mapIdx fun i d => d.draft ⟨i⟩

/-- What assembling leaves of declarations whose names can be inflected. -/
def assembled (ds : List Declaration) : Assembly where
  models := (Declaration.drafts ds).map Draft.toModel
  enums := (Declaration.enums ds).mapIdx fun k d => d.toEnum ⟨k⟩
  modelNames := .ofList ((Declaration.models ds).mapIdx fun i d => (d.name, ⟨i⟩))
  enumNames := .ofList ((Declaration.enums ds).mapIdx fun k d => (d.name, ⟨k⟩))
  tentative := (Declaration.drafts ds).flatMap Draft.tentative

/-! ## Lists -/

theorem map_mapIdx {α β γ : Type} (g : β → γ) (f : Nat → α → β) (as : List α) :
    (as.mapIdx f).map g = as.mapIdx fun i a => g (f i a) := by
  apply List.ext_getElem?
  intro i
  simp [Function.comp_def]

/-- What can be told of the elements without their places. -/
theorem map_mapIdx_eq_map {α β γ : Type} {f : Nat → α → β} {g : β → γ} {g' : α → γ}
    (h : ∀ i a, g (f i a) = g' a) (as : List α) : (as.mapIdx f).map g = as.map g' := by
  apply List.ext_getElem?
  intro i
  simp [Function.comp_def, h]

theorem map_mapIdx_eq_self {α β : Type} {f : Nat → α → β} {g : β → α} (h : ∀ i a, g (f i a) = a)
    (as : List α) : (as.mapIdx f).map g = as :=
  (map_mapIdx_eq_map h as).trans (List.map_id' as)

theorem forall₂_mapIdx {α β γ : Type} {R : β → γ → Prop} {f : Nat → α → β} {g : Nat → α → γ}
    (h : ∀ i a, R (f i a) (g i a)) (as : List α) : List.Forall₂ R (as.mapIdx f) (as.mapIdx g) := by
  induction as generalizing f g with
  | nil => exact .nil
  | cons a as ih =>
    rw [List.mapIdx_cons, List.mapIdx_cons]
    exact .cons (h 0 a) (ih fun i => h (i + 1))

theorem filter_map_mapIdx {α β γ : Type} {f : Nat → α → β} {test : β → Bool} {g : β → γ}
    {test' : α → Bool} {g' : α → γ} (htest : ∀ i a, test (f i a) = test' a)
    (hg : ∀ i a, g (f i a) = g' a) (as : List α) :
    ((as.mapIdx f).filter test).map g = (as.filter test').map g' := by
  induction as generalizing f with
  | nil => rfl
  | cons a as ih =>
    rw [List.mapIdx_cons, List.filter_cons, List.filter_cons, htest]
    split
    · rw [List.map_cons, List.map_cons, hg, ih (fun i => htest (i + 1)) fun i => hg (i + 1)]
    · exact ih (fun i => htest (i + 1)) fun i => hg (i + 1)

section
variable {α β ε : Type} {f : α → Except ε β}

theorem mapM_isOk_iff (as : List α) : (as.mapM f).isOk ↔ ∀ a ∈ as, (f a).isOk := by
  induction as with
  | nil => simp [pure, Except.pure, Except.isOk, Except.toBool]
  | cons a as ih =>
    rw [List.mapM_cons, List.forall_mem_cons, ← ih]
    cases f a <;> cases as.mapM f <;>
      simp [bind, Except.bind, pure, Except.pure, Except.isOk, Except.toBool]

theorem mapM_eq_map {g : α → β} {as : List α} (h : ∀ a ∈ as, f a = .ok (g a)) :
    as.mapM f = .ok (as.map g) := by
  induction as with
  | nil => rfl
  | cons a as ih =>
    rw [List.forall_mem_cons] at h
    rw [List.mapM_cons, h.1, ih h.2]
    rfl

end

/-! ## Classification -/

theorem ofName_eq_formsOf {name : String} (h : (NameForms.ofName name).isOk) :
    NameForms.ofName name = .ok (formsOf name) := by
  unfold formsOf
  cases hn : NameForms.ofName name with
  | ok forms => rfl
  | error e => rw [hn] at h; cases h

theorem classify_isOk (id : FieldId) (d : FieldDecl) :
    (classify id d).isOk = (NameForms.ofName d.name).isOk := by
  unfold classify
  cases NameForms.ofName d.name <;> rfl

theorem classify_eq {id : FieldId} {d : FieldDecl} (h : (NameForms.ofName d.name).isOk) :
    classify id d = .ok (d.classified id) := by
  unfold classify
  rw [ofName_eq_formsOf h]
  rfl

theorem Draft.classifyFields_isOk_iff (id : ModelId) (ds : List FieldDecl) :
    (classifyFields id ds).isOk ↔ ∀ d ∈ ds, (NameForms.ofName d.name).isOk := by
  unfold classifyFields
  rw [mapM_isOk_iff]
  simp only [classify_isOk]
  constructor
  · intro h d hd
    obtain ⟨j, hj⟩ := List.mem_iff_getElem?.1 hd
    exact h (d, j) (List.mem_zipIdx_iff_getElem?.2 hj)
  · intro h p hp
    exact h p.1 (List.fst_mem_of_mem_zipIdx hp)

theorem Draft.classifyFields_eq {id : ModelId} {ds : List FieldDecl}
    (h : ∀ d ∈ ds, (NameForms.ofName d.name).isOk) :
    classifyFields id ds = .ok (ds.mapIdx fun j d => d.classified (id.field j)) := by
  rw [List.mapIdx_eq_zipIdx_map]
  apply mapM_eq_map
  intro p hp
  exact classify_eq (h p.1 (List.fst_mem_of_mem_zipIdx hp))

theorem Draft.ofDecl_isOk_iff (id : ModelId) (d : ModelDecl) :
    (Draft.ofDecl id d).isOk ↔ ∀ name ∈ (Declaration.model d).inflected,
      (NameForms.ofName name).isOk := by
  simp only [Declaration.inflected, List.forall_mem_append, List.forall_mem_map,
    List.forall_mem_singleton]
  rw [← classifyFields_isOk_iff id]
  unfold ofDecl
  cases classifyFields id d.fields <;> cases NameForms.ofName d.name <;>
    simp [bind, Except.bind, pure, Except.pure, Except.isOk, Except.toBool]

theorem Draft.ofDecl_eq {id : ModelId} {d : ModelDecl}
    (h : ∀ name ∈ (Declaration.model d).inflected, (NameForms.ofName name).isOk) :
    Draft.ofDecl id d = .ok (d.draft id) := by
  simp only [Declaration.inflected, List.forall_mem_append, List.forall_mem_map,
    List.forall_mem_singleton] at h
  unfold ofDecl
  rw [classifyFields_eq h.1, ofName_eq_formsOf h.2]
  rfl

theorem Enum.ofDecl_isOk_iff (id : EnumId) (d : EnumDecl) :
    (Enum.ofDecl id d).isOk ↔ ∀ name ∈ (Declaration.enum d).inflected,
      (NameForms.ofName name).isOk := by
  simp only [Declaration.inflected, List.forall_mem_singleton]
  unfold Enum.ofDecl
  cases NameForms.ofName d.name <;>
    simp [bind, Except.bind, pure, Except.pure, Except.isOk, Except.toBool]

theorem Enum.ofDecl_eq {id : EnumId} {d : EnumDecl}
    (h : ∀ name ∈ (Declaration.enum d).inflected, (NameForms.ofName name).isOk) :
    Enum.ofDecl id d = .ok (d.toEnum id) := by
  simp only [Declaration.inflected, List.forall_mem_singleton] at h
  unfold Enum.ofDecl
  rw [ofName_eq_formsOf h]
  rfl

/-! ## Assembling -/

namespace Assembly

theorem ofDeclarations_append (ds : List Declaration) (d : Declaration) :
    ofDeclarations (ds ++ [d]) = (do (← ofDeclarations ds).add d) := by
  simp [ofDeclarations, List.foldlM_append]

theorem add_isOk_iff (a : Assembly) (d : Declaration) :
    (a.add d).isOk ↔ ∀ name ∈ d.inflected, (NameForms.ofName name).isOk := by
  cases d with
  | model d =>
    rw [← Draft.ofDecl_isOk_iff ⟨a.models.length⟩ d]
    simp only [add]
    cases Draft.ofDecl ⟨a.models.length⟩ d <;> rfl
  | enum d =>
    rw [← Enum.ofDecl_isOk_iff ⟨a.enums.length⟩ d]
    simp only [add]
    cases Enum.ofDecl ⟨a.enums.length⟩ d <;> rfl

/-- One more declaration leaves what the longer list leaves. -/
theorem add_assembled {ds : List Declaration} {d : Declaration}
    (h : ∀ name ∈ d.inflected, (NameForms.ofName name).isOk) :
    (assembled ds).add d = .ok (assembled (ds ++ [d])) := by
  cases d with
  | model d =>
    have hlen : (assembled ds).models.length = (Declaration.models ds).length := by
      simp [assembled, Declaration.drafts]
    simp only [add, hlen, Draft.ofDecl_eq h]
    simp [assembled, Declaration.drafts, Declaration.models, Declaration.enums, NameTable.ofList,
      List.mapIdx_append, pure, Except.pure, bind, Except.bind]
  | enum d =>
    have hlen : (assembled ds).enums.length = (Declaration.enums ds).length := by
      simp [assembled]
    simp only [add, hlen, Enum.ofDecl_eq h]
    simp [assembled, Declaration.drafts, Declaration.models, Declaration.enums, NameTable.ofList,
      List.mapIdx_append, pure, Except.pure, bind, Except.bind]

theorem ofDeclarations_eq {ds : List Declaration} (h : NamesInflect ds) :
    ofDeclarations ds = .ok (assembled ds) := by
  induction ds using List.reverseRecOn with
  | nil => rfl
  | append_singleton ds d ih =>
    have hds : NamesInflect ds := fun e he => h e (by simp [he])
    rw [ofDeclarations_append, ih hds]
    exact add_assembled (h d (by simp))

/-- Assembling fails on a name that cannot be inflected and for no other reason. -/
theorem ofDeclarations_isOk_iff (ds : List Declaration) :
    (ofDeclarations ds).isOk ↔ NamesInflect ds := by
  constructor
  · intro h
    induction ds using List.reverseRecOn with
    | nil => intro d hd; cases hd
    | append_singleton ds d ih =>
      rw [ofDeclarations_append] at h
      cases ha : ofDeclarations ds with
      | error e => rw [ha] at h; cases h
      | ok a =>
        rw [ha] at h
        intro e he
        rcases List.mem_append.1 he with he | he
        · exact ih (by rw [ha]; rfl) e he
        · rw [List.mem_singleton.1 he]
          exact (add_isOk_iff a d).1 h
  · intro h
    rw [ofDeclarations_eq h]
    rfl

end Assembly

end SchemaCatalog
