import SchemaCatalog.Proofs.Interleaving
import SchemaCatalog.Proofs.Lookup

/-!
# Declarations read back

A catalog holds every declaration as it was made (`Catalog.Depicts`): linking changes the roles of
fields and nothing else of them, and adds no field and drops none.  What classification and linking
go by is all kept, so the declarations that are read back out of a catalog build it again.

    source.declarations = .ok ds → b.build source = .ok o → o.result = .ok c →
      c.Depicts ds ∧ b.build (.declared c.declarations) = .ok o                 (build_readBack)
-/

namespace SchemaCatalog

open Naming

/-! ## Reading back -/

/-- The field as it was declared. -/
def Field.declaration (f : Field) : FieldDecl where
  name := f.name
  type := f.type
  array := f.array
  optional := f.nullable
  attributes := f.attributes

/-- The model as it was declared. -/
def Model.declaration (m : Model) : ModelDecl where
  name := m.name
  fields := m.fields.map Field.declaration

/-- The enumerator as it was declared. -/
def Enumerator.declaration (e : Enumerator) : EnumeratorDecl where
  name := e.name
  comment := e.comment

/-- The enum as it was declared. -/
def Enum.declaration (e : Enum) : EnumDecl where
  name := e.name
  enumerators := e.enumerators.map Enumerator.declaration

namespace Catalog

/-- The declarations of the catalog, models before enums. -/
def declarations (c : Catalog) : List Declaration :=
  (c.models.items.map (.model ·.declaration)) ++ c.enums.items.map (.enum ·.declaration)

/-- The catalog holds these declarations, one entity for each and in order, under the forms of their
names. -/
structure Depicts (c : Catalog) (ds : List Declaration) : Prop where
  models : c.models.items.map Model.declaration = Declaration.models ds
  enums : c.enums.items.map Enum.declaration = Declaration.enums ds
  modelNames : ∀ m ∈ c.models.items, NameForms.ofName m.name = .ok m.names
  fieldNames : ∀ m ∈ c.models.items, ∀ f ∈ m.fields, NameForms.ofName f.name = .ok f.names
  enumNames : ∀ e ∈ c.enums.items, NameForms.ofName e.name = .ok e.names

end Catalog

/-! ## What a catalog is made of -/

theorem FieldDecl.declaration_resolved (d : FieldDecl) (s : Scope) (id : FieldId) :
    (d.resolved s id).declaration = d := rfl

theorem ModelDecl.declaration_resolved (d : ModelDecl) (s : Scope) (id : ModelId) :
    (d.resolved s id).declaration = d := by
  have hfields : (d.resolved s id).fields.map Field.declaration = d.fields :=
    map_mapIdx_eq_self (fun _ _ => rfl) d.fields
  rw [Model.declaration, hfields]
  rfl

theorem EnumDecl.declaration_toEnum (d : EnumDecl) (id : EnumId) :
    (d.toEnum id).declaration = d := by
  have henumerators : (d.toEnum id).enumerators.map Enumerator.declaration = d.enumerators := by
    rw [toEnum, List.map_map]
    exact List.map_id _
  rw [Enum.declaration, henumerators]
  rfl

section
variable (ds : List Declaration)

theorem models_resolvedCatalog :
    (resolvedCatalog ds).models.items.map Model.declaration = Declaration.models ds :=
  map_mapIdx_eq_self (fun _ d => d.declaration_resolved _ _) _

theorem enums_resolvedCatalog :
    (resolvedCatalog ds).enums.items.map Enum.declaration = Declaration.enums ds :=
  map_mapIdx_eq_self (fun _ d => d.declaration_toEnum _) _

/-- What is read back are the declarations, but for how models and enums are mixed. -/
theorem declarations_resolvedCatalog :
    (resolvedCatalog ds).declarations = Declaration.modelsFirst ds := by
  rw [Catalog.declarations, Declaration.modelsFirst, ← models_resolvedCatalog,
    ← enums_resolvedCatalog, List.map_map, List.map_map]
  rfl

variable {ds}

theorem depicts_resolvedCatalog (h : NamesInflect ds) : (resolvedCatalog ds).Depicts ds where
  models := models_resolvedCatalog ds
  enums := enums_resolvedCatalog ds
  modelNames m hm := by
    obtain ⟨i, hi⟩ := List.mem_iff_getElem?.1 hm
    obtain ⟨d, hd, rfl⟩ := getElem?_resolvedModels hi
    apply ofName_eq_formsOf
    apply h _ (Declaration.mem_models.1 hd)
    exact List.mem_append_right _ (List.mem_singleton_self _)
  fieldNames m hm f hf := by
    obtain ⟨i, hi⟩ := List.mem_iff_getElem?.1 hm
    obtain ⟨j, hj⟩ := List.mem_iff_getElem?.1 hf
    obtain ⟨d, hd, rfl⟩ := getElem?_resolvedModels hi
    obtain ⟨g, hg, rfl⟩ := getElem?_resolved hj
    apply ofName_eq_formsOf
    apply h _ (Declaration.mem_models.1 hd)
    exact List.mem_append_left _ (List.mem_map_of_mem hg)
  enumNames e he := by
    obtain ⟨k, hk, rfl⟩ := List.mem_mapIdx.1 he
    apply ofName_eq_formsOf
    apply h _ (Declaration.mem_enums.1 (List.getElem_mem hk))
    exact List.mem_singleton_self _

end

/-- A catalog that comes of a build holds what was declared, and what is read back out of it builds
it again, with the same events. -/
theorem build_readBack {b : Builder} {source : Source} {ds : List Declaration} {o : Outcome}
    {c : Catalog} (hs : source.declarations = .ok ds) (hbuild : b.build source = .ok o)
    (hok : o.result = .ok c) :
    c.Depicts ds ∧ b.build (.declared c.declarations) = .ok o := by
  obtain ⟨ds', hs', hnames, rfl⟩ := eq_resolvedCatalog hbuild hok
  obtain rfl : ds = ds' := Except.ok.inj (hs.symm.trans hs')
  refine ⟨depicts_resolvedCatalog hnames, ?_⟩
  rw [declarations_resolvedCatalog, ← hbuild]
  exact build_congr (Declaration.models_modelsFirst ds).symm (Declaration.enums_modelsFirst ds).symm
    hs rfl hnames

/-- A post is read back with its cover, although the type of the cover is not declared. -/
theorem blogDeclarations_readBack :
    ∃ o c, Builder.build { strict := false } (.declared blogDeclarations) = .ok o ∧
      o.result = .ok c ∧ c.Depicts blogDeclarations ∧
      Builder.build { strict := false } (.declared c.declarations) = .ok o ∧
      c.declarations.head? = blogDeclarations.head? ∧
      c.unclassified.map (fun f => (f.name, f.type)) = [("cover", "Image")] := by
  have hbuild := blogDeclarations_build { strict := false }
  obtain ⟨hdepicts, hagain⟩ := build_readBack rfl hbuild rfl
  exact ⟨_, resolvedCatalog blogDeclarations, hbuild, rfl, hdepicts, hagain, rfl, by decide⟩

end SchemaCatalog
