import SchemaCatalog.Proofs.Resolution

/-!
# What a build comes to

Assembling and linking together, on any list of declarations: no pass stops, and the catalog is the
one that is read off the declarations.

    (assembled ds).link = .ok (linked ds, linkEvents (resolvedModels ds))          (link_assembled)
    source.declarations = .ok ds → NamesInflect ds →
      b.build source = .ok (b.finish (linked ds) (linkEvents (resolvedModels ds)))    (build_eq)

Nothing else comes of a build, but for a source that fails (`build_cases`).  So the role of each
field is the one that is read off its own declaration and the declared names
(`permissive_build_roles`).
-/

namespace SchemaCatalog

/-- The assembly of the declarations with every field linked. -/
def linked (ds : List Declaration) : Assembly :=
  { assembled ds with models := resolvedModels ds }

/-! ## Places and names -/

theorem Classified.placed_mapIdx {id : ModelId} {g : Nat → FieldDecl → Classified} {start : Nat}
    (hg : ∀ j f, (g j f).field.id = id.field (start + j)) (fs : List FieldDecl) :
    Placed id start (fs.mapIdx g) := by
  induction fs generalizing g start with
  | nil => trivial
  | cons f fs ih =>
    rw [List.mapIdx_cons]
    refine ⟨hg 0 f, ih fun j f => ?_⟩
    rw [hg, Nat.add_right_comm, Nat.add_assoc]

theorem Draft.placed_mapIdx {g : Nat → ModelDecl → Draft} {start : Nat}
    (hg : ∀ i d, (g i d).id = ⟨start + i⟩)
    (hfields : ∀ i d, Classified.Placed (g i d).id 0 (g i d).fields) (ds : List ModelDecl) :
    Placed start (ds.mapIdx g) := by
  induction ds generalizing g start with
  | nil => trivial
  | cons d ds ih =>
    rw [List.mapIdx_cons]
    refine ⟨hg 0 d, hfields 0 d, ih (fun i d => ?_) fun i => hfields (i + 1)⟩
    rw [hg, Nat.add_right_comm, Nat.add_assoc]

/-- Drafts and their fields bear their places as identifiers. -/
theorem placed_drafts (ds : List Declaration) : Draft.Placed 0 (Declaration.drafts ds) := by
  apply Draft.placed_mapIdx
  · intro i d
    rw [Nat.zero_add]
    rfl
  · intro i d
    apply Classified.placed_mapIdx
    intro j f
    rw [Nat.zero_add]
    rfl

/-- The tables of an assembly know the names of the declarations. -/
theorem knows_assembled (ds : List Declaration) :
    (Scope.ofDeclarations ds).Knows (assembled ds).modelNames (assembled ds).enumNames where
  models name := by
    rw [Scope.model?, Scope.ofDeclarations, List.findIdx?_map]
    exact NameTable.find?_ofList_mapIdx ModelDecl.name ModelId.mk _ name
  enums name := by
    rw [Scope.enum?, Scope.ofDeclarations, List.findIdx?_map]
    exact NameTable.find?_ofList_mapIdx EnumDecl.name EnumId.mk _ name

/-! ## Linking -/

/-- What a pass notes about all models is told model by model. -/
theorem notedAbout_resolvedModels (ds : List Declaration) (kind : FieldEvent)
    (test : FieldRole → Bool) {noted : Nat → ModelDecl → List Event}
    (h : ∀ i d, noted i d = notedAbout kind test [d.resolved (.ofDeclarations ds) ⟨i⟩]) :
    ((Declaration.models ds).mapIdx noted).flatten = notedAbout kind test (resolvedModels ds) := by
  rw [notedAbout, resolvedModels, List.flatMap_def, map_mapIdx]
  congr 2
  funext i d
  rw [h, notedAbout, List.flatMap_singleton]

/-- Linking leaves every field with the role that is read off the declarations. -/
theorem link_assembled (ds : List Declaration) :
    (assembled ds).link = .ok (linked ds, linkEvents (resolvedModels ds)) := by
  have hknows := knows_assembled ds
  have hbuckets : ∀ d ∈ Declaration.drafts ds, d.buckets.hasMany = [] ∧ d.buckets.enum = [] := by
    intro d hd
    obtain ⟨i, hi, rfl⟩ := List.mem_mapIdx.1 hd
    exact ⟨rfl, rfl⟩
  have hmodels : (Declaration.drafts ds).map (fun d =>
        (d.linked (assembled ds).modelNames (assembled ds).enumNames).toModel)
      = resolvedModels ds := by
    rw [Declaration.drafts, map_mapIdx, resolvedModels]
    congr 1
    funext i d
    exact linked_draft hknows d ⟨i⟩
  rw [Assembly.link_drafts rfl rfl (placed_drafts ds) hbuckets, hmodels,
    Linking.unclassifiedEvents]
  simp only [Declaration.drafts, List.flatMap_def, map_mapIdx]
  rw [notedAbout_resolvedModels ds .linkedHasMany FieldRole.isHasMany fun i d =>
      noted_hasMany hknows d ⟨i⟩,
    notedAbout_resolvedModels ds .linkedEnum FieldRole.isEnum fun i d =>
      noted_enum hknows d ⟨i⟩,
    notedAbout_resolvedModels ds .danglingBelongsTo FieldRole.isDangling fun i d =>
      noted_dangling hknows d ⟨i⟩]
  rfl

/-! ## Building -/

/-- The catalog that is read off the declarations. -/
def resolvedCatalog (ds : List Declaration) : Catalog where
  models := .ofList (resolvedModels ds)
  enums := .ofList (resolvedEnums ds)

@[simp]
theorem resolvedCatalog_models (ds : List Declaration) :
    (resolvedCatalog ds).models.items = resolvedModels ds := rfl

@[simp]
theorem resolvedCatalog_enums (ds : List Declaration) :
    (resolvedCatalog ds).enums.items = resolvedEnums ds := rfl

section
variable {b : Builder} {source : Source} {ds : List Declaration} {o : Outcome} {c : Catalog}

theorem build_eq (b : Builder) (hs : source.declarations = .ok ds) (h : NamesInflect ds) :
    b.build source = .ok (b.finish (linked ds) (linkEvents (resolvedModels ds))) := by
  unfold Builder.build
  rw [hs]
  simp only [Assembly.ofDeclarations_eq h, link_assembled, Except.mapError, bind, Except.bind]
  rfl

/-- A name that cannot be inflected is the end of a build, whatever is asked of it. -/
theorem exists_build_eq_error (b : Builder) (hs : source.declarations = .ok ds)
    (h : ¬ NamesInflect ds) : ∃ e, b.build source = .error (.inflection e) := by
  rw [← Assembly.ofDeclarations_isOk_iff] at h
  unfold Builder.build
  rw [hs]
  cases ha : Assembly.ofDeclarations ds with
  | ok a => exact absurd (by rw [ha]; rfl) h
  | error e => exact ⟨e, by simp [ha, Except.mapError, bind, Except.bind]⟩

/-- What comes of a build is the failure of the source or the catalog read off the declarations. -/
theorem build_cases (h : b.build source = .ok o) :
    (∃ report, source.declarations = .error report ∧
      o = { result := .error (.root () (.source report)), events := [] }) ∨
    (∃ ds, source.declarations = .ok ds ∧ NamesInflect ds ∧
      o = b.finish (linked ds) (linkEvents (resolvedModels ds))) := by
  cases hs : source.declarations with
  | error report =>
    unfold Builder.build at h
    rw [hs] at h
    exact .inl ⟨report, rfl, (Except.ok.inj h).symm⟩
  | ok ds =>
    have hnames : NamesInflect ds := by
      by_contra hnot
      obtain ⟨e, he⟩ := exists_build_eq_error b hs hnot
      rw [he] at h
      cases h
    rw [build_eq b hs hnames] at h
    exact .inr ⟨ds, rfl, hnames, (Except.ok.inj h).symm⟩

theorem finish_result (b : Builder) (ds : List Declaration) (events : List Event) :
    (b.finish (linked ds) events).result
      = if b.strict ∧ (linked ds).unresolved ≠ [] then
          .error (unresolvedFault (linked ds).unresolved)
        else .ok (resolvedCatalog ds) := by
  unfold Builder.finish
  split <;> rfl

/-- A catalog that comes of a build is the one that is read off the declarations. -/
theorem eq_resolvedCatalog (h : b.build source = .ok o) (hc : o.result = .ok c) :
    ∃ ds, source.declarations = .ok ds ∧ NamesInflect ds ∧ c = resolvedCatalog ds := by
  rcases build_cases h with ⟨report, -, rfl⟩ | ⟨ds, hs, hnames, rfl⟩
  · cases hc
  · rw [finish_result] at hc
    split at hc
    · cases hc
    · exact ⟨ds, hs, hnames, (Except.ok.inj hc).symm⟩

end

/-- Of a build that asks for nothing comes a catalog in which the role of each field is the one that
its own declaration and the declared names give it, whatever the order of the declarations. -/
theorem permissive_build_roles (ds : List Declaration) (h : NamesInflect ds) :
    ∃ c events, Builder.build { strict := false } (.declared ds)
        = .ok { result := .ok c, events } ∧
      (c.models.items.map fun m => m.fields.map (·.role))
        = (Declaration.models ds).map fun d => d.fields.map (Scope.ofDeclarations ds).role := by
  refine ⟨resolvedCatalog ds, _, build_eq _ rfl h, ?_⟩
  show (resolvedModels ds).map _ = _
  apply map_mapIdx_eq_map
  intro i d
  apply map_mapIdx_eq_map
  intro j f
  rfl

/-- Posts and their authors, with an array of an enum and a type that is not declared. -/
def blogDeclarations : List Declaration :=
  [.model { name := "Post", fields := [
      { name := "id", type := "Int", attributes := [
        { name := "default", args := [.positional (.call "cuid" [])] }] },
      { name := "author", type := "User", attributes := [
        { name := "relation", args := [.named "fields" (.idents ["authorId"])] }] },
      { name := "authorId", type := "Int" },
      { name := "replies", type := "Post", array := true },
      { name := "tags", type := "Tag", array := true },
      { name := "cover", type := "Image" }] },
    .enum { name := "Tag", enumerators := [{ name := "NEWS" }] },
    .model { name := "User", fields := [{ name := "posts", type := "Post", array := true }] }]

theorem blogDeclarations_inflect : NamesInflect blogDeclarations := by
  decide +kernel

theorem blogDeclarations_build (b : Builder) : b.build (.declared blogDeclarations)
    = .ok (b.finish (linked blogDeclarations) (linkEvents (resolvedModels blogDeclarations))) :=
  build_eq b rfl blogDeclarations_inflect

/-- Authors are found although users are declared after posts. -/
theorem blogDeclarations_roles :
    NamesInflect blogDeclarations ∧
    ∃ c events, Builder.build { strict := false } (.declared blogDeclarations)
        = .ok { result := .ok c, events } ∧
      (c.models.items.map fun m => m.fields.map (·.role))
        = [[.key, .belongsTo ⟨"authorId", none, some ⟨1⟩⟩, .scalar, .hasMany ⟨0⟩, .enum ⟨0⟩,
            .unclassified],
          [.hasMany ⟨0⟩]] := by
  obtain ⟨c, events, hbuild, hroles⟩ :=
    permissive_build_roles blogDeclarations blogDeclarations_inflect
  exact ⟨blogDeclarations_inflect, c, events, hbuild, hroles.trans (by decide)⟩

end SchemaCatalog
