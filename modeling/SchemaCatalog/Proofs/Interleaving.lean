import SchemaCatalog.Proofs.Build

/-!
# Models and enums declared among each other

Models and enums are told apart before anything else happens to them, and each kind keeps its own
order.  How the models of a list are mixed with its enums is not seen in what comes of a build: not
in identifiers and roles, not in the fault of a strict build, not in what is noted on the way.

    Declaration.models ds = Declaration.models ds' → Declaration.enums ds = Declaration.enums ds' →
      b.build (.declared ds) and b.build (.declared ds') have the same outcome, or neither has one
                                                                              (build_interleaving)
-/

namespace SchemaCatalog

open Naming

/-- The declarations with every model before every enum. -/
def Declaration.modelsFirst (ds : List Declaration) : List Declaration :=
  (models ds).map .model ++ (enums ds).map .enum

namespace Declaration

theorem models_modelsFirst (ds : List Declaration) : models (modelsFirst ds) = models ds := by
  simp [modelsFirst, models]

theorem enums_modelsFirst (ds : List Declaration) : enums (modelsFirst ds) = enums ds := by
  simp [modelsFirst, enums]

end Declaration

/-- Names are inflected model by model and enum by enum. -/
theorem namesInflect_iff (ds : List Declaration) :
    NamesInflect ds ↔
      (∀ d ∈ Declaration.models ds, ∀ name ∈ (Declaration.model d).inflected,
        (NameForms.ofName name).isOk) ∧
      ∀ d ∈ Declaration.enums ds, ∀ name ∈ (Declaration.enum d).inflected,
        (NameForms.ofName name).isOk := by
  constructor
  · intro h
    exact ⟨fun d hd => h _ (Declaration.mem_models.1 hd),
      fun d hd => h _ (Declaration.mem_enums.1 hd)⟩
  · rintro ⟨hmodels, henums⟩ d hd
    cases d with
    | model d => exact hmodels d (Declaration.mem_models.2 hd)
    | enum d => exact henums d (Declaration.mem_enums.2 hd)

/-! ## Declarations with the same models and the same enums -/

section
variable {ds ds' : List Declaration} (hmodels : Declaration.models ds = Declaration.models ds')
  (henums : Declaration.enums ds = Declaration.enums ds')
include hmodels henums

theorem namesInflect_congr : NamesInflect ds ↔ NamesInflect ds' := by
  rw [namesInflect_iff, namesInflect_iff, hmodels, henums]

theorem assembled_congr : assembled ds = assembled ds' := by
  simp only [assembled, Declaration.drafts, hmodels, henums]

theorem resolvedModels_congr : resolvedModels ds = resolvedModels ds' := by
  simp only [resolvedModels, Scope.ofDeclarations, hmodels, henums]

theorem linked_congr : linked ds = linked ds' := by
  rw [linked, linked, assembled_congr hmodels henums, resolvedModels_congr hmodels henums]

variable {b : Builder} {source source' : Source} {o : Outcome}

/-- What comes of a build comes of it too when models and enums are mixed in another way. -/
theorem build_congr (hs : source.declarations = .ok ds) (hs' : source'.declarations = .ok ds')
    (h : NamesInflect ds) : b.build source' = b.build source := by
  have h' : NamesInflect ds' := (namesInflect_congr hmodels henums).1 h
  rw [build_eq b hs h, build_eq b hs' h', linked_congr hmodels henums,
    resolvedModels_congr hmodels henums]

end

/-- How models and enums are mixed makes no difference to the outcome, nor to whether there is one;
only which of several names is the first that cannot be inflected may depend on it. -/
theorem build_interleaving (b : Builder) {ds ds' : List Declaration}
    (hmodels : Declaration.models ds = Declaration.models ds')
    (henums : Declaration.enums ds = Declaration.enums ds') :
    (∃ o, b.build (.declared ds) = .ok o ∧ b.build (.declared ds') = .ok o) ∨
    (∃ e e', b.build (.declared ds) = .error (.inflection e) ∧
      b.build (.declared ds') = .error (.inflection e')) := by
  by_cases h : NamesInflect ds
  · left
    have hbuild := build_eq b (rfl : (Source.declared ds).declarations = _) h
    exact ⟨_, hbuild, (build_congr hmodels henums rfl rfl h).trans hbuild⟩
  · right
    have h' : ¬ NamesInflect ds' := fun h' => h ((namesInflect_congr hmodels henums).2 h')
    obtain ⟨e, he⟩ := exists_build_eq_error b (rfl : (Source.declared ds).declarations = _) h
    obtain ⟨e', he'⟩ := exists_build_eq_error b (rfl : (Source.declared ds').declarations = _) h'
    exact ⟨e, e', he, he'⟩

/-- The enum that stands between posts and users may as well stand after them: either way a strict
build is refused for the cover of a post, and the same is noted. -/
theorem blogDeclarations_interleaving :
    Declaration.models blogDeclarations
        = Declaration.models (Declaration.modelsFirst blogDeclarations) ∧
    Declaration.enums blogDeclarations
        = Declaration.enums (Declaration.modelsFirst blogDeclarations) ∧
    ∃ o f, Builder.build { strict := true } (.declared blogDeclarations) = .ok o ∧
      Builder.build { strict := true } (.declared (Declaration.modelsFirst blogDeclarations))
        = .ok o ∧
      o.result = .error f ∧
      f.text = "strict build found 1 unresolved field(s): invalid schema: field \x60Post::cover\x60 "
        ++ "has type \x60Image\x60 which is not a scalar, model, or enum" ∧
      o.events = [.about .linkedHasMany "Post" "replies" "Post",
        .about .linkedHasMany "User" "posts" "Post", .about .linkedEnum "Post" "tags" "Tag",
        .about .leftUnclassified "Post" "cover" "Image"] := by
  have hmodels := (Declaration.models_modelsFirst blogDeclarations).symm
  have henums := (Declaration.enums_modelsFirst blogDeclarations).symm
  have hbuild := blogDeclarations_build { strict := true }
  refine ⟨hmodels, henums, ?_⟩
  rcases build_interleaving { strict := true } hmodels henums with ⟨o, ho, ho'⟩ | ⟨e, e', he, -⟩
  · obtain rfl := Except.ok.inj (hbuild.symm.trans ho)
    have hrefused : (linked blogDeclarations).unresolved ≠ [] := by decide
    exact ⟨_, _, ho, ho', (finish_result ..).trans (if_pos ⟨rfl, hrefused⟩), by decide +kernel,
      by decide +kernel⟩
  · rw [hbuild] at he
    cases he

end SchemaCatalog
