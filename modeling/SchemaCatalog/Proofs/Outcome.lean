import Mathlib.Logic.Function.Iterate
import SchemaCatalog.Proofs.Lookup

/-!
# Strict and permissive builds

What comes of a build for every source, however often it is handed on (`Source.eq_iterate`), and of
a strict build next to the permissive one of the same declarations.  `build_outcome` puts together:

* the report of a source that fails is passed on (`Fault.PassesOn`);
* a permissive build comes to a catalog, and the strict one to the same catalog exactly when each of
  its fields has a role;
* otherwise the fault tells of each field without a role, in the order of the catalog that the
  strict build does not return (`Fault.Refuses`).
-/

namespace SchemaCatalog

/-- What a strict build has against a field without a role. -/
def Field.complaint (f : Field) (c : Catalog) : Except LookupError String := do
  return "field \x60" ++ (← f.fullName c) ++ "\x60 has type \x60" ++ f.type
    ++ "\x60 which is not a scalar, model, or enum"

namespace Fault

/-- The fault passes on what a source has to report. -/
structure PassesOn (f : Fault Unit) (report : Report Unit) : Prop where
  kind : f.kind = .source report
  cause? : f.cause? = none
  text : f.text = report.text
  trail : f.trail = report.trail
  isSource : f.isSource = true
  isInvalidSchema : f.isInvalidSchema = false
  isNotFound : f.isNotFound = false

/-- The fault refuses declarations for these reasons. -/
structure Refuses (f : Fault Unit) (complaints : List String) : Prop where
  text : f.text = "strict build found " ++ toString complaints.length
    ++ " unresolved field(s): invalid schema: " ++ String.intercalate "; " complaints
  chain : f.chain =
    [.adhoc ("strict build found " ++ toString complaints.length ++ " unresolved field(s)"),
      .invalidSchema (String.intercalate "; " complaints)]
  trail : f.trail = ["invalid schema: " ++ String.intercalate "; " complaints]
  isInvalidSchema : f.isInvalidSchema = true
  isSource : f.isSource = false
  isNotFound : f.isNotFound = false

theorem passesOn (report : Report Unit) : Fault.PassesOn (.root () (.source report)) report where
  kind := rfl
  cause? := rfl
  text := rfl
  trail := trail_of_isSource rfl
  isSource := rfl
  isInvalidSchema := rfl
  isNotFound := rfl

theorem refuses_unresolvedFault (complaints : List String) :
    (unresolvedFault complaints).Refuses complaints where
  text := by
    show "strict build found " ++ toString complaints.length ++ " unresolved field(s)" ++ ": "
      ++ ("invalid schema: " ++ String.intercalate "; " complaints) = _
    simp only [String.append_assoc]
    rfl
  chain := rfl
  trail := rfl
  isInvalidSchema := rfl
  isSource := rfl
  isNotFound := rfl

end Fault

/-! ## Sources -/

theorem Source.declarations_iterate (n : Nat) (source : Source) :
    (Source.handed^[n] source).declarations = source.declarations := by
  induction n with
  | zero => rfl
  | succ n ih =>
    rw [Function.iterate_succ_apply']
    exact ih

/-- Every source is a list of declarations or a failure, handed on some number of times. -/
theorem Source.eq_iterate (source : Source) :
    ∃ n, (∃ ds, source = Source.handed^[n] (.declared ds)) ∨
      ∃ report, source = Source.handed^[n] (.failed report) := by
  induction source with
  | declared ds => exact ⟨0, .inl ⟨ds, rfl⟩⟩
  | failed report => exact ⟨0, .inr ⟨report, rfl⟩⟩
  | handed source ih =>
    obtain ⟨n, ⟨ds, rfl⟩ | ⟨report, rfl⟩⟩ := ih
    · exact ⟨n + 1, .inl ⟨ds, (Function.iterate_succ_apply' ..).symm⟩⟩
    · exact ⟨n + 1, .inr ⟨report, (Function.iterate_succ_apply' ..).symm⟩⟩

/-! ## Complaints -/

theorem mapM_flatMap {α β γ ε : Type} {f : α → List β} {g : β → Except ε γ} {h : α → β → γ}
    {as : List α} (hg : ∀ a ∈ as, ∀ b ∈ f a, g b = .ok (h a b)) :
    (as.flatMap f).mapM g = .ok (as.flatMap fun a => (f a).map (h a)) := by
  induction as with
  | nil => rfl
  | cons a as ih =>
    rw [List.forall_mem_cons] at hg
    rw [List.flatMap_cons, List.mapM_append, mapM_eq_map hg.1, ih hg.2]
    rfl

/-- The complaints can be told from the catalog that is not returned. -/
theorem mapM_complaint (ds : List Declaration) :
    (resolvedCatalog ds).unclassified.mapM (·.complaint (resolvedCatalog ds))
      = .ok (linked ds).unresolved := by
  apply mapM_flatMap
  intro m hm f hf
  have hname := (placed_resolvedCatalog ds).fullName_eq hm (List.mem_filter.1 hf).1
  unfold Field.complaint
  rw [hname]
  simp only [bind, Except.bind, String.append_assoc]
  rfl

theorem unresolved_length (ds : List Declaration) :
    (linked ds).unresolved.length = (resolvedCatalog ds).unclassified.length := by
  simp only [Assembly.unresolved, Catalog.unclassified, List.length_flatMap, List.length_map]
  rfl

theorem unresolved_eq_nil_iff (ds : List Declaration) :
    (linked ds).unresolved = [] ↔ (resolvedCatalog ds).unclassified = [] := by
  rw [← List.length_eq_zero_iff, unresolved_length, List.length_eq_zero_iff]

/-! ## Outcomes -/

theorem build_failed (b : Builder) {source : Source} {report : Report Unit}
    (hs : source.declarations = .error report) :
    b.build source = .ok { result := .error (.root () (.source report)), events := [] } := by
  unfold Builder.build
  rw [hs]

section
variable {source : Source} {ds : List Declaration} (hs : source.declarations = .ok ds)
  (h : NamesInflect ds)
include hs h

/-- A build that is permissive, or finds every field with a role, comes to the catalog. -/
theorem build_accepts {b : Builder}
    (hb : b.strict = true → (resolvedCatalog ds).unclassified = []) :
    ∃ events, b.build source = .ok { result := .ok (resolvedCatalog ds), events } := by
  let o := b.finish (linked ds) (linkEvents (resolvedModels ds))
  have hresult : o.result = .ok (resolvedCatalog ds) := by
    rw [finish_result]
    apply if_neg
    rintro ⟨hstrict, hne⟩
    exact hne ((unresolved_eq_nil_iff ds).2 (hb hstrict))
  refine ⟨o.events, ?_⟩
  rw [build_eq b hs h, ← hresult]

theorem strict_build_refuses (hne : (resolvedCatalog ds).unclassified ≠ []) :
    ∃ events, Builder.build { strict := true } source
      = .ok { result := .error (unresolvedFault (linked ds).unresolved), events } := by
  let o := Builder.finish { strict := true } (linked ds) (linkEvents (resolvedModels ds))
  have hresult : o.result = .error (unresolvedFault (linked ds).unresolved) := by
    rw [finish_result]
    apply if_pos
    exact ⟨rfl, fun hnil => hne ((unresolved_eq_nil_iff ds).1 hnil)⟩
  refine ⟨o.events, ?_⟩
  rw [build_eq _ hs h, ← hresult]

end

/-- A permissive build comes to the catalog that is read off the declarations. -/
theorem permissive_build {ds : List Declaration} (h : NamesInflect ds) :
    ∃ events, Builder.build { strict := false } (.declared ds)
      = .ok { result := .ok (resolvedCatalog ds), events } :=
  build_accepts rfl h fun hstrict => nomatch hstrict

/-- A strict build succeeds exactly when every field has a role. -/
theorem strict_build_accepts_iff {ds : List Declaration} (h : NamesInflect ds) :
    (∃ c events, Builder.build { strict := true } (.declared ds)
      = .ok { result := .ok c, events }) ↔ (resolvedCatalog ds).unclassified = [] := by
  have hs : (Source.declared ds).declarations = .ok ds := rfl
  constructor
  · rintro ⟨c, events, hok⟩
    by_contra hne
    obtain ⟨events', herror⟩ := strict_build_refuses hs h hne
    rw [herror] at hok
    cases hok
  · intro hnil
    exact ⟨_, build_accepts hs h fun _ => hnil⟩

/-- The outcome of a build, permissive and strict, for a source that fails and for one that yields
declarations; there is no other. -/
theorem build_outcome :
    (∀ (b : Builder) (report : Report Unit) (n : Nat), ∃ f,
      b.build (Source.handed^[n] (.failed report)) = .ok { result := .error f, events := [] } ∧
      f.PassesOn report) ∧
    (∀ ds, NamesInflect ds → ∃ c : Catalog, ∀ n : Nat,
      (∃ events, Builder.build { strict := false } (Source.handed^[n] (.declared ds))
        = .ok { result := .ok c, events }) ∧
      ((∃ events, Builder.build { strict := true } (Source.handed^[n] (.declared ds))
        = .ok { result := .ok c, events }) ↔ c.unclassified = []) ∧
      (c.unclassified ≠ [] → ∃ f events complaints,
        Builder.build { strict := true } (Source.handed^[n] (.declared ds))
          = .ok { result := .error f, events } ∧
        c.unclassified.mapM (·.complaint c) = .ok complaints ∧
        complaints.length = c.unclassified.length ∧ f.Refuses complaints)) ∧
    (∀ source : Source, ∃ n, (∃ ds, source = Source.handed^[n] (.declared ds)) ∨
      ∃ report, source = Source.handed^[n] (.failed report)) := by
  refine ⟨?_, ?_, Source.eq_iterate⟩
  · intro b report n
    exact ⟨_, build_failed b (Source.declarations_iterate n _), Fault.passesOn report⟩
  · intro ds h
    refine ⟨resolvedCatalog ds, fun n => ?_⟩
    have hs : (Source.handed^[n] (.declared ds)).declarations = .ok ds :=
      Source.declarations_iterate n _
    refine ⟨build_accepts hs h (fun hstrict => nomatch hstrict), ⟨?_, ?_⟩, ?_⟩
    · rintro ⟨events, hok⟩
      by_contra hne
      obtain ⟨events', herror⟩ := strict_build_refuses hs h hne
      rw [herror] at hok
      cases hok
    · intro hnil
      exact build_accepts hs h fun _ => hnil
    · intro hne
      obtain ⟨events, herror⟩ := strict_build_refuses hs h hne
      exact ⟨_, events, _, herror, mapM_complaint ds, unresolved_length ds,
        Fault.refuses_unresolvedFault _⟩

/-- The post with a cover of a type that is not declared is refused, and told by name. -/
theorem blogDeclarations_refused :
    NamesInflect blogDeclarations ∧
    ∃ f events, Builder.build { strict := true } (.handed (.declared blogDeclarations))
        = .ok { result := .error f, events } ∧
      f.text = "strict build found 1 unresolved field(s): invalid schema: field \x60Post::cover\x60 "
        ++ "has type \x60Image\x60 which is not a scalar, model, or enum" := by
  refine ⟨blogDeclarations_inflect, ?_⟩
  obtain ⟨c, hc⟩ := build_outcome.2.1 blogDeclarations blogDeclarations_inflect
  obtain ⟨⟨events, hbuild⟩, -, hstrict⟩ := hc 1
  obtain ⟨ds, hds, -, rfl⟩ := eq_resolvedCatalog hbuild rfl
  obtain rfl : blogDeclarations = ds := Except.ok.inj hds
  obtain ⟨f, events', complaints, herror, hcomplaints, -, hrefuses⟩ := hstrict (by decide +kernel)
  refine ⟨f, events', herror, ?_⟩
  have htold : complaints = ["field \x60Post::cover\x60 has type \x60Image\x60 which is not a scalar, "
      ++ "model, or enum"] := by
    rw [mapM_complaint] at hcomplaints
    rw [← Except.ok.inj hcomplaints]
    decide +kernel
  rw [hrefuses.text, htold]
  decide +kernel

end SchemaCatalog
