import SchemaCatalog.Proofs.Outcome

/-!
# The log of a build

What a build notes on its way can be told from the catalog it comes to (`Catalog.linkLog`): one line
for each array of a model, then one for each reference to an enum, for each relation to a model that
is not declared and for each field without a role, always model by model and in the order of fields.
A last line tells how large the catalog is, if the build comes to one.

    source.declarations = .ok ds → NamesInflect ds → every build of the source logs
      c.linkLog ++ [c.builtLine] with the catalog c, or c.linkLog with a fault             (build_log)
-/

namespace SchemaCatalog

/-- A line of the log. -/
structure LogLine where
  level : Level
  message : String
  values : List (String × String)
deriving DecidableEq

/-- The line in which an event is logged. -/
def Event.line (e : Event) : LogLine :=
  ⟨e.level, e.message, e.values⟩

/-- The lines that a build has logged. -/
def Outcome.log (o : Outcome) : List LogLine :=
  o.events.map Event.line

namespace Catalog

/-- One line for each field whose role passes the test, model by model. -/
def linesAbout (c : Catalog) (test : FieldRole → Bool) (line : Model → Field → LogLine) :
    List LogLine :=
  c.models.items.flatMap fun m => (m.fields.filter (test ·.role)).map (line m)

/-- What linking logs on the way to the catalog. -/
def linkLog (c : Catalog) : List LogLine :=
  c.linesAbout FieldRole.isHasMany (fun m f =>
      ⟨.trace, "linked has_many", [("model", m.name), ("field", f.name), ("target", f.type)]⟩)
    ++ c.linesAbout FieldRole.isEnum (fun m f =>
      ⟨.trace, "linked enum", [("model", m.name), ("field", f.name), ("target", f.type)]⟩)
    ++ c.linesAbout FieldRole.isDangling (fun m f =>
      ⟨.debug, "belongs_to target is not a declared model",
        [("model", m.name), ("field", f.name), ("ty", f.type)]⟩)
    ++ c.linesAbout FieldRole.isUnclassified (fun m f =>
      ⟨.debug, "field left unclassified",
        [("model", m.name), ("field", f.name), ("ty", f.type)]⟩)

/-- The line about the finished catalog. -/
def builtLine (c : Catalog) : LogLine :=
  ⟨.debug, "schema built",
    [("models", toString c.models.size), ("enums", toString c.enums.size)]⟩

end Catalog

/-! ## Lines of events -/

theorem map_line_notedAbout (c : Catalog) (kind : FieldEvent) (test : FieldRole → Bool) :
    (notedAbout kind test c.models.items).map Event.line
      = c.linesAbout test fun m f => (Event.about kind m.name f.name f.type).line := by
  simp only [notedAbout, Catalog.linesAbout, List.map_flatMap, List.map_map]
  rfl

theorem map_line_linkEvents (c : Catalog) : (linkEvents c.models.items).map Event.line = c.linkLog := by
  simp only [linkEvents, List.map_append, map_line_notedAbout]
  rfl

/-! ## Lines of builds -/

section
variable {b : Builder} {ds : List Declaration}

theorem finish_accepts (h : ¬ (b.strict ∧ (linked ds).unresolved ≠ [])) :
    (b.finish (linked ds) (linkEvents (resolvedModels ds))).result = .ok (resolvedCatalog ds) ∧
    (b.finish (linked ds) (linkEvents (resolvedModels ds))).log
      = (resolvedCatalog ds).linkLog ++ [(resolvedCatalog ds).builtLine] := by
  constructor
  · rw [finish_result, if_neg h]
  · rw [Builder.finish, if_neg h, Outcome.log, List.map_append, ← map_line_linkEvents]
    rfl

theorem finish_refuses (h : b.strict ∧ (linked ds).unresolved ≠ []) :
    (b.finish (linked ds) (linkEvents (resolvedModels ds))).result
      = .error (unresolvedFault (linked ds).unresolved) ∧
    (b.finish (linked ds) (linkEvents (resolvedModels ds))).log = (resolvedCatalog ds).linkLog := by
  constructor
  · rw [finish_result, if_pos h]
  · rw [Builder.finish, if_pos h, Outcome.log, ← map_line_linkEvents]
    rfl

end

/-- A source that fails is not noted.  All builds of other declarations log what linking has to say
about the catalog of the permissive build, and a line about the catalog itself unless they refuse
it. -/
theorem build_log (source : Source) :
    (∀ report, source.declarations = .error report → ∀ b : Builder,
      ∃ o f, b.build source = .ok o ∧ o.result = .error f ∧ o.log = []) ∧
    (∀ ds, source.declarations = .ok ds → NamesInflect ds → ∃ c : Catalog, ∀ b : Builder,
      ∃ o, b.build source = .ok o ∧ (b.strict = false → o.result = .ok c) ∧
        (o.result = .ok c ∧ o.log = c.linkLog ++ [c.builtLine] ∨
          (∃ f, o.result = .error f) ∧ o.log = c.linkLog)) := by
  constructor
  · intro report hs b
    exact ⟨_, _, build_failed b hs, rfl, rfl⟩
  · intro ds hs hnames
    refine ⟨resolvedCatalog ds, fun b => ⟨_, build_eq b hs hnames, ?permissive, ?log⟩⟩
    case permissive =>
      intro hb
      exact (finish_accepts fun hstrict => by simp [hb] at hstrict).1
    case log =>
      by_cases h : b.strict ∧ (linked ds).unresolved ≠ []
      · obtain ⟨hresult, hlog⟩ := finish_refuses h
        exact .inr ⟨⟨_, hresult⟩, hlog⟩
      · exact .inl (finish_accepts h)

/-- Authors are found and so are not noted; the cover of a type that is not declared is. -/
theorem blogDeclarations_log :
    (Source.declared blogDeclarations).declarations = .ok blogDeclarations ∧
    NamesInflect blogDeclarations ∧
    ∃ o, Builder.build { strict := false } (.declared blogDeclarations) = .ok o ∧
      o.log = [
        ⟨.trace, "linked has_many", [("model", "Post"), ("field", "replies"), ("target", "Post")]⟩,
        ⟨.trace, "linked has_many", [("model", "User"), ("field", "posts"), ("target", "Post")]⟩,
        ⟨.trace, "linked enum", [("model", "Post"), ("field", "tags"), ("target", "Tag")]⟩,
        ⟨.debug, "field left unclassified",
          [("model", "Post"), ("field", "cover"), ("ty", "Image")]⟩,
        ⟨.debug, "schema built", [("models", "2"), ("enums", "1")]⟩] := by
  refine ⟨rfl, blogDeclarations_inflect, ?_⟩
  obtain ⟨c, hc⟩ := (build_log (.declared blogDeclarations)).2 _ rfl blogDeclarations_inflect
  obtain ⟨o, hbuild, hresult, hlog⟩ := hc { strict := false }
  have hok : o.result = .ok c := hresult rfl
  obtain ⟨ds, hds, -, rfl⟩ := eq_resolvedCatalog hbuild hok
  obtain rfl : blogDeclarations = ds := Except.ok.inj hds
  rcases hlog with ⟨-, hlog⟩ | ⟨⟨f, hf⟩, -⟩
  · exact ⟨o, hbuild, hlog.trans (by decide +kernel)⟩
  · rw [hok] at hf
    cases hf

end SchemaCatalog
