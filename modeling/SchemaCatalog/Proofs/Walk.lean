import SchemaCatalog.Fault.Walk
import SchemaCatalog.Proofs.Contexts
import SchemaCatalog.Proofs.Parts

/-!
# A walk and the chain that it leaves

The text of a fault and the questions about it follow the chain of causes to its end.  A walk from
error to error follows the chain no further than to the first source: from there it goes into the
report and, if a fault lies within, on from that fault.  Whatever the source has for causes is not
met (`Fault.leadsOn`).

    chain    k₀  k₁  source  k₃         walk from k₀    k₁  source  messages of the report
-/

namespace SchemaCatalog

variable {ι : Type}

/-! ## Where a walk leads -/

/-- The causes of a fault, from the one that it has itself to the oldest. -/
def Fault.causes : Fault ι → List (Fault ι)
  | .root _ _ => []
  | .caused _ _ c => c :: c.causes

/-- What the members of a chain are displayed as, each with the part of the chain after it. -/
def displays : List (FaultKind ι) → List String
  | [] => []
  | k :: rest => String.intercalate ": " ((k :: rest).map FaultKind.text) :: displays rest

/-- A report inside contexts, of which the first is outermost. -/
def Report.within (contexts : List String) (inner : Report ι) : Report ι :=
  contexts.foldr .context inner

/-- What is met on a walk from the fault on, by the members of its chain. -/
inductive Fault.Meets : Fault ι → List String → Prop where
  /-- No source failed: all causes are met. -/
  | causes {f} (hplain : ∀ k ∈ f.chain, ¬ k.isSource) : Meets f (displays f.chain).tail
  /-- The causes down to the first source are met, and then what that reports. -/
  | messages {f newer older contexts message}
      (hchain : f.chain = newer ++ .source (.within contexts (.message message)) :: older)
      (hnewer : ∀ k ∈ newer, ¬ k.isSource) :
      Meets f ((displays f.chain).tail.take newer.length ++ (contexts ++ [message]))
  /-- The report ends in a fault, and what is met from there on follows. -/
  | wrapped {f g newer older contexts inner}
      (hchain : f.chain = newer ++ .source (.within contexts (.fault g)) :: older)
      (hnewer : ∀ k ∈ newer, ¬ k.isSource) (hinner : Meets g inner) :
      Meets f ((displays f.chain).tail.take newer.length ++ (contexts ++ g.text :: inner))

/-- What a walk from the fault meets, next to what the fault tells of its chain. -/
structure Fault.LeadsOn (f : Fault ι) : Prop where
  meets : ∀ ds, (Report.fault f).behind.map Report.text = ds ↔ f.Meets ds
  trail : (Report.fault f).behind.map Report.text = f.trail
  /-- From the first source on nothing is met but what the report leads to, and of its causes none
  that the report does not have too. -/
  passes : ∀ newer report older, f.chain = newer ++ .source report :: older →
    (∀ k ∈ newer, ¬ k.isSource) →
      (Report.fault f).behind = (f.causes.take newer.length).map .fault ++ report :: report.behind ∧
      ∀ c ∈ f.causes.drop newer.length, .fault c ∈ (Report.fault f).behind →
        .fault c ∈ report :: report.behind
  /-- The fault tells of all its chain all the same. -/
  tells : f.Tells f.chain

/-! ## Chains and causes -/

namespace Fault

theorem chain_eq (f : Fault ι) : f.chain = f.kind :: f.causes.map kind := by
  fun_induction causes f with
  | case1 => rfl
  | case2 m k c ih => rw [chain, ih, kind, List.map_cons]

theorem displays_chain (f : Fault ι) : displays f.chain = (f :: f.causes).map text := by
  fun_induction causes f with
  | case1 =>
    rw [List.map_cons, text_eq]
    rfl
  | case2 m k c ih => rw [List.map_cons, text_eq, chain, displays, ih]

theorem tail_displays_chain (f : Fault ι) : (displays f.chain).tail = f.causes.map text := by
  rw [displays_chain, List.map_cons, List.tail_cons]

theorem sizeOf_lt_of_mem_chain : ∀ {f : Fault ι} {k : FaultKind ι}, k ∈ f.chain →
    sizeOf k < sizeOf f
  | .root m k, k', h => by
    obtain rfl : k' = k := List.mem_singleton.1 h
    simp only [root.sizeOf_spec]
    omega
  | .caused m k c, k', h => by
    simp only [caused.sizeOf_spec]
    rcases List.mem_cons.1 h with rfl | h
    · omega
    · have := sizeOf_lt_of_mem_chain h
      omega

theorem sizeOf_lt_of_mem_causes : ∀ {f d : Fault ι}, d ∈ f.causes → sizeOf d < sizeOf f
  | .caused m k c, d, h => by
    simp only [caused.sizeOf_spec]
    rcases List.mem_cons.1 h with rfl | h
    · omega
    · have := sizeOf_lt_of_mem_causes h
      omega

theorem causes_nodup (f : Fault ι) : f.causes.Nodup := by
  fun_induction causes f with
  | case1 => exact .nil
  | case2 m k c ih =>
    exact List.nodup_cons.2 ⟨fun h => Nat.lt_irrefl _ (sizeOf_lt_of_mem_causes h), ih⟩

/-! ## Walking along the chain -/

section

variable {m : ι} {k : FaultKind ι} {c : Fault ι} (h : ¬ k.isSource)

include h

theorem behind_root : (Report.fault (root m k)).behind = [] := by
  refine Report.behind_of_source?_eq_none ?_
  cases k with
  | source report => exact absurd rfl h
  | adhoc | notFound | invalidSchema => rfl

theorem behind_caused :
    (Report.fault (caused m k c)).behind = .fault c :: (Report.fault c).behind := by
  refine Report.behind_of_source? ?_
  cases k with
  | source report => exact absurd rfl h
  | adhoc | notFound | invalidSchema => rfl

end

/-- Without a source the causes are met. -/
theorem behind_of_plain : ∀ {f : Fault ι}, (∀ k ∈ f.chain, ¬ k.isSource) →
    (Report.fault f).behind = f.causes.map .fault
  | .root m k, h => behind_root (h k List.mem_cons_self)
  | .caused m k c, h => by
    rw [chain, List.forall_mem_cons] at h
    rw [behind_caused h.1, behind_of_plain h.2, causes, List.map_cons]

/-- Otherwise those down to the first source are met, and then its report. -/
theorem behind_of_chain_eq : ∀ {f : Fault ι} {newer older : List (FaultKind ι)} {report : Report ι},
    f.chain = newer ++ .source report :: older → (∀ k ∈ newer, ¬ k.isSource) →
      (Report.fault f).behind
        = (f.causes.take newer.length).map .fault ++ report :: report.behind
  | f, [], older, report, h, _ => by
    rw [chain_eq] at h
    refine Report.behind_of_source? ?_
    rw [Report.source?, source?, (List.cons.inj h).1]
  | .root m k, k' :: newer, older, report, h, _ => by
    simp [chain] at h
  | .caused m k c, k' :: newer, older, report, h, hnewer => by
    obtain ⟨rfl, hchain⟩ := List.cons.inj h
    rw [List.forall_mem_cons] at hnewer
    rw [behind_caused hnewer.1, behind_of_chain_eq hchain hnewer.2, causes, List.length_cons,
      List.take_succ_cons, List.map_cons, List.cons_append]

/-- There is no source in a chain, or a first one. -/
theorem exists_first_source (f : Fault ι) : (∀ k ∈ f.chain, ¬ k.isSource) ∨
    ∃ newer report older, f.chain = newer ++ .source report :: older ∧
      ∀ k ∈ newer, ¬ k.isSource := by
  cases h : f.chain.find? FaultKind.isSource with
  | none => exact .inl (List.find?_eq_none.1 h)
  | some k =>
    obtain ⟨hk, newer, older, hchain, hnewer⟩ := List.find?_eq_some_iff_append.1 h
    obtain ⟨report, rfl⟩ := FaultKind.isSource_iff.1 hk
    exact .inr ⟨newer, report, older, hchain, by simpa using hnewer⟩

end Fault

/-! ## Walking into a report -/

namespace Report

theorem map_text_fault (fs : List (Fault ι)) :
    (fs.map fault).map text = fs.map Fault.text := by
  rw [List.map_map]
  rfl

theorem texts_within (contexts : List String) (inner : Report ι) :
    (within contexts inner :: (within contexts inner).behind).map text
      = contexts ++ (inner :: inner.behind).map text := by
  induction contexts with
  | nil => rfl
  | cons context contexts ih =>
    rw [within, List.foldr_cons, ← within, behind_of_source? rfl, List.map_cons, ih, text]
    rfl

/-- A report is a message or a fault, inside contexts. -/
theorem exists_within (r : Report ι) : (∃ contexts text, r = within contexts (.message text)) ∨
    ∃ contexts g, r = within contexts (.fault g) ∧ r.fault? = some g := by
  fun_induction fault? r with
  | case1 text => exact .inl ⟨[], text, rfl⟩
  | case2 outer inner ih =>
    rcases ih with ⟨contexts, text, rfl⟩ | ⟨contexts, g, rfl, hg⟩
    · exact .inl ⟨outer :: contexts, text, rfl⟩
    · exact .inr ⟨outer :: contexts, g, rfl, hg⟩
  | case3 g => exact .inr ⟨[], g, rfl, rfl⟩

theorem trail_of_source?_eq_none {r : Report ι} (h : r.source? = none) : r.trail = [r.text] := by
  cases r with
  | message text => rfl
  | context text inner => cases h
  | fault f =>
    cases f with
    | root m k => cases k <;> cases h <;> rfl
    | caused m k c => cases k <;> cases h

theorem trail_of_source? {r s : Report ι} (h : r.source? = some s) :
    r.trail = r.text :: s.trail := by
  cases r with
  | message text => cases h
  | context text inner => cases h; rfl
  | fault f =>
    cases f with
    | root m k => cases k <;> cases h; rfl
    | caused m k c => cases k <;> cases h <;> rfl

/-- The trail of a report is what a walk into it meets. -/
theorem trail_eq (r : Report ι) : r.trail = (r :: r.behind).map text := by
  fun_induction Report.behind r with
  | case1 r h => rw [trail_of_source?_eq_none h]; rfl
  | case2 r s h ih => rw [trail_of_source? h, ih]; rfl

end Report

/-! ## What is met -/

namespace Fault

theorem texts_behind {f : Fault ι} {newer older : List (FaultKind ι)} {contexts : List String}
    {inner : Report ι} (hchain : f.chain = newer ++ .source (.within contexts inner) :: older)
    (hnewer : ∀ k ∈ newer, ¬ k.isSource) :
    (Report.fault f).behind.map Report.text = (displays f.chain).tail.take newer.length
      ++ (contexts ++ (inner :: inner.behind).map Report.text) := by
  rw [behind_of_chain_eq hchain hnewer, List.map_append, Report.texts_within, Report.map_text_fault,
    tail_displays_chain, List.map_take]

theorem Meets.eq {f : Fault ι} {ds : List String} (h : f.Meets ds) :
    (Report.fault f).behind.map Report.text = ds := by
  induction h with
  | causes hplain => rw [behind_of_plain hplain, tail_displays_chain, Report.map_text_fault]
  | messages hchain hnewer =>
    rw [texts_behind hchain hnewer, Report.behind_of_source?_eq_none rfl]
    rfl
  | wrapped hchain hnewer _ ih =>
    rw [texts_behind hchain hnewer, List.map_cons, ih]
    rfl

theorem exists_meets (f : Fault ι) : ∃ ds, f.Meets ds := by
  rcases f.exists_first_source with hplain | ⟨newer, report, older, hchain, hnewer⟩
  · exact ⟨_, .causes hplain⟩
  · rcases report.exists_within with ⟨contexts, message, rfl⟩ | ⟨contexts, g, hreport, hg⟩
    · exact ⟨_, .messages hchain hnewer⟩
    · have hlt : sizeOf g < sizeOf f := by
        have hsource := sizeOf_lt_of_mem_chain (hchain ▸ List.mem_append_right newer
          List.mem_cons_self : FaultKind.source report ∈ f.chain)
        have hwrapped := report.sizeOf_lt_of_fault? hg
        simp only [FaultKind.source.sizeOf_spec] at hsource
        omega
      obtain ⟨inner, hinner⟩ := g.exists_meets
      exact ⟨_, .wrapped (hreport ▸ hchain) hnewer hinner⟩
termination_by sizeOf f

/-- A walk from a fault meets what the members of its chain say. -/
theorem leadsOn (f : Fault ι) : f.LeadsOn where
  meets ds := by
    obtain ⟨ds', h⟩ := f.exists_meets
    constructor
    · rintro rfl
      exact h.eq ▸ h
    · exact Meets.eq
  trail := by
    have htrail := (Report.fault f).trail_eq
    exact (List.cons.inj htrail).2.symm
  passes newer report older hchain hnewer := by
    have hbehind := behind_of_chain_eq hchain hnewer
    refine ⟨hbehind, fun c hc hmem => ?_⟩
    rw [hbehind, List.mem_append, List.mem_map] at hmem
    refine hmem.resolve_left ?_
    rintro ⟨d, hd, heq⟩
    obtain rfl := Report.fault.inj heq
    exact List.disjoint_take_drop f.causes_nodup (Nat.le_refl _) hd hc
  tells := f.tells

-- the text of the source has its cause in it, but the walk does not come there
example : (Fault.caused () (.adhoc "reading") (.caused () (.source (.context "at 3:5"
    (.message "no model"))) (.root () (.adhoc "opening")))).trail
      = ["at 3:5: opening", "at 3:5", "no model"] := rfl

end Fault

end SchemaCatalog
