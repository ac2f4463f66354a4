import Mathlib.Data.List.Forall2
import SchemaCatalog.Fault.Outline
import SchemaCatalog.Proofs.Sharing

/-!
# Context upon context

A fault is given one fault after another as context, each of them new and held nowhere else.  None
is refused, and what comes of it tells of all of them, the last one first
(`Handles.giveContexts_tells`).

    e in context c, that in context d        d: c: e

What a fault tells is read off its chain alone (`Fault.tells`).  A fault inside the report of a
source is not in the chain: it shows in the text of the source if it is outermost, and else not at
all.
-/

namespace SchemaCatalog

/-! ## What a fault tells -/

section

variable {ι : Type}

/-- The fault tells of these failures, the newest first. -/
structure Fault.Tells (f : Fault ι) (members : List (FaultKind ι)) : Prop where
  text : f.text = String.intercalate ": " (members.map FaultKind.text)
  /-- A source says what is outermost in its report. -/
  outermost : ∀ report, .source report ∈ members →
    report.trail.head? = some (FaultKind.source report).text
  debug : f.debug false = f.text
  isSource : f.isSource ↔ ∃ report, .source report ∈ members
  isNotFound : f.isNotFound ↔ ∃ entity name, .notFound entity name ∈ members
  isInvalidSchema : f.isInvalidSchema ↔ ∃ message, .invalidSchema message ∈ members
  missing : ∀ entity name, f.missing? = some (entity, name) ↔
    ∃ newer older, members = newer ++ .notFound entity name :: older ∧
      ∀ entity name, .notFound entity name ∉ newer
  missing_none : f.missing? = none ↔ f.isNotFound = false

namespace FaultKind

theorem isSource_iff {k : FaultKind ι} : k.isSource ↔ ∃ report, k = .source report := by
  cases k <;> simp [isSource]

theorem isNotFound_iff {k : FaultKind ι} :
    k.isNotFound ↔ ∃ entity name, k = .notFound entity name := by
  cases k <;> simp [isNotFound]

theorem isInvalidSchema_iff {k : FaultKind ι} :
    k.isInvalidSchema ↔ ∃ message, k = .invalidSchema message := by
  cases k <;> simp [isInvalidSchema]

theorem missing?_eq_some_iff {k : FaultKind ι} {entity : EntityKind} {name : String} :
    k.missing? = some (entity, name) ↔ k = .notFound entity name := by
  cases k <;> simp [missing?]

theorem missing?_eq_none_iff {k : FaultKind ι} : k.missing? = none ↔ k.isNotFound = false := by
  cases k <;> simp [missing?, isNotFound]

end FaultKind

theorem Report.head?_trail (report : Report ι) : report.trail.head? = some report.text := by
  cases report with
  | message | context | fault => rw [trail, List.head?_cons, text]

theorem Fault.missing?_eq_some_iff {f : Fault ι} {entity : EntityKind} {name : String} :
    f.missing? = some (entity, name) ↔ ∃ newer older,
      f.chain = newer ++ .notFound entity name :: older ∧
        ∀ entity name, .notFound entity name ∉ newer := by
  have hnone : ∀ newer : List (FaultKind ι), (∀ k ∈ newer, k.missing? = none) ↔
      ∀ entity name, .notFound entity name ∉ newer := by
    intro newer
    simp only [FaultKind.missing?_eq_none_iff, Bool.eq_false_iff, ne_eq, FaultKind.isNotFound_iff]
    grind
  rw [missing?, List.findSome?_eq_some_iff]
  simp only [FaultKind.missing?_eq_some_iff, hnone]
  grind

/-- A fault tells of its chain. -/
theorem Fault.tells (f : Fault ι) : f.Tells f.chain where
  text := f.text_eq
  outermost report _ := report.head?_trail
  debug := rfl
  isSource := by
    simp only [Fault.isSource, List.any_eq_true, FaultKind.isSource_iff]
    grind
  isNotFound := by
    simp only [Fault.isNotFound, List.any_eq_true, FaultKind.isNotFound_iff]
    grind
  isInvalidSchema := by
    simp only [Fault.isInvalidSchema, List.any_eq_true, FaultKind.isInvalidSchema_iff]
    grind
  missing _ _ := missing?_eq_some_iff
  missing_none := by
    rw [Fault.missing?, List.findSome?_eq_none_iff, Fault.isNotFound, List.any_eq_false]
    simp only [FaultKind.missing?_eq_none_iff, Bool.not_eq_true]

end

/-! ## Giving contexts -/

namespace Handles

/-- Gives the fault of a slot those of others as context, one after the other.  With the slots comes
the number of the one that holds the result. -/
def giveContexts (h : Handles) (slot : Nat) : List Nat → Handles × Nat
  | [] => (h, slot)
  | other :: others => (h.step (.context slot other)).1.giveContexts h.slots.length others

/-- The slot holds a fault without a cause, and nothing else holds it. -/
structure HoldsNew (h : Handles) (slot : Nat) (c : Fault Nat) : Prop where
  held : h.get? slot = some c
  bare : c.cause? = none
  alone : (h.clear slot).holds c.mark = false

variable {h : Handles} {slot other : Nat} {c e f : Fault Nat}

theorem get?_hold_eq_some_iff : (h.hold f).get? slot = some c ↔
    h.get? slot = some c ∨ slot = h.slots.length ∧ f = c := by
  rw [get?_eq_some_iff, get?_eq_some_iff, hold]
  grind

theorem holds_eq_false_iff {mark : Nat} :
    h.holds mark = false ↔ ∀ slot g, h.get? slot = some g → mark ∉ g.marks := by
  rw [← Bool.not_eq_true, holds_iff]
  simp only [mem_faults]
  grind

theorem HoldsNew.marks_eq (hc : h.HoldsNew other c) : c.marks = c.mark :: c.kind.marks := by
  cases c with
  | root => rfl
  | caused => exact absurd hc.bare (Option.some_ne_none _)

theorem HoldsNew.notMem (hc : h.HoldsNew other c) (hne : slot ≠ other) (hf : h.get? slot = some f) :
    c.mark ∉ f.marks :=
  holds_eq_false_iff.1 hc.alone slot f (get?_clear_eq_some_iff.2 ⟨hne, hf⟩)

/-- A new fault is given a cause. -/
theorem HoldsNew.step_context (hc : h.HoldsNew other c) (he : h.get? slot = some e)
    (hne : other ≠ slot) : h.step (.context slot other)
      = ((h.clear slot).clear other).held (.caused c.mark c.kind e) := by
  refine step_context_of_ok he (get?_clear_eq_some_iff.2 ⟨hne, hc.held⟩) ?_
  have hholds : ((h.clear slot).clear other).holds c.mark = false := by
    rw [holds_eq_false_iff]
    intro place g hg
    rw [get?_clear_eq_some_iff, get?_clear_eq_some_iff] at hg
    exact hc.notMem hg.1 hg.2.2
  have hcause : c.mark ∉ e.marks := hc.notMem hne.symm he
  rw [context_of_alone (by simp [hholds, hcause])]
  cases c with
  | root => rfl
  | caused => exact absurd hc.bare (Option.some_ne_none _)

/-- What is new in another slot is so when the step is done. -/
theorem HoldsNew.after_context {other' : Nat} {c' : Fault Nat} (hc' : h.HoldsNew other' c')
    (hc : h.HoldsNew other c) (he : h.get? slot = some e) (hslot : other' ≠ slot)
    (hother : other' ≠ other) :
    (((h.clear slot).clear other).hold (.caused c.mark c.kind e)).HoldsNew other' c' where
  held := get?_hold_eq_some_iff.2 (.inl (get?_clear_eq_some_iff.2
    ⟨hother, get?_clear_eq_some_iff.2 ⟨hslot, hc'.held⟩⟩))
  bare := hc'.bare
  alone := by
    rw [holds_eq_false_iff]
    intro place g hg
    rw [get?_clear_eq_some_iff, get?_hold_eq_some_iff] at hg
    obtain ⟨hplace, hg | ⟨-, rfl⟩⟩ := hg
    · rw [get?_clear_eq_some_iff, get?_clear_eq_some_iff] at hg
      exact hc'.notMem hplace hg.2.2
    · rw [Fault.marks, ← hc.marks_eq, List.mem_append, not_or]
      exact ⟨hc'.notMem hother.symm hc.held, hc'.notMem hslot.symm he⟩

/-- A fault that is given contexts has them in front of its chain. -/
theorem giveContexts_chain {others : List Nat} {cs : List (Fault Nat)} (he : h.get? slot = some e)
    (hcs : List.Forall₂ h.HoldsNew others cs) (hslot : slot ∉ others) (hnodup : others.Nodup) :
    ∃ f, (h.giveContexts slot others).1.get? (h.giveContexts slot others).2 = some f ∧
      f.chain = (cs.map Fault.kind).reverse ++ e.chain := by
  induction others generalizing h slot e cs with
  | nil =>
    obtain rfl := List.forall₂_nil_left_iff.1 hcs
    exact ⟨e, he, rfl⟩
  | cons other others ih =>
    obtain ⟨c, cs, hc, hrest, rfl⟩ := List.forall₂_cons_left_iff.1 hcs
    rw [List.mem_cons, not_or] at hslot
    rw [List.nodup_cons] at hnodup
    have hstep := hc.step_context he (Ne.symm hslot.1)
    have hnext : ((h.clear slot).clear other).slots.length = h.slots.length := by
      rw [length_clear, length_clear]
    have he' : (h.step (.context slot other)).1.get? h.slots.length
        = some (.caused c.mark c.kind e) := by
      rw [hstep]
      exact get?_hold_eq_some_iff.2 (.inr ⟨hnext.symm, rfl⟩)
    have hothers : ∀ other' ∈ others, other' ≠ slot ∧ other' ≠ other := fun other' hmem =>
      ⟨ne_of_mem_of_not_mem hmem hslot.2, ne_of_mem_of_not_mem hmem hnodup.1⟩
    have hrest' : List.Forall₂ (h.step (.context slot other)).1.HoldsNew others cs := by
      rw [hstep]
      exact ((List.forall₂_and_left others cs).2 ⟨hothers, hrest⟩).imp fun _ _ ⟨hne, hc'⟩ =>
        hc'.after_context hc he hne.1 hne.2
    have hslot' : h.slots.length ∉ others := by
      have hlt : ∀ other' ∈ others, other' < h.slots.length :=
        ((List.forall₂_and_left others cs).1 (hrest.imp fun _ _ hc' =>
          ⟨lt_length hc'.held, hc'⟩)).1
      exact fun hmem => Nat.lt_irrefl _ (hlt _ hmem)
    obtain ⟨f, hf, hchain⟩ := ih he' hrest' hslot' hnodup.2
    refine ⟨f, hf, ?_⟩
    rw [hchain, Fault.chain, List.map_cons, List.reverse_cons, List.append_assoc]
    rfl

/-- A fault without a cause is given new faults as context one after the other, and what comes of it
tells of each of them, the last one first. -/
theorem giveContexts_tells {others : List Nat} {cs : List (Fault Nat)} (he : h.get? slot = some e)
    (hroot : e.cause? = none) (hcs : List.Forall₂ h.HoldsNew others cs) (hslot : slot ∉ others)
    (hnodup : others.Nodup) :
    ∃ f, (h.giveContexts slot others).1.get? (h.giveContexts slot others).2 = some f ∧
      f.Tells ((e :: cs).reverse.map Fault.kind) := by
  obtain ⟨f, hf, hchain⟩ := giveContexts_chain he hcs hslot hnodup
  have hmembers : f.chain = (e :: cs).reverse.map Fault.kind := by
    cases e with
    | root => rw [hchain, List.map_reverse, List.map_cons, List.reverse_cons]; rfl
    | caused => exact absurd hroot (Option.some_ne_none _)
  exact ⟨f, hf, hmembers ▸ f.tells⟩

end Handles

/-- A failed search in two slots, a message, a source that reports another failed search, and a
refusal. -/
def contextRun : List HandleStep :=
  [.notFound .model "User", .adhoc "resolving Post", .notFound .enum "Role", .rewrap 2, .clone 0,
    .invalidSchema "Post"]

/-- The search in two slots may be given contexts.  The search that is reported shows in the text
alone. -/
theorem contextRun_tells :
    (Handles.run {} contextRun).HoldsNew 1 (.root 1 (.adhoc "resolving Post")) ∧
    (Handles.run {} contextRun).HoldsNew 3
      (.root 3 (.source (.fault (.root 2 (.notFound .enum "Role"))))) ∧
    ∃ f, ((Handles.run {} contextRun).giveContexts 0 [1, 3]).1.get? 7 = some f ∧
      f.text = "Enum Role not found: resolving Post: Model User not found" ∧ f.isSource ∧
      f.missing? = some (.model, "User") := by
  have hmessage : (Handles.run {} contextRun).HoldsNew 1 (.root 1 (.adhoc "resolving Post")) :=
    ⟨rfl, rfl, rfl⟩
  have hsource : (Handles.run {} contextRun).HoldsNew 3
      (.root 3 (.source (.fault (.root 2 (.notFound .enum "Role"))))) := ⟨rfl, rfl, rfl⟩
  have he : (Handles.run {} contextRun).get? 0 = some (.root 0 (.notFound .model "User")) := rfl
  obtain ⟨f, hf, htells⟩ := Handles.giveContexts_tells he rfl
    (.cons hmessage (.cons hsource .nil)) (by decide) (by decide)
  refine ⟨hmessage, hsource, f, hf, ?_, htells.isSource.2 ⟨_, List.mem_cons_self⟩, ?_⟩
  · rw [htells.text]
    decide +kernel
  · exact (htells.missing _ _).2 ⟨[_, _], [], rfl, by simp [Fault.kind]⟩

end SchemaCatalog
