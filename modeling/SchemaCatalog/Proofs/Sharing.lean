import SchemaCatalog.Proofs.Representation

/-!
# Shared faults stay as they are

Of all that is done with faults only giving one a cause writes to it, and that is refused while
anything else has it: another slot, or a fault in any slot, at any depth, of which it is a cause or
whose report it is.  So what a slot shows changes only by a step that takes it out.  Whether a fault
is held elsewhere is told by the count in its cell, and the count is right at all times.

    after any steps memory and slots mirror each other, and what a further step does
    to them is as `Memory.StepLaw` tells                                  (shared_faults_unchanged)
-/

namespace SchemaCatalog

/-! ## Laws -/

namespace HandleStep

/-- The slots out of which a step takes what they hold. -/
def taken : HandleStep → List Nat
  | .rewrap slot | .drop slot => [slot]
  | .context cause consequent => [cause, consequent]
  | .notFound _ _ | .invalidSchema _ | .adhoc _ | .source _ _ | .clone _ => []

end HandleStep

namespace Memory

/-- The number of handles to a cell, those of slots and those of other cells. -/
def handlesTo (m : Memory) (a : Nat) : Nat :=
  (m.slots.filterMap id).count a + m.heap.handles.count a

/-- The slot has a handle to cells that spell out the fault. -/
def Shows (m : Memory) (slot : Nat) (f : Fault Nat) : Prop :=
  m.get? slot = some f.mark ∧ f.StoredIn m.heap

/-- The memory has exactly the faults of the slots.  No count is wrong, no cell is left over and no
fault is among those that it holds. -/
structure Mirrors (m : Memory) (h : Handles) : Prop where
  full : ∀ slot f, h.get? slot = some f → m.Shows slot f
  empty : ∀ slot, h.get? slot = none → m.get? slot = none
  counted : ∀ a, m.heap.count a = m.handlesTo a
  reached : ∀ a c, m.heap.get? a = some c → ∃ slot f, h.get? slot = some f ∧ a ∈ f.marks
  acyclic : ∀ slot f, h.get? slot = some f → ∀ p ∈ f.parts, ∀ d ∈ p.direct, p.mark ∉ d.marks

/-- What comes of giving the fault `c` of a slot the fault `e` of another as its cause. -/
structure ContextLaw (m : Memory) (h : Handles) (cause consequent : Nat) (e c : Fault Nat)
    (after : Handles × HandleAnswer) : Prop where
  alone : m.handlesTo c.mark = 1 ↔
    ∀ slot g, slot ≠ consequent → h.get? slot = some g → c.mark ∉ g.marks
  succeeds : (∃ f, after.2 = .held f) ↔ m.handlesTo c.mark = 1 ∧ c.cause? = none
  result : ∀ f, after.2 = .held f → after.1 = ((h.clear cause).clear consequent).hold f ∧
    f.mark = c.mark ∧ f.kind = c.kind ∧ f.cause? = some e
  shared : (∃ reason, after.2 = .refused reason ∧
    reason.message = "consequent error must not be shared") ↔ m.handlesTo c.mark ≠ 1
  hasCause : (∃ reason, after.2 = .refused reason ∧
      reason.message = "consequent error must not already have a cause") ↔
    m.handlesTo c.mark = 1 ∧ c.cause?.isSome
  taken : after.1.get? cause = none ∧ after.1.get? consequent = none
  released : ∀ reason, after.2 = .refused reason → after.1 = (h.clear cause).clear consequent

/-- What comes of a step. -/
structure StepLaw (m : Memory) (h : Handles) (s : HandleStep) : Prop where
  answer : (m.step s).2 = (h.step s).2.address
  refused : ∀ reason, (h.step s).2 = .refused reason →
    ∃ cause consequent, s = .context cause consequent
  mirrors : (m.step s).1.Mirrors (h.step s).1
  kept : ∀ slot f, slot ∉ s.taken → h.get? slot = some f →
    (h.step s).1.get? slot = some f ∧ (m.step s).1.Shows slot f
  context : ∀ cause consequent e c, s = .context cause consequent → consequent ≠ cause →
    h.get? cause = some e → h.get? consequent = some c →
    m.ContextLaw h cause consequent e c (h.step s)

end Memory

/-! ## Slots that a step does not take -/

namespace Handles

variable {h : Handles} {slot : Nat} {f : Fault Nat}

section Context

variable {e c : Fault Nat} {cause consequent : Nat}

theorem step_context_of_ok (he : h.get? cause = some e)
    (hc : (h.clear cause).get? consequent = some c)
    (hok : ((h.clear cause).clear consequent).context e c = .ok f) :
    h.step (.context cause consequent) = ((h.clear cause).clear consequent).held f := by
  simp only [step, he, hc, hok]

theorem step_context_of_error {reason : ContextError} (he : h.get? cause = some e)
    (hc : (h.clear cause).get? consequent = some c)
    (herror : ((h.clear cause).clear consequent).context e c = .error reason) :
    h.step (.context cause consequent) =
      ((h.clear cause).clear consequent, .refused reason) := by
  simp only [step, he, hc, herror]

end Context

/-- A step leaves the slots out of which it takes nothing. -/
theorem get?_step {s : HandleStep} (hslot : slot ∉ s.taken) (hf : h.get? slot = some f) :
    (h.step s).1.get? slot = some f := by
  have hlt := lt_length hf
  cases s with
  | notFound | invalidSchema | adhoc | source => exact (get?_make hlt).trans hf
  | rewrap other =>
    have hne : slot ≠ other := fun heq => hslot (heq ▸ List.mem_singleton_self slot)
    have hcleared := get?_clear_eq_some_iff.2 ⟨hne, hf⟩
    rw [step]
    split
    · exact hf
    · exact (get?_make (lt_length hcleared)).trans hcleared
  | clone other =>
    rw [step]
    split
    · exact hf
    · exact (get?_hold hlt).trans hf
  | drop other =>
    have hne : slot ≠ other := fun heq => hslot (heq ▸ List.mem_singleton_self slot)
    exact get?_clear_eq_some_iff.2 ⟨hne, hf⟩
  | context cause consequent =>
    simp only [HandleStep.taken, List.mem_cons, List.not_mem_nil, or_false, not_or] at hslot
    have hcleared : ((h.clear cause).clear consequent).get? slot = some f :=
      get?_clear_eq_some_iff.2 ⟨hslot.2, get?_clear_eq_some_iff.2 ⟨hslot.1, hf⟩⟩
    simp only [step]
    split
    · split
      · exact (get?_hold (lt_length hcleared)).trans hcleared
      · exact hcleared
    · exact hcleared

/-- Nothing is refused but a cause. -/
theorem exists_context_of_refused {s : HandleStep} {reason : ContextError}
    (hreason : (h.step s).2 = .refused reason) :
    ∃ cause consequent, s = .context cause consequent := by
  cases s with
  | context cause consequent => exact ⟨cause, consequent, rfl⟩
  | notFound | invalidSchema | adhoc | source | drop => cases hreason
  | rewrap | clone =>
    rw [step] at hreason
    split at hreason <;> cases hreason

end Handles

/-! ## The laws hold -/

namespace Memory.Represents

variable {m : Memory} {h : Handles} {e c : Fault Nat} {cause consequent : Nat}

theorem count_eq_handlesTo (hr : m.Represents h []) (a : Nat) :
    m.heap.count a = m.handlesTo a := by
  have hslots : (h.slots.map (Option.map Fault.mark)).filterMap id = h.faults.map Fault.mark := by
    rw [Handles.faults, List.filterMap_map, List.map_filterMap]
    rfl
  rw [hr.tracks.counted, handlesTo, hr.slots, hslots, List.nil_append]

theorem mirrors (hr : m.Represents h []) : m.Mirrors h where
  full slot f hf :=
    ⟨by rw [hr.get?, hf, Option.map_some], hr.tracks.stored f (Handles.mem_faults.2 ⟨slot, hf⟩)⟩
  empty slot hslot := by rw [hr.get?, hslot, Option.map_none]
  counted := hr.count_eq_handlesTo
  reached a c hc := by
    obtain ⟨f, hf, ha⟩ := hr.tracks.reached a c hc
    obtain ⟨slot, hslot⟩ := Handles.mem_faults.1 hf
    exact ⟨slot, f, hslot, ha⟩
  acyclic slot f hf p hp d hd :=
    Fault.mark_notMem_of_direct
      ((hr.tracks.stored f (Handles.mem_faults.2 ⟨slot, hf⟩)).of_mem_parts hp) hd

theorem handlesTo_eq_one (hr : m.Represents h []) (hc : h.get? consequent = some c) :
    m.handlesTo c.mark = 1 ↔
      ∀ slot g, slot ≠ consequent → h.get? slot = some g → c.mark ∉ g.marks := by
  have htaken := hr.clear consequent
  rw [hc] at htaken
  have hone : m.heap.count c.mark = 1 ↔ ∀ g ∈ (h.clear consequent).faults, c.mark ∉ g.marks :=
    Heap.Tracks.count_eq_one htaken.tracks
  rw [← hr.count_eq_handlesTo, hone]
  simp only [Handles.mem_faults, Handles.get?_clear_eq_some_iff]
  constructor
  · exact fun hall slot g hne hg => hall g ⟨slot, hne, hg⟩
  · rintro hall g ⟨slot, hne, hg⟩
    exact hall slot g hne hg

/-- The three ways of giving a fault a cause, by the number of handles to it and the cause that it
has. -/
theorem context_cases (hr : m.Represents h []) (hne : consequent ≠ cause)
    (he : h.get? cause = some e) (hc : h.get? consequent = some c) :
    (m.handlesTo c.mark = 1 ∧ c.cause? = none ∧
      ((h.clear cause).clear consequent).context e c = .ok (.caused c.mark c.kind e)) ∨
    (m.handlesTo c.mark = 1 ∧ c.cause?.isSome ∧
      ((h.clear cause).clear consequent).context e c = .error .hasCause) ∨
    (m.handlesTo c.mark ≠ 1 ∧
      ((h.clear cause).clear consequent).context e c = .error .shared) := by
  have htaken := (hr.clear cause).clear consequent
  rw [he, Handles.get?_clear_eq_some_iff.2 ⟨hne, hc⟩] at htaken
  have hcontext : ((h.clear cause).clear consequent).context e c
      = if m.handlesTo c.mark = 1 then e.withCause c else .error .shared :=
    hr.count_eq_handlesTo c.mark ▸ htaken.context_eq
  rw [hcontext]
  by_cases hone : m.handlesTo c.mark = 1
  · rw [if_pos hone]
    cases c with
    | root a k => exact .inl ⟨hone, rfl, rfl⟩
    | caused a k c => exact .inr (.inl ⟨hone, rfl, rfl⟩)
  · exact .inr (.inr ⟨hone, if_neg hone⟩)

theorem contextLaw (hr : m.Represents h []) (hne : consequent ≠ cause)
    (he : h.get? cause = some e) (hc : h.get? consequent = some c) :
    m.ContextLaw h cause consequent e c (h.step (.context cause consequent)) := by
  have halone := hr.handlesTo_eq_one hc
  have hcause : ((h.clear cause).clear consequent).get? cause = none := by
    rw [Handles.get?_clear_of_ne hne.symm, Handles.get?_clear_self]
  have hconsequent : ((h.clear cause).clear consequent).get? consequent = none :=
    Handles.get?_clear_self
  have hlt : ∀ {slot}, slot < h.slots.length →
      slot < ((h.clear cause).clear consequent).slots.length := fun hslot => by
    rwa [Handles.length_clear, Handles.length_clear]
  have hcleared := Handles.get?_clear_eq_some_iff.2 ⟨hne, hc⟩
  rcases hr.context_cases hne he hc with ⟨hone, hnone, hok⟩ | ⟨hone, hsome, herror⟩ | ⟨hmany, herror⟩
  · rw [Handles.step_context_of_ok he hcleared hok]
    exact {
      alone := halone
      succeeds := iff_of_true ⟨_, rfl⟩ ⟨hone, hnone⟩
      result := by
        intro f hf
        cases hf
        exact ⟨rfl, rfl, rfl, rfl⟩
      shared := iff_of_false (fun ⟨_, hreason, _⟩ => (nomatch hreason)) (not_not.2 hone)
      hasCause := iff_of_false (fun ⟨_, hreason, _⟩ => (nomatch hreason))
        fun ⟨_, hsome⟩ => by simp [hnone] at hsome
      taken := ⟨(Handles.get?_hold (hlt (Handles.lt_length he))).trans hcause,
        (Handles.get?_hold (hlt (Handles.lt_length hc))).trans hconsequent⟩
      released := fun _ hreason => (nomatch hreason) }
  · rw [Handles.step_context_of_error he hcleared herror]
    exact {
      alone := halone
      succeeds := iff_of_false (fun ⟨_, hf⟩ => (nomatch hf))
        fun ⟨_, hnone⟩ => by simp [hnone] at hsome
      result := fun _ hf => (nomatch hf)
      shared := iff_of_false (by rintro ⟨_, ⟨⟩, hmessage⟩; exact absurd hmessage (by decide))
        (not_not.2 hone)
      hasCause := iff_of_true ⟨_, rfl, rfl⟩ ⟨hone, hsome⟩
      taken := ⟨hcause, hconsequent⟩
      released := fun _ _ => rfl }
  · rw [Handles.step_context_of_error he hcleared herror]
    exact {
      alone := halone
      succeeds := iff_of_false (fun ⟨_, hf⟩ => (nomatch hf)) fun ⟨hone, _⟩ => hmany hone
      result := fun _ hf => (nomatch hf)
      shared := iff_of_true ⟨_, rfl, rfl⟩ hmany
      hasCause := iff_of_false (by rintro ⟨_, ⟨⟩, hmessage⟩; exact absurd hmessage (by decide))
        fun ⟨hone, _⟩ => hmany hone
      taken := ⟨hcause, hconsequent⟩
      released := fun _ _ => rfl }

theorem stepLaw (hr : m.Represents h []) (s : HandleStep) : m.StepLaw h s where
  answer := (hr.step s).1
  refused _ hreason := Handles.exists_context_of_refused hreason
  mirrors := (hr.step s).2.mirrors
  kept slot f hslot hf :=
    have hkept := Handles.get?_step hslot hf
    ⟨hkept, (hr.step s).2.mirrors.full slot f hkept⟩
  context _ _ _ _ hs hne he hc := hs ▸ hr.contextLaw hne he hc

end Memory.Represents

/-- Whatever is done with faults, memory has those of the slots, and a fault that a step does not
take stays as it is.  A fault is given a cause just if nothing else holds it, neither a slot nor
another fault at any depth, and it has none; it is refused as shared before its cause is looked
at. -/
theorem shared_faults_unchanged (steps : List HandleStep) :
    (Memory.run {} steps).Mirrors (Handles.run {} steps) ∧
    ∀ s, (Memory.run {} steps).StepLaw (Handles.run {} steps) s :=
  have hr := Memory.represents_empty.run steps
  ⟨hr.mirrors, hr.stepLaw⟩

/-- Three faults, and the second of them once more in a slot of its own. -/
def sharedRun : List HandleStep :=
  [.adhoc "root", .adhoc "middle", .adhoc "top", .clone 1]

/-- The second fault gets no cause while it is in two slots, gets one when it is in one, and has one
then. -/
theorem sharedRun_answers :
    ((Memory.run {} sharedRun).step (.context 0 1)).2 = .refused .shared ∧
    ((Memory.run {} (sharedRun ++ [.drop 3])).step (.context 0 1)).2 = .held 1 ∧
    ((Memory.run {} (sharedRun ++ [.drop 3, .context 0 1])).step (.context 2 4)).2 =
      .refused .hasCause :=
  ⟨((shared_faults_unchanged sharedRun).2 _).answer, ((shared_faults_unchanged _).2 _).answer,
    ((shared_faults_unchanged _).2 _).answer⟩

end SchemaCatalog
