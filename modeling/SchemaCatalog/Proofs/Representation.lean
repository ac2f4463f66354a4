import SchemaCatalog.Proofs.Counting

/-!
# Memory has what the slots hold

A memory represents slots if each of its slots has the handle to the cell at the mark of the fault
there and its heap tracks these faults.  While a step is under way the heap also tracks the faults
that were taken out of slots, whose handles are given up or put elsewhere.  Every step is answered
alike on both sides and leaves them so.

    m.Represents h [] → the answers to s agree and the states after it               (Represents.step)
    m.Represents h [] → (m.run steps).Represents (h.run steps) []                    (Represents.run)
-/

namespace SchemaCatalog

/-! ## Slots -/

namespace Handles

variable {h : Handles} {slot other : Nat} {f g : Fault Nat}

/-- The faults in the slots. -/
def faults (h : Handles) : List (Fault Nat) :=
  h.slots.filterMap id

theorem get?_eq_some_iff : h.get? slot = some f ↔ h.slots[slot]? = some (some f) :=
  Option.join_eq_some_iff

theorem mem_faults : f ∈ h.faults ↔ ∃ slot, h.get? slot = some f := by
  rw [faults, List.mem_filterMap]
  simp only [id, exists_eq_right, List.mem_iff_getElem?, get?_eq_some_iff]

theorem length_clear : (h.clear slot).slots.length = h.slots.length :=
  List.length_set

theorem get?_clear_self : (h.clear slot).get? slot = none := by
  rw [get?, clear, List.getElem?_set_self']
  cases h.slots[slot]? <;> rfl

theorem get?_clear_of_ne (hne : other ≠ slot) : (h.clear slot).get? other = h.get? other := by
  rw [get?, clear, List.getElem?_set_ne hne.symm, get?]

theorem get?_clear_eq_some_iff :
    (h.clear slot).get? other = some f ↔ other ≠ slot ∧ h.get? other = some f := by
  by_cases hne : other = slot
  · rw [hne, get?_clear_self]
    simp
  · rw [get?_clear_of_ne hne]
    exact (and_iff_right hne).symm

theorem lt_length (hf : h.get? slot = some f) : slot < h.slots.length :=
  (List.getElem?_eq_some_iff.1 (get?_eq_some_iff.1 hf)).1

theorem get?_hold (hlt : slot < h.slots.length) : (h.hold g).get? slot = h.get? slot := by
  rw [get?, hold, List.getElem?_append_left hlt, get?]

theorem get?_make {kind : FaultKind Nat} (hlt : slot < h.slots.length) :
    (h.make kind).get? slot = h.get? slot :=
  get?_hold hlt

theorem faults_hold : (h.hold f).faults = h.faults ++ [f] := by
  simp [faults, hold]

theorem perm_filterMap_set {α : Type} (l : List (Option α)) (i : Nat) :
    (l[i]?.join.toList ++ (l.set i none).filterMap id).Perm (l.filterMap id) := by
  induction l generalizing i with
  | nil => exact .nil
  | cons o l ih =>
    cases i with
    | zero => cases o <;> exact .refl _
    | succ i =>
      cases o with
      | none => exact ih i
      | some a => exact List.perm_middle.trans ((ih i).cons a)

/-- A fault taken out of a slot is no longer among those in the slots. -/
theorem perm_faults_clear (h : Handles) (slot : Nat) :
    ((h.get? slot).toList ++ (h.clear slot).faults).Perm h.faults :=
  perm_filterMap_set h.slots slot

theorem holds_iff {mark : Nat} : h.holds mark = true ↔ ∃ g ∈ h.faults, mark ∈ g.marks := by
  simp [holds, faults, Option.any_eq_true]

end Handles

/-! ## Handles and memory -/

namespace Heap

theorem next_allocate (h : Heap) (kind : CellKind) : (h.allocate kind).next = h.next + 1 :=
  List.length_append

theorem next_release (h : Heap) (handles : List Nat) : (h.release handles).next = h.next := by
  fun_induction h.release handles with
  | case1 => rfl
  | case2 h a handles hnone ih => exact ih
  | case3 h a handles c hc hshared ih => exact ih.trans next_put
  | case4 h a handles c hc hlast ih => exact ih.trans next_put

end Heap

/-- An answer as memory gives it. -/
def HandleAnswer.address : HandleAnswer → MemoryAnswer
  | .held f => .held f.mark
  | .dropped wasFull => .dropped wasFull
  | .emptySlot => .emptySlot
  | .refused reason => .refused reason

/-- The memory has the faults of the slots, each at its mark, and those taken out of slots. -/
structure Memory.Represents (m : Memory) (h : Handles) (taken : List (Fault Nat)) : Prop where
  next : m.heap.next = h.next
  slots : m.slots = h.slots.map (Option.map Fault.mark)
  tracks : m.heap.Tracks (taken ++ h.faults)

namespace Memory.Represents

variable {m : Memory} {h : Handles} {taken : List (Fault Nat)} {c e f : Fault Nat}

theorem get? (hr : m.Represents h taken) (slot : Nat) :
    m.get? slot = (h.get? slot).map Fault.mark := by
  rw [Memory.get?, Handles.get?, hr.slots, List.getElem?_map]
  cases h.slots[slot]? <;> rfl

/-- Taking a handle out of a slot. -/
theorem clear (hr : m.Represents h taken) (slot : Nat) :
    (m.clear slot).Represents (h.clear slot) ((h.get? slot).toList ++ taken) where
  next := hr.next
  slots := by rw [Memory.clear, hr.slots, Handles.clear, List.map_set]; rfl
  tracks := by
    refine hr.tracks.perm ?_
    rw [List.append_assoc]
    exact (List.perm_append_comm_assoc ..).trans
      ((h.perm_faults_clear slot).append_left taken)

/-- Giving up the handles that were taken out. -/
theorem release (hr : m.Represents h taken) :
    (m.release (taken.map Fault.mark)).Represents h [] where
  next := (Heap.next_release ..).trans hr.next
  slots := hr.slots
  tracks := hr.tracks.release

/-- Putting a handle into a new slot. -/
theorem held {heap : Heap} (hr : Represents { m with heap } h [f]) :
    (m.held heap f.mark).1.Represents (h.hold f) [] where
  next := hr.next
  slots := by rw [Memory.held, hr.slots, Handles.hold, List.map_append]; rfl
  tracks := by
    rw [Handles.faults_hold]
    exact hr.tracks.perm (List.perm_append_singleton f h.faults)

/-- Making a fault of a kind, which takes over the handle to what it reports. -/
theorem made {k : FaultKind Nat} (hr : m.Represents h k.wrapped?.toList) :
    (m.made k.cell).2 = (h.made k).2.address ∧ (m.made k.cell).1.Represents (h.made k).1 [] := by
  constructor
  · show MemoryAnswer.held m.heap.next = .held h.next
    rw [hr.next]
  · have htracks := hr.tracks.allocate
    rw [hr.next] at htracks
    have hnew : ({ m with heap := m.heap.allocate k.cell }).Represents
        { h with next := h.next + 1 } [.root h.next k] :=
      ⟨by rw [Heap.next_allocate, hr.next], hr.slots, htracks⟩
    have hheld := hnew.held
    rw [Fault.mark_root, ← hr.next] at hheld
    rw [Memory.made, Handles.made, Handles.make, ← hr.next]
    exact hheld

/-- The count tells whether something else holds a fault that was taken out of its slot. -/
theorem count_eq_one (hr : m.Represents h [c, e]) :
    m.heap.count c.mark = 1 ↔ ¬ (h.holds c.mark ∨ c.mark ∈ e.marks) := by
  have hone : m.heap.count c.mark = 1 ↔ ∀ g ∈ e :: h.faults, c.mark ∉ g.marks :=
    Heap.Tracks.count_eq_one hr.tracks
  rw [hone, Handles.holds_iff, List.forall_mem_cons]
  simp only [not_or, not_exists, not_and]
  exact and_comm

/-- So the count decides whether it is refused as shared. -/
theorem context_eq (hr : m.Represents h [c, e]) :
    h.context e c = if m.heap.count c.mark = 1 then e.withCause c else .error .shared := by
  by_cases hone : m.heap.count c.mark = 1
  · rw [if_pos hone, Handles.context_of_alone (hr.count_eq_one.1 hone)]
  · rw [if_neg hone, Handles.context_refused_shared (not_not.1 (mt hr.count_eq_one.2 hone))]

/-- Whether a fault can be given a cause, memory tells by its count as the slots tell by what they
hold. -/
theorem attach (hr : m.Represents h [c, e]) :
    (∀ reason, h.context e c = .error reason → m.heap.attach c.mark e.mark = .error reason) ∧
    (∀ f, h.context e c = .ok f → ∃ heap, m.heap.attach c.mark e.mark = .ok heap ∧
      f.mark = c.mark ∧ Represents { m with heap } h [f]) := by
  have hcell := hr.tracks.get?_mark (f := c) (by simp)
  rw [hr.context_eq]
  by_cases hone : m.heap.count c.mark = 1
  · rw [if_pos hone]
    rw [hone] at hcell
    cases c with
    | root a k =>
      refine ⟨fun reason hreason => (nomatch hreason), fun f hf => ?_⟩
      obtain rfl := Except.ok.inj hf
      exact ⟨_, Heap.attach_root hcell e, rfl, Heap.next_put.trans hr.next, hr.slots,
        hr.tracks.attach hone⟩
    | caused a k cause =>
      refine ⟨fun reason hreason => ?_, fun f hf => by cases hf⟩
      obtain rfl := Except.error.inj hreason
      exact Heap.attach_caused hcell e.mark
  · rw [if_neg hone]
    refine ⟨fun reason hreason => ?_, fun f hf => by cases hf⟩
    obtain rfl := Except.error.inj hreason
    exact Heap.attach_shared hcell hone e.mark

end Memory.Represents

/-! ## Steps -/

theorem Report.fault?_ofContexts (message : String) (contexts : List String) :
    (ofContexts message contexts : Report Nat).fault? = none := by
  suffices ∀ inner : Report Nat, inner.fault? = none →
      (contexts.foldl (fun inner text => .context text inner) inner).fault? = none from
    this (.message message) rfl
  induction contexts with
  | nil => exact fun _ h => h
  | cons text contexts ih => exact fun inner h => ih (.context text inner) h

namespace Memory

variable {m : Memory} {h : Handles}

theorem Represents.step_context (hr : m.Represents h []) (cause consequent : Nat) :
    (m.step (.context cause consequent)).2 = (h.step (.context cause consequent)).2.address ∧
    (m.step (.context cause consequent)).1.Represents (h.step (.context cause consequent)).1 [] := by
  have htaken := (hr.clear cause).clear consequent
  have hreleased := htaken.release
  simp only [Memory.step, Handles.step, hr.get?, (hr.clear cause).get?]
  cases he : h.get? cause with
  | none =>
    rw [he, List.append_nil, Option.toList_none, List.append_nil, ← Option.toList_map] at hreleased
    refine ⟨rfl, ?_⟩
    simpa using hreleased
  | some e =>
    cases hc : (h.clear cause).get? consequent with
    | none =>
      rw [he, hc] at hreleased
      exact ⟨rfl, hreleased⟩
    | some c =>
      rw [he, hc] at htaken hreleased
      obtain ⟨hrefused, hattached⟩ := htaken.attach
      simp only [Option.map_some]
      cases hcontext : ((h.clear cause).clear consequent).context e c with
      | error reason =>
        rw [hrefused reason hcontext]
        exact ⟨rfl, hreleased⟩
      | ok f =>
        obtain ⟨heap, hheap, hmark, hrep⟩ := hattached f hcontext
        rw [hheap, ← hmark]
        exact ⟨rfl, hrep.held⟩

/-- Memory answers every step as the slots do and keeps having their faults. -/
theorem Represents.step (hr : m.Represents h []) (s : HandleStep) :
    (m.step s).2 = (h.step s).2.address ∧ (m.step s).1.Represents (h.step s).1 [] := by
  cases s with
  | notFound entity name => exact hr.made (k := .notFound entity name)
  | invalidSchema message => exact hr.made (k := .invalidSchema message)
  | adhoc message => exact hr.made (k := .adhoc message)
  | source message contexts =>
    refine made (k := .source (.ofContexts message contexts)) ?_
    rw [FaultKind.wrapped?, Report.fault?_ofContexts]
    exact hr
  | rewrap slot =>
    simp only [Memory.step, Handles.step, hr.get?]
    cases hf : h.get? slot with
    | none => exact ⟨rfl, hr⟩
    | some f =>
      have htaken := hr.clear slot
      rw [hf] at htaken
      exact htaken.made (k := .source (.fault f))
  | clone slot =>
    simp only [Memory.step, Handles.step, hr.get?]
    cases hf : h.get? slot with
    | none => exact ⟨rfl, hr⟩
    | some f =>
      have hmem : f ∈ h.faults := Handles.mem_faults.2 ⟨slot, hf⟩
      have hretained : Represents { m with heap := m.heap.retain f.mark } h [f] :=
        ⟨Heap.next_put.trans hr.next, hr.slots, hr.tracks.retain hmem⟩
      exact ⟨rfl, hretained.held⟩
  | drop slot =>
    have hreleased := (hr.clear slot).release
    rw [List.append_nil] at hreleased
    simp only [Memory.step, Handles.step, hr.get?, Option.isSome_map]
    refine ⟨rfl, ?_⟩
    rwa [Option.toList_map]
  | context cause consequent => exact hr.step_context cause consequent

/-- Memory and slots keep having the same faults. -/
theorem Represents.run (hr : m.Represents h []) (steps : List HandleStep) :
    (m.run steps).Represents (h.run steps) [] := by
  induction steps generalizing m h with
  | nil => exact hr
  | cons s steps ih => exact ih (hr.step s).2

theorem represents_empty : ({} : Memory).Represents {} [] where
  next := rfl
  slots := rfl
  tracks := ⟨by simp [Handles.faults], fun _ => rfl, fun _ _ hc => by cases hc⟩

end Memory

end SchemaCatalog
