import Mathlib.Data.List.Basic
import SchemaCatalog.Fault.Memory

/-!
# The parts of a fault

A fault holds others, as its cause and in the report of a source, and those hold others again.  In
memory each part has a cell of its own, and what lies there is determined by the mark: two faults
with one mark that both lie in a heap are the same.  No fault is part of itself.

    f.marks = f.parts.map mark                                       (Fault.marks_eq)
    f and g in h → f.mark = g.mark → f = g                           (Fault.eq_of_storedIn)
    f in h → d ∈ f.direct → f.mark ∉ d.marks                         (Fault.mark_notMem_of_direct)
-/

namespace SchemaCatalog

variable {ι : Type}

/-! ## What a fault holds -/

/-- The fault in a report, if there is one. -/
def Report.fault? : Report ι → Option (Fault ι)
  | .message _ => none
  | .context _ inner => inner.fault?
  | .fault f => some f

/-- The fault in the report of a source. -/
def FaultKind.wrapped? : FaultKind ι → Option (Fault ι)
  | .source report => report.fault?
  | .adhoc _ | .notFound _ _ | .invalidSchema _ => none

/-- The faults that a fault holds itself. -/
def Fault.direct (f : Fault ι) : List (Fault ι) :=
  f.kind.wrapped?.toList ++ f.cause?.toList

mutual

/-- A fault and all that it holds, itself or through others. -/
def Fault.parts : Fault ι → List (Fault ι)
  | .root m k => .root m k :: k.parts
  | .caused m k c => .caused m k c :: k.parts ++ c.parts

def FaultKind.parts : FaultKind ι → List (Fault ι)
  | .source report => report.parts
  | .adhoc _ | .notFound _ _ | .invalidSchema _ => []

def Report.parts : Report ι → List (Fault ι)
  | .message _ => []
  | .context _ inner => inner.parts
  | .fault f => f.parts

end

mutual

theorem Fault.marks_eq : ∀ f : Fault ι, f.marks = f.parts.map Fault.mark
  | .root m k => by
    rw [Fault.marks, Fault.parts, k.marks_eq, List.map_cons, Fault.mark]
  | .caused m k c => by
    rw [Fault.marks, Fault.parts, k.marks_eq, c.marks_eq, List.map_append, List.map_cons,
      Fault.mark]

theorem FaultKind.marks_eq : ∀ k : FaultKind ι, k.marks = k.parts.map Fault.mark
  | .source report => report.marks_eq
  | .adhoc _ | .notFound _ _ | .invalidSchema _ => rfl

theorem Report.marks_eq : ∀ r : Report ι, r.marks = r.parts.map Fault.mark
  | .message _ => rfl
  | .context _ inner => inner.marks_eq
  | .fault f => f.marks_eq

end

theorem Report.parts_eq : ∀ r : Report ι, r.parts = r.fault?.toList.flatMap Fault.parts
  | .message _ => rfl
  | .context _ inner => inner.parts_eq
  | .fault f => by simp [parts, fault?]

theorem FaultKind.parts_eq (k : FaultKind ι) : k.parts = k.wrapped?.toList.flatMap Fault.parts := by
  cases k with
  | source report => exact report.parts_eq
  | adhoc message => rfl
  | notFound entity name => rfl
  | invalidSchema message => rfl

namespace Fault

theorem mark_root (m : ι) (k : FaultKind ι) : (root m k).mark = m := rfl

theorem mark_caused (m : ι) (k : FaultKind ι) (c : Fault ι) : (caused m k c).mark = m := rfl

theorem direct_root (m : ι) (k : FaultKind ι) : (root m k).direct = k.wrapped?.toList :=
  List.append_nil _

theorem direct_caused (m : ι) (k : FaultKind ι) (c : Fault ι) :
    (caused m k c).direct = k.wrapped?.toList ++ [c] := rfl

theorem parts_eq (f : Fault ι) : f.parts = f :: f.direct.flatMap parts := by
  cases f with
  | root m k => rw [parts, direct_root, k.parts_eq]
  | caused m k c => simp [parts, direct_caused, k.parts_eq]

theorem mem_parts {p f : Fault ι} : p ∈ f.parts ↔ p = f ∨ ∃ d ∈ f.direct, p ∈ d.parts := by
  rw [parts_eq, List.mem_cons, List.mem_flatMap]

theorem self_mem_parts (f : Fault ι) : f ∈ f.parts :=
  mem_parts.2 (.inl rfl)

theorem mem_parts_of_direct {p d f : Fault ι} (hd : d ∈ f.direct) (hp : p ∈ d.parts) :
    p ∈ f.parts :=
  mem_parts.2 (.inr ⟨d, hd, hp⟩)

end Fault

/-! ## Faults are finite -/

theorem Report.sizeOf_lt_of_fault? : ∀ {r : Report ι} {f : Fault ι},
    r.fault? = some f → sizeOf f < sizeOf r
  | .context text inner, f, h => by
    have := sizeOf_lt_of_fault? (r := inner) h
    simp only [context.sizeOf_spec]
    omega
  | .fault g, f, h => by
    obtain rfl : g = f := Option.some.inj h
    simp

theorem FaultKind.sizeOf_lt_of_wrapped? {k : FaultKind ι} {f : Fault ι} (h : k.wrapped? = some f) :
    sizeOf f < sizeOf k := by
  cases k with
  | source report =>
    have := report.sizeOf_lt_of_fault? h
    simp only [source.sizeOf_spec]
    omega
  | adhoc | notFound | invalidSchema => cases h

namespace Fault

variable {d f p : Fault ι}

theorem sizeOf_lt_of_direct (h : d ∈ f.direct) : sizeOf d < sizeOf f := by
  cases f with
  | root m k =>
    rw [direct_root, Option.mem_toList] at h
    have := k.sizeOf_lt_of_wrapped? h
    simp only [root.sizeOf_spec]
    omega
  | caused m k c =>
    rw [direct_caused, List.mem_append, Option.mem_toList, List.mem_singleton] at h
    simp only [caused.sizeOf_spec]
    rcases h with h | rfl
    · have := k.sizeOf_lt_of_wrapped? h
      omega
    · omega

/-- What holds of a fault once it holds of those that it holds itself is so of every fault. -/
theorem direct_induction {P : Fault ι → Prop} (h : ∀ f, (∀ d ∈ f.direct, P d) → P f) (f : Fault ι) :
    P f :=
  h f fun d _hd => direct_induction h d
termination_by f
decreasing_by exact sizeOf_lt_of_direct _hd

theorem sizeOf_le_of_mem_parts (h : p ∈ f.parts) : sizeOf p ≤ sizeOf f := by
  induction f using direct_induction with
  | h f ih =>
    rcases mem_parts.1 h with rfl | ⟨d, hd, hp⟩
    · exact Nat.le_refl _
    · exact Nat.le_of_lt (Nat.lt_of_le_of_lt (ih d hd hp) (sizeOf_lt_of_direct hd))

theorem mem_parts_trans {q : Fault ι} (hq : q ∈ p.parts) (hp : p ∈ f.parts) : q ∈ f.parts := by
  induction f using direct_induction with
  | h f ih =>
    rcases mem_parts.1 hp with rfl | ⟨d, hd, hp⟩
    · exact hq
    · exact mem_parts_of_direct hd (ih d hd hp)

/-- A part of a fault other than itself is held by some part. -/
theorem exists_holder (h : p ∈ f.parts) : p = f ∨ ∃ q ∈ f.parts, p ∈ q.direct := by
  induction f using direct_induction with
  | h f ih =>
    rcases mem_parts.1 h with rfl | ⟨d, hd, hp⟩
    · exact .inl rfl
    · rcases ih d hd hp with rfl | ⟨q, hq, hpq⟩
      · exact .inr ⟨f, f.self_mem_parts, hd⟩
      · exact .inr ⟨q, mem_parts_of_direct hd hq, hpq⟩

end Fault

/-! ## Faults in memory -/

theorem Fault.ext {f g : Fault ι} (hmark : f.mark = g.mark) (hkind : f.kind = g.kind)
    (hcause : f.cause? = g.cause?) : f = g := by
  cases f <;> cases g <;> simp_all [Fault.mark, Fault.kind, Fault.cause?]

theorem Report.handle?_cell : ∀ r : Report Nat, r.cell.handle? = r.fault?.map Fault.mark
  | .message _ => rfl
  | .context _ inner => inner.handle?_cell
  | .fault _ => rfl

theorem FaultKind.handle?_cell (k : FaultKind Nat) : k.cell.handle? = k.wrapped?.map Fault.mark := by
  cases k with
  | source report => exact report.handle?_cell
  | adhoc message => rfl
  | notFound entity name => rfl
  | invalidSchema message => rfl

/-- Reports with the same cell are the same if the faults in them are. -/
theorem Report.eq_of_cell : ∀ {r s : Report Nat}, r.cell = s.cell →
    (∀ f ∈ r.fault?, ∀ g ∈ s.fault?, f.mark = g.mark → f = g) → r = s
  | .message _, .message _, h, _ => by
    cases h
    rfl
  | .context _ _, .context _ _, h, hfault => by
    injection h with htext hinner
    rw [htext, eq_of_cell hinner hfault]
  | .fault f, .fault g, h, hfault => by
    injection h with hmark
    rw [hfault f rfl g rfl hmark]

theorem FaultKind.eq_of_cell : ∀ {k l : FaultKind Nat}, k.cell = l.cell →
    (∀ f ∈ k.wrapped?, ∀ g ∈ l.wrapped?, f.mark = g.mark → f = g) → k = l
  | .source _, .source _, h, hfault => by
    injection h with hreport
    rw [Report.eq_of_cell hreport hfault]
  | .adhoc _, .adhoc _, h, _ | .notFound _ _, .notFound _ _, h, _
  | .invalidSchema _, .invalidSchema _, h, _ => by
    cases h
    rfl

namespace Fault

/-- The cell of a fault to which there are so many handles. -/
def cell (f : Fault Nat) (count : Nat) : Cell :=
  ⟨count, f.kind.cell, f.cause?.map mark⟩

theorem handles_cell (f : Fault Nat) (count : Nat) : (f.cell count).handles = f.direct.map mark := by
  simp [cell, Cell.handles, direct, FaultKind.handle?_cell, Option.toList_map]

/-- The fault and all its parts lie in the heap, each at its mark. -/
def StoredIn (f : Fault Nat) (h : Heap) : Prop :=
  ∀ p ∈ f.parts, ∃ count, h.get? p.mark = some (p.cell count)

variable {h : Heap} {d f g p : Fault Nat}

theorem StoredIn.get?_mark (hf : f.StoredIn h) : ∃ count, h.get? f.mark = some (f.cell count) :=
  hf f f.self_mem_parts

theorem StoredIn.of_mem_parts (hf : f.StoredIn h) (hp : p ∈ f.parts) : p.StoredIn h :=
  fun _ hq => hf _ (mem_parts_trans hq hp)

theorem StoredIn.of_direct (hf : f.StoredIn h) (hd : d ∈ f.direct) : d.StoredIn h :=
  hf.of_mem_parts (mem_parts_of_direct hd d.self_mem_parts)

theorem storedIn_iff : f.StoredIn h ↔
    (∃ count, h.get? f.mark = some (f.cell count)) ∧ ∀ d ∈ f.direct, d.StoredIn h := by
  constructor
  · intro hf
    exact ⟨hf.get?_mark, fun d hd => hf.of_direct hd⟩
  · rintro ⟨hself, hdirect⟩ p hp
    rcases mem_parts.1 hp with rfl | ⟨d, hd, hp⟩
    · exact hself
    · exact hdirect d hd p hp

/-- What lies in a heap is known by its mark. -/
theorem eq_of_storedIn (hf : f.StoredIn h) (hg : g.StoredIn h) (hmark : f.mark = g.mark) :
    f = g := by
  induction f using direct_induction generalizing g with
  | h f ih =>
    obtain ⟨m, hm⟩ := hf.get?_mark
    obtain ⟨n, hn⟩ := hg.get?_mark
    have hcell : f.cell m = g.cell n := Option.some.inj (hm.symm.trans (hmark ▸ hn))
    have heq : ∀ d ∈ f.direct, ∀ e ∈ g.direct, d.mark = e.mark → d = e := fun d hd e he =>
      ih d hd (hf.of_direct hd) (hg.of_direct he)
    refine Fault.ext hmark (FaultKind.eq_of_cell (congrArg Cell.kind hcell) ?_) ?_
    · intro d hd e he
      exact heq d (List.mem_append_left _ (Option.mem_toList.2 hd)) e
        (List.mem_append_left _ (Option.mem_toList.2 he))
    · have hcause : f.cause?.map mark = g.cause?.map mark := congrArg Cell.cause hcell
      cases hf : f.cause? <;> cases hg : g.cause? <;> simp only [hf, hg] at hcause
      case none.none => rfl
      case none.some => cases hcause
      case some.none => cases hcause
      case some.some d e =>
        rw [heq d (by simp [direct, hf]) e (by simp [direct, hg]) (Option.some.inj hcause)]

/-- A fault does not hold itself. -/
theorem mark_notMem_of_direct (hf : f.StoredIn h) (hd : d ∈ f.direct) : f.mark ∉ d.marks := by
  rw [marks_eq, List.mem_map]
  rintro ⟨p, hp, hmark⟩
  obtain rfl : p = f := eq_of_storedIn ((hf.of_direct hd).of_mem_parts hp) hf hmark
  exact absurd (sizeOf_le_of_mem_parts hp) (Nat.not_le.2 (sizeOf_lt_of_direct hd))

end Fault

end SchemaCatalog
