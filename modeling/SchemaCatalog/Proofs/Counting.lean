import SchemaCatalog.Proofs.Parts

/-!
# Counted handles

A heap tracks the faults that are held from outside if they lie in it, every cell counts the handles
to it, from outside and from other cells, and no cell is left that nothing leads to.  Making,
copying and giving up handles keeps it so, and so does writing a cause where the count is one.

    h.Tracks (f :: rest) → (h.count f.mark = 1 ↔ ∀ g ∈ rest, f.mark ∉ g.marks)  (Tracks.count_eq_one)
    h.Tracks (fs ++ rest) → (h.release (fs.map mark)).Tracks rest               (Tracks.release)
-/

namespace SchemaCatalog

namespace Heap

variable {h : Heap} {a b : Nat} {c : Cell} {place : Option Cell}

/-! ## Cells of a heap -/

theorem lt_next (hc : h.get? a = some c) : a < h.next :=
  (List.getElem?_eq_some_iff.1 (getElem?_cells hc)).1

theorem get?_put_self (hc : h.get? a = some c) : (h.put a place).get? a = place := by
  rw [get?, put, List.getElem?_set_self (lt_next hc), Option.join_some]

theorem get?_put_of_ne (hab : b ≠ a) : (h.put a place).get? b = h.get? b := by
  rw [get?, put, List.getElem?_set_ne hab.symm, get?]

theorem next_put : (h.put a place).next = h.next :=
  List.length_set

/-- Writing to a cell makes no other. -/
theorem get?_of_get?_put {c' : Cell} (hc : h.get? a = some c)
    (hb : (h.put a place).get? b = some c') : ∃ c', h.get? b = some c' := by
  by_cases hba : b = a
  · exact ⟨c, hba ▸ hc⟩
  · exact ⟨c', by rwa [get?_put_of_ne hba] at hb⟩

theorem count_of_get? (hc : h.get? a = some c) : h.count a = c.count := by
  rw [count, hc, Option.elim_some]

theorem count_put_of_ne (hab : b ≠ a) : (h.put a place).count b = h.count b := by
  rw [count, get?_put_of_ne hab, count]

theorem get?_allocate_next {kind : CellKind} :
    (h.allocate kind).get? h.next = some { count := 1, kind } := by
  rw [allocate, get?, next, List.getElem?_concat_length, Option.join_some]

theorem get?_allocate_of_ne {kind : CellKind} (ha : a ≠ h.next) :
    (h.allocate kind).get? a = h.get? a := by
  rcases Nat.lt_or_gt_of_ne ha with ha | ha
  · rw [get?, allocate, List.getElem?_append_left ha, get?]
  · rw [get?, get?, List.getElem?_eq_none (Nat.le_of_lt ha), allocate, List.getElem?_eq_none]
    rw [List.length_append]
    exact ha

theorem count_next : h.count h.next = 0 := by
  rw [count, get?, next, List.getElem?_eq_none (Nat.le_refl _)]
  rfl

theorem handles_allocate {kind : CellKind} :
    (h.allocate kind).handles = h.handles ++ kind.handle?.toList := by
  simp [handles, allocate, Cell.handlesIn, Cell.handles]

theorem mem_handles : b ∈ h.handles ↔ ∃ a c, h.get? a = some c ∧ b ∈ c.handles := by
  rw [handles, List.mem_flatMap]
  constructor
  · rintro ⟨place, hplace, hb⟩
    obtain ⟨a, ha⟩ := List.mem_iff_getElem?.1 hplace
    cases place with
    | none => cases hb
    | some c => exact ⟨a, c, by rw [get?, ha, Option.join_some], hb⟩
  · rintro ⟨a, c, hc, hb⟩
    exact ⟨some c, List.mem_of_getElem? (getElem?_cells hc), hb⟩

theorem count_flatMap_eq {α : Type} (f : α → List Nat) (l : List α) (b : Nat) :
    (l.flatMap f).count b = l.foldr (fun x n => (f x).count b + n) 0 := by
  induction l with
  | nil => rfl
  | cons x l ih => rw [List.flatMap_cons, List.count_append, ih, List.foldr_cons]

theorem count_handles_put (hc : h.get? a = some c) (place : Option Cell) (b : Nat) :
    (h.put a place).handles.count b + c.handles.count b =
      h.handles.count b + (Cell.handlesIn place).count b := by
  simp only [handles, put, count_flatMap_eq]
  exact foldr_add_set (fun place : Option Cell => (Cell.handlesIn place).count b)
    (getElem?_cells hc) place

end Heap

namespace Fault

variable {h h' : Heap} {f : Fault Nat} {a : Nat}

theorem mem_marks : a ∈ f.marks ↔ a = f.mark ∨ ∃ d ∈ f.direct, a ∈ d.marks := by
  simp only [marks_eq, List.mem_map]
  constructor
  · rintro ⟨p, hp, rfl⟩
    rcases mem_parts.1 hp with rfl | ⟨d, hd, hp⟩
    · exact .inl rfl
    · exact .inr ⟨d, hd, p, hp, rfl⟩
  · rintro (rfl | ⟨d, hd, p, hp, rfl⟩)
    · exact ⟨f, f.self_mem_parts, rfl⟩
    · exact ⟨p, mem_parts_of_direct hd hp, rfl⟩

theorem mark_mem_marks (f : Fault Nat) : f.mark ∈ f.marks :=
  mem_marks.2 (.inl rfl)

/-- A fault stays in a heap of which no cell that it lies in is rewritten. -/
theorem StoredIn.of_get?_eq (hf : f.StoredIn h) (hsame : ∀ a ∈ f.marks, h'.get? a = h.get? a) :
    f.StoredIn h' := by
  intro p hp
  rw [hsame p.mark (f.marks_eq ▸ List.mem_map_of_mem hp)]
  exact hf p hp

theorem StoredIn.put_of_notMem (hf : f.StoredIn h) (ha : a ∉ f.marks) (place : Option Cell) :
    f.StoredIn (h.put a place) :=
  hf.of_get?_eq fun _ hb => Heap.get?_put_of_ne fun hba => ha (hba ▸ hb)

/-- A fault stays in a heap where only a count changes. -/
theorem StoredIn.put_count (hf : f.StoredIn h) {c : Cell} (hc : h.get? a = some c) (n : Nat) :
    f.StoredIn (h.put a (some { c with count := n })) := by
  intro p hp
  obtain ⟨m, hm⟩ := hf p hp
  by_cases hpa : p.mark = a
  · rw [hpa, hc, Option.some.injEq] at hm
    exact ⟨n, by rw [hpa, Heap.get?_put_self hc, hm]; rfl⟩
  · exact ⟨m, by rw [Heap.get?_put_of_ne hpa, hm]⟩

end Fault

namespace Heap

section Attach

variable {h : Heap} {a : Nat} {k : FaultKind Nat}

theorem attach_root (hc : h.get? a = some ((Fault.root a k).cell 1)) (e : Fault Nat) :
    h.attach a e.mark = .ok (h.put a (some ((Fault.caused a k e).cell 1))) := by
  rw [attach, hc]
  rfl

theorem attach_caused {cause : Fault Nat} (hc : h.get? a = some ((Fault.caused a k cause).cell 1))
    (b : Nat) : h.attach a b = .error .hasCause := by
  rw [attach, hc]
  rfl

theorem attach_shared {c : Cell} (hc : h.get? a = some c) (hcount : c.count ≠ 1) (b : Nat) :
    h.attach a b = .error .shared := by
  unfold attach
  split
  · rename_i heq
    rw [hc, Option.some.injEq] at heq
    exact absurd (congrArg Cell.count heq) hcount
  · rename_i heq
    rw [hc, Option.some.injEq] at heq
    exact absurd (congrArg Cell.count heq) hcount
  · rfl

end Attach

/-! ## Tracking -/

/-- The heap keeps these faults, to each of which there is a handle from outside, and nothing
else. -/
structure Tracks (h : Heap) (roots : List (Fault Nat)) : Prop where
  stored : ∀ f ∈ roots, f.StoredIn h
  counted : ∀ a, h.count a = (roots.map Fault.mark).count a + h.handles.count a
  reached : ∀ a c, h.get? a = some c → ∃ f ∈ roots, a ∈ f.marks

namespace Tracks

variable {h : Heap} {roots rest : List (Fault Nat)} {e f : Fault Nat} {a : Nat} {c : Cell}

theorem perm (ht : h.Tracks roots) (hperm : rest.Perm roots) : h.Tracks rest where
  stored f hf := ht.stored f (hperm.mem_iff.1 hf)
  counted a := by rw [ht.counted, (hperm.map Fault.mark).count_eq]
  reached a c hc := by
    obtain ⟨f, hf, ha⟩ := ht.reached a c hc
    exact ⟨f, hperm.mem_iff.2 hf, ha⟩

theorem get?_mark (ht : h.Tracks roots) (hf : f ∈ roots) :
    h.get? f.mark = some (f.cell (h.count f.mark)) := by
  obtain ⟨n, hn⟩ := (ht.stored f hf).get?_mark
  rw [hn, count_of_get? hn]
  rfl

/-- A handle that a cell has belongs to a part of what is held from outside. -/
theorem exists_direct_of_mem_handles (ht : h.Tracks roots) (ha : a ∈ h.handles) :
    ∃ g ∈ roots, ∃ q ∈ g.parts, ∃ d ∈ q.direct, d.mark = a := by
  obtain ⟨b, c, hc, hac⟩ := mem_handles.1 ha
  obtain ⟨g, hg, hb⟩ := ht.reached b c hc
  rw [Fault.marks_eq, List.mem_map] at hb
  obtain ⟨q, hq, rfl⟩ := hb
  obtain ⟨n, hn⟩ := ht.stored g hg q hq
  obtain rfl : q.cell n = c := Option.some.inj (hn.symm.trans hc)
  rw [Fault.handles_cell, List.mem_map] at hac
  obtain ⟨d, hd, hda⟩ := hac
  exact ⟨g, hg, q, hq, d, hd, hda⟩

/-- What is held only inside a fault is held by a cell. -/
theorem mem_handles_of_part (ht : h.Tracks roots) (hf : f ∈ roots) {p : Fault Nat}
    (hp : p ∈ f.parts) (hpf : p ≠ f) : p.mark ∈ h.handles := by
  obtain rfl | ⟨q, hq, hpq⟩ := Fault.exists_holder hp
  · exact absurd rfl hpf
  · obtain ⟨n, hn⟩ := ht.stored f hf q hq
    refine mem_handles.2 ⟨q.mark, q.cell n, hn, ?_⟩
    rw [Fault.handles_cell]
    exact List.mem_map_of_mem hpq

/-- The count of a fault is one just if nothing but this handle leads to it. -/
theorem count_eq_one (ht : h.Tracks (f :: rest)) :
    h.count f.mark = 1 ↔ ∀ g ∈ rest, f.mark ∉ g.marks := by
  have hcount := ht.counted f.mark
  rw [List.map_cons, List.count_cons_self] at hcount
  constructor
  · intro hone g hg hmark
    have hroots : f.mark ∉ rest.map Fault.mark := List.count_eq_zero.1 (by omega)
    have hcells : f.mark ∉ h.handles := List.count_eq_zero.1 (by omega)
    rw [Fault.marks_eq, List.mem_map] at hmark
    obtain ⟨p, hp, hpf⟩ := hmark
    by_cases hpg : p = g
    · exact hroots (List.mem_map.2 ⟨g, hg, hpg ▸ hpf⟩)
    · exact hcells (hpf ▸ ht.mem_handles_of_part (List.mem_cons_of_mem f hg) hp hpg)
  · intro hother
    have hroots : f.mark ∉ rest.map Fault.mark := by
      rw [List.mem_map]
      rintro ⟨g, hg, hgf⟩
      exact hother g hg (hgf ▸ g.mark_mem_marks)
    have hcells : f.mark ∉ h.handles := by
      intro hmem
      obtain ⟨g, hg, q, hq, d, hd, hdf⟩ := ht.exists_direct_of_mem_handles hmem
      have hdg : d ∈ g.parts := Fault.mem_parts_trans
        (Fault.mem_parts_of_direct hd d.self_mem_parts) hq
      rcases List.mem_cons.1 hg with rfl | hg
      · -- the fault would hold itself
        have hdeq : d = g := Fault.eq_of_storedIn ((ht.stored g (by simp)).of_mem_parts hdg)
          (ht.stored g (by simp)) hdf
        have hlt := Fault.sizeOf_lt_of_direct hd
        have hle := Fault.sizeOf_le_of_mem_parts hq
        rw [hdeq] at hlt
        omega
      · exact hother g hg (hdf ▸ g.marks_eq ▸ List.mem_map_of_mem hdg)
    rw [List.count_eq_zero.2 hroots, List.count_eq_zero.2 hcells] at hcount
    exact hcount

/-! ## Copying and giving up handles -/

/-- A heap where one count is written anew tracks what agrees with that count. -/
theorem recount (ht : h.Tracks roots) (hf : f ∈ roots) {n : Nat} {roots' : List (Fault Nat)}
    (hstored : ∀ g ∈ roots', g ∈ roots)
    (hself : n = (roots'.map Fault.mark).count f.mark + h.handles.count f.mark)
    (hother : ∀ b, b ≠ f.mark →
      (roots'.map Fault.mark).count b = (roots.map Fault.mark).count b)
    (hreached : ∀ g ∈ roots, ∃ g' ∈ roots', ∀ a ∈ g.marks, a ∈ g'.marks) :
    (h.put f.mark (some (f.cell n))).Tracks roots' := by
  have hcell := ht.get?_mark hf
  have hhandles : ∀ b, (h.put f.mark (some (f.cell n))).handles.count b = h.handles.count b :=
    fun b => Nat.add_right_cancel (count_handles_put hcell (some (f.cell n)) b)
  constructor
  case stored => exact fun g hg => (ht.stored g (hstored g hg)).put_count hcell n
  case counted =>
    intro b
    rw [hhandles]
    by_cases hb : b = f.mark
    · rw [hb, count_of_get? (get?_put_self hcell)]
      exact hself
    · rw [count_put_of_ne hb, hother b hb]
      exact ht.counted b
  case reached =>
    intro b c hc
    obtain ⟨c, hc⟩ := get?_of_get?_put hcell hc
    obtain ⟨g, hg, hbg⟩ := ht.reached b c hc
    obtain ⟨g', hg', hmarks⟩ := hreached g hg
    exact ⟨g', hg', hmarks b hbg⟩

/-- One more handle to a fault that is held. -/
theorem retain (ht : h.Tracks roots) (hf : f ∈ roots) : (h.retain f.mark).Tracks (f :: roots) := by
  have hput : h.retain f.mark = h.put f.mark (some (f.cell (h.count f.mark + 1))) := by
    rw [Heap.retain, ht.get?_mark hf]
    rfl
  rw [hput]
  apply ht.recount hf
  · intro g hg
    rcases List.mem_cons.1 hg with rfl | hg
    · exact hf
    · exact hg
  · have := ht.counted f.mark
    rw [List.map_cons, List.count_cons_self]
    omega
  · intro b hb
    rw [List.map_cons, List.count_cons_of_ne hb.symm]
  · exact fun g hg => ⟨g, List.mem_cons_of_mem f hg, fun _ ha => ha⟩

/-- A handle given up while there are others. -/
theorem drop_shared (ht : h.Tracks (f :: rest)) (hshared : 1 < h.count f.mark) :
    (h.put f.mark (some (f.cell (h.count f.mark - 1)))).Tracks rest := by
  have hcounted := ht.counted f.mark
  rw [List.map_cons, List.count_cons_self] at hcounted
  apply ht.recount List.mem_cons_self
  · exact fun g hg => List.mem_cons_of_mem f hg
  · omega
  · intro b hb
    rw [List.map_cons, List.count_cons_of_ne hb.symm]
  · intro g hg
    rcases List.mem_cons.1 hg with rfl | hg
    · -- what the handle led to is still reached through whatever else holds the fault
      have hother : ¬∀ g' ∈ rest, g.mark ∉ g'.marks := fun hnone => by
        have := ht.count_eq_one.2 hnone
        omega
      push Not at hother
      obtain ⟨g', hg', hmark⟩ := hother
      rw [Fault.marks_eq, List.mem_map] at hmark
      obtain ⟨p, hp, hpg⟩ := hmark
      have hpeq : p = g := Fault.eq_of_storedIn
        ((ht.stored g' (List.mem_cons_of_mem g hg')).of_mem_parts hp)
        (ht.stored g List.mem_cons_self) hpg
      refine ⟨g', hg', fun a ha => ?_⟩
      rw [Fault.marks_eq, List.mem_map] at ha ⊢
      obtain ⟨q, hq, hqa⟩ := ha
      exact ⟨q, Fault.mem_parts_trans (hpeq ▸ hq) hp, hqa⟩
    · exact ⟨g, hg, fun _ ha => ha⟩

/-- The last handle given up: those of the cell itself take its place. -/
theorem drop_last (ht : h.Tracks (f :: rest)) (hlast : h.count f.mark = 1) :
    (h.put f.mark none).Tracks (f.direct ++ rest) := by
  have hcell := ht.get?_mark List.mem_cons_self
  have halone := ht.count_eq_one.1 hlast
  have hf := ht.stored f List.mem_cons_self
  have hmark : ∀ g ∈ f.direct ++ rest, f.mark ∉ g.marks := by
    intro g hg
    rcases List.mem_append.1 hg with hg | hg
    · exact Fault.mark_notMem_of_direct hf hg
    · exact halone g hg
  constructor
  case stored =>
    intro g hg
    refine Fault.StoredIn.put_of_notMem ?_ (hmark g hg) none
    rcases List.mem_append.1 hg with hg | hg
    · exact hf.of_direct hg
    · exact ht.stored g (List.mem_cons_of_mem f hg)
  case counted =>
    intro b
    have hhandles := count_handles_put hcell none b
    have hcounted := ht.counted b
    rw [Fault.handles_cell] at hhandles
    simp only [Cell.handlesIn, Option.elim_none, List.count_nil] at hhandles
    rw [List.map_append, List.count_append]
    by_cases hb : b = f.mark
    · have hroots : f.mark ∉ (f.direct ++ rest).map Fault.mark := by
        rw [List.mem_map]
        rintro ⟨g, hg, hgf⟩
        exact hmark g hg (hgf ▸ g.mark_mem_marks)
      have hzero := List.count_eq_zero.2 hroots
      subst hb
      rw [List.map_append, List.count_append] at hzero
      rw [List.map_cons, List.count_cons_self] at hcounted
      rw [Heap.count, get?_put_self hcell, Option.elim_none]
      omega
    · rw [List.map_cons, List.count_cons_of_ne (Ne.symm hb)] at hcounted
      rw [count_put_of_ne hb]
      omega
  case reached =>
    intro b c hc
    have hb : b ≠ f.mark := by
      rintro rfl
      rw [get?_put_self hcell] at hc
      cases hc
    rw [get?_put_of_ne hb] at hc
    obtain ⟨g, hg, hbg⟩ := ht.reached b c hc
    rcases List.mem_cons.1 hg with rfl | hg
    · obtain hbg | ⟨d, hd, hbd⟩ := Fault.mem_marks.1 hbg
      · exact absurd hbg hb
      · exact ⟨d, List.mem_append_left rest hd, hbd⟩
    · exact ⟨g, List.mem_append_right f.direct hg, hbg⟩

theorem one_le_count (ht : h.Tracks roots) (hf : f ∈ roots) : 1 ≤ h.count f.mark := by
  rw [ht.counted]
  exact Nat.le_add_right_of_le (List.count_pos_iff.2 (List.mem_map_of_mem hf))

/-- Giving up handles leaves what is held otherwise. -/
theorem release {todo : List (Fault Nat)} (ht : h.Tracks (todo ++ rest)) :
    (h.release (todo.map Fault.mark)).Tracks rest := by
  generalize hhandles : todo.map Fault.mark = handles
  fun_induction h.release handles generalizing todo with
  | case1 h =>
    obtain rfl := List.map_eq_nil_iff.1 hhandles
    exact ht
  | case2 h a handles hnone ih =>
    obtain ⟨f, todo, rfl, rfl, rfl⟩ := List.map_eq_cons_iff.1 hhandles
    rw [ht.get?_mark List.mem_cons_self] at hnone
    cases hnone
  | case3 h a handles c hc hshared ih =>
    obtain ⟨f, todo, rfl, rfl, rfl⟩ := List.map_eq_cons_iff.1 hhandles
    obtain rfl := Option.some.inj (hc.symm.trans (ht.get?_mark List.mem_cons_self))
    exact ih (ht.drop_shared hshared) rfl
  | case4 h a handles c hc hlast ih =>
    obtain ⟨f, todo, rfl, rfl, rfl⟩ := List.map_eq_cons_iff.1 hhandles
    obtain rfl := Option.some.inj (hc.symm.trans (ht.get?_mark List.mem_cons_self))
    have hone : h.count f.mark = 1 :=
      Nat.le_antisymm (Nat.not_lt.1 hlast) (ht.one_le_count List.mem_cons_self)
    have hkept : (h.put f.mark none).Tracks ((f.direct ++ todo) ++ rest) := by
      rw [List.append_assoc]
      exact ht.drop_last hone
    exact ih hkept (by rw [List.map_append, Fault.handles_cell])

/-! ## Making faults and giving them causes -/

theorem mark_lt_next (ht : h.Tracks roots) (hf : f ∈ roots) (ha : a ∈ f.marks) : a < h.next := by
  rw [Fault.marks_eq, List.mem_map] at ha
  obtain ⟨p, hp, rfl⟩ := ha
  obtain ⟨n, hn⟩ := ht.stored f hf p hp
  exact lt_next hn

/-- A new fault; the handle to the fault that it reports, if there is one, goes over to it. -/
theorem allocate {k : FaultKind Nat} (ht : h.Tracks (k.wrapped?.toList ++ rest)) :
    (h.allocate k.cell).Tracks (.root h.next k :: rest) := by
  have hnew : (h.allocate k.cell).get? h.next = some ((Fault.root h.next k).cell 1) :=
    get?_allocate_next
  have hold : ∀ b, b ≠ h.next → (h.allocate k.cell).get? b = h.get? b := fun _ hb =>
    get?_allocate_of_ne hb
  have hfree : h.count h.next = 0 := count_next
  have hhandles : (h.allocate k.cell).handles =
      h.handles ++ k.wrapped?.toList.map Fault.mark := by
    rw [handles_allocate, FaultKind.handle?_cell, Option.toList_map]
  constructor
  case stored =>
    have hkept : ∀ g ∈ k.wrapped?.toList ++ rest, g.StoredIn (h.allocate k.cell) := fun g hg =>
      (ht.stored g hg).of_get?_eq fun b hb => hold b (Nat.ne_of_lt (ht.mark_lt_next hg hb))
    intro g hg
    rcases List.mem_cons.1 hg with rfl | hg
    · refine Fault.storedIn_iff.2 ⟨⟨1, hnew⟩, fun d hd => ?_⟩
      rw [Fault.direct_root] at hd
      exact hkept d (List.mem_append_left rest hd)
    · exact hkept g (List.mem_append_right _ hg)
  case counted =>
    intro b
    have hcounted := ht.counted b
    rw [List.map_append, List.count_append] at hcounted
    rw [hhandles, List.count_append, List.map_cons, Fault.mark_root]
    by_cases hb : b = h.next
    · subst hb
      rw [count_of_get? hnew, List.count_cons_self]
      simp only [Fault.cell]
      omega
    · rw [Heap.count, hold b hb, ← Heap.count, List.count_cons_of_ne (Ne.symm hb)]
      omega
  case reached =>
    intro b c hc
    by_cases hb : b = h.next
    · exact ⟨_, List.mem_cons_self, hb ▸ Fault.mark_mem_marks (.root h.next k)⟩
    · rw [hold b hb] at hc
      obtain ⟨g, hg, hbg⟩ := ht.reached b c hc
      rcases List.mem_append.1 hg with hg | hg
      · rw [← Fault.direct_root h.next] at hg
        exact ⟨_, List.mem_cons_self, Fault.mem_marks.2 (.inr ⟨g, hg, hbg⟩)⟩
      · exact ⟨g, List.mem_cons_of_mem _ hg, hbg⟩

/-- The fault with a cause: the handle to the cause goes over to it. -/
theorem attach {k : FaultKind Nat} (ht : h.Tracks (.root a k :: e :: rest))
    (halone : h.count a = 1) :
    (h.put a (some ((Fault.caused a k e).cell 1))).Tracks (.caused a k e :: rest) := by
  have hcell : h.get? a = some ((Fault.root a k).cell 1) := by
    rw [← halone]
    exact ht.get?_mark List.mem_cons_self
  have hput : (h.put a (some ((Fault.caused a k e).cell 1))).get? a = _ := get?_put_self hcell
  have hother := ht.count_eq_one.1 halone
  have hroot := ht.stored (.root a k) List.mem_cons_self
  constructor
  case stored =>
    intro g hg
    rcases List.mem_cons.1 hg with rfl | hg
    · refine Fault.storedIn_iff.2 ⟨⟨1, hput⟩, fun d hd => ?_⟩
      rw [Fault.direct_caused, ← Fault.direct_root a, List.mem_append, List.mem_singleton] at hd
      rcases hd with hd | rfl
      · exact (hroot.of_direct hd).put_of_notMem (Fault.mark_notMem_of_direct hroot hd) _
      · exact (ht.stored d (by simp)).put_of_notMem (hother d (by simp)) _
    · exact (ht.stored g (by simp [hg])).put_of_notMem (hother g (by simp [hg])) _
  case counted =>
    intro b
    have hhandles := count_handles_put hcell (some ((Fault.caused a k e).cell 1)) b
    have hcounted := ht.counted b
    have hcount : (h.put a (some ((Fault.caused a k e).cell 1))).count b = h.count b := by
      by_cases hb : b = a
      · rw [hb, halone, count_of_get? hput]
        rfl
      · exact count_put_of_ne hb
    simp only [Cell.handlesIn, Option.elim_some, Fault.handles_cell, Fault.direct_root,
      Fault.direct_caused, List.map_append, List.count_append, List.map_cons, List.map_nil,
      List.count_cons, List.count_nil] at hhandles
    simp only [List.map_cons, List.count_cons, Fault.mark_root] at hcounted
    simp only [List.map_cons, List.count_cons, Fault.mark_caused]
    omega
  case reached =>
    intro b c hc
    obtain ⟨c, hc⟩ := get?_of_get?_put hcell hc
    obtain ⟨g, hg, hbg⟩ := ht.reached b c hc
    simp only [List.mem_cons] at hg
    rcases hg with rfl | rfl | hg
    · exact ⟨_, List.mem_cons_self, List.mem_append_left e.marks hbg⟩
    · exact ⟨_, List.mem_cons_self, List.mem_append_right (a :: k.marks) hbg⟩
    · exact ⟨g, List.mem_cons_of_mem _ hg, hbg⟩

end Tracks

end Heap

end SchemaCatalog
