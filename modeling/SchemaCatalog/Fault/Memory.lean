import SchemaCatalog.Fault.Handles

/-!
# Faults in counted cells

Memory in which faults lie in cells and everything that has a fault has a handle to its cell: the
slots, the faults that it is the cause of and those whose report it is.  A cell counts its handles.
It is written only when it is given a cause, which takes that the count is one, and it is freed,
with the handles that it has itself, when the last of them is given up.

What a fault is does not show here as it does in `Fault`: a cell knows only the addresses of others.
The count alone decides whether a cell may be written.
-/

namespace SchemaCatalog

/-! ## Cells -/

/-- What a source reported, where a fault is given by its address. -/
inductive CellReport where
  | message (text : String)
  | context (text : String) (inner : CellReport)
  | fault (address : Nat)

/-- A kind of failure, where a fault is given by its address. -/
inductive CellKind where
  | source (report : CellReport)
  | adhoc (message : String)
  | notFound (entity : EntityKind) (name : String)
  | invalidSchema (message : String)

/-- The handle in a report, if there is one. -/
def CellReport.handle? : CellReport → Option Nat
  | .message _ => none
  | .context _ inner => inner.handle?
  | .fault address => some address

/-- The handle in the report of a source. -/
def CellKind.handle? : CellKind → Option Nat
  | .source report => report.handle?
  | .adhoc _ | .notFound _ _ | .invalidSchema _ => none

def Report.cell : Report Nat → CellReport
  | .message text => .message text
  | .context text inner => .context text inner.cell
  | .fault f => .fault f.mark

/-- A kind of failure as cells have it, marks being addresses. -/
def FaultKind.cell : FaultKind Nat → CellKind
  | .source report => .source report.cell
  | .adhoc message => .adhoc message
  | .notFound entity name => .notFound entity name
  | .invalidSchema message => .invalidSchema message

/-- A fault in memory, with the number of handles to it. -/
structure Cell where
  count : Nat
  kind : CellKind
  cause : Option Nat := none

/-- The handles that a cell has to others. -/
def Cell.handles (c : Cell) : List Nat :=
  c.kind.handle?.toList ++ c.cause.toList

/-- The handles of a place in memory, where there may be a cell. -/
def Cell.handlesIn (place : Option Cell) : List Nat :=
  place.elim [] Cell.handles

/-! ## Heaps -/

/-- The cells by address; where one was freed there is none. -/
structure Heap where
  cells : List (Option Cell) := []

namespace Heap

def get? (h : Heap) (a : Nat) : Option Cell :=
  h.cells[a]?.join

def put (h : Heap) (a : Nat) (place : Option Cell) : Heap :=
  ⟨h.cells.set a place⟩

/-- The address of the next new cell. -/
def next (h : Heap) : Nat :=
  h.cells.length

/-- The number of handles to a cell by its own count. -/
def count (h : Heap) (a : Nat) : Nat :=
  (h.get? a).elim 0 Cell.count

/-- All handles that cells have. -/
def handles (h : Heap) : List Nat :=
  h.cells.flatMap Cell.handlesIn

/-- The heap with a new cell, to which there is one handle. -/
def allocate (h : Heap) (kind : CellKind) : Heap :=
  ⟨h.cells ++ [some { count := 1, kind }]⟩

/-- One more handle to a cell. -/
def retain (h : Heap) (a : Nat) : Heap :=
  h.put a ((h.get? a).map fun c => { c with count := c.count + 1 })

/-- What makes giving up handles come to an end: the cells and the handles that they count. -/
def weight (h : Heap) : Nat :=
  h.cells.foldr (fun place n => place.elim 0 (·.count + 1) + n) 0

theorem foldr_add_set {α : Type} (f : α → Nat) {l : List α} {i : Nat} {x : α} (h : l[i]? = some x)
    (y : α) :
    (l.set i y).foldr (fun z n => f z + n) 0 + f x = l.foldr (fun z n => f z + n) 0 + f y := by
  induction l generalizing i with
  | nil => simp at h
  | cons z l ih =>
    cases i with
    | zero =>
      obtain rfl : z = x := by simpa using h
      simp only [List.set_cons_zero, List.foldr_cons]
      omega
    | succ i =>
      have := ih (by simpa using h)
      simp only [List.set_cons_succ, List.foldr_cons]
      omega

theorem getElem?_cells {h : Heap} {a : Nat} {c : Cell} (hc : h.get? a = some c) :
    h.cells[a]? = some (some c) :=
  Option.join_eq_some_iff.1 hc

theorem weight_put {h : Heap} {a : Nat} {c : Cell} (hc : h.get? a = some c)
    (place : Option Cell) :
    (h.put a place).weight + (c.count + 1) = h.weight + place.elim 0 (·.count + 1) :=
  foldr_add_set (fun place : Option Cell => place.elim 0 (·.count + 1)) (getElem?_cells hc) place

/-- Gives up handles one after the other; with the last one to a cell go those that it has. -/
def release (h : Heap) (handles : List Nat) : Heap :=
  match handles with
  | [] => h
  | a :: rest =>
    match _hc : h.get? a with
    | none => h.release rest
    | some c =>
      if 1 < c.count then (h.put a (some { c with count := c.count - 1 })).release rest
      else (h.put a none).release (c.handles ++ rest)
termination_by (h.weight, handles.length)
decreasing_by
  · exact .right _ (by simp)
  · have := weight_put _hc (some { c with count := c.count - 1 })
    simp only [Option.elim_some] at this
    exact .left _ _ (by omega)
  · have := weight_put _hc none
    simp only [Option.elim_none] at this
    exact .left _ _ (by omega)

/-- Writes a cause into a cell, to which it takes that there is one handle and no cause. -/
def attach (h : Heap) (a cause : Nat) : Except ContextError Heap :=
  match h.get? a with
  | some { count := 1, kind, cause := none } =>
    .ok (h.put a (some { count := 1, kind, cause := some cause }))
  | some { count := 1, kind := _, cause := some _ } => .error .hasCause
  | _ => .error .shared

end Heap

/-! ## Memory -/

/-- A heap and the slots from which its cells are reached. -/
structure Memory where
  heap : Heap := {}
  slots : List (Option Nat) := []

/-- What comes of a step, where a fault is given by its address. -/
inductive MemoryAnswer where
  | held (address : Nat)
  | dropped (wasFull : Bool)
  | emptySlot
  | refused (e : ContextError)

namespace Memory

/-- The handle in a slot, if there is such a slot and it has one. -/
def get? (m : Memory) (slot : Nat) : Option Nat :=
  m.slots[slot]?.join

/-- The slots with the handle taken out of one of them. -/
def clear (m : Memory) (slot : Nat) : Memory :=
  { m with slots := m.slots.set slot none }

/-- Puts a handle into a new slot and answers it. -/
def held (m : Memory) (heap : Heap) (a : Nat) : Memory × MemoryAnswer :=
  ({ heap, slots := m.slots ++ [some a] }, .held a)

/-- Makes a new cell and answers the handle to it. -/
def made (m : Memory) (kind : CellKind) : Memory × MemoryAnswer :=
  m.held (m.heap.allocate kind) m.heap.next

/-- The memory once handles are given up that were taken out of slots. -/
def release (m : Memory) (handles : List Nat) : Memory :=
  { m with heap := m.heap.release handles }

def step (m : Memory) : HandleStep → Memory × MemoryAnswer
  | .notFound entity name => m.made (.notFound entity name)
  | .invalidSchema message => m.made (.invalidSchema message)
  | .adhoc message => m.made (.adhoc message)
  | .source message contexts => m.made (.source (Report.ofContexts message contexts).cell)
  | .rewrap slot =>
    match m.get? slot with
    | none => (m, .emptySlot)
    | some a => (m.clear slot).made (.source (.fault a))
  | .clone slot =>
    match m.get? slot with
    | none => (m, .emptySlot)
    | some a => m.held (m.heap.retain a) a
  | .drop slot =>
    ((m.clear slot).release (m.get? slot).toList, .dropped (m.get? slot).isSome)
  | .context cause consequent =>
    let rest := (m.clear cause).clear consequent
    match m.get? cause, (m.clear cause).get? consequent with
    | some e, some c =>
      match rest.heap.attach c e with
      | .ok heap => rest.held heap c
      | .error reason => (rest.release [c, e], .refused reason)
    | e, c => (rest.release (c.toList ++ e.toList), .emptySlot)

/-- The memory after a sequence of steps. -/
def run (m : Memory) (steps : List HandleStep) : Memory :=
  steps.foldl (fun m s => (m.step s).1) m

end Memory

end SchemaCatalog
