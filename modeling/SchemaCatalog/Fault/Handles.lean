import SchemaCatalog.Fault.Basic

/-!
# Faults held in several places

Faults are held in numbered slots, and a slot may hold the same fault as another.  The mark of a
fault tells which: it is given when the fault is made and never given again.  A fault can be given a
cause only while nothing else holds it, neither a slot nor another fault as its cause or in its
report, so that what one holder sees does not change under another.

* `Handles.context_refused_shared`: a fault that another slot or the new cause holds is refused as
  shared, whether or not it has a cause.
* `Handles.context_of_alone`: any other is given the cause unless it has one.
-/

namespace SchemaCatalog

/-! ## Marks within a fault -/

mutual

/-- The marks of a fault and of all that it holds. -/
def Fault.marks {ι : Type} : Fault ι → List ι
  | .root m k => m :: k.marks
  | .caused m k c => m :: k.marks ++ c.marks

def FaultKind.marks {ι : Type} : FaultKind ι → List ι
  | .source report => report.marks
  | .adhoc _ | .notFound _ _ | .invalidSchema _ => []

def Report.marks {ι : Type} : Report ι → List ι
  | .message _ => []
  | .context _ inner => inner.marks
  | .fault f => f.marks

end

/-- Why a fault cannot be given a cause. -/
inductive ContextError where
  | shared
  | hasCause
deriving DecidableEq, Repr

def ContextError.message : ContextError → String
  | .shared => "consequent error must not be shared"
  | .hasCause => "consequent error must not already have a cause"

/-- The fault `consequent` with `cause` as its cause; one that has a cause keeps it. -/
def Fault.withCause {ι : Type} (cause : Fault ι) : Fault ι → Except ContextError (Fault ι)
  | .root mark kind => .ok (.caused mark kind cause)
  | .caused _ _ _ => .error .hasCause

/-- Slots, of which each holds a fault or is empty, and the next mark to give. -/
structure Handles where
  next : Nat := 0
  slots : List (Option (Fault Nat)) := []

namespace Handles

/-- The fault in a slot, if there is such a slot and it holds one. -/
def get? (h : Handles) (slot : Nat) : Option (Fault Nat) :=
  h.slots[slot]?.join

/-- The slots with one of them emptied. -/
def clear (h : Handles) (slot : Nat) : Handles :=
  { h with slots := h.slots.set slot none }

/-- A fault put into a new slot. -/
def hold (h : Handles) (f : Fault Nat) : Handles :=
  { h with slots := h.slots ++ [some f] }

/-- A new fault without a cause, in a new slot. -/
def make (h : Handles) (kind : FaultKind Nat) : Handles :=
  { h.hold (.root h.next kind) with next := h.next + 1 }

/-- Whether some slot holds the fault with this mark, itself or inside another fault. -/
def holds (h : Handles) (mark : Nat) : Bool :=
  h.slots.any fun slot => slot.any (·.marks.contains mark)

/-- The fault `consequent` with `cause` as its cause, both taken out of the slots, unless something
else holds `consequent`. -/
def context (h : Handles) (cause consequent : Fault Nat) : Except ContextError (Fault Nat) :=
  if h.holds consequent.mark || cause.marks.contains consequent.mark then .error .shared
  else cause.withCause consequent

end Handles

/-! ## Steps -/

/-- What is done with faults; slots are given by number. -/
inductive HandleStep where
  | notFound (entity : EntityKind) (name : String)
  | invalidSchema (message : String)
  | adhoc (message : String)
  | source (message : String) (contexts : List String)
  /-- Make the fault of a slot the report of a new one, emptying the slot. -/
  | rewrap (slot : Nat)
  | clone (slot : Nat)
  | drop (slot : Nat)
  /-- Make the fault of the first slot the cause of that of the second, emptying both. -/
  | context (cause consequent : Nat)

/-- What comes of a step. -/
inductive HandleAnswer where
  /-- The fault now in the newest slot. -/
  | held (f : Fault Nat)
  | dropped (wasFull : Bool)
  | emptySlot
  | refused (e : ContextError)

namespace Handles

/-- Puts a fault into a new slot and answers it. -/
def held (h : Handles) (f : Fault Nat) : Handles × HandleAnswer :=
  (h.hold f, .held f)

/-- Makes a new fault and answers it. -/
def made (h : Handles) (kind : FaultKind Nat) : Handles × HandleAnswer :=
  (h.make kind, .held (.root h.next kind))

def step (h : Handles) : HandleStep → Handles × HandleAnswer
  | .notFound entity name => h.made (.notFound entity name)
  | .invalidSchema message => h.made (.invalidSchema message)
  | .adhoc message => h.made (.adhoc message)
  | .source message contexts => h.made (.source (.ofContexts message contexts))
  | .rewrap slot =>
    match h.get? slot with
    | none => (h, .emptySlot)
    | some f => (h.clear slot).made (.source (.fault f))
  | .clone slot =>
    match h.get? slot with
    | none => (h, .emptySlot)
    | some f => h.held f
  | .drop slot => (h.clear slot, .dropped (h.get? slot).isSome)
  | .context cause consequent =>
    let rest := (h.clear cause).clear consequent
    match h.get? cause, (h.clear cause).get? consequent with
    | some e, some c =>
      match rest.context e c with
      | .ok f => rest.held f
      | .error reason => (rest, .refused reason)
    | _, _ => (rest, .emptySlot)

/-- The slots after a sequence of steps. -/
def run (h : Handles) (steps : List HandleStep) : Handles :=
  steps.foldl (fun h s => (h.step s).1) h

section
variable {h : Handles} {cause consequent : Fault Nat}

theorem context_refused_shared (hs : h.holds consequent.mark ∨ consequent.mark ∈ cause.marks) :
    h.context cause consequent = .error .shared := by
  unfold context
  rw [if_pos (by simpa using hs)]

theorem context_of_alone (hs : ¬ (h.holds consequent.mark ∨ consequent.mark ∈ cause.marks)) :
    h.context cause consequent = cause.withCause consequent := by
  unfold context
  rw [if_neg (by simpa using hs)]

end

end Handles

end SchemaCatalog
