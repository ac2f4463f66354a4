/-!
# Faults

Why something failed.  A fault is of one kind and may have another fault as its cause; the chain of
causes is read from the newest fault to the oldest.  A fault of the declaration source keeps the
report of that source as it is, with the contexts that were put around it.

Every fault bears a mark.  Where faults are shared between several holders the mark tells which
faults are one and the same; where that does not matter the mark is `()`.

* `Fault.text_eq`: a fault is displayed as the texts of its chain, joined by `: `.
* `Fault.trail_of_isSource`: what a source has to report stands in place of further causes.
-/

namespace SchemaCatalog

/-- What a catalog holds by name. -/
inductive EntityKind where
  | model
  | enum
deriving DecidableEq, Repr

def EntityKind.text : EntityKind → String
  | .model => "Model"
  | .enum => "Enum"

mutual

/-- A failure, with the failure that it follows from if there is one. -/
inductive Fault (ι : Type) where
  | root (mark : ι) (kind : FaultKind ι)
  | caused (mark : ι) (kind : FaultKind ι) (cause : Fault ι)

inductive FaultKind (ι : Type) where
  /-- The declaration source failed. -/
  | source (report : Report ι)
  | adhoc (message : String)
  | notFound (entity : EntityKind) (name : String)
  /-- The declarations are refused by the rules that were asked for. -/
  | invalidSchema (message : String)

/-- What a declaration source has to say about its failure. -/
inductive Report (ι : Type) where
  | message (text : String)
  | context (text : String) (inner : Report ι)
  | fault (f : Fault ι)

end

variable {ι : Type}

/-- A message inside contexts, of which the last is outermost. -/
def Report.ofContexts (message : String) (contexts : List String) : Report ι :=
  contexts.foldl (fun inner text => .context text inner) (.message message)

namespace Fault

def mark : Fault ι → ι
  | root m _ => m
  | caused m _ _ => m

def kind : Fault ι → FaultKind ι
  | root _ k => k
  | caused _ k _ => k

def cause? : Fault ι → Option (Fault ι)
  | root _ _ => none
  | caused _ _ c => some c

/-- The kinds of the fault and its causes, newest first. -/
def chain : Fault ι → List (FaultKind ι)
  | root _ k => [k]
  | caused _ k c => k :: c.chain

end Fault

/-! ## Display -/

mutual

/-- A fault as displayed. -/
def Fault.text : Fault ι → String
  | .root _ k => k.text
  | .caused _ k c => k.text ++ ": " ++ c.text

/-- What a fault of this kind says of itself. -/
def FaultKind.text : FaultKind ι → String
  | .source report => report.text
  | .adhoc message => message
  | .notFound entity name => entity.text ++ " " ++ name ++ " not found"
  | .invalidSchema message => "invalid schema: " ++ message

/-- The outermost text of a report. -/
def Report.text : Report ι → String
  | .message text => text
  | .context text _ => text
  | .fault f => f.text

end

/-! ## Questions about the whole chain -/

def FaultKind.isSource : FaultKind ι → Bool
  | .source _ => true
  | _ => false

def FaultKind.isNotFound : FaultKind ι → Bool
  | .notFound _ _ => true
  | _ => false

def FaultKind.isInvalidSchema : FaultKind ι → Bool
  | .invalidSchema _ => true
  | _ => false

/-- What was looked for in vain. -/
def FaultKind.missing? : FaultKind ι → Option (EntityKind × String)
  | .notFound entity name => some (entity, name)
  | _ => none

namespace Fault

/-- Whether the declaration source failed. -/
def isSource (f : Fault ι) : Bool :=
  f.chain.any FaultKind.isSource

/-- Whether something was looked for in vain. -/
def isNotFound (f : Fault ι) : Bool :=
  f.chain.any FaultKind.isNotFound

/-- Whether the declarations were refused. -/
def isInvalidSchema (f : Fault ι) : Bool :=
  f.chain.any FaultKind.isInvalidSchema

/-- What was looked for in vain, by the newest such fault of the chain. -/
def missing? (f : Fault ι) : Option (EntityKind × String) :=
  f.chain.findSome? FaultKind.missing?

end Fault

/-! ## The errors behind a fault -/

mutual

/-- The displays of the errors that a fault leads to, one from the other: into the report of a
source, otherwise to the cause. -/
def Fault.trail : Fault ι → List String
  | .root _ k => k.trail []
  | .caused _ k c => k.trail (c.text :: c.trail)

/-- The errors inside the report of a source; for any other kind, those given. -/
def FaultKind.trail (causes : List String) : FaultKind ι → List String
  | .source report => report.trail
  | .adhoc _ | .notFound _ _ | .invalidSchema _ => causes

/-- The errors of a report, outermost first. -/
def Report.trail : Report ι → List String
  | .message text => [text]
  | .context text inner => text :: inner.trail
  | .fault f => f.text :: f.trail

end

/-! ## Laws of display -/

theorem Fault.chain_ne_nil (f : Fault ι) : f.chain ≠ [] := by
  cases f <;> simp [chain]

/-- A fault is displayed as the texts of its chain, newest first, with `: ` between them. -/
theorem Fault.text_eq : ∀ f : Fault ι, f.text = String.intercalate ": " (f.chain.map FaultKind.text)
  | .root _ k => by simp [text, chain]
  | .caused _ k c => by
    rw [text, text_eq c, chain, List.map_cons,
      String.intercalate_cons_of_ne_nil (by simpa using c.chain_ne_nil)]

/-- What a source has to report stands in place of further causes. -/
theorem Fault.trail_of_isSource {f : Fault ι} {report : Report ι} (h : f.kind = .source report) :
    f.trail = report.trail := by
  cases f <;> (simp only [kind] at h; simp [trail, FaultKind.trail, h])

end SchemaCatalog
