import SchemaCatalog.Fault.Basic

/-!
# From error to error

A fault leads to another error: into its report if the source failed, otherwise to its cause.  Each
part of a report is an error too and leads further inwards.  A report that is nothing but a fault
counts as that fault, so that a walk goes on from it as from any other.

* `Report.behind_of_source?`: a walk goes on from the error that is met first.
-/

namespace SchemaCatalog

variable {ι : Type}

/-- The error that a fault leads to. -/
def Fault.source? (f : Fault ι) : Option (Report ι) :=
  match f.kind with
  | .source report => some report
  | .adhoc _ | .notFound _ _ | .invalidSchema _ => f.cause?.map .fault

namespace Report

/-- The error that a part of a report leads to. -/
def source? : Report ι → Option (Report ι)
  | .message _ => none
  | .context _ inner => some inner
  | .fault f => f.source?

theorem sizeOf_lt_of_source? {r s : Report ι} (h : r.source? = some s) : sizeOf s < sizeOf r := by
  cases r with
  | message text => cases h
  | context text inner =>
    obtain rfl : inner = s := Option.some.inj h
    simp only [context.sizeOf_spec]
    omega
  | fault f =>
    cases f with
    | root m k =>
      cases k with
      | source report =>
        obtain rfl : report = s := Option.some.inj h
        simp only [fault.sizeOf_spec, Fault.root.sizeOf_spec, FaultKind.source.sizeOf_spec]
        omega
      | adhoc | notFound | invalidSchema => cases h
    | caused m k c =>
      cases k with
      | source report =>
        obtain rfl : report = s := Option.some.inj h
        simp only [fault.sizeOf_spec, Fault.caused.sizeOf_spec, FaultKind.source.sizeOf_spec]
        omega
      | adhoc | notFound | invalidSchema =>
        obtain rfl : .fault c = s := Option.some.inj h
        simp only [fault.sizeOf_spec, Fault.caused.sizeOf_spec]
        omega

/-- The errors met on a walk, each led to by the one before. -/
def behind (r : Report ι) : List (Report ι) :=
  match _h : r.source? with
  | none => []
  | some s => s :: s.behind
termination_by sizeOf r
decreasing_by exact sizeOf_lt_of_source? _h

theorem behind_of_source?_eq_none {r : Report ι} (h : r.source? = none) : r.behind = [] := by
  rw [behind]
  split
  · rfl
  · next heq => rw [h] at heq; cases heq

theorem behind_of_source? {r s : Report ι} (h : r.source? = some s) : r.behind = s :: s.behind := by
  rw [behind]
  split
  · next heq => rw [h] at heq; cases heq
  · next heq => rw [h] at heq; cases heq; rfl

end Report

end SchemaCatalog
