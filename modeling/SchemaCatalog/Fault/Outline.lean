import SchemaCatalog.Fault.Basic
import SchemaCatalog.Text.Outline
import SchemaCatalog.Text.Quoted

/-!
# Faults in full

A fault written with all that it holds, for inspection: its kind, its cause and, inside the report
of a source, every context.
-/

namespace SchemaCatalog

open Text

variable {ι : Type}

/-- A record whose only part is a quoted message. -/
def messageOutline (name message : String) : Outline :=
  .record name [("message", [quote message])]

mutual

def Fault.outline : Fault ι → Outline
  | .root _ k => .record "Error" [("kind", k.outline), ("cause", ["None"])]
  | .caused _ k c => .record "Error" [("kind", k.outline), ("cause", .wrap "Some" c.outline)]

def FaultKind.outline : FaultKind ι → Outline
  | .source report => .wrap "Source" report.outline
  | .adhoc message => .wrap "Adhoc" (messageOutline "AdhocError" message)
  | .notFound entity name =>
    .wrap "NotFound" (.record "NotFoundError" [("kind", [entity.text]), ("name", [quote name])])
  | .invalidSchema message => .wrap "InvalidSchema" (messageOutline "InvalidSchema" message)

def Report.outline : Report ι → Outline
  | .message text => [quote text]
  | .context text inner =>
    .record "Error" [("context", [quote text]), ("source", inner.outline)]
  | .fault f => f.outline

end

/-- A fault for inspection: in full if that is asked for, otherwise as displayed. -/
def Fault.debug (f : Fault ι) (inFull : Bool) : String :=
  if inFull then f.outline.text else f.text

end SchemaCatalog
