import SchemaCatalog.Declaration.Basic
import SchemaCatalog.Fault.Basic

/-!
# Sources of declarations

A source yields a list of declarations or fails with a report.  What is handed over may be wrapped
in the result of an earlier stage, any number of times.
-/

namespace SchemaCatalog

inductive Source where
  | declared (declarations : List Declaration)
  | failed (report : Report Unit)
  /-- The successful result of a stage that hands over a source. -/
  | handed (source : Source)

/-- The declarations of the source, or the report of its failure. -/
def Source.declarations : Source → Except (Report Unit) (List Declaration)
  | .declared ds => .ok ds
  | .failed report => .error report
  | .handed source => source.declarations

end SchemaCatalog
