/-!
# Events

What is noted in the log while a catalog is built.
-/

namespace SchemaCatalog

inductive Level where
  | trace
  | debug
deriving DecidableEq

def Level.text : Level → String
  | .trace => "TRACE"
  | .debug => "DEBUG"

/-- What is noted about a field. -/
inductive FieldEvent where
  | linkedHasMany
  | linkedEnum
  /-- A relation to a model that is not declared. -/
  | danglingBelongsTo
  | leftUnclassified
deriving DecidableEq

inductive Event where
  /-- About the field of this name and type token, in the model of this name. -/
  | about (event : FieldEvent) (model field type : String)
  /-- The catalog is complete and has so many models and enums. -/
  | built (models enums : Nat)
deriving DecidableEq

namespace FieldEvent

/-- Whether the event tells of a link that was made. -/
def isLink : FieldEvent → Bool
  | .linkedHasMany | .linkedEnum => true
  | .danglingBelongsTo | .leftUnclassified => false

def message : FieldEvent → String
  | .linkedHasMany => "linked has_many"
  | .linkedEnum => "linked enum"
  | .danglingBelongsTo => "belongs_to target is not a declared model"
  | .leftUnclassified => "field left unclassified"

end FieldEvent

namespace Event

def level : Event → Level
  | .about event _ _ _ => if event.isLink then .trace else .debug
  | .built _ _ => .debug

def message : Event → String
  | .about event _ _ _ => event.message
  | .built _ _ => "schema built"

/-- The named values that are logged with the message. -/
def values : Event → List (String × String)
  | .about event model field type =>
    [("model", model), ("field", field), (if event.isLink then "target" else "ty", type)]
  | .built models enums => [("models", toString models), ("enums", toString enums)]

end Event

end SchemaCatalog
