/-!
# Data trees

Data as it is exchanged with other programs: the tree of a JSON document.

* `Tree.record?_object`, `Tree.record?_list`: a record is read from an object, where order does not
  matter and more entries than those asked for are passed over, or from a list of exactly its
  fields.
-/

namespace SchemaCatalog

inductive Tree where
  | null
  | bool (b : Bool)
  /-- The number `digits / 10 ^ places`. -/
  | number (digits : Int) (places : Nat)
  | text (s : String)
  | list (items : List Tree)
  | object (entries : List (String × Tree))
deriving Inhabited

namespace Tree

/-- A text, or nothing. -/
def ofText? : Option String → Tree
  | none => .null
  | some s => .text s

/-- An object with a single entry, by which one of several cases is told. -/
def tagged (tag : String) (content : Tree) : Tree :=
  .object [(tag, content)]

def index (n : Nat) : Tree :=
  .number n 0

def text? : Tree → Option String
  | .text s => some s
  | _ => none

def bool? : Tree → Option Bool
  | .bool b => some b
  | _ => none

def list? : Tree → Option (List Tree)
  | .list items => some items
  | _ => none

/-- The fields of a record, in the order asked for; one that an object does not have is `none`. -/
def record? (names : List String) : Tree → Option (List (Option Tree))
  | .object entries => some (names.map fun name => entries.lookup name)
  | .list items => if items.length = names.length then some (items.map some) else none
  | _ => none

theorem record?_object (names : List String) (entries : List (String × Tree)) :
    record? names (.object entries) = some (names.map fun name => entries.lookup name) := rfl

theorem record?_list {names : List String} {items : List Tree}
    (h : items.length = names.length) : record? names (.list items) = some (items.map some) :=
  if_pos h

end Tree

end SchemaCatalog
