import SchemaCatalog.Declaration.Basic
import SchemaCatalog.Tree

/-!
# Declarations as data

How declarations are written as data trees and read back.  A case of several is an object whose
only entry is named for it; a record is an object of its fields.  Reading accepts a record also as
a list of its fields in order, and it refuses everything else that is not of the right form.
-/

namespace SchemaCatalog

/-! ## Writing -/

namespace Value

mutual

def toTree : Value → Tree
  | .ident name => .tagged "Ident" (.text name)
  | .string content => .tagged "String" (.text content)
  | .number spelling => .tagged "Number" (.text spelling)
  | .boolean b => .tagged "Boolean" (.bool b)
  | .array items => .tagged "Array" (.list (toTrees items))
  | .call function args =>
    .tagged "Function" (.object [("name", .text function), ("args", .list (toTrees args))])

def toTrees : List Value → List Tree
  | [] => []
  | v :: vs => v.toTree :: toTrees vs

end

end Value

def Argument.toTree : Argument → Tree
  | .positional value => .tagged "Positional" value.toTree
  | .named key value => .tagged "KeyValue" (.object [("key", .text key), ("value", value.toTree)])

def Attribute.toTree (a : Attribute) : Tree :=
  .object [("name", .text a.name), ("args", .list (a.args.map Argument.toTree))]

def FieldDecl.toTree (d : FieldDecl) : Tree :=
  .object [("name", .text d.name), ("ty", .text d.type), ("array", .bool d.array),
    ("optional", .bool d.optional), ("attrs", .list (d.attributes.map Attribute.toTree))]

def ModelDecl.toTree (d : ModelDecl) : Tree :=
  .object [("name", .text d.name), ("fields", .list (d.fields.map FieldDecl.toTree))]

def EnumeratorDecl.toTree (d : EnumeratorDecl) : Tree :=
  .object [("name", .text d.name), ("comment", .ofText? d.comment)]

def EnumDecl.toTree (d : EnumDecl) : Tree :=
  .object [("name", .text d.name),
    ("enumerators", .list (d.enumerators.map EnumeratorDecl.toTree))]

def Declaration.toTree : Declaration → Tree
  | .model d => .tagged "Model" d.toTree
  | .enum d => .tagged "Enum" d.toTree

/-- A list of declarations as data. -/
def Declaration.listToTree (ds : List Declaration) : Tree :=
  .list (ds.map Declaration.toTree)

/-! ## Reading -/

namespace Value

mutual

def ofTree? : Tree → Option Value
  | .object [("Ident", .text name)] => some (.ident name)
  | .object [("String", .text content)] => some (.string content)
  | .object [("Number", .text spelling)] => some (.number spelling)
  | .object [("Boolean", .bool b)] => some (.boolean b)
  | .object [("Array", .list items)] => (ofTrees? items).map .array
  | .object [("Function", .object entries)] =>
    match entries.lookup "name", argsOf? entries with
    | some (.text function), some args => some (.call function args)
    | _, _ => none
  | _ => none

def ofTrees? : List Tree → Option (List Value)
  | [] => some []
  | t :: ts =>
    match ofTree? t, ofTrees? ts with
    | some v, some vs => some (v :: vs)
    | _, _ => none

/-- The arguments of a call, from the entries of its object. -/
def argsOf? : List (String × Tree) → Option (List Value)
  | [] => none
  | (key, .list items) :: entries => if key = "args" then ofTrees? items else argsOf? entries
  | (key, _) :: entries => if key = "args" then none else argsOf? entries

end

end Value

def Argument.ofTree? : Tree → Option Argument
  | .object [("Positional", content)] => (Value.ofTree? content).map .positional
  | .object [("KeyValue", .object entries)] => do
    let key ← (← entries.lookup "key").text?
    let value ← Value.ofTree? (← entries.lookup "value")
    return .named key value
  | _ => none

def Attribute.ofTree? (t : Tree) : Option Attribute := do
  match ← t.record? ["name", "args"] with
  | [some name, some args] =>
    return { name := ← name.text?, args := ← (← args.list?).mapM Argument.ofTree? }
  | _ => none

def FieldDecl.ofTree? (t : Tree) : Option FieldDecl := do
  match ← t.record? ["name", "ty", "array", "optional", "attrs"] with
  | [some name, some type, some array, some optional, some attributes] =>
    return {
      name := ← name.text?
      type := ← type.text?
      array := ← array.bool?
      optional := ← optional.bool?
      attributes := ← (← attributes.list?).mapM Attribute.ofTree? }
  | _ => none

def ModelDecl.ofTree? (t : Tree) : Option ModelDecl := do
  match ← t.record? ["name", "fields"] with
  | [some name, some fields] =>
    return { name := ← name.text?, fields := ← (← fields.list?).mapM FieldDecl.ofTree? }
  | _ => none

/-- A comment, which may be left out or `null`. -/
def EnumeratorDecl.commentOf? : Option Tree → Option (Option String)
  | none => some none
  | some .null => some none
  | some (.text s) => some (some s)
  | some _ => none

def EnumeratorDecl.ofTree? (t : Tree) : Option EnumeratorDecl := do
  match ← t.record? ["name", "comment"] with
  | [some name, comment] => return { name := ← name.text?, comment := ← commentOf? comment }
  | _ => none

def EnumDecl.ofTree? (t : Tree) : Option EnumDecl := do
  match ← t.record? ["name", "enumerators"] with
  | [some name, some enumerators] =>
    return {
      name := ← name.text?
      enumerators := ← (← enumerators.list?).mapM EnumeratorDecl.ofTree? }
  | _ => none

def Declaration.ofTree? : Tree → Option Declaration
  | .object [("Model", content)] => (ModelDecl.ofTree? content).map .model
  | .object [("Enum", content)] => (EnumDecl.ofTree? content).map .enum
  | _ => none

/-- A list of declarations from data. -/
def Declaration.listOfTree? (t : Tree) : Option (List Declaration) := do
  (← t.list?).mapM Declaration.ofTree?

end SchemaCatalog
