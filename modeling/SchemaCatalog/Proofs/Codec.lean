import Mathlib.Data.List.Forall2
import SchemaCatalog.Declaration.Codec

/-!
# Declarations survive being written

Reading is looser than writing: it takes the fields of a record in any order, among entries that no
record has or as a plain list, and it takes a comment that is left out for none.  Numbers and nulls
are met only where they are passed over, a `null` comment apart.  `Spelling` says of each kind of
data which trees stand for it.  Reading accepts the spellings of a thing and no other tree, and what
is written for it is one of them.

    listOfTree? t = some ds ↔ ListSpelling t ds              (Declaration.listOfTree?_eq_some_iff)
    ListSpelling (listToTree ds) ds                          (Declaration.listSpelling_listToTree)
    listOfTree? (listToTree ds) = some ds                    (declarations_roundTrip)
-/

namespace SchemaCatalog

/-! ## Spellings -/

/-- The tree gives these values for the fields of a record: as an object, in any order and among
other entries, or as the list of all of them. -/
inductive Tree.GivesFields (names : List String) : Tree → List (Option Tree) → Prop where
  | object (entries : List (String × Tree)) :
    GivesFields names (.object entries) (names.map fun name => entries.lookup name)
  | list {items : List Tree} (h : items.length = names.length) :
    GivesFields names (.list items) (items.map some)

/-- The tree is a spelling of the value: an object whose only entry is named for the kind of value.
The parts of a call stand in any order and among other entries. -/
inductive Value.Spelling : Tree → Value → Prop where
  | ident (name : String) : Spelling (.object [("Ident", .text name)]) (.ident name)
  | string (content : String) : Spelling (.object [("String", .text content)]) (.string content)
  | number (spelling : String) : Spelling (.object [("Number", .text spelling)]) (.number spelling)
  | boolean (b : Bool) : Spelling (.object [("Boolean", .bool b)]) (.boolean b)
  | array {items : List Tree} {values : List Value} (h : List.Forall₂ Spelling items values) :
    Spelling (.object [("Array", .list items)]) (.array values)
  | call {entries : List (String × Tree)} {function : String} {items : List Tree}
      {args : List Value} (hname : entries.lookup "name" = some (.text function))
      (hargs : entries.lookup "args" = some (.list items))
      (h : List.Forall₂ Spelling items args) :
    Spelling (.object [("Function", .object entries)]) (.call function args)

/-- An argument is an object whose only entry tells how it is given. -/
inductive Argument.Spelling : Tree → Argument → Prop where
  | positional {content : Tree} {value : Value} (h : Value.Spelling content value) :
    Spelling (.object [("Positional", content)]) (.positional value)
  | named {entries : List (String × Tree)} {key : String} {content : Tree} {value : Value}
      (hkey : entries.lookup "key" = some (.text key))
      (hvalue : entries.lookup "value" = some content) (h : Value.Spelling content value) :
    Spelling (.object [("KeyValue", .object entries)]) (.named key value)

def Attribute.Spelling (t : Tree) (a : Attribute) : Prop :=
  ∃ args, t.GivesFields ["name", "args"] [some (.text a.name), some (.list args)] ∧
    List.Forall₂ Argument.Spelling args a.args

def FieldDecl.Spelling (t : Tree) (d : FieldDecl) : Prop :=
  ∃ attributes, t.GivesFields ["name", "ty", "array", "optional", "attrs"]
      [some (.text d.name), some (.text d.type), some (.bool d.array), some (.bool d.optional),
        some (.list attributes)] ∧
    List.Forall₂ Attribute.Spelling attributes d.attributes

def ModelDecl.Spelling (t : Tree) (d : ModelDecl) : Prop :=
  ∃ fields, t.GivesFields ["name", "fields"] [some (.text d.name), some (.list fields)] ∧
    List.Forall₂ FieldDecl.Spelling fields d.fields

/-- A comment that there is not is left out or `null`. -/
inductive EnumeratorDecl.CommentSpelling : Option Tree → Option String → Prop where
  | missing : CommentSpelling none none
  | null : CommentSpelling (some .null) none
  | text (s : String) : CommentSpelling (some (.text s)) (some s)

def EnumeratorDecl.Spelling (t : Tree) (d : EnumeratorDecl) : Prop :=
  ∃ comment, t.GivesFields ["name", "comment"] [some (.text d.name), comment] ∧
    CommentSpelling comment d.comment

def EnumDecl.Spelling (t : Tree) (d : EnumDecl) : Prop :=
  ∃ enumerators,
    t.GivesFields ["name", "enumerators"] [some (.text d.name), some (.list enumerators)] ∧
    List.Forall₂ EnumeratorDecl.Spelling enumerators d.enumerators

inductive Declaration.Spelling : Tree → Declaration → Prop where
  | model {content : Tree} {d : ModelDecl} (h : ModelDecl.Spelling content d) :
    Spelling (.object [("Model", content)]) (.model d)
  | enum {content : Tree} {d : EnumDecl} (h : EnumDecl.Spelling content d) :
    Spelling (.object [("Enum", content)]) (.enum d)

/-- The tree is a list of spellings of the declarations, one for each. -/
def Declaration.ListSpelling (t : Tree) (ds : List Declaration) : Prop :=
  ∃ items, t = .list items ∧ List.Forall₂ Declaration.Spelling items ds

/-! ## Parts of trees -/

namespace Tree

variable {t : Tree}

theorem text?_eq_some_iff {s : String} : t.text? = some s ↔ t = .text s := by
  cases t <;> simp [text?]

theorem bool?_eq_some_iff {b : Bool} : t.bool? = some b ↔ t = .bool b := by
  cases t <;> simp [bool?]

theorem list?_eq_some_iff {items : List Tree} : t.list? = some items ↔ t = .list items := by
  cases t <;> simp [list?]

theorem record?_eq_some_iff {names : List String} {values : List (Option Tree)} :
    t.record? names = some values ↔ t.GivesFields names values := by
  constructor
  · intro h
    cases t with
    | object entries =>
      cases h
      exact .object entries
    | list items =>
      obtain ⟨hlen, hvalues⟩ := Option.ite_none_right_eq_some.1 h
      rw [← Option.some.inj hvalues]
      exact .list hlen
    | null | bool | number | text => cases h
  · rintro (entries | hlen)
    · exact record?_object names entries
    · exact record?_list hlen

end Tree

/-- A list is read one by one. -/
theorem mapM_eq_some_iff {α β : Type} {f : α → Option β} {R : α → β → Prop}
    (hread : ∀ a b, f a = some b ↔ R a b) {as : List α} {bs : List β} :
    as.mapM f = some bs ↔ List.Forall₂ R as bs := by
  induction as generalizing bs with
  | nil => cases bs <;> simp
  | cons a as ih =>
    rw [List.mapM_cons]
    cases bs with
    | nil => cases f a <;> cases as.mapM f <;> simp
    | cons b bs =>
      rw [List.forall₂_cons, ← ih, ← hread]
      cases f a <;> cases as.mapM f <;> simp

/-! ## Values -/

namespace Value

theorem lookup_cons_of_ne {name key : String} {t : Tree} {entries : List (String × Tree)}
    (h : key ≠ name) : ((key, t) :: entries).lookup name = entries.lookup name := by
  rw [List.lookup_cons, beq_eq_false_iff_ne.2 h.symm]

/-- The arguments of a call are those of the first entry that is named for them. -/
theorem argsOf?_of_lookup {entries : List (String × Tree)} {items : List Tree}
    (h : entries.lookup "args" = some (.list items)) : argsOf? entries = ofTrees? items := by
  induction entries with
  | nil => cases h
  | cons entry entries ih =>
    obtain ⟨key, content⟩ := entry
    by_cases hkey : key = "args"
    · subst hkey
      rw [List.lookup_cons_self, Option.some.injEq] at h
      subst h
      rw [argsOf?, if_pos rfl]
    · rw [lookup_cons_of_ne hkey] at h
      cases content <;> rw [argsOf?, if_neg hkey, ih h] <;> simp

/-- Whatever is read is spelled by the tree it is read from.  The induction follows the reading, as
the arguments of a call lie behind a look-up and not at a place of the tree. -/
theorem spelling_of_ofTree?_all :
    (∀ t v, ofTree? t = some v → Spelling t v) ∧
    (∀ entries args, argsOf? entries = some args →
      ∃ items, entries.lookup "args" = some (.list items) ∧ List.Forall₂ Spelling items args) ∧
    (∀ ts vs, ofTrees? ts = some vs → List.Forall₂ Spelling ts vs) := by
  apply Value.ofTree?.mutual_induct
  case case1 =>
    intro name v h
    cases h
    exact .ident name
  case case2 =>
    intro content v h
    cases h
    exact .string content
  case case3 =>
    intro spelling v h
    cases h
    exact .number spelling
  case case4 =>
    intro b v h
    cases h
    exact .boolean b
  case case5 =>
    intro items ih v h
    obtain ⟨vs, hvs, rfl⟩ := Option.map_eq_some_iff.1 h
    exact .array (ih vs hvs)
  -- a call, read or not
  case case6 =>
    intro entries function args hargs hname ih v h
    rw [ofTree?, hname, hargs, Option.some.injEq] at h
    subst h
    obtain ⟨items, hitems, hspelled⟩ := ih args hargs
    exact .call hname hitems hspelled
  case case7 =>
    intro entries hnone ih v h
    simp only [ofTree?] at h
    cases h
  case case8 =>
    intro t h₁ h₂ h₃ h₄ h₅ h₆ v h
    rw [ofTree?] at h
    · cases h
    all_goals assumption
  -- lists of values
  case case9 =>
    intro vs h
    cases h
    exact .nil
  case case10 =>
    intro t ts v vs hvs hv iht ihts ws h
    rw [ofTrees?, hv, hvs, Option.some.injEq] at h
    subst h
    exact .cons (iht v hv) (ihts vs hvs)
  case case11 =>
    intro t ts hnone iht ihts ws h
    simp only [ofTrees?] at h
    cases h
  -- the entries of a call, up to the one with its arguments
  case case12 =>
    intro args h
    cases h
  case case13 =>
    intro items entries ih args h
    rw [argsOf?, if_pos rfl] at h
    exact ⟨items, List.lookup_cons_self, ih args h⟩
  case case14 =>
    intro key items entries hkey ih args h
    rw [argsOf?, if_neg hkey] at h
    rw [lookup_cons_of_ne hkey]
    exact ih args h
  case case15 =>
    intro content entries hcontent args h
    rw [argsOf?, if_pos rfl] at h
    · cases h
    · exact hcontent
  case case16 =>
    intro key content entries hcontent hkey ih args h
    rw [argsOf?, if_neg hkey] at h
    · rw [lookup_cons_of_ne hkey]
      exact ih args h
    · exact hcontent

mutual

/-- Every spelling of a value is read as that value. -/
theorem ofTree?_of_spelling : ∀ (v : Value) {t : Tree}, Spelling t v → ofTree? t = some v
  | .ident _, _, .ident _ => by rw [ofTree?]
  | .string _, _, .string _ => by rw [ofTree?]
  | .number _, _, .number _ => by rw [ofTree?]
  | .boolean _, _, .boolean _ => by rw [ofTree?]
  | .array values, _, .array h => by rw [ofTree?, ofTrees?_of_spelling values h, Option.map_some]
  | .call _ args, _, .call hname hargs h => by
    rw [ofTree?, hname, argsOf?_of_lookup hargs, ofTrees?_of_spelling args h]

theorem ofTrees?_of_spelling : ∀ (vs : List Value) {ts : List Tree},
    List.Forall₂ Spelling ts vs → ofTrees? ts = some vs
  | [], _, .nil => by rw [ofTrees?]
  | v :: vs, _, .cons hv hvs => by
    rw [ofTrees?, ofTree?_of_spelling v hv, ofTrees?_of_spelling vs hvs]

end

theorem ofTree?_eq_some_iff {t : Tree} {v : Value} : ofTree? t = some v ↔ Spelling t v :=
  ⟨spelling_of_ofTree?_all.1 t v, ofTree?_of_spelling v⟩

mutual

theorem spelling_toTree : ∀ v : Value, Spelling v.toTree v
  | .ident name => by rw [toTree]; exact .ident name
  | .string content => by rw [toTree]; exact .string content
  | .number spelling => by rw [toTree]; exact .number spelling
  | .boolean b => by rw [toTree]; exact .boolean b
  | .array items => by rw [toTree]; exact .array (spelling_toTrees items)
  | .call function args => by
    rw [toTree]
    exact .call List.lookup_cons_self (lookup_cons_of_ne (by decide)) (spelling_toTrees args)

theorem spelling_toTrees : ∀ vs : List Value, List.Forall₂ Spelling (toTrees vs) vs
  | [] => .nil
  | v :: vs => .cons (spelling_toTree v) (spelling_toTrees vs)

end

end Value

/-! ## Declarations -/

theorem forall₂_map_self {α : Type} {f : α → Tree} {R : Tree → α → Prop} (h : ∀ a, R (f a) a)
    (as : List α) : List.Forall₂ R (as.map f) as :=
  List.forall₂_map_left_iff.2 (List.forall₂_same.2 fun a _ => h a)

/-- Reading a record of a name and a list of parts, as attributes, models and enums are. -/
theorem namedList_eq_some_iff {α β : Type} {read : Tree → Option α} {R : Tree → α → Prop}
    (hread : ∀ t a, read t = some a ↔ R t a) {make : String → List α → β}
    (hmake : ∀ m as n bs, (make m as = make n bs) = (m = n ∧ as = bs)) {names : List String}
    (t : Tree) (name : String) (parts : List α) :
    (do
      match ← t.record? names with
      | [some name, some parts] => return make (← name.text?) (← (← parts.list?).mapM read)
      | _ => none) = some (make name parts) ↔
    ∃ items, t.GivesFields names [some (.text name), some (.list items)] ∧
      List.Forall₂ R items parts := by
  constructor
  · intro h
    obtain ⟨values, hvalues, h⟩ := Option.bind_eq_some_iff.1 h
    split at h
    · obtain ⟨n, hn, h⟩ := Option.bind_eq_some_iff.1 h
      obtain ⟨items, hitems, h⟩ := Option.bind_eq_some_iff.1 h
      obtain ⟨as, has, h⟩ := Option.bind_eq_some_iff.1 h
      obtain ⟨rfl, rfl⟩ := (hmake ..).mp (Option.some.inj h)
      rw [Tree.text?_eq_some_iff.1 hn, Tree.list?_eq_some_iff.1 hitems] at hvalues
      exact ⟨items, Tree.record?_eq_some_iff.1 hvalues, (mapM_eq_some_iff hread).1 has⟩
    · cases h
  · rintro ⟨items, hvalues, hparts⟩
    simp [Tree.record?_eq_some_iff.2 hvalues, Tree.text?, Tree.list?,
      (mapM_eq_some_iff hread).2 hparts]

namespace Argument

theorem spelling_of_ofTree? {t : Tree} {a : Argument} (h : ofTree? t = some a) : Spelling t a := by
  unfold ofTree? at h
  split at h
  · obtain ⟨value, hvalue, rfl⟩ := Option.map_eq_some_iff.1 h
    exact .positional (Value.ofTree?_eq_some_iff.1 hvalue)
  · obtain ⟨content, hcontent, h⟩ := Option.bind_eq_some_iff.1 h
    obtain ⟨key, hkey, h⟩ := Option.bind_eq_some_iff.1 h
    obtain ⟨content', hcontent', h⟩ := Option.bind_eq_some_iff.1 h
    obtain ⟨value, hvalue, h⟩ := Option.bind_eq_some_iff.1 h
    cases h
    rw [Tree.text?_eq_some_iff.1 hkey] at hcontent
    exact .named hcontent hcontent' (Value.ofTree?_eq_some_iff.1 hvalue)
  · cases h

theorem ofTree?_of_spelling {t : Tree} {a : Argument} (h : Spelling t a) : ofTree? t = some a := by
  cases h with
  | positional h => rw [ofTree?, Value.ofTree?_eq_some_iff.2 h, Option.map_some]
  | named hkey hvalue h =>
    simp [ofTree?, hkey, hvalue, Value.ofTree?_eq_some_iff.2 h, Tree.text?]

theorem ofTree?_eq_some_iff (t : Tree) (a : Argument) : ofTree? t = some a ↔ Spelling t a :=
  ⟨spelling_of_ofTree?, ofTree?_of_spelling⟩

theorem spelling_toTree (a : Argument) : Spelling a.toTree a := by
  cases a with
  | positional value => exact .positional value.spelling_toTree
  | named key value =>
    exact .named List.lookup_cons_self (Value.lookup_cons_of_ne (by decide)) value.spelling_toTree

end Argument

namespace Attribute

theorem ofTree?_eq_some_iff (t : Tree) (a : Attribute) : ofTree? t = some a ↔ Spelling t a :=
  namedList_eq_some_iff Argument.ofTree?_eq_some_iff Attribute.mk.injEq t a.name a.args

theorem spelling_toTree (a : Attribute) : Spelling a.toTree a :=
  ⟨_, .object _, forall₂_map_self Argument.spelling_toTree a.args⟩

end Attribute

namespace FieldDecl

variable {t : Tree} {d : FieldDecl}

theorem spelling_of_ofTree? (h : ofTree? t = some d) : Spelling t d := by
  obtain ⟨values, hvalues, h⟩ := Option.bind_eq_some_iff.1 h
  split at h
  · obtain ⟨name, hname, h⟩ := Option.bind_eq_some_iff.1 h
    obtain ⟨type, htype, h⟩ := Option.bind_eq_some_iff.1 h
    obtain ⟨array, harray, h⟩ := Option.bind_eq_some_iff.1 h
    obtain ⟨optional, hoptional, h⟩ := Option.bind_eq_some_iff.1 h
    obtain ⟨items, hitems, h⟩ := Option.bind_eq_some_iff.1 h
    obtain ⟨attributes, hattributes, h⟩ := Option.bind_eq_some_iff.1 h
    cases h
    rw [Tree.text?_eq_some_iff.1 hname, Tree.text?_eq_some_iff.1 htype,
      Tree.bool?_eq_some_iff.1 harray, Tree.bool?_eq_some_iff.1 hoptional,
      Tree.list?_eq_some_iff.1 hitems] at hvalues
    exact ⟨items, Tree.record?_eq_some_iff.1 hvalues,
      (mapM_eq_some_iff Attribute.ofTree?_eq_some_iff).1 hattributes⟩
  · cases h

theorem ofTree?_of_spelling (h : Spelling t d) : ofTree? t = some d := by
  obtain ⟨items, hvalues, hattributes⟩ := h
  simp [ofTree?, Tree.record?_eq_some_iff.2 hvalues, Tree.text?, Tree.bool?, Tree.list?,
    (mapM_eq_some_iff Attribute.ofTree?_eq_some_iff).2 hattributes]

theorem ofTree?_eq_some_iff (t : Tree) (d : FieldDecl) : ofTree? t = some d ↔ Spelling t d :=
  ⟨spelling_of_ofTree?, ofTree?_of_spelling⟩

theorem spelling_toTree (d : FieldDecl) : Spelling d.toTree d :=
  ⟨_, .object _, forall₂_map_self Attribute.spelling_toTree d.attributes⟩

end FieldDecl

namespace ModelDecl

theorem ofTree?_eq_some_iff (t : Tree) (d : ModelDecl) : ofTree? t = some d ↔ Spelling t d :=
  namedList_eq_some_iff FieldDecl.ofTree?_eq_some_iff ModelDecl.mk.injEq t d.name d.fields

theorem spelling_toTree (d : ModelDecl) : Spelling d.toTree d :=
  ⟨_, .object _, forall₂_map_self FieldDecl.spelling_toTree d.fields⟩

end ModelDecl

namespace EnumeratorDecl

theorem commentOf?_eq_some_iff {given : Option Tree} {comment : Option String} :
    commentOf? given = some comment ↔ CommentSpelling given comment := by
  constructor
  · intro h
    unfold commentOf? at h
    split at h
    · cases h; exact .missing
    · cases h; exact .null
    · cases h; exact .text _
    · cases h
  · rintro ⟨⟩ <;> rfl

theorem ofTree?_eq_some_iff (t : Tree) (d : EnumeratorDecl) :
    ofTree? t = some d ↔ Spelling t d := by
  constructor
  · intro h
    obtain ⟨values, hvalues, h⟩ := Option.bind_eq_some_iff.1 h
    split at h
    · obtain ⟨name, hname, h⟩ := Option.bind_eq_some_iff.1 h
      obtain ⟨comment, hcomment, h⟩ := Option.bind_eq_some_iff.1 h
      cases h
      rw [Tree.text?_eq_some_iff.1 hname] at hvalues
      exact ⟨_, Tree.record?_eq_some_iff.1 hvalues, commentOf?_eq_some_iff.1 hcomment⟩
    · cases h
  · rintro ⟨comment, hvalues, hcomment⟩
    simp [ofTree?, Tree.record?_eq_some_iff.2 hvalues, Tree.text?,
      commentOf?_eq_some_iff.2 hcomment]

theorem commentSpelling_ofText? (comment : Option String) :
    CommentSpelling (some (.ofText? comment)) comment := by
  cases comment with
  | none => exact .null
  | some s => exact .text s

theorem spelling_toTree (d : EnumeratorDecl) : Spelling d.toTree d :=
  ⟨_, .object _, commentSpelling_ofText? d.comment⟩

end EnumeratorDecl

namespace EnumDecl

theorem ofTree?_eq_some_iff (t : Tree) (d : EnumDecl) : ofTree? t = some d ↔ Spelling t d :=
  namedList_eq_some_iff EnumeratorDecl.ofTree?_eq_some_iff EnumDecl.mk.injEq t d.name d.enumerators

theorem spelling_toTree (d : EnumDecl) : Spelling d.toTree d :=
  ⟨_, .object _, forall₂_map_self EnumeratorDecl.spelling_toTree d.enumerators⟩

end EnumDecl

namespace Declaration

theorem ofTree?_eq_some_iff (t : Tree) (d : Declaration) : ofTree? t = some d ↔ Spelling t d := by
  constructor
  · intro h
    unfold ofTree? at h
    split at h
    · obtain ⟨decl, hdecl, rfl⟩ := Option.map_eq_some_iff.1 h
      exact .model ((ModelDecl.ofTree?_eq_some_iff _ _).1 hdecl)
    · obtain ⟨decl, hdecl, rfl⟩ := Option.map_eq_some_iff.1 h
      exact .enum ((EnumDecl.ofTree?_eq_some_iff _ _).1 hdecl)
    · cases h
  · intro h
    cases h with
    | model h => rw [ofTree?, (ModelDecl.ofTree?_eq_some_iff _ _).2 h, Option.map_some]
    | enum h => rw [ofTree?, (EnumDecl.ofTree?_eq_some_iff _ _).2 h, Option.map_some]

theorem spelling_toTree (d : Declaration) : Spelling d.toTree d := by
  cases d with
  | model d => exact .model d.spelling_toTree
  | enum d => exact .enum d.spelling_toTree

/-- A list of declarations is read from exactly its spellings. -/
theorem listOfTree?_eq_some_iff (t : Tree) (ds : List Declaration) :
    listOfTree? t = some ds ↔ ListSpelling t ds := by
  rw [listOfTree?, Option.bind_eq_bind, Option.bind_eq_some_iff]
  simp only [Tree.list?_eq_some_iff, mapM_eq_some_iff ofTree?_eq_some_iff]
  rfl

theorem listSpelling_listToTree (ds : List Declaration) : ListSpelling (listToTree ds) ds :=
  ⟨_, rfl, forall₂_map_self spelling_toTree ds⟩

end Declaration

/-- Declarations are read back as they were written.  The trees that are read at all are those that
spell declarations, loosely or not; what is read from one is written and read again as it is. -/
theorem declarations_roundTrip :
    (∀ ds, Declaration.listOfTree? (Declaration.listToTree ds) = some ds) ∧
    (∀ t ds, Declaration.listOfTree? t = some ds ↔ Declaration.ListSpelling t ds) ∧
    (∀ t ds, Declaration.listOfTree? t = some ds →
      Declaration.listOfTree? (Declaration.listToTree ds) = some ds) := by
  have hwritten : ∀ ds, Declaration.listOfTree? (Declaration.listToTree ds) = some ds := fun ds =>
    (Declaration.listOfTree?_eq_some_iff _ ds).2 (Declaration.listSpelling_listToTree ds)
  exact ⟨hwritten, Declaration.listOfTree?_eq_some_iff, fun _ ds _ => hwritten ds⟩

/-- A model as a plain list, a field with its entries out of order and one, a fraction, too many, and
comments left out, `null` and given. -/
def looseTree : Tree :=
  .list [
    .tagged "Model" (.list [.text "Post", .list [
      .object [("attrs", .list [.list [.text "default", .list [
          .tagged "KeyValue" (.object [
            ("value", .tagged "Array" (.list [
              .tagged "Function" (.object [("args", .list []), ("line", .number 3 0),
                ("name", .text "now")])])),
            ("key", .text "at")])]]]),
        ("weight", .number 125 1), ("optional", .bool true), ("array", .bool false),
        ("ty", .text "DateTime"), ("name", .text "createdAt")]]]),
    .tagged "Enum" (.object [("name", .text "Tag"), ("enumerators", .list [
      .object [("name", .text "NEWS")], .list [.text "ART", .null],
      .object [("comment", .text "the rest"), ("name", .text "OTHER")]])])]

/-- The declarations that the loose tree is read as. -/
def looseDeclarations : List Declaration :=
  [.model { name := "Post", fields := [
      { name := "createdAt", type := "DateTime", optional := true, attributes := [
        { name := "default", args := [.named "at" (.array [.call "now" []])] }] }] },
   .enum { name := "Tag", enumerators := [
      { name := "NEWS" }, { name := "ART" }, { name := "OTHER", comment := some "the rest" }] }]

theorem looseDeclarations_roundTrip :
    Declaration.listOfTree? looseTree = some looseDeclarations ∧
    Declaration.listOfTree? (Declaration.listToTree looseDeclarations) = some looseDeclarations := by
  have h : Declaration.listOfTree? looseTree = some looseDeclarations := by decide +kernel
  exact ⟨h, declarations_roundTrip.2.2 looseTree looseDeclarations h⟩

end SchemaCatalog
