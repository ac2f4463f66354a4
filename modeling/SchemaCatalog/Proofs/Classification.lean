import Mathlib.Data.List.Basic
import SchemaCatalog.Catalog.Field

/-!
# What the attributes of a field say

A field may bear any number of attributes of one name, well formed or not.  Of the attributes that
say something the last one counts, and of the arguments within it the first one; an attribute that
says nothing takes nothing back.

    decl.HasDefault d ↔ lastSome? Attribute.default? decl.attributes = d      (hasDefault_iff)
    decl.HasRole role guess ↔ classifyRole decl = (role, guess)               (hasRole_iff)
    classify id decl = .ok c ↔ decl.Describes id names c                      (classify_eq_ok_iff)
-/

namespace SchemaCatalog

open Naming

/-! ## First and last -/

section

variable {α β : Type} {P Q : α → Prop} {R : α → β → Prop} {pick? : α → Option β} {as : List α}
  {a : α} {b : β}

/-- The element stands in the list, has the property, and none before it has. -/
def FirstWith (P : α → Prop) (as : List α) (a : α) : Prop :=
  ∃ before after, as = before ++ a :: after ∧ P a ∧ ∀ x ∈ before, ¬ P x

/-- The element stands in the list, has the property, and none after it has. -/
def LastWith (P : α → Prop) (as : List α) (a : α) : Prop :=
  ∃ before after, as = before ++ a :: after ∧ P a ∧ ∀ x ∈ after, ¬ P x

theorem LastWith.congr (h : ∀ a, P a ↔ Q a) : LastWith P as a ↔ LastWith Q as a := by
  simp only [LastWith, h]

/-- What a search finds is told by the first element that has something to tell. -/
theorem findSome?_eq_some_iff_first (hpick : ∀ a b, pick? a = some b ↔ R a b) :
    as.findSome? pick? = some b ↔ ∃ a, FirstWith (∃ c, R · c) as a ∧ R a b := by
  rw [List.findSome?_eq_some_iff]
  constructor
  · rintro ⟨before, a, after, rfl, ha, hbefore⟩
    have hab : R a b := (hpick a b).1 ha
    refine ⟨a, ⟨before, after, rfl, ⟨b, hab⟩, ?_⟩, hab⟩
    rintro x hx ⟨c, hc⟩
    rw [← hpick, hbefore x hx] at hc
    cases hc
  · rintro ⟨a, ⟨before, after, rfl, -, hbefore⟩, hab⟩
    refine ⟨before, a, after, rfl, (hpick a b).2 hab, fun x hx => ?_⟩
    exact Option.eq_none_iff_forall_ne_some.2 fun c hc => hbefore x hx ⟨c, (hpick x c).1 hc⟩

theorem firstWith_reverse : FirstWith P as.reverse a ↔ LastWith P as a := by
  constructor
  · rintro ⟨before, after, hsplit, ha, hbefore⟩
    refine ⟨after.reverse, before.reverse, ?_, ha, fun x hx => hbefore x (List.mem_reverse.1 hx)⟩
    have hreversed := congrArg List.reverse hsplit
    simpa using hreversed
  · rintro ⟨before, after, rfl, ha, hafter⟩
    exact ⟨after.reverse, before.reverse, by simp, ha,
      fun x hx => hafter x (List.mem_reverse.1 hx)⟩

/-- What is said last is told by the last element that has something to tell. -/
theorem lastSome?_eq_some_iff (hpick : ∀ a b, pick? a = some b ↔ R a b) :
    lastSome? pick? as = some b ↔ ∃ a, LastWith (∃ c, R · c) as a ∧ R a b := by
  rw [lastSome?_eq, findSome?_eq_some_iff_first hpick]
  simp only [firstWith_reverse]

end

/-! ## What is said -/

/-- A value names an identifier: it is one, or it is an array whose first item names one. -/
inductive Value.Names : Value → String → Prop where
  | ident (name : String) : Names (.ident name) name
  | array {item : Value} {name : String} (items : List Value) (h : Names item name) :
    Names (.array (item :: items)) name

namespace Attribute

/-- The attribute is a `default`, and this is its first argument by position. -/
def GivesDefault (a : Attribute) (v : Value) : Prop :=
  a.name = "default" ∧ FirstWith (∃ w, · = .positional w) a.args (.positional v)

/-- The first argument under the key names the identifier. -/
def NamesUnder (a : Attribute) (key name : String) : Prop :=
  ∃ v, FirstWith (∃ w, · = .named key w) a.args (.named key v) ∧ v.Names name

/-- The attribute is a `relation` with this foreign key. -/
def GivesForeignKey (a : Attribute) (foreignKey : String) : Prop :=
  a.name = "relation" ∧ a.NamesUnder "fields" foreignKey

end Attribute

namespace FieldDecl

/-- The value is the argument of the last `default` that has one. -/
def SaysDefault (decl : FieldDecl) (v : Value) : Prop :=
  ∃ a, LastWith (∃ w, ·.GivesDefault w) decl.attributes a ∧ a.GivesDefault v

/-- The foreign key is that of the last `relation` that has one, and the column referred to is named
by the same attribute, if at all. -/
def SaysRelation (decl : FieldDecl) (foreignKey : String) (references : Option String) : Prop :=
  ∃ a, LastWith (∃ name, ·.GivesForeignKey name) decl.attributes a ∧
    a.GivesForeignKey foreignKey ∧ ∀ name, references = some name ↔ a.NamesUnder "references" name

/-- The default of a declared field: a call of a generator, any other value, or nothing. -/
inductive HasDefault (decl : FieldDecl) : Option FieldDefault → Prop where
  | generated {g : Generator} {args : List Value} (h : decl.SaysDefault (.call g.function args)) :
    HasDefault decl (some (.generated g))
  | value {v : Value} (h : decl.SaysDefault v)
      (hcall : ∀ g args, v ≠ .call (Generator.function g) args) :
    HasDefault decl (some (.value v))
  | missing (h : ∀ v, ¬ decl.SaysDefault v) : HasDefault decl none

/-- The default of the field is a call of a generator. -/
def Generates (decl : FieldDecl) : Prop :=
  ∃ g args, decl.SaysDefault (.call (Generator.function g) args)

/-- The role of a declared field by itself, and what it may still turn out to be. -/
inductive HasRole (decl : FieldDecl) : FieldRole → Option Tentative → Prop where
  | key (h : decl.Generates) : HasRole decl .key none
  | belongsTo {foreignKey : String} {references : Option String} (hkey : ¬ decl.Generates)
      (h : decl.SaysRelation foreignKey references) :
    HasRole decl (.belongsTo { foreignKey, references, target := none }) none
  | scalar (hkey : ¬ decl.Generates) (hrelation : ∀ fk refs, ¬ decl.SaysRelation fk refs)
      (h : decl.type ∈ scalarTypes) : HasRole decl .scalar none
  | many (hkey : ¬ decl.Generates) (hrelation : ∀ fk refs, ¬ decl.SaysRelation fk refs)
      (htype : decl.type ∉ scalarTypes) (h : decl.array = true) :
    HasRole decl .unclassified (some .hasMany)
  | single (hkey : ¬ decl.Generates) (hrelation : ∀ fk refs, ¬ decl.SaysRelation fk refs)
      (htype : decl.type ∉ scalarTypes) (h : decl.array = false) :
    HasRole decl .unclassified (some .enum)

/-- The field that comes of a declaration, under this id and with these name forms. -/
structure Describes (decl : FieldDecl) (id : FieldId) (names : NameForms) (c : Classified) :
    Prop where
  id : c.field.id = id
  name : c.field.name = decl.name
  names : c.field.names = names
  type : c.field.type = decl.type
  array : c.field.array = decl.array
  nullable : c.field.nullable = decl.optional
  attributes : c.field.attributes = decl.attributes
  primaryKey : c.field.primaryKey = true ↔ ∃ a ∈ decl.attributes, a.name = "id"
  unique : c.field.unique = true ↔ ∃ a ∈ decl.attributes, a.name = "unique"
  default : decl.HasDefault c.field.default
  role : decl.HasRole c.field.role c.tentative

end FieldDecl

/-! ## Arguments -/

theorem Value.firstIdent?_eq_some_iff {v : Value} {name : String} :
    v.firstIdent? = some name ↔ v.Names name := by
  constructor
  · intro h
    fun_induction Value.firstIdent? v with
    | case1 =>
      cases h
      exact .ident name
    | case2 item items ih => exact .array items (ih h)
    | case3 => cases h
  · intro h
    induction h with
    | ident => rw [firstIdent?]
    | array items h ih => rw [firstIdent?, ih]

namespace Attribute

variable {a : Attribute} {key : String} {v : Value}

theorem firstPositional?_eq_some_iff :
    a.firstPositional? = some v ↔ FirstWith (∃ w, · = .positional w) a.args (.positional v) := by
  unfold firstPositional?
  rw [findSome?_eq_some_iff_first (R := fun arg w => arg = .positional w)]
  · simp
  · intro arg w
    cases arg <;> simp

theorem named?_eq_some_iff :
    a.named? key = some v ↔ FirstWith (∃ w, · = .named key w) a.args (.named key v) := by
  unfold named?
  rw [findSome?_eq_some_iff_first (R := fun arg w => arg = .named key w)]
  · simp
  · intro arg w
    cases arg <;> simp

theorem namedIdent?_eq_some_iff {key name : String} :
    (a.named? key).bind Value.firstIdent? = some name ↔ a.NamesUnder key name := by
  simp only [Option.bind_eq_some_iff, named?_eq_some_iff, Value.firstIdent?_eq_some_iff, NamesUnder]

theorem default?_eq_some_iff {d : FieldDefault} :
    a.default? = some d ↔ ∃ v, a.GivesDefault v ∧ FieldDefault.ofValue v = d := by
  unfold default? GivesDefault
  by_cases hname : a.name = "default"
  · simp only [hname, if_true, true_and, Option.map_eq_some_iff, firstPositional?_eq_some_iff]
  · simp [hname]

/-- What an attribute says of a relation: its foreign key and the column referred to. -/
def GivesRelation (a : Attribute) (r : BelongsTo) : Prop :=
  a.GivesForeignKey r.foreignKey ∧
    (∀ name, r.references = some name ↔ a.NamesUnder "references" name) ∧ r.target = none

theorem belongsTo?_eq_some_iff {r : BelongsTo} : a.belongsTo? = some r ↔ a.GivesRelation r := by
  obtain ⟨foreignKey, references, target⟩ := r
  unfold belongsTo? GivesRelation GivesForeignKey
  by_cases hname : a.name = "relation"
  · simp only [hname, if_true, true_and, Option.map_eq_some_iff, namedIdent?_eq_some_iff,
      BelongsTo.mk.injEq]
    constructor
    · rintro ⟨name, hfields, rfl, rfl, rfl⟩
      exact ⟨hfields, fun _ => namedIdent?_eq_some_iff, rfl⟩
    · rintro ⟨hfields, hreferences, rfl⟩
      refine ⟨foreignKey, hfields, rfl, ?_, rfl⟩
      exact Option.ext fun name => namedIdent?_eq_some_iff.trans (hreferences name).symm
  · simp [hname]

/-- An attribute with a foreign key says what the column referred to is, or that there is none. -/
theorem exists_givesRelation : (∃ r, a.GivesRelation r) ↔ ∃ name, a.GivesForeignKey name := by
  constructor
  · rintro ⟨r, h, -⟩
    exact ⟨r.foreignKey, h⟩
  · rintro ⟨name, h⟩
    exact ⟨⟨name, (a.named? "references").bind Value.firstIdent?, none⟩, h,
      fun _ => namedIdent?_eq_some_iff, rfl⟩

end Attribute

/-! ## Defaults and relations -/

theorem FieldDefault.ofValue_eq_generated_iff {v : Value} {g : Generator} :
    ofValue v = .generated g ↔ ∃ args, v = .call g.function args := by
  unfold ofValue
  constructor
  · intro h
    split at h
    · next g' hg =>
      cases h
      obtain ⟨name, hv, hname⟩ := Option.bind_eq_some_iff.1 hg
      cases v <;> cases hv
      rw [Generator.ofFunction?_eq_some.1 hname]
      exact ⟨_, rfl⟩
    · cases h
  · rintro ⟨args, rfl⟩
    simp only [Value.function?, Option.bind_some, Generator.ofFunction?_function]

theorem FieldDefault.ofValue_eq_value_iff {v w : Value} :
    ofValue v = .value w ↔ v = w ∧ ∀ g args, v ≠ .call (Generator.function g) args := by
  constructor
  · intro h
    refine ⟨?_, fun g args hv => ?_⟩
    · unfold ofValue at h
      split at h
      · cases h
      · exact FieldDefault.value.inj h
    · rw [ofValue_eq_generated_iff.2 ⟨args, hv⟩] at h
      cases h
  · rintro ⟨rfl, hcall⟩
    cases h : ofValue v with
    | generated g =>
      obtain ⟨args, hv⟩ := ofValue_eq_generated_iff.1 h
      exact absurd hv (hcall g args)
    | value w =>
      unfold ofValue at h
      split at h
      · cases h
      · exact h.symm

namespace FieldDecl

variable {decl : FieldDecl}

theorem lastDefault_eq_some_iff {d : FieldDefault} :
    lastSome? Attribute.default? decl.attributes = some d ↔
      ∃ v, decl.SaysDefault v ∧ FieldDefault.ofValue v = d := by
  rw [lastSome?_eq_some_iff fun _ _ => Attribute.default?_eq_some_iff]
  have hsaid : ∀ a : Attribute,
      (∃ c v, a.GivesDefault v ∧ FieldDefault.ofValue v = c) ↔ ∃ v, a.GivesDefault v := fun a =>
    ⟨fun ⟨_, v, h, _⟩ => ⟨v, h⟩, fun ⟨v, h⟩ => ⟨_, v, h, rfl⟩⟩
  simp only [LastWith.congr hsaid]
  constructor
  · rintro ⟨a, hlast, v, hv, hd⟩
    exact ⟨v, ⟨a, hlast, hv⟩, hd⟩
  · rintro ⟨v, ⟨a, hlast, hv⟩, hd⟩
    exact ⟨a, hlast, v, hv, hd⟩

theorem lastRelation_eq_some_iff {r : BelongsTo} :
    lastSome? Attribute.belongsTo? decl.attributes = some r ↔
      decl.SaysRelation r.foreignKey r.references ∧ r.target = none := by
  rw [lastSome?_eq_some_iff fun _ _ => Attribute.belongsTo?_eq_some_iff]
  simp only [LastWith.congr fun _ => Attribute.exists_givesRelation]
  constructor
  · rintro ⟨a, hlast, hkey, hreferences, htarget⟩
    exact ⟨⟨a, hlast, hkey, hreferences⟩, htarget⟩
  · rintro ⟨⟨a, hlast, hkey, hreferences⟩, htarget⟩
    exact ⟨a, hlast, hkey, hreferences, htarget⟩

/-- The default of a field is the one that its attributes were searched for. -/
theorem hasDefault_iff {d : Option FieldDefault} :
    decl.HasDefault d ↔ lastSome? Attribute.default? decl.attributes = d := by
  constructor
  · intro h
    cases h with
    | generated h =>
      exact lastDefault_eq_some_iff.2 ⟨_, h, FieldDefault.ofValue_eq_generated_iff.2 ⟨_, rfl⟩⟩
    | value h hcall =>
      exact lastDefault_eq_some_iff.2 ⟨_, h, FieldDefault.ofValue_eq_value_iff.2 ⟨rfl, hcall⟩⟩
    | missing h =>
      refine Option.eq_none_iff_forall_ne_some.2 fun d hd => ?_
      obtain ⟨v, hv, -⟩ := lastDefault_eq_some_iff.1 hd
      exact h v hv
  · rintro rfl
    cases hlast : lastSome? Attribute.default? decl.attributes with
    | none =>
      refine .missing fun v hv => ?_
      rw [lastDefault_eq_some_iff.2 ⟨v, hv, rfl⟩] at hlast
      cases hlast
    | some d =>
      obtain ⟨v, hv, hd⟩ := lastDefault_eq_some_iff.1 hlast
      cases d with
      | generated g =>
        obtain ⟨args, rfl⟩ := FieldDefault.ofValue_eq_generated_iff.1 hd
        exact .generated hv
      | value w =>
        obtain ⟨rfl, hcall⟩ := FieldDefault.ofValue_eq_value_iff.1 hd
        exact .value hv hcall

theorem generates_iff :
    decl.Generates ↔
      ∃ g, (lastSome? Attribute.default? decl.attributes).bind FieldDefault.generator?
        = some g := by
  simp only [Option.bind_eq_some_iff, lastDefault_eq_some_iff]
  constructor
  · rintro ⟨g, args, h⟩
    exact ⟨g, .generated g, ⟨_, h, FieldDefault.ofValue_eq_generated_iff.2 ⟨args, rfl⟩⟩, rfl⟩
  · rintro ⟨g, d, ⟨v, hv, hd⟩, hg⟩
    cases d <;> cases hg
    obtain ⟨args, rfl⟩ := FieldDefault.ofValue_eq_generated_iff.1 hd
    exact ⟨g, args, hv⟩

theorem lastRelation_eq_none_iff :
    lastSome? Attribute.belongsTo? decl.attributes = none ↔
      ∀ foreignKey references, ¬ decl.SaysRelation foreignKey references := by
  constructor
  · intro hnone foreignKey references h
    rw [lastRelation_eq_some_iff (r := ⟨foreignKey, references, none⟩) |>.2 ⟨h, rfl⟩] at hnone
    cases hnone
  · intro h
    refine Option.eq_none_iff_forall_ne_some.2 fun r hr => ?_
    exact h _ _ (lastRelation_eq_some_iff.1 hr).1

theorem not_generates_iff :
    ¬ decl.Generates ↔
      (lastSome? Attribute.default? decl.attributes).bind FieldDefault.generator? = none := by
  rw [generates_iff, Option.eq_none_iff_forall_ne_some, not_exists]

theorem isScalarType_iff : isScalarType decl.type = true ↔ decl.type ∈ scalarTypes :=
  List.contains_iff_mem

/-- The role of a field is the one that the rules of classification come to. -/
theorem hasRole_iff {role : FieldRole} {guess : Option Tentative} :
    decl.HasRole role guess ↔ classifyRole decl = (role, guess) := by
  unfold classifyRole
  constructor
  · intro h
    cases h with
    | key h =>
      obtain ⟨g, hg⟩ := generates_iff.1 h
      rw [hg]
    | belongsTo hkey h =>
      rw [not_generates_iff.1 hkey, lastRelation_eq_some_iff (r := ⟨_, _, none⟩) |>.2 ⟨h, rfl⟩]
    | scalar hkey hrelation h =>
      rw [not_generates_iff.1 hkey, lastRelation_eq_none_iff.2 hrelation]
      exact if_pos (isScalarType_iff.2 h)
    | many hkey hrelation htype h =>
      rw [not_generates_iff.1 hkey, lastRelation_eq_none_iff.2 hrelation, h]
      exact if_neg (mt isScalarType_iff.1 htype)
    | single hkey hrelation htype h =>
      rw [not_generates_iff.1 hkey, lastRelation_eq_none_iff.2 hrelation, h]
      exact if_neg (mt isScalarType_iff.1 htype)
  · intro h
    split at h
    · next g hg =>
      cases h
      exact .key (generates_iff.2 ⟨g, hg⟩)
    · next hkey =>
      rw [← not_generates_iff] at hkey
      split at h
      · next r hr =>
        obtain ⟨hsaid, htarget⟩ := lastRelation_eq_some_iff.1 hr
        obtain ⟨foreignKey, references, target⟩ := r
        cases htarget
        cases h
        exact .belongsTo hkey hsaid
      · next hrelation =>
        rw [lastRelation_eq_none_iff] at hrelation
        split at h
        · next htype =>
          cases h
          exact .scalar hkey hrelation (isScalarType_iff.1 htype)
        · next htype =>
          rw [isScalarType_iff] at htype
          cases harray : decl.array <;> rw [harray] at h <;> cases h
          · exact .single hkey hrelation htype harray
          · exact .many hkey hrelation htype harray

end FieldDecl

/-! ## The classified field -/

variable {id : FieldId} {decl : FieldDecl} {names : NameForms} {c : Classified}

/-- Classification answers with the field that the declaration describes, and with no other. -/
theorem classify_eq_ok_iff (h : NameForms.ofName decl.name = .ok names) :
    classify id decl = .ok c ↔ decl.Describes id names c := by
  unfold classify
  rw [h]
  constructor
  · rintro ⟨⟩
    exact {
      id := rfl, name := rfl, names := rfl, type := rfl, array := rfl, nullable := rfl
      attributes := rfl
      primaryKey := by simp
      unique := by simp
      default := FieldDecl.hasDefault_iff.2 rfl
      role := FieldDecl.hasRole_iff.2 rfl }
  · intro hc
    have hkey : c.field.primaryKey = decl.attributes.any (·.name = "id") :=
      Bool.eq_iff_iff.2 (hc.primaryKey.trans (by simp))
    have hunique : c.field.unique = decl.attributes.any (·.name = "unique") :=
      Bool.eq_iff_iff.2 (hc.unique.trans (by simp))
    have hdefault := FieldDecl.hasDefault_iff.1 hc.default
    have hrole := FieldDecl.hasRole_iff.1 hc.role
    obtain ⟨field, tentative⟩ := c
    cases field
    obtain ⟨rfl, rfl, rfl, rfl, rfl, rfl, rfl, -, -, -, -⟩ := hc
    simp only at hkey hunique hdefault hrole
    subst hkey hunique hdefault
    simp only [hrole]
    rfl

/-- However many attributes a field bears, and however they contradict one another, its
classification answers, and the answer is the one field that the declaration describes. -/
theorem classify_describes (id : FieldId) (decl : FieldDecl) (names : NameForms)
    (h : NameForms.ofName decl.name = .ok names) :
    ∃ c, classify id decl = .ok c ∧ ∀ d, decl.Describes id names d ↔ d = c := by
  obtain ⟨c, hc⟩ : ∃ c, classify id decl = .ok c := by
    unfold classify
    rw [h]
    exact ⟨_, rfl⟩
  refine ⟨c, hc, fun d => ?_⟩
  rw [← classify_eq_ok_iff h, hc]
  constructor
  · intro hd
    exact (Except.ok.inj hd).symm
  · rintro rfl
    rfl

/-- A field with two defaults and a relation, each with attributes after it that say nothing. -/
def contestedField : FieldDecl where
  name := "author"
  type := "Int"
  array := true
  attributes := [
    { name := "default", args := [.positional (.call "cuid" [])] },
    { name := "relation", args := [.named "fields" (.array [.idents ["authorId", "id"]]),
      .named "references" (.ident "id"), .named "fields" (.idents ["otherId"])] },
    { name := "default", args := [.named "value" (.call "uuid" []), .positional (.call "now" [])] },
    { name := "default" },
    { name := "relation", args := [.named "fields" (.number "1"), .named "fields" (.ident "x")] },
    { name := "relation", args := [.positional (.string "Authored")] }]

/-- The field is neither a key nor a scalar: the later default generates nothing, and the relation
counts although the relations after it lack a foreign key. -/
theorem contestedField_described :
    ∃ names, NameForms.ofName contestedField.name = .ok names ∧
      ∃ c, classify ⟨⟨0⟩, 1⟩ contestedField = .ok c ∧
        c.field.default = some (.value (.call "now" [])) ∧
        c.field.role = .belongsTo ⟨"authorId", some "id", none⟩ ∧
        ∀ d, contestedField.Describes ⟨⟨0⟩, 1⟩ names d ↔ d = c := by
  have hnames : NameForms.ofName contestedField.name = .ok
      ⟨"author", "authors", "author", "authors", "Author", "Authors", "Author", "Authors"⟩ := by
    decide +kernel
  obtain ⟨c, hc, hdescribes⟩ := classify_describes ⟨⟨0⟩, 1⟩ contestedField _ hnames
  have hfit := (hdescribes c).2 rfl
  refine ⟨_, hnames, c, hc, ?_, ?_, hdescribes⟩
  · exact (FieldDecl.hasDefault_iff.1 hfit.default).symm.trans (by decide)
  · exact (congrArg Prod.fst (FieldDecl.hasRole_iff.1 hfit.role)).symm.trans (by decide)

end SchemaCatalog
