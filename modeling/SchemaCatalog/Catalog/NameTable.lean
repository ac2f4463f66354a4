/-!
# Tables of names

What a name stands for.  A name keeps its first meaning: adding it again changes nothing.

* `NameTable.find?_add`: only a new name gets a meaning by being added.
* `NameTable.find?_ofList`: a name stands for the first of the things so named.
* `NameTable.find?_ofList_mapIdx`: where things are known by their places, for the first such place.
-/

namespace SchemaCatalog

structure NameTable (α : Type) where
  entries : List (String × α) := []

namespace NameTable

variable {α : Type}

def find? (t : NameTable α) (name : String) : Option α :=
  t.entries.lookup name

def contains (t : NameTable α) (name : String) : Bool :=
  (t.find? name).isSome

/-- The table with a meaning for the name, unless it has one. -/
def add (t : NameTable α) (name : String) (a : α) : NameTable α :=
  if t.contains name then t else { entries := t.entries ++ [(name, a)] }

/-- The table of a list of named things. -/
def ofList (named : List (String × α)) : NameTable α :=
  named.foldl (fun t (name, a) => t.add name a) {}

theorem find?_add (t : NameTable α) (name other : String) (a : α) :
    (t.add name a).find? other = (t.find? other).or (if other = name then some a else none) := by
  unfold add contains find?
  by_cases h : (t.entries.lookup name).isSome
  · rw [if_pos h]
    by_cases ho : other = name
    · subst ho
      obtain ⟨b, hb⟩ := Option.isSome_iff_exists.1 h
      simp [hb]
    · simp [ho]
  · rw [if_neg h, List.lookup_append]
    by_cases ho : other = name
    · simp [ho]
    · simp [ho, List.lookup_cons, beq_eq_false_iff_ne.2 ho]

theorem find?_foldl_add (named : List (String × α)) (t : NameTable α) (name : String) :
    (named.foldl (fun t (n, a) => t.add n a) t).find? name
      = (t.find? name).or (named.lookup name) := by
  induction named generalizing t with
  | nil => simp
  | cons p named ih =>
    obtain ⟨n, a⟩ := p
    rw [List.foldl_cons, ih, find?_add, Option.or_assoc]
    congr 1
    by_cases h : name = n
    · simp [h]
    · simp [h, List.lookup_cons, beq_eq_false_iff_ne.2 h]

/-- A name stands for the first of the things so named. -/
theorem find?_ofList (named : List (String × α)) (name : String) :
    (ofList named).find? name = named.lookup name := by
  rw [ofList, find?_foldl_add]
  simp [find?]

/-- A name stands for what is known of the first place that bears it. -/
theorem find?_ofList_mapIdx {β : Type} (nameOf : β → String) (f : Nat → α) (bs : List β)
    (name : String) :
    (ofList (bs.mapIdx fun i b => (nameOf b, f i))).find? name
      = (bs.findIdx? (nameOf · = name)).map f := by
  rw [find?_ofList]
  induction bs generalizing f with
  | nil => rfl
  | cons b bs ih =>
    rw [List.mapIdx_cons, List.lookup_cons, List.findIdx?_cons]
    by_cases h : nameOf b = name
    · simp [h]
    · rw [beq_eq_false_iff_ne.2 (Ne.symm h)]
      show List.lookup name _ = _
      rw [ih fun i => f (i + 1)]
      simp [h, Function.comp_def]

end NameTable

end SchemaCatalog
