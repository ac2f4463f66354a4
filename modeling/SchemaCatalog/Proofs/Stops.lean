import SchemaCatalog.Proofs.Buckets

/-!
# What stops a build

A build stops at a declared name that cannot be inflected and at nothing else.  The names that count
are those of models, of fields and of enums (`Declares`); enumerators are not inflected.  All else
that could stop it is out of reach: every identifier of a guess leads to its field, every place in a
bucket is that of a field, and a relation is taken for one only where it is one.

    (∃ e, b.build source = .error e) ↔
      source declares a name that cannot be inflected                            (build_stops_iff)
    (assembled ds).LinksSafely                                                 (linksSafely_assembled)
-/

namespace SchemaCatalog

open Naming Inflection

/-- The names that are declared, of models, of their fields and of enums. -/
inductive Declares (ds : List Declaration) : String → Prop where
  | model {d : ModelDecl} (h : .model d ∈ ds) : Declares ds d.name
  | field {d : ModelDecl} {f : FieldDecl} (h : .model d ∈ ds) (hf : f ∈ d.fields) :
    Declares ds f.name
  | enum {d : EnumDecl} (h : .enum d ∈ ds) : Declares ds d.name

namespace Model

/-- The fields at these places, each looked up. -/
def fieldsAt (m : Model) (places : List Nat) : Except LookupError (List Field) :=
  places.mapM m.fieldAt

/-- Whether the field at the place serves one of the relations, with every place looked up. -/
def lookUpServes (m : Model) (relations : List Nat) (place : Nat) : Except LookupError Bool := do
  let f ← m.fieldAt place
  return (← m.fieldsAt relations).any (·.foreignKey? = some f.name)

/-- The buckets that depend on the fields of the model alone, with every place looked up. -/
def collectBuckets (m : Model) : Except LookupError Buckets := do
  let belongsTo := placesWhere (·.role.isBelongsTo) m.fields
  let scalar ← (placesWhere (·.role.isScalar) m.fields).filterM fun place => do
    return !(← m.lookUpServes belongsTo place)
  return { key := placesWhere (·.role.isKey) m.fields, scalar, belongsTo }

/-- Every place in a bucket of the model is that of a field. -/
def PlacesLead (m : Model) : Prop :=
  ∀ b, m.fieldsAt (m.buckets.get b) = .ok (m.bucket b)

end Model

/-- Linking the assembly does not stop, and before and after it no place in a bucket leads astray. -/
structure Assembly.LinksSafely (a : Assembly) : Prop where
  collected : ∀ m ∈ a.models, m.collectBuckets = .ok m.buckets
  placesLead : ∀ m ∈ a.models, m.PlacesLead
  links : ∃ linked events, a.link = .ok (linked, events) ∧ ∀ m ∈ linked.models, m.PlacesLead

/-! ## Places -/

section
variable {α β ε : Type} {e : ε} {as : List α}

theorem filterM_eq_filter {p : α → Except ε Bool} {q : α → Bool} (h : ∀ a ∈ as, p a = .ok (q a)) :
    as.filterM p = .ok (as.filter q) := by
  -- the worker keeps what it has found so far in reverse
  have aux : ∀ (as acc : List α), (∀ a ∈ as, p a = .ok (q a)) →
      as.filterAuxM p acc = .ok ((as.filter q).reverse ++ acc) := by
    intro as
    induction as with
    | nil => intro acc _; rfl
    | cons a as ih =>
      intro acc h
      rw [List.forall_mem_cons] at h
      rw [List.filterAuxM, h.1]
      show as.filterAuxM p (cond (q a) (a :: acc) acc) = _
      rw [ih _ h.2]
      cases hq : q a <;> simp [hq]
  rw [List.filterM, aux as [] h]
  simp [bind, Except.bind, pure, Except.pure]

/-- What is done with a result does not fail by itself. -/
theorem eq_error_of_bind {x : Except ε α} {f : α → Except ε β} (hf : ∀ a, ∃ b, f a = .ok b)
    (h : x >>= f = .error e) : x = .error e := by
  cases x with
  | error e' =>
    cases h
    rfl
  | ok a =>
    obtain ⟨b, hb⟩ := hf a
    have hok : f a = .error e := h
    rw [hb] at hok
    cases hok

/-- What a walk over a list fails on is what it fails on at one element. -/
theorem exists_of_mapM_eq_error {f : α → Except ε β} (h : as.mapM f = .error e) :
    ∃ a ∈ as, f a = .error e := by
  induction as with
  | nil => cases h
  | cons a as ih =>
    rw [List.mapM_cons] at h
    cases ha : f a with
    | error e' =>
      rw [ha] at h
      cases h
      exact ⟨a, List.mem_cons_self, ha⟩
    | ok b =>
      cases has : as.mapM f with
      | error e' =>
        rw [ha, has] at h
        cases h
        obtain ⟨a', hmem, ha'⟩ := ih has
        exact ⟨a', List.mem_cons_of_mem a hmem, ha'⟩
      | ok bs =>
        rw [ha, has] at h
        cases h

end

namespace Model

variable {m : Model}

theorem fieldsAt_of_lt {places : List Nat} (h : ∀ i ∈ places, i < m.fields.length) :
    m.fieldsAt places = .ok (places.filterMap (m.fields[·]?)) := by
  induction places with
  | nil => rfl
  | cons i places ih =>
    rw [List.forall_mem_cons] at h
    have hi : m.fields[i]? = some (m.fields.get ⟨i, h.1⟩) := List.getElem?_eq_getElem h.1
    have hfield : m.fieldAt i = .ok (m.fields.get ⟨i, h.1⟩) := by rw [fieldAt, hi]
    have htail : places.mapM m.fieldAt = .ok (places.filterMap (m.fields[·]?)) := ih h.2
    rw [fieldsAt, List.mapM_cons, hfield, htail, List.filterMap_cons_some hi]
    rfl

theorem lt_of_mem_placesWhere {test : Field → Bool} {i : Nat} (h : i ∈ placesWhere test m.fields) :
    i < m.fields.length := by
  obtain ⟨f, hf, -⟩ := mem_placesWhere.1 h
  exact (List.getElem?_eq_some_iff.1 hf).1

theorem lookUpServes_eq {relations : List Nat} {place : Nat}
    (hrelations : ∀ r ∈ relations, r < m.fields.length) (hplace : place < m.fields.length) :
    m.lookUpServes relations place = .ok (servesRelation m.fields relations place) := by
  have hf : m.fields[place]? = some m.fields[place] := List.getElem?_eq_getElem hplace
  have hfield : m.fieldAt place = .ok m.fields[place] := by rw [fieldAt, hf]
  rw [lookUpServes, hfield, fieldsAt_of_lt hrelations]
  show Except.ok _ = _
  rw [List.any_filterMap, servesRelation, hf, Option.any_some]
  rfl

theorem filterM_lookUpServes {scalars relations : List Nat}
    (hscalars : ∀ i ∈ scalars, i < m.fields.length)
    (hrelations : ∀ r ∈ relations, r < m.fields.length) :
    (scalars.filterM fun place => do return !(← m.lookUpServes relations place))
      = .ok (scalars.filter (!servesRelation m.fields relations ·)) := by
  apply filterM_eq_filter
  intro i hi
  rw [lookUpServes_eq hrelations (hscalars i hi)]
  rfl

/-- Collecting looks up places of fields only. -/
theorem collectBuckets_eq (m : Model) : m.collectBuckets = .ok (.ofFields m.fields) := by
  rw [collectBuckets, filterM_lookUpServes (fun i hi => lt_of_mem_placesWhere hi)
    fun r hr => lt_of_mem_placesWhere hr]
  rfl

theorem placesLead_of_lt (h : ∀ b, ∀ i ∈ m.buckets.get b, i < m.fields.length) : m.PlacesLead :=
  fun b => fieldsAt_of_lt (h b)

theorem placesLead_of_ofFields (h : m.buckets = .ofFields m.fields) : m.PlacesLead := by
  apply placesLead_of_lt
  intro b i hi
  rw [h, Buckets.ofFields_eq] at hi
  cases b with
  | key => exact @lt_of_mem_placesWhere m (·.role.isKey) i hi
  | scalar => exact @lt_of_mem_placesWhere m (Field.isColumn m.fields) i hi
  | belongsTo => exact @lt_of_mem_placesWhere m (·.role.isBelongsTo) i hi
  | hasMany | enum => cases hi

theorem placesLead_of_ofRoles (h : m.buckets = .ofRoles m.fields) : m.PlacesLead :=
  placesLead_of_lt (bucketsAgree h).inRange

end Model

/-! ## Linking -/

theorem linksSafely_assembled (ds : List Declaration) : (assembled ds).LinksSafely := by
  have hbuckets : ∀ m ∈ (assembled ds).models, m.buckets = .ofFields m.fields := by
    intro m hm
    obtain ⟨d, hd, rfl⟩ := List.mem_map.1 hm
    obtain ⟨i, hi, rfl⟩ := List.mem_mapIdx.1 hd
    rfl
  constructor
  case collected =>
    intro m hm
    rw [Model.collectBuckets_eq, hbuckets m hm]
  case placesLead =>
    intro m hm
    exact Model.placesLead_of_ofFields (hbuckets m hm)
  case links =>
    refine ⟨linked ds, _, link_assembled ds, ?_⟩
    intro m hm
    obtain ⟨i, hi, rfl⟩ := List.mem_mapIdx.1 hm
    exact Model.placesLead_of_ofRoles rfl

/-! ## Names -/

theorem declares_of_mem_inflected {ds : List Declaration} {d : Declaration} {name : String}
    (hd : d ∈ ds) (hname : name ∈ d.inflected) : Declares ds name := by
  cases d with
  | model d =>
    rcases List.mem_append.1 hname with hf | hm
    · obtain ⟨f, hmem, rfl⟩ := List.mem_map.1 hf
      exact .field hd hmem
    · rw [List.mem_singleton.1 hm]
      exact .model hd
  | enum d =>
    rw [List.mem_singleton.1 hname]
    exact .enum hd

theorem forall_declares_iff {ds : List Declaration} {P : String → Prop} :
    (∀ name, Declares ds name → P name) ↔ ∀ d ∈ ds, ∀ name ∈ d.inflected, P name := by
  constructor
  · intro h d hd name hname
    exact h name (declares_of_mem_inflected hd hname)
  · rintro h _ (hd | ⟨hd, hf⟩ | hd)
    · exact h _ hd _ (List.mem_append_right _ (List.mem_singleton_self _))
    · exact h _ hd _ (List.mem_append_left _ (List.mem_map_of_mem hf))
    · exact h _ hd _ (List.mem_singleton_self _)

theorem namesInflect_iff_declares (ds : List Declaration) :
    NamesInflect ds ↔ ∀ name, Declares ds name → (NameForms.ofName name).isOk :=
  forall_declares_iff.symm

/-! What assembling fails on is what the inflection of a declared name fails on. -/

section
variable {e : InflectionError}

theorem ofName_of_classify_eq_error {id : FieldId} {d : FieldDecl} (h : classify id d = .error e) :
    NameForms.ofName d.name = .error e :=
  eq_error_of_bind (fun _ => ⟨_, rfl⟩) h

theorem Draft.exists_of_ofDecl_eq_error {id : ModelId} {d : ModelDecl}
    (h : Draft.ofDecl id d = .error e) :
    ∃ name ∈ (Declaration.model d).inflected, NameForms.ofName name = .error e := by
  unfold ofDecl at h
  cases hfields : classifyFields id d.fields with
  | error e' =>
    rw [hfields] at h
    cases h
    obtain ⟨⟨f, i⟩, hf, herror⟩ := exists_of_mapM_eq_error hfields
    refine ⟨f.name, ?_, ofName_of_classify_eq_error herror⟩
    exact List.mem_append_left _ (List.mem_map_of_mem (List.fst_mem_of_mem_zipIdx hf))
  | ok fields =>
    rw [hfields] at h
    refine ⟨d.name, List.mem_append_right _ (List.mem_singleton_self _), ?_⟩
    exact eq_error_of_bind (fun _ => ⟨_, rfl⟩) h

theorem Enum.exists_of_ofDecl_eq_error {id : EnumId} {d : EnumDecl}
    (h : Enum.ofDecl id d = .error e) :
    ∃ name ∈ (Declaration.enum d).inflected, NameForms.ofName name = .error e :=
  ⟨d.name, List.mem_singleton_self _, eq_error_of_bind (fun _ => ⟨_, rfl⟩) h⟩

namespace Assembly

theorem exists_of_add_eq_error {a : Assembly} {d : Declaration} (h : a.add d = .error e) :
    ∃ name ∈ d.inflected, NameForms.ofName name = .error e := by
  cases d with
  | model d => exact Draft.exists_of_ofDecl_eq_error (eq_error_of_bind (fun _ => ⟨_, rfl⟩) h)
  | enum d => exact Enum.exists_of_ofDecl_eq_error (eq_error_of_bind (fun _ => ⟨_, rfl⟩) h)

theorem exists_of_ofDeclarations_eq_error {ds : List Declaration}
    (h : ofDeclarations ds = .error e) :
    ∃ name, Declares ds name ∧ NameForms.ofName name = .error e := by
  suffices hmem : ∃ d ∈ ds, ∃ name ∈ d.inflected, NameForms.ofName name = .error e by
    obtain ⟨d, hd, name, hname, herror⟩ := hmem
    exact ⟨name, declares_of_mem_inflected hd hname, herror⟩
  induction ds using List.reverseRecOn with
  | nil => cases h
  | append_singleton ds d ih =>
    rw [ofDeclarations_append] at h
    cases ha : ofDeclarations ds with
    | error e' =>
      rw [ha] at h
      cases h
      obtain ⟨d', hd', hname⟩ := ih ha
      exact ⟨d', List.mem_append_left _ hd', hname⟩
    | ok a =>
      rw [ha] at h
      exact ⟨d, List.mem_append_right _ (List.mem_singleton_self d), exists_of_add_eq_error h⟩

end Assembly

end

/-! ## Building -/

/-- An error that comes of a build is that of the inflection of a declared name. -/
theorem exists_of_build_eq_error {b : Builder} {source : Source} {e : BuildError}
    (h : b.build source = .error e) :
    ∃ ds name cause, source.declarations = .ok ds ∧ Declares ds name ∧
      NameForms.ofName name = .error cause ∧ e = .inflection cause := by
  cases hs : source.declarations with
  | error report =>
    unfold Builder.build at h
    rw [hs] at h
    cases h
  | ok ds =>
    cases ha : Assembly.ofDeclarations ds with
    | ok a =>
      have hnames : NamesInflect ds := by
        rw [← Assembly.ofDeclarations_isOk_iff, ha]
        rfl
      rw [build_eq b hs hnames] at h
      cases h
    | error cause =>
      obtain ⟨name, hname, herror⟩ := Assembly.exists_of_ofDeclarations_eq_error ha
      refine ⟨ds, name, cause, rfl, hname, herror, ?_⟩
      unfold Builder.build at h
      rw [hs] at h
      simp only [ha, Except.mapError, bind, Except.bind] at h
      exact (Except.error.inj h).symm

/-- A build stops exactly when a declared name of a model, a field or an enum cannot be inflected,
and it says what is wrong with such a name.  Once the declarations are assembled nothing stops it,
and in the catalog that comes of it every place in a bucket is that of a field. -/
theorem build_stops_iff (b : Builder) (source : Source) :
    ((∃ e, b.build source = .error e) ↔
      ∃ ds name, source.declarations = .ok ds ∧ Declares ds name ∧
        ∃ cause, NameForms.ofName name = .error cause) ∧
    (∀ e, b.build source = .error e → ∃ ds name cause, source.declarations = .ok ds ∧
      Declares ds name ∧ NameForms.ofName name = .error cause ∧ e = .inflection cause) ∧
    (∀ ds a, source.declarations = .ok ds → Assembly.ofDeclarations ds = .ok a → a.LinksSafely) ∧
    (∀ o c, b.build source = .ok o → o.result = .ok c → ∀ m ∈ c.models.items, m.PlacesLead) := by
  refine ⟨⟨?stops, ?stopped⟩, fun e h => exists_of_build_eq_error h, ?links, ?leads⟩
  case stops =>
    rintro ⟨e, h⟩
    obtain ⟨ds, name, cause, hs, hname, herror, -⟩ := exists_of_build_eq_error h
    exact ⟨ds, name, hs, hname, cause, herror⟩
  case stopped =>
    rintro ⟨ds, name, hs, hname, cause, herror⟩
    have hnot : ¬ NamesInflect ds := by
      intro hall
      have hok := (namesInflect_iff_declares ds).1 hall name hname
      rw [herror] at hok
      cases hok
    obtain ⟨e, he⟩ := exists_build_eq_error b hs hnot
    exact ⟨_, he⟩
  case links =>
    intro ds a hs ha
    have hnames : NamesInflect ds := by
      rw [← Assembly.ofDeclarations_isOk_iff, ha]
      rfl
    rw [Assembly.ofDeclarations_eq hnames] at ha
    rw [← Except.ok.inj ha]
    exact linksSafely_assembled ds
  case leads =>
    intro o c hbuild hok m hm
    obtain ⟨ds, -, -, rfl⟩ := eq_resolvedCatalog hbuild hok
    obtain ⟨i, hi, rfl⟩ := List.mem_mapIdx.1 hm
    exact Model.placesLead_of_ofRoles rfl

/-- A field of this name, and an enumerator with a name that cannot be inflected. -/
def taggedBy (field : String) : List Declaration :=
  [.enum { name := "Tag", enumerators := [{ name := "Aſ" }] },
    .model { name := "Post", fields := [{ name := field, type := "Tag" }] }]

/-- The long s stops a build as the name of a field, not as that of an enumerator. -/
theorem taggedBy_stops :
    (∃ e, Builder.build { strict := true } (.declared (taggedBy "Aſ")) = .error e) ∧
    ∃ o, Builder.build { strict := true } (.declared (taggedBy "as")) = .ok o := by
  constructor
  · apply (build_stops_iff _ _).1.2
    have hpost : .model { name := "Post", fields := [{ name := "Aſ", type := "Tag" }] }
        ∈ taggedBy "Aſ" := List.mem_cons_of_mem _ (List.mem_singleton_self _)
    exact ⟨_, "Aſ", rfl, .field hpost (List.mem_singleton_self _), .wideInitial "ſ",
      by decide +kernel⟩
  · exact ⟨_, build_eq _ rfl (by decide +kernel)⟩

end SchemaCatalog
