import Mathlib.Tactic.MkIffOfInductiveProp
import SchemaCatalog.Naming.NameForms
import SchemaCatalog.Proofs.Inflected
import SchemaCatalog.Proofs.Prose

/-!
# What the forms of a name are good for

Every name in ASCII has its forms, and a plural can be used as it should be: the variable stands in
code, the title and the label read as prose.  So can a singular, but for the `s` that is taken for
the plural of nothing: alone it has an empty singular, and as the last word of a longer name it
leaves a blank at the end of the label (`NameForms.ofName_fits`).
-/

namespace SchemaCatalog.Naming

open Inflection Text

/-! ## Names and variables -/

/-- A letter, and then letters, digits and underscores, all in ASCII. -/
@[mk_iff]
structure IsName (cs : List Char) : Prop where
  head : ∃ c ∈ cs.head?, c.isAlpha
  chars : ∀ c ∈ cs, isNameChar c

instance (cs : List Char) : Decidable (IsName cs) :=
  decidable_of_iff (cs.head?.any Char.isAlpha ∧ cs.all isNameChar) (by
    rw [isName_iff, List.all_eq_true]
    cases cs.head? <;> simp)

/-- A small letter, and then letters and digits, all in ASCII. -/
structure IsVariable (cs : List Char) : Prop where
  head : ∃ c ∈ cs.head?, c.isLower
  chars : ∀ c ∈ cs, c.isAlphanum

section

variable {cs : List Char}

theorem IsName.isAscii (h : IsName cs) : ∀ c ∈ cs, isAscii c :=
  forall_isAscii h.chars

theorem IsName.ne_nil (h : IsName cs) : cs ≠ [] := by
  rintro rfl
  obtain ⟨c, hc, -⟩ := h.head
  cases hc

theorem IsName.exists_letter (h : IsName cs) : ∃ c ∈ cs, c ≠ '_' := by
  obtain ⟨c, hc, halpha⟩ := h.head
  refine ⟨c, List.mem_of_mem_head? hc, ?_⟩
  rintro rfl
  cases halpha

theorem IsName.tidy_snakeChars (h : IsName cs) : Tidy '_' (snakeChars cs) := by
  obtain ⟨c, hc, hletter⟩ := h.exists_letter
  exact Naming.tidy_snakeChars h.chars hc hletter

theorem marker_notMem_name (h : ∀ c ∈ cs, isNameChar c) : '$' ∉ cs :=
  fun hmem => absurd (h _ hmem) (by decide)

theorem isAlphanum_upperFirst (h : ∀ c ∈ cs, c.isAlphanum) : ∀ c ∈ upperFirst cs, c.isAlphanum :=
  forall_mem_upperFirst (fun _ hc => ⟨isAscii_of_isAlphanum hc, isAlphanum_toUpper hc⟩) h

/-- The first segment of a name begins with the first letter of the name. -/
theorem IsName.exists_segments (h : IsName cs) : ∃ c s rest, c.isAlpha ∧
    segments (· == '_') cs = (c :: s) :: rest := by
  obtain ⟨c, hc, halpha⟩ := h.head
  cases cs with
  | nil => cases hc
  | cons d cs =>
    cases hc
    have hsep : ¬ (c == '_') := by
      intro heq
      rw [beq_iff_eq.1 heq] at halpha
      cases halpha
    obtain ⟨s, rest, hrest⟩ := List.exists_cons_of_ne_nil (segments_ne_nil (· == '_') cs)
    exact ⟨c, s, rest, halpha, segments_cons_of_not hsep hrest⟩

/-- The `camelCase` of a name is a variable. -/
theorem IsName.isVariable_camelChars (h : IsName cs) : IsVariable (camelChars cs) := by
  obtain ⟨c, s, rest, halpha, hsegments⟩ := h.exists_segments
  have halnum : ∀ s ∈ segments (· == '_') cs, ∀ c ∈ s, c.isAlphanum := by
    intro s hs c hc
    obtain ⟨hmem, hsep⟩ := mem_of_mem_segments hs hc
    exact isAlphanum_of_isNameChar (h.chars c hmem) (ne_of_beq_false hsep)
  rw [hsegments, List.forall_mem_cons, List.forall_mem_cons] at halnum
  obtain ⟨⟨hc, hs⟩, hrest⟩ := halnum
  have hascii : Text.isAscii c.toUpper := isAscii_of_isAlphanum (isAlphanum_toUpper hc)
  have hcamel : camelChars cs = c.toLower :: (s ++ rest.flatMap upperFirst) := by
    rw [camelChars, hsegments, List.flatMap_cons,
      upperFirst_cons_of_isAscii (isAscii_of_isAlphanum hc), List.cons_append,
      lowerFirst_cons_of_isAscii hascii, toLower_toUpper (isAscii_of_isAlphanum hc)]
  rw [hcamel]
  refine ⟨⟨_, rfl, isLower_toLower halpha⟩, ?_⟩
  rw [List.forall_mem_cons, List.forall_mem_append]
  refine ⟨isAlphanum_toLower hc, hs, fun d hd => ?_⟩
  obtain ⟨u, hu, hd⟩ := List.mem_flatMap.1 hd
  exact isAlphanum_upperFirst (hrest u hu) d hd

end

/-! ## Inflected names -/

section

variable {number : GrammaticalNumber} {cs form kept cut added : List Char}

theorem isNameChar_map_toLower :
    (∀ c ∈ cs.map Char.toLower, isNameChar c) ↔ ∀ c ∈ cs, isNameChar c := by
  simp only [List.forall_mem_map, isNameChar_toLower]

theorem count_underscore_map_toLower : (cs.map Char.toLower).count '_' = cs.count '_' := by
  rw [List.count_eq_countP, List.count_eq_countP, List.countP_map]
  refine List.countP_congr fun c _ => ?_
  rw [Function.comp_apply, beq_iff_eq, beq_iff_eq]
  exact toLower_eq_underscore c

theorem isName_map_toLower : IsName (cs.map Char.toLower) ↔ IsName cs := by
  have hhead : (∃ c ∈ (cs.map Char.toLower).head?, c.isAlpha) ↔ ∃ c ∈ cs.head?, c.isAlpha := by
    cases cs with
    | nil => rfl
    | cons c cs =>
      simp only [List.map_cons, List.head?_cons, Option.mem_def, Option.some.injEq,
        exists_eq_left', isAlpha_toLower]
  constructor
  · exact fun h => ⟨hhead.1 h.head, isNameChar_map_toLower.1 h.chars⟩
  · exact fun h => ⟨hhead.2 h.head, isNameChar_map_toLower.2 h.chars⟩

/-- What is kept of a name and what is put in have the characters of names. -/
theorem isNameChar_of_replaces (h : Replaces number cs form kept cut added)
    (hcs : ∀ c ∈ cs, isNameChar c) : ∀ c ∈ kept ++ added, isNameChar c := by
  rw [h.word_eq, List.forall_mem_append] at hcs
  rw [List.forall_mem_append]
  exact ⟨hcs.1, fun c hc =>
    isNameChar_of_isAlphanum (isAlphanum_of_isAlpha (h.added_isAlpha c hc))⟩

/-- No underscore is cut off, and none is put in. -/
theorem count_underscore_of_replaces (h : Replaces number cs form kept cut added) :
    form.count '_' = cs.count '_' := by
  have hletters : ∀ ds : List Char, (∀ c ∈ ds, c.isAlpha) → ds.count '_' = 0 := fun ds hds =>
    List.count_eq_zero.2 fun hmem => absurd (hds _ hmem) (by decide)
  rw [← count_underscore_map_toLower, h.form_eq, count_underscore_map_toLower, h.word_eq,
    List.count_append, List.count_append, hletters added h.added_isAlpha,
    hletters cut h.cut_isAlpha]

/-- A name inflects to a name, unless it is nothing but the `s` of a plural. -/
theorem IsName.exists_inflectChars (number : GrammaticalNumber) (h : IsName cs)
    (hs : number = .singular → cs.map Char.toLower ≠ ['s']) :
    ∃ form, inflectChars number cs = .ok form ∧ IsName form := by
  obtain ⟨form, hform, hinflected⟩ := inflectChars_inflected number h.isAscii
  obtain ⟨kept, cut, added, hreplaces⟩ :=
    hinflected.exists_kept h.isAscii (marker_notMem_name h.chars)
  refine ⟨form, hform, ?_⟩
  rw [← isName_map_toLower, hreplaces.form_eq, isName_map_toLower]
  refine ⟨?_, isNameChar_of_replaces hreplaces h.chars⟩
  have hhead := h.head
  rw [hreplaces.word_eq] at hhead
  by_cases hkept : kept = []
  · subst hkept
    cases hadded : added with
    | cons c added => exact ⟨c, rfl, hreplaces.added_isAlpha c (hadded ▸ List.mem_cons_self)⟩
    | nil =>
      -- nothing is left of the name
      rcases hreplaces.bare hadded with rfl | ⟨c, hc, -⟩ | ⟨hnumber, hcut⟩
      · obtain ⟨c, hc, -⟩ := hhead
        cases hc
      · cases hc
      · refine absurd ?_ (hs hnumber)
        rw [hreplaces.word_eq]
        exact hcut
  · rw [List.head?_append_of_ne_nil _ hkept] at hhead ⊢
    exact hhead

/-- A tidy name inflects to a tidy name, unless an `s` stands alone at its end. -/
theorem Tidy.exists_inflectChars (number : GrammaticalNumber) (hcs : ∀ c ∈ cs, isNameChar c)
    (h : Tidy '_' cs)
    (hs : number = .singular → ∀ kept c, cs = kept ++ [c] → ¬ EndsInLoneS kept c) :
    ∃ form, inflectChars number cs = .ok form ∧ (∀ c ∈ form, isNameChar c) ∧ Tidy '_' form ∧
      form.count '_' = cs.count '_' := by
  have hascii := forall_isAscii hcs
  obtain ⟨form, hform, hinflected⟩ := inflectChars_inflected number hascii
  obtain ⟨kept, cut, added, hreplaces⟩ := hinflected.exists_kept hascii (marker_notMem_name hcs)
  refine ⟨form, hform, ?_⟩
  rw [← isNameChar_map_toLower, ← tidy_map_toLower, hreplaces.form_eq, isNameChar_map_toLower,
    tidy_map_toLower]
  refine ⟨isNameChar_of_replaces hreplaces hcs, ?_, count_underscore_of_replaces hreplaces⟩
  have hadded : '_' ∉ added := fun hmem => absurd (hreplaces.added_isAlpha _ hmem) (by decide)
  rw [hreplaces.word_eq] at h
  refine h.replace hadded fun hnil => ?_
  rcases hreplaces.bare hnil with rfl | ⟨c, hc, halpha⟩ | ⟨hnumber, hcut⟩
  · rw [List.append_nil] at h
    exact ⟨h.ne_nil, h.last⟩
  · refine ⟨?_, fun d hd => ?_⟩
    · rintro rfl
      cases hc
    · obtain rfl := Option.mem_unique hc hd
      rintro rfl
      cases halpha
  · obtain ⟨c, rfl, hc⟩ : ∃ c, cut = [c] ∧ c.toLower = 's' := by
      obtain ⟨c, rest, rfl, hc, hrest⟩ := List.map_eq_cons_iff.1 hcut
      exact ⟨c, by rw [List.map_eq_nil_iff.1 hrest], hc⟩
    by_contra hbare
    refine hs hnumber kept c hreplaces.word_eq ⟨toLower_eq_s hc, fun d hd => ?_⟩
    by_contra hne
    refine hbare ⟨?_, fun e he => Option.mem_unique hd he ▸ hne⟩
    rintro rfl
    cases hd

/-- The singular of a name is a name, or nothing is left of it. -/
theorem IsName.exists_singular (h : IsName cs) :
    ∃ form, inflectChars .singular cs = .ok form ∧
      if cs = ['s'] ∨ cs = ['S'] then form = [] else IsName form := by
  split
  · next hs =>
    refine ⟨[], ?_, rfl⟩
    rcases hs with rfl | rfl
    · exact inflectChars_s (.inl rfl)
    · exact inflectChars_s (.inr rfl)
  · next hs =>
    refine h.exists_inflectChars .singular fun _ heq => hs ?_
    obtain ⟨c, rest, rfl, hc, hrest⟩ := List.map_eq_cons_iff.1 heq
    rw [List.map_eq_nil_iff.1 hrest]
    exact (toLower_eq_s hc).imp (congrArg ([·])) (congrArg ([·]))

/-- The singular of tidy words in lowercase is tidy, but for the last of them if it is an `s`. -/
theorem Tidy.exists_singular (hcs : ∀ c ∈ cs, isNameChar c) (hlower : ∀ c ∈ cs, ¬ c.isUpper)
    (h : Tidy '_' cs) :
    ∃ form, inflectChars .singular cs = .ok form ∧ (∀ c ∈ form, isNameChar c) ∧
      if cs = ['s'] then form = []
      else if ['_', 's'] <:+ cs then ∃ init, Tidy '_' init ∧ form = init ++ ['_']
      else Tidy '_' form := by
  have hascii := forall_isAscii hcs
  split_ifs with hs hsuffix
  · subst hs
    exact ⟨[], inflectChars_s (.inl rfl), nofun, rfl⟩
  · obtain ⟨init, rfl⟩ := hsuffix
    have hsplit : init ++ ['_', 's'] = (init ++ ['_']) ++ ['s'] := by simp
    rw [hsplit] at hcs hascii
    rw [List.forall_mem_append] at hcs hascii
    refine ⟨init ++ ['_'], ?_, hcs.1, init, h.left, rfl⟩
    rw [hsplit]
    refine inflectChars_of_endsInLoneS ⟨.inl rfl, fun d hd => ?_⟩ hascii.1
      (marker_notMem_name hcs.1)
    rw [List.getLast?_concat] at hd
    exact (Option.mem_some_iff.1 hd).symm
  · have hends : ∀ kept c, cs = kept ++ [c] → ¬ EndsInLoneS kept c := by
      rintro kept c rfl hends
      have hc : c = 's' := by
        refine hends.1.resolve_right ?_
        rintro rfl
        exact hlower 'S' (by simp) (by decide)
      subst hc
      rcases List.eq_nil_or_concat kept with rfl | ⟨init, d, rfl⟩
      · exact hs rfl
      · refine hsuffix ⟨init, ?_⟩
        obtain rfl := hends.2 d (by simp)
        simp
    obtain ⟨form, hform, hchars, htidy, -⟩ := h.exists_inflectChars .singular hcs fun _ => hends
    exact ⟨form, hform, hchars, htidy⟩

end

/-! ## Forms of names -/

/-- The forms that are made from an inflected identifier and its inflected words. -/
def NameForms.ofInflected (singular plural singularWords pluralWords : List Char) : NameForms where
  singularName := String.ofList singular
  pluralName := String.ofList plural
  singularVariable := String.ofList (camelChars singular)
  pluralVariable := String.ofList (camelChars plural)
  singularTitle := String.ofList (titleChars singularWords)
  pluralTitle := String.ofList (titleChars pluralWords)
  singularLabel := String.ofList (humanizeChars singularWords)
  pluralLabel := String.ofList (humanizeChars pluralWords)

theorem NameForms.ofName_eq_ok {raw : String}
    {singular plural singularWords pluralWords : List Char}
    (hsingular : inflectChars .singular raw.toList = .ok singular)
    (hplural : inflectChars .plural raw.toList = .ok plural)
    (hsingularWords : inflectChars .singular (snakeChars raw.toList) = .ok singularWords)
    (hpluralWords : inflectChars .plural (snakeChars raw.toList) = .ok pluralWords) :
    ofName raw = .ok (ofInflected singular plural singularWords pluralWords) := by
  have hwords : (snakeCase raw).toList = snakeChars raw.toList := String.toList_ofList
  simp only [ofName, singularize, pluralize, inflect, hwords, hsingular, hplural, hsingularWords,
    hpluralWords, camelCase, titleCase, humanize, Except.map, bind, Except.bind, pure, Except.pure,
    String.toList_ofList, ofInflected]

/-- Tidy words make a title and a label. -/
theorem isProse_of_tidy {cs : List Char} (hcs : ∀ c ∈ cs, isNameChar c) (h : Tidy '_' cs) :
    IsProse (titleChars cs) ∧ IsProse (humanizeChars cs) := by
  obtain ⟨c, hc, hletter⟩ := h.exists_mem
  exact ⟨isProse_titleChars hcs hc hletter, isProse_humanizeChars hcs h⟩

/-- Singular words make them too, but for what a lone `s` leaves. -/
theorem Tidy.exists_singular_prose {cs : List Char} (hcs : ∀ c ∈ cs, isNameChar c)
    (hlower : ∀ c ∈ cs, ¬ c.isUpper) (h : Tidy '_' cs) :
    ∃ form, inflectChars .singular cs = .ok form ∧
      (if cs = ['s'] then titleChars form = [] else IsProse (titleChars form)) ∧
      if cs = ['s'] then humanizeChars form = []
      else if ['_', 's'] <:+ cs then
        ∃ prose, IsProse prose ∧ humanizeChars form = prose ++ [' ']
      else IsProse (humanizeChars form) := by
  obtain ⟨form, hform, hchars, htidy⟩ := h.exists_singular hcs hlower
  refine ⟨form, hform, ?_⟩
  split_ifs at htidy ⊢
  · rw [htidy]
    exact ⟨rfl, rfl⟩
  · obtain ⟨init, hinit, rfl⟩ := htidy
    obtain ⟨d, hd, hletter⟩ := hinit.exists_mem
    refine ⟨isProse_titleChars hchars (List.mem_append_left _ hd) hletter, ?_⟩
    have hnames := (List.forall_mem_append.1 hchars).1
    obtain ⟨hnamesLower, hinitLower⟩ := hinit.lowercase hnames
    exact ⟨_, isProse_upperFirst hnamesLower hinitLower,
      humanizeChars_append_underscore hnames hinit.ne_nil⟩
  · exact isProse_of_tidy hchars htidy

/-- What each form is good for.  The singular forms of an `s` that is a name by itself, or the last
word of one, are what is left of it. -/
structure NameForms.Fits (raw : String) (forms : NameForms) : Prop where
  pluralName : IsName forms.pluralName.toList
  pluralVariable : IsVariable forms.pluralVariable.toList
  pluralTitle : IsProse forms.pluralTitle.toList
  pluralLabel : IsProse forms.pluralLabel.toList
  singularName :
    if raw = "s" ∨ raw = "S" then forms.singularName = "" else IsName forms.singularName.toList
  singularVariable :
    if raw = "s" ∨ raw = "S" then forms.singularVariable = ""
    else IsVariable forms.singularVariable.toList
  singularTitle :
    if snakeCase raw = "s" then forms.singularTitle = "" else IsProse forms.singularTitle.toList
  singularLabel :
    if snakeCase raw = "s" then forms.singularLabel = ""
    else if ['_', 's'] <:+ (snakeCase raw).toList then
      ∃ prose, IsProse prose ∧ forms.singularLabel.toList = prose ++ [' ']
    else IsProse forms.singularLabel.toList

/-- Every name has its forms, and each form can be used as it should be, but for the singular of a
lone `s`. -/
theorem NameForms.ofName_fits {raw : String} (h : IsName raw.toList) :
    ∃ forms, NameForms.ofName raw = .ok forms ∧ forms.Fits raw := by
  have hwords := isNameChar_snakeChars h.chars
  have htidy := h.tidy_snakeChars
  have hname : (raw = "s" ∨ raw = "S") ↔ (raw.toList = ['s'] ∨ raw.toList = ['S']) := by
    rw [← String.toList_inj, ← String.toList_inj]
    rfl
  have hsnakeList : (snakeCase raw).toList = snakeChars raw.toList := String.toList_ofList
  have hsnake : snakeCase raw = "s" ↔ snakeChars raw.toList = ['s'] := by
    rw [← String.toList_inj, hsnakeList]
    rfl
  obtain ⟨singular, hsingular, hsingularName⟩ := h.exists_singular
  obtain ⟨plural, hplural, hpluralName⟩ := h.exists_inflectChars .plural nofun
  obtain ⟨singularWords, hsingularWords, htitle, hlabel⟩ :=
    htidy.exists_singular_prose hwords (not_isUpper_of_mem_snakeChars h.chars)
  obtain ⟨pluralWords, hpluralWords, hpluralChars, hpluralTidy, -⟩ :=
    htidy.exists_inflectChars .plural hwords nofun
  have hpluralProse := isProse_of_tidy hpluralChars hpluralTidy
  refine ⟨_, ofName_eq_ok hsingular hplural hsingularWords hpluralWords, {
    pluralName := by simpa [ofInflected] using hpluralName
    pluralVariable := by simpa [ofInflected] using hpluralName.isVariable_camelChars
    pluralTitle := by simpa [ofInflected] using hpluralProse.1
    pluralLabel := by simpa [ofInflected] using hpluralProse.2
    singularName := ?_
    singularVariable := ?_
    singularTitle := ?_
    singularLabel := ?_ }⟩
  all_goals simp only [ofInflected, String.toList_ofList, hname, hsnake, hsnakeList]
  · split_ifs at hsingularName ⊢
    · rw [hsingularName]
    · exact hsingularName
  · split_ifs at hsingularName ⊢
    · rw [hsingularName]
      rfl
    · exact hsingularName.isVariable_camelChars
  · split_ifs at htitle ⊢
    · rw [htitle]
    · exact htitle
  · split_ifs at hlabel ⊢
    · rw [hlabel]
    · exact hlabel
    · exact hlabel

/-- A name that ends in a word `s` has its forms. -/
theorem NameForms.userS_fits :
    IsName "user_s".toList ∧ ∃ forms, NameForms.ofName "user_s" = .ok forms ∧ forms.Fits "user_s" :=
  have h : IsName "user_s".toList := by decide
  ⟨h, NameForms.ofName_fits h⟩

/-- Not every form of a name can be used: `s` has an empty singular, and `user_s` a label with a
blank at its end. -/
theorem NameForms.loneS_unfit :
    (IsName "s".toList ∧ ∃ forms, NameForms.ofName "s" = .ok forms ∧ forms.singularName = "" ∧
      ¬ IsVariable forms.singularVariable.toList ∧ ¬ IsProse forms.singularTitle.toList ∧
        ¬ IsProse forms.singularLabel.toList) ∧
    IsName "user_s".toList ∧ ∃ forms, NameForms.ofName "user_s" = .ok forms ∧
      ¬ IsProse forms.singularLabel.toList := by
  have hs : NameForms.ofName "s" = .ok ⟨"", "s", "", "s", "", "S", "", "S"⟩ := by decide +kernel
  have huser : NameForms.ofName "user_s"
      = .ok ⟨"user_", "user_s", "user", "userS", "User", "User S", "User ", "User s"⟩ := by
    decide +kernel
  refine ⟨⟨by decide, _, hs, rfl, ?_, ?_, ?_⟩, by decide, _, huser, ?_⟩
  · rintro ⟨⟨c, hc, -⟩, -⟩
    cases hc
  · exact fun h => h.ne_nil rfl
  · exact fun h => h.ne_nil rfl
  · exact fun h => h.last ' ' (by decide) rfl

end SchemaCatalog.Naming
