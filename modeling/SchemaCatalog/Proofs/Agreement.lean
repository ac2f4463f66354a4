import SchemaCatalog.Proofs.Boundaries
import SchemaCatalog.Proofs.Forms
import SchemaCatalog.Proofs.Regular

/-!
# Names in the plural

Declaring something under its plural is meant to give the same forms as declaring it under its
singular.  For regular words it does, if the plural ending stays within the last word
(`NameForms.ofName_plural_iff`).  After an underscore, or after a run of capitals in a name that is
not all capitals, it becomes a word or part of one, and the titles and labels differ.

    words    user ID    user I Ds
    title    User Id    User I Ds
-/

namespace SchemaCatalog.Naming

open Inflection Text

/-! ## Counting words -/

section

variable {sep : Char} {cs : List Char}

theorem count_intercalate {ws : List (List Char)} (hne : ws ≠ []) (h : ∀ w ∈ ws, sep ∉ w) :
    (List.intercalate [sep] ws).count sep + 1 = ws.length := by
  induction ws with
  | nil => exact absurd rfl hne
  | cons w ws ih =>
    rw [List.forall_mem_cons] at h
    have hw : w.count sep = 0 := List.count_eq_zero.2 h.1
    cases ws with
    | nil => rw [List.intercalate_singleton, hw, List.length_singleton]
    | cons v ws =>
      have hrest := ih (List.cons_ne_nil v ws) h.2
      rw [List.intercalate_cons_cons, List.count_append, List.count_append, hw,
        List.count_singleton_self, List.length_cons, ← hrest]
      omega

/-- Tidy texts are stretches without separators, put together one by one. -/
@[elab_as_elim]
theorem Tidy.induction {motive : (cs : List Char) → Tidy sep cs → Prop}
    (stretch : ∀ s (hne : s ≠ []) (hs : sep ∉ s), motive s (tidy_of_notMem hne hs))
    (join : ∀ init s (h : Tidy sep init) (hne : s ≠ []) (hs : sep ∉ s), motive init h →
      motive (init ++ sep :: s) (h.join (tidy_of_notMem hne hs)))
    (h : Tidy sep cs) : motive cs h := by
  induction hn : cs.length using Nat.strong_induction_on generalizing cs with
  | _ n ih =>
    rcases exists_last_separator (· == sep) cs with hnone | ⟨init, c, s, rfl, hc, hs⟩
    · exact stretch cs h.ne_nil fun hmem => hnone sep hmem (beq_self_eq_true sep)
    · obtain rfl := (beq_iff_eq.1 hc).symm
      have hne : s ≠ [] := by
        rintro rfl
        exact h.last sep (by simp) rfl
      have hlength : init.length < n := by
        rw [← hn, List.length_append, List.length_cons]
        omega
      exact join init s h.left hne (fun hmem => hs sep hmem (beq_self_eq_true sep))
        (ih init.length hlength h.left rfl)

/-- A stretch of letters and digits holds a word, and no more than one without capitals. -/
theorem length_words_of_isAlphanum (hne : cs ≠ []) (h : ∀ c ∈ cs, c.isAlphanum) :
    1 ≤ (words cs).length ∧ ((∀ c ∈ cs, ¬ c.isUpper) → (words cs).length = 1) := by
  have halnum : ∀ c ∈ cs, isAlphanumeric c := fun c hc => isAlphanumeric_of_isAlphanum (h c hc)
  constructor
  · obtain ⟨c, hc⟩ := List.exists_mem_of_ne_nil cs hne
    exact List.length_pos_iff.2 (words_ne_nil hc (halnum c hc))
  · intro hupper
    rw [words_of_forall halnum, splitCase_of_not_upper hne]
    · rfl
    · intro c hc
      rw [isUppercase_of_isAscii (isAscii_of_isAlphanum (h c hc))]
      exact hupper c hc

/-- The underscores of a tidy name stand between words, and only a capital begins a word without
one. -/
theorem Tidy.length_words (h : Tidy '_' cs) (hcs : ∀ c ∈ cs, isNameChar c) :
    cs.count '_' + 1 ≤ (words cs).length ∧
      ((∀ c ∈ cs, ¬ c.isUpper) → (words cs).length = cs.count '_' + 1) := by
  have hstretch : ∀ s : List Char, '_' ∉ s → (∀ c ∈ s, isNameChar c) → ∀ c ∈ s, c.isAlphanum :=
    fun s hs hnames c hc =>
      isAlphanum_of_isNameChar (hnames c hc) (ne_of_mem_of_not_mem hc hs)
  induction h using Tidy.induction with
  | stretch s hne hs =>
    rw [List.count_eq_zero.2 hs]
    exact length_words_of_isAlphanum hne (hstretch s hs hcs)
  | join init s _ hne hs ih =>
    rw [List.forall_mem_append, List.forall_mem_cons] at hcs
    obtain ⟨hinit, hinitLower⟩ := ih hcs.1
    obtain ⟨hword, hwordLower⟩ := length_words_of_isAlphanum hne (hstretch s hs hcs.2.2)
    rw [words_append_cons (by decide), List.length_append, List.count_append, List.count_cons_self,
      List.count_eq_zero.2 hs, List.forall_mem_append, List.forall_mem_cons]
    refine ⟨by omega, fun hupper => ?_⟩
    rw [hinitLower hupper.1, hwordLower hupper.2.2]

variable (hcs : ∀ c ∈ cs, isNameChar c) {c : Char} (hc : c ∈ cs) (hletter : c ≠ '_')

include hcs hc hletter

/-- Words put together with a separator are as many as the separators and one. -/
theorem count_intercalate_words {respell : List Char → List Char}
    (h : ∀ w ∈ words cs, respell w ≠ [] ∧ ∀ c ∈ respell w, c.isAlphanum) (hsep : ¬ sep.isAlphanum) :
    (List.intercalate [sep] ((words cs).map respell)).count sep + 1 = (words cs).length := by
  rw [count_intercalate, List.length_map]
  · rw [ne_eq, List.map_eq_nil_iff]
    exact words_ne_nil hc ((isAlphanumeric_iff (hcs c hc)).2 hletter)
  · rw [List.forall_mem_map]
    exact fun w hw hmem => hsep ((h w hw).2 sep hmem)

theorem count_snakeChars : (snakeChars cs).count '_' + 1 = (words cs).length :=
  count_intercalate_words hcs hc hletter (fun _ => isAlphanum_lowercaseWord hcs) (by decide)

theorem count_titleChars : (titleChars cs).count ' ' + 1 = (words cs).length :=
  count_intercalate_words hcs hc hletter (fun _ => isAlphanum_capitalize hcs) (by decide)

end

/-! ## Words of a plural -/

/-- An ending put after the name lengthens its last word. -/
def TakesEnding (cs : List Char) : Prop :=
  (∀ c ∈ cs.getLast?, c ≠ '_') ∧ ((∃ c ∈ cs, c.isLower) → ¬ EndsInCapitals cs)

section

variable {cs : List Char}

theorem IsName.exists_getLast (h : IsName cs) (hlast : ∀ c ∈ cs.getLast?, c ≠ '_') :
    ∃ c ∈ cs.getLast?, c ≠ '_' :=
  ⟨cs.getLast h.ne_nil, List.getLast?_eq_some_getLast h.ne_nil,
    hlast _ (List.getLast?_eq_some_getLast h.ne_nil)⟩

/-- The ending of a name is small or capital as its letters are. -/
theorem IsName.pluralS_eq (h : IsName cs) :
    (∃ c ∈ cs, c.isLower) ∧ pluralS cs = ['s'] ∨
      (∀ c ∈ cs, ¬ c.isLower) ∧ pluralS cs = ['S'] := by
  have hcapitals := ofWord_eq_upper_iff h.isAscii
  rw [Inflection.pluralS_eq]
  by_cases hlower : ∃ c ∈ cs, c.isLower
  · obtain ⟨c, hc, hcLower⟩ := hlower
    exact .inl ⟨⟨c, hc, hcLower⟩, if_neg fun hupper => (hcapitals.1 hupper).2 c hc hcLower⟩
  · have hall : ∀ c ∈ cs, ¬ c.isLower := fun c hc hcLower => hlower ⟨c, hc, hcLower⟩
    obtain ⟨c, hc, halpha⟩ := h.head
    have hmem := List.mem_of_mem_head? hc
    have hupper : c.isUpper := (Bool.or_eq_true_iff.1 halpha).resolve_right (hall c hmem)
    exact .inr ⟨hall, if_pos (hcapitals.2 ⟨⟨c, hmem, hupper⟩, hall⟩)⟩

/-- An ending that lengthens the last word lengthens the words. -/
theorem snakeChars_concat (hcs : ∀ c ∈ cs, isNameChar c) {init : List (List Char)} {w : List Char}
    {c : Char} (hwords : words cs = init ++ [w]) (happend : words (cs ++ [c]) = init ++ [w ++ [c]])
    (hc : c = 's' ∨ c = 'S') : snakeChars (cs ++ [c]) = snakeChars cs ++ ['s'] := by
  have hw : ∀ d ∈ w, isAscii d := fun d hd =>
    isAscii_of_isAlphanum (isAlphanum_of_mem_words hcs (hwords ▸ by simp) d hd)
  have hwc : ∀ d ∈ w ++ [c], isAscii d := by
    refine List.forall_mem_append.2 ⟨hw, List.forall_mem_singleton.2 ?_⟩
    rcases hc with rfl | rfl <;> rfl
  have hs : c.toLower = 's' := by rcases hc with rfl | rfl <;> rfl
  rw [snakeChars, snakeChars, hwords, happend, List.map_append, List.map_append, List.map_singleton,
    List.map_singleton, lowercaseWord_eq_map hwc, List.map_append, List.map_singleton, hs,
    ← lowercaseWord_eq_map hw, intercalate_concat_append]

/-- The words of a name that takes the ending take it too. -/
theorem IsName.snakeChars_append_pluralS (h : IsName cs) (hends : TakesEnding cs) :
    snakeChars (cs ++ pluralS cs) = snakeChars cs ++ ['s'] := by
  have hlast := h.exists_getLast hends.1
  rcases h.pluralS_eq with ⟨hlower, hs⟩ | ⟨hcapitals, hS⟩
  · obtain ⟨init, word, c, hwords, -, hlengthen⟩ := words_concat_s h.chars hlast
    rw [hs]
    exact snakeChars_concat h.chars hwords (hlengthen (hends.2 hlower)) (.inl rfl)
  · obtain ⟨init, word, hwords, happend⟩ := words_concat_S h.chars hlast hcapitals
    rw [hS]
    exact snakeChars_concat h.chars hwords happend (.inr rfl)

theorem IsName.words_ne_nil (h : IsName cs) : words cs ≠ [] := by
  obtain ⟨c, hc, hletter⟩ := h.exists_letter
  exact Naming.words_ne_nil hc ((isAlphanumeric_iff (h.chars c hc)).2 hletter)

theorem IsName.count_snakeChars (h : IsName cs) :
    (snakeChars cs).count '_' + 1 = (words cs).length := by
  obtain ⟨c, hc, hletter⟩ := h.exists_letter
  exact Naming.count_snakeChars h.chars hc hletter

theorem IsName.append_pluralS (h : IsName cs) : IsName (cs ++ pluralS cs) := by
  refine ⟨?_, forall_mem_append_pluralS h.chars rfl rfl⟩
  rw [List.head?_append_of_ne_nil _ h.ne_nil]
  exact h.head

/-- After an underscore the ending is a word. -/
theorem snakeChars_concat_underscore {init : List Char} {c : Char}
    (hne : words (init ++ ['_']) ≠ []) (hc : c = 's' ∨ c = 'S') :
    snakeChars (init ++ ['_'] ++ [c]) = snakeChars (init ++ ['_']) ++ ['_'] ++ ['s'] := by
  have halnum : c.isAlphanum := by rcases hc with rfl | rfl <;> rfl
  have hs : lowercaseWord [c] = ['s'] := by rcases hc with rfl | rfl <;> decide
  rw [snakeChars, words_concat_underscore halnum, List.map_append, List.map_singleton, hs,
    intercalate_concat, snakeChars, List.append_assoc]
  · rfl
  · rwa [ne_eq, List.map_eq_nil_iff]

variable (hcs : ∀ c ∈ cs, isNameChar c)

include hcs

theorem pluralS_snakeChars : pluralS (snakeChars cs) = ['s'] := by
  have hascii := forall_isAscii (isNameChar_snakeChars hcs)
  rw [Inflection.pluralS_eq]
  refine if_neg fun hcapitals => ?_
  obtain ⟨⟨c, hc, hupper⟩, -⟩ := (ofWord_eq_upper_iff hascii).1 hcapitals
  exact not_isUpper_of_mem_snakeChars hcs c hc hupper

/-- A label tells whether an underscore stands at the end. -/
theorem humanizeChars_ne (h : Tidy '_' cs) : humanizeChars (cs ++ ['_']) ≠ humanizeChars cs := by
  intro heq
  refine (isProse_humanizeChars hcs h).last ' ' ?_ rfl
  rw [← heq, humanizeChars_append_underscore hcs h.ne_nil, List.getLast?_concat]
  rfl

/-- A title tells how many words a tidy name has. -/
theorem titleChars_ne {ds : List Char} (hds : ∀ c ∈ ds, isNameChar c) (htidy : Tidy '_' ds)
    (h : Tidy '_' cs) (hlower : ∀ c ∈ cs, ¬ c.isUpper) (hlt : cs.count '_' < ds.count '_') :
    titleChars ds ≠ titleChars cs := by
  intro heq
  obtain ⟨c, hc, hcLetter⟩ := h.exists_mem
  obtain ⟨d, hd, hdLetter⟩ := htidy.exists_mem
  have hcsWords := count_titleChars hcs hc hcLetter
  have hdsWords := count_titleChars hds hd hdLetter
  have hcsLength := (h.length_words hcs).2 hlower
  have hdsLength := (htidy.length_words hds).1
  rw [heq] at hdsWords
  omega

end

/-! ## Forms of a plural -/

section

variable {raw : String} (h : IsName raw.toList) (hraw : Regular raw.toList)

include h hraw

theorem pluralize_eq_ok :
    pluralize raw = .ok (String.ofList (raw.toList ++ pluralS raw.toList)) := by
  rw [pluralize, inflect, hraw.plural h.isAscii (marker_notMem_name h.chars)]
  rfl

/-- The forms of the plural differ from those of the singular in the inflected words at most. -/
theorem NameForms.ofName_plural {singularWords pluralWords : List Char}
    (hsingular : inflectChars .singular (snakeChars (raw.toList ++ pluralS raw.toList))
      = .ok singularWords)
    (hplural : inflectChars .plural (snakeChars (raw.toList ++ pluralS raw.toList))
      = .ok pluralWords) :
    NameForms.ofName (String.ofList (raw.toList ++ pluralS raw.toList)) = .ok
      (ofInflected raw.toList (raw.toList ++ pluralS raw.toList) singularWords pluralWords) := by
  have hmarker := marker_notMem_name h.chars
  refine ofName_eq_ok ?_ ?_ ?_ ?_
  all_goals rw [String.toList_ofList]
  · exact hraw.singular_append h.isAscii hmarker
  · exact hraw.plural_append h.isAscii hmarker
  · exact hsingular
  · exact hplural

variable (hwords : Regular (snakeChars raw.toList))

include hwords

/-- Regular names gain an `s`. -/
theorem NameForms.ofName_regular : NameForms.ofName raw
    = .ok (ofInflected raw.toList (raw.toList ++ pluralS raw.toList) (snakeChars raw.toList)
      (snakeChars raw.toList ++ ['s'])) := by
  have hchars := isNameChar_snakeChars h.chars
  have hascii := forall_isAscii hchars
  have hplural := hwords.plural hascii (marker_notMem_name hchars)
  rw [pluralS_snakeChars h.chars] at hplural
  exact ofName_eq_ok (hraw.singular h.isAscii) (hraw.plural h.isAscii (marker_notMem_name h.chars))
    (hwords.singular hascii) hplural

/-- A name that takes the plural ending into its last word has the forms of its plural. -/
theorem NameForms.ofName_plural_of_takesEnding (hends : TakesEnding raw.toList) :
    NameForms.ofName (String.ofList (raw.toList ++ pluralS raw.toList)) = NameForms.ofName raw := by
  have hchars := isNameChar_snakeChars h.chars
  have hascii := forall_isAscii hchars
  have hmarker := marker_notMem_name hchars
  have hsnake := h.snakeChars_append_pluralS hends
  rw [← pluralS_snakeChars h.chars] at hsnake
  rw [ofName_regular h hraw hwords, ← pluralS_snakeChars h.chars]
  refine ofName_plural h hraw ?_ ?_
  all_goals rw [hsnake]
  · exact hwords.singular_append hascii hmarker
  · exact hwords.plural_append hascii hmarker

/-- After an underscore the ending leaves a blank in the label. -/
theorem NameForms.ofName_plural_ne_of_underscore (hlast : raw.toList.getLast? = some '_') :
    NameForms.ofName (String.ofList (raw.toList ++ pluralS raw.toList)) ≠ NameForms.ofName raw := by
  have hplural := h.append_pluralS
  have hchars := isNameChar_snakeChars h.chars
  obtain ⟨c, hs, hc⟩ := exists_pluralS raw.toList
  obtain ⟨init, hinit⟩ := List.getLast?_eq_some_iff.1 hlast
  have hsnake : snakeChars (raw.toList ++ pluralS raw.toList)
      = snakeChars raw.toList ++ ['_'] ++ ['s'] := by
    rw [hs, hinit]
    exact snakeChars_concat_underscore (hinit ▸ h.words_ne_nil) hc
  -- the `s` is taken for the plural of nothing, and the underscore before it stays
  have hlone : EndsInLoneS (snakeChars raw.toList ++ ['_']) 's' := ⟨.inl rfl, by simp⟩
  have hkept : ∀ d ∈ snakeChars raw.toList ++ ['_'], isNameChar d :=
    List.forall_mem_append.2 ⟨hchars, List.forall_mem_singleton.2 rfl⟩
  have hsingularWords := inflectChars_of_endsInLoneS hlone (forall_isAscii hkept)
    (marker_notMem_name hkept)
  rw [← hsnake] at hsingularWords
  obtain ⟨pluralWords, hpluralWords, -⟩ := hplural.tidy_snakeChars.exists_inflectChars .plural
    (isNameChar_snakeChars hplural.chars) nofun
  rw [ofName_plural h hraw hsingularWords hpluralWords, ofName_regular h hraw hwords]
  intro heq
  have hlabel := congrArg singularLabel (Except.ok.inj heq)
  exact humanizeChars_ne hchars h.tidy_snakeChars (String.ofList_inj.1 hlabel)

/-- After a run of capitals it adds a word to the title. -/
theorem NameForms.ofName_plural_ne_of_capitals (hlast : ∀ c ∈ raw.toList.getLast?, c ≠ '_')
    (hlower : ∃ c ∈ raw.toList, c.isLower) (hcapitals : EndsInCapitals raw.toList) :
    NameForms.ofName (String.ofList (raw.toList ++ pluralS raw.toList)) ≠ NameForms.ofName raw := by
  have hplural := h.append_pluralS
  have hchars := isNameChar_snakeChars h.chars
  have hascii := forall_isAscii (isNameChar_snakeChars hplural.chars)
  obtain ⟨singularWords, hsingularWords⟩ := exists_inflectChars .singular hascii
  obtain ⟨pluralWords, hpluralWords, hpluralChars, hpluralTidy, hcount⟩ :=
    hplural.tidy_snakeChars.exists_inflectChars .plural (isNameChar_snakeChars hplural.chars) nofun
  rw [ofName_plural h hraw hsingularWords hpluralWords, ofName_regular h hraw hwords]
  have hs : pluralS raw.toList = ['s'] := by
    rcases h.pluralS_eq with ⟨-, hs⟩ | ⟨hall, -⟩
    · exact hs
    · obtain ⟨c, hc, hcLower⟩ := hlower
      exact absurd hcLower (hall c hc)
  have hlength : (words (raw.toList ++ pluralS raw.toList)).length
      = (words raw.toList).length + 1 := by
    obtain ⟨init, word, c, hraw, hbegin, -⟩ := words_concat_s h.chars (h.exists_getLast hlast)
    rw [hs, hbegin hcapitals, hraw, List.length_append, List.length_append]
    rfl
  have htidy : Tidy '_' (snakeChars raw.toList ++ ['s']) := by
    have htidy := h.tidy_snakeChars
    rw [← List.append_nil (snakeChars _)] at htidy
    exact htidy.replace (by decide) nofun
  -- whatever the plural of the words may be, it has as many underscores as they have
  have hlt : (snakeChars raw.toList ++ ['s']).count '_' < pluralWords.count '_' := by
    have hrawWords := h.count_snakeChars
    have hpluralWords := hplural.count_snakeChars
    have hending : ['s'].count '_' = 0 := rfl
    rw [hcount, List.count_append, hending]
    omega
  intro heq
  have htitle := congrArg pluralTitle (Except.ok.inj heq)
  have hsingle {P : Char → Prop} (hs : P 's') : ∀ c ∈ ['s'], P c := List.forall_mem_singleton.2 hs
  exact titleChars_ne (List.forall_mem_append.2 ⟨hchars, hsingle rfl⟩) hpluralChars hpluralTidy
    htidy (List.forall_mem_append.2 ⟨not_isUpper_of_mem_snakeChars h.chars, hsingle (by decide)⟩)
    hlt (String.ofList_inj.1 htitle)

/-- A name and its plural have the same forms just if the name takes the plural ending into its last
word. -/
theorem NameForms.ofName_plural_iff : ∃ plural forms,
    pluralize raw = .ok plural ∧ NameForms.ofName raw = .ok forms ∧
      (NameForms.ofName plural = .ok forms ↔ TakesEnding raw.toList) := by
  refine ⟨_, _, pluralize_eq_ok h hraw, ofName_regular h hraw hwords, ?_⟩
  rw [← ofName_regular h hraw hwords]
  constructor
  · intro heq
    have hlast : ∀ c ∈ raw.toList.getLast?, c ≠ '_' := by
      rintro c hc rfl
      exact ofName_plural_ne_of_underscore h hraw hwords hc heq
    exact ⟨hlast, fun hlower hcapitals =>
      ofName_plural_ne_of_capitals h hraw hwords hlast hlower hcapitals heq⟩
  · exact ofName_plural_of_takesEnding h hraw hwords

end

/-- Two words in `camelCase` meet what is asked of a name and of its words. -/
theorem NameForms.blogPost_plural :
    IsName "blogPost".toList ∧ Regular "blogPost".toList ∧
      Regular (snakeChars "blogPost".toList) ∧ ∃ plural forms,
        pluralize "blogPost" = .ok plural ∧ NameForms.ofName "blogPost" = .ok forms ∧
          (NameForms.ofName plural = .ok forms ↔ TakesEnding "blogPost".toList) := by
  have h : IsName "blogPost".toList := by decide +kernel
  have hraw : Regular "blogPost".toList := by decide +kernel
  have hwords : Regular (snakeChars "blogPost".toList) := by decide +kernel
  exact ⟨h, hraw, hwords, NameForms.ofName_plural_iff h hraw hwords⟩

/-- Not every name has the forms of its plural: the ending of `userIDs` makes three words of two,
and the singular of `Caches` is formed like that of `Coaches`. -/
theorem NameForms.userID_plural_differs :
    (IsName "userID".toList ∧ pluralize "userID" = .ok "userIDs" ∧
      NameForms.ofName "userIDs" ≠ NameForms.ofName "userID") ∧
    IsName "Cache".toList ∧ pluralize "Cache" = .ok "Caches" ∧
      NameForms.ofName "Caches" ≠ NameForms.ofName "Cache" := by
  refine ⟨⟨?_, ?_, ?_⟩, ?_, ?_, ?_⟩
  all_goals decide +kernel

end SchemaCatalog.Naming
