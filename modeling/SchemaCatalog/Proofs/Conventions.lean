import SchemaCatalog.Proofs.Boundaries
import SchemaCatalog.Proofs.Forms

/-!
# Spelling conventions

One list of words, written as an identifier by each of four conventions.  Underscores or capitals
tell where a word begins, and the words that are read are the same each time.  Since they are read
before the number is looked at, titles and labels do not depend on the convention
(`NameForms.ofName_write`); names and variables do.

    blog_post   blogPost   BlogPost   BLOG_POST        Blog Post, Blog posts
-/

namespace SchemaCatalog.Naming

open Inflection Text

/-! ## Writing words -/

/-- A text with a capital at its beginning. -/
def capital : List Char → List Char
  | [] => []
  | c :: cs => c.toUpper :: cs

/-- The ways of writing words as one identifier. -/
inductive Convention where
  | snake
  | camel
  | pascal
  | upperSnake
deriving DecidableEq, Repr

/-- Words, given in small letters, as one identifier. -/
def Convention.write (ws : List (List Char)) : Convention → List Char
  | .snake => List.intercalate ['_'] ws
  | .camel => ws.headD [] ++ ws.tail.flatMap capital
  | .pascal => ws.flatMap capital
  | .upperSnake => List.intercalate ['_'] (ws.map (·.map Char.toUpper))

/-- Two or more small letters of ASCII. -/
@[mk_iff]
structure IsWord (w : List Char) : Prop where
  two_le_length : 2 ≤ w.length
  letters : ∀ c ∈ w, c.isLower

instance (w : List Char) : Decidable (IsWord w) :=
  decidable_of_iff (2 ≤ w.length ∧ w.all Char.isLower) (by
    simp only [isWord_iff, List.all_eq_true])

section

variable {w : List Char}

theorem isAlphanum_of_isLower {c : Char} (h : c.isLower) : c.isAlphanum :=
  isAlphanum_of_isAlpha (isAlpha_of_isLower h)

theorem IsWord.isAlphanum (h : IsWord w) : ∀ c ∈ w, c.isAlphanum :=
  fun c hc => isAlphanum_of_isLower (h.letters c hc)

theorem IsWord.exists_cons (h : IsWord w) :
    ∃ c s, w = c :: s ∧ c.isLower ∧ s ≠ [] ∧ ∀ d ∈ s, d.isLower := by
  obtain ⟨hlength, hletters⟩ := h
  match w with
  | [] => exact absurd hlength (by decide)
  | [c] => exact absurd hlength (Nat.not_succ_le_self 1)
  | c :: d :: s =>
    rw [List.forall_mem_cons] at hletters
    exact ⟨c, d :: s, rfl, hletters.1, List.cons_ne_nil d s, hletters.2⟩

theorem IsWord.ne_nil (h : IsWord w) : w ≠ [] := by
  obtain ⟨c, s, rfl, -⟩ := h.exists_cons
  exact List.cons_ne_nil c s

theorem isAlphanum_capital (h : ∀ c ∈ w, c.isAlphanum) : ∀ c ∈ capital w, c.isAlphanum := by
  cases w with
  | nil => exact h
  | cons c s =>
    rw [List.forall_mem_cons] at h
    exact List.forall_mem_cons.2 ⟨isAlphanum_toUpper h.1, h.2⟩

theorem isAlphanum_map_toUpper (h : ∀ c ∈ w, c.isAlphanum) :
    ∀ c ∈ w.map Char.toUpper, c.isAlphanum :=
  List.forall_mem_map.2 fun c hc => isAlphanum_toUpper (h c hc)

end

/-! ## Words in small letters again -/

section

variable {w : List Char}

theorem map_toLower_of_isLower (h : ∀ c ∈ w, c.isLower) : w.map Char.toLower = w :=
  (List.map_congr_left fun c hc => toLower_of_isLower (h c hc)).trans (List.map_id w)

theorem lowercaseWord_of_map_toLower {v : List Char} (hv : ∀ c ∈ v, c.isAlphanum)
    (h : v.map Char.toLower = w) : lowercaseWord v = w := by
  rw [lowercaseWord_eq_map fun c hc => isAscii_of_isAlphanum (hv c hc), h]

theorem IsWord.lowercaseWord_eq (h : IsWord w) : lowercaseWord w = w :=
  lowercaseWord_of_map_toLower h.isAlphanum (map_toLower_of_isLower h.letters)

theorem IsWord.lowercaseWord_capital (h : IsWord w) : lowercaseWord (capital w) = w := by
  refine lowercaseWord_of_map_toLower (isAlphanum_capital h.isAlphanum) ?_
  obtain ⟨c, s, rfl, hc, -, hs⟩ := h.exists_cons
  rw [capital, List.map_cons, toLower_toUpper (isAscii_of_isAlphanum (isAlphanum_of_isLower hc)),
    toLower_of_isLower hc, map_toLower_of_isLower hs]

theorem map_map_lowercaseWord {respell : List Char → List Char} {ws : List (List Char)}
    (h : ∀ w ∈ ws, lowercaseWord (respell w) = w) :
    (ws.map respell).map lowercaseWord = ws := by
  rw [List.map_map]
  exact (List.map_congr_left h).trans (List.map_id ws)

theorem IsWord.lowercaseWord_map_toUpper (h : IsWord w) :
    lowercaseWord (w.map Char.toUpper) = w := by
  refine lowercaseWord_of_map_toLower (isAlphanum_map_toUpper h.isAlphanum) ?_
  rw [map_toLower_toUpper fun c hc => isAscii_of_isAlphanum (h.isAlphanum c hc),
    map_toLower_of_isLower h.letters]

end

/-! ## Reading words -/

section

variable {state : WordState} {word s rest : List Char} {ws : List (List Char)}

/-- A word in small letters ends before a capital. -/
theorem splitCase_append_of_isLower (hs : s ≠ []) (h : ∀ c ∈ s, c.isLower)
    (hrest : ∀ d ∈ rest.head?, d.isUpper) :
    splitCase state word (s ++ rest) = (word.reverse ++ s) :: splitCase .fresh [] rest := by
  induction s generalizing state word with
  | nil => exact absurd rfl hs
  | cons c s ih =>
    rw [List.forall_mem_cons] at h
    have hnext : state.next c = .lower := if_pos (isLowercase_of_isLower h.1)
    have hupper : ∀ d, d.isLower → ¬ isUppercase d := fun d hd => by
      rw [isUppercase_of_isAscii (isAscii_of_isAlphanum (isAlphanum_of_isLower hd))]
      exact fun hcapital => not_isLower_of_isUpper hcapital hd
    cases s with
    | nil =>
      cases rest with
      | nil => simp [splitCase]
      | cons d rest =>
        have hd : isUppercase d := isUppercase_of_isUpper (hrest d rfl)
        rw [List.cons_append, List.nil_append, splitCase, if_pos ⟨hnext, hd⟩, List.reverse_cons]
    | cons d s =>
      rw [List.cons_append, List.cons_append, splitCase,
        if_neg fun hand => hupper d (h.2 d List.mem_cons_self) hand.2,
        if_neg fun hand => hupper c h.1 hand.2.1, ← List.cons_append, ih (List.cons_ne_nil d s) h.2,
        List.reverse_cons, List.append_assoc, List.singleton_append]

variable (h : ∀ w ∈ ws, IsWord w)

include h

theorem isUpper_head?_flatMap_capital : ∀ d ∈ (ws.flatMap capital).head?, d.isUpper := by
  cases ws with
  | nil => exact nofun
  | cons w ws =>
    obtain ⟨c, s, rfl, hc, -, -⟩ := (h w List.mem_cons_self).exists_cons
    rintro d hd
    obtain rfl : c.toUpper = d := Option.mem_some_iff.1 hd
    exact isUpper_toUpper hc

theorem isAlphanum_of_mem_flatMap_capital : ∀ c ∈ ws.flatMap capital, c.isAlphanum := by
  intro c hc
  obtain ⟨w, hw, hc⟩ := List.mem_flatMap.1 hc
  exact isAlphanum_capital (h w hw).isAlphanum c hc

/-- Capitals begin words. -/
theorem splitCase_flatMap_capital : splitCase .fresh [] (ws.flatMap capital) = ws.map capital := by
  induction ws with
  | nil => rfl
  | cons w ws ih =>
    rw [List.forall_mem_cons] at h
    have hrest := isUpper_head?_flatMap_capital h.2
    obtain ⟨c, s, rfl, hc, hs, hletters⟩ := h.1.exists_cons
    have hnext : WordState.fresh.next c.toUpper ≠ .lower := by
      have hcapital := isUpper_toUpper hc
      refine next_ne_lower nofun ?_
      rw [isLowercase_of_isAscii (isAscii_of_isAlpha (isAlpha_of_isUpper hcapital))]
      exact not_isLower_of_isUpper hcapital
    have hfirst : splitCase .fresh [] (c.toUpper :: (s ++ ws.flatMap capital))
        = splitCase (WordState.fresh.next c.toUpper) [c.toUpper] (s ++ ws.flatMap capital) := by
      obtain ⟨d, s, rfl⟩ := List.exists_cons_of_ne_nil hs
      rw [List.cons_append, splitCase, if_neg fun hand => hnext hand.1,
        if_neg fun hand => WordState.noConfusion hand.1]
    rw [List.flatMap_cons, capital, List.cons_append, hfirst,
      splitCase_append_of_isLower hs hletters hrest, ih h.2, List.map_cons, capital]
    rfl

/-- Whatever the convention, the words are found again. -/
theorem map_lowercaseWord_words_write (a : Convention) :
    (words (a.write ws)).map lowercaseWord = ws := by
  cases a with
  | snake =>
    have hwords : words (List.intercalate ['_'] ws) = ws :=
      words_intercalate_of_not_upper fun w hw => ⟨(h w hw).ne_nil, fun c hc =>
        ⟨(h w hw).isAlphanum c hc, fun hupper =>
          not_isLower_of_isUpper hupper ((h w hw).letters c hc)⟩⟩
    rw [Convention.write, hwords]
    exact (List.map_congr_left fun w hw => (h w hw).lowercaseWord_eq).trans (List.map_id ws)
  | camel =>
    cases ws with
    | nil => rfl
    | cons w ws =>
      rw [List.forall_mem_cons] at h
      have hw := h.1
      have halnum : ∀ c ∈ w ++ ws.flatMap capital, c.isAlphanum :=
        List.forall_mem_append.2 ⟨hw.isAlphanum, isAlphanum_of_mem_flatMap_capital h.2⟩
      rw [Convention.write, List.headD_cons, List.tail_cons,
        words_of_forall fun c hc => isAlphanumeric_of_isAlphanum (halnum c hc),
        splitCase_append_of_isLower hw.ne_nil hw.letters (isUpper_head?_flatMap_capital h.2),
        splitCase_flatMap_capital h.2, List.reverse_nil, List.nil_append, List.map_cons,
        hw.lowercaseWord_eq, map_map_lowercaseWord fun w hw => (h.2 w hw).lowercaseWord_capital]
  | pascal =>
    have halnum := isAlphanum_of_mem_flatMap_capital h
    rw [Convention.write, words_of_forall fun c hc => isAlphanumeric_of_isAlphanum (halnum c hc),
      splitCase_flatMap_capital h, map_map_lowercaseWord fun w hw => (h w hw).lowercaseWord_capital]
  | upperSnake =>
    have hwords : words (List.intercalate ['_'] (ws.map (·.map Char.toUpper)))
        = ws.map (·.map Char.toUpper) := by
      refine words_intercalate_of_not_lower (List.forall_mem_map.2 fun w hw => ⟨?_, ?_⟩)
      · exact mt List.map_eq_nil_iff.1 (h w hw).ne_nil
      · exact List.forall_mem_map.2 fun c hc => ⟨isAlphanum_toUpper ((h w hw).isAlphanum c hc),
          not_isLower_of_isUpper (isUpper_toUpper ((h w hw).letters c hc))⟩
    rw [Convention.write, hwords]
    exact map_map_lowercaseWord fun w hw => (h w hw).lowercaseWord_map_toUpper

/-- So whatever the convention, the `snake_case` is the same. -/
theorem snakeChars_write (a : Convention) :
    snakeChars (a.write ws) = List.intercalate ['_'] ws := by
  rw [snakeChars, map_lowercaseWord_words_write h]

theorem isNameChar_write (a : Convention) : ∀ c ∈ a.write ws, isNameChar c := by
  intro c hc
  cases a with
  | snake =>
    rcases mem_intercalate hc with rfl | ⟨w, hw, hc⟩
    · rfl
    · exact isNameChar_of_isAlphanum ((h w hw).isAlphanum c hc)
  | camel =>
    refine isNameChar_of_isAlphanum ?_
    rcases List.mem_append.1 hc with hc | hc
    · cases ws with
      | nil => cases hc
      | cons w ws => exact (h w List.mem_cons_self).isAlphanum c hc
    · exact isAlphanum_of_mem_flatMap_capital (fun w hw => h w (List.mem_of_mem_tail hw)) c hc
  | pascal => exact isNameChar_of_isAlphanum (isAlphanum_of_mem_flatMap_capital h c hc)
  | upperSnake =>
    rcases mem_intercalate hc with rfl | ⟨v, hv, hc⟩
    · rfl
    · obtain ⟨w, hw, rfl⟩ := List.mem_map.1 hv
      exact isNameChar_of_isAlphanum (isAlphanum_map_toUpper (h w hw).isAlphanum c hc)

end

/-! ## Titles and labels -/

section

variable {ws : List (List Char)} (h : ∀ w ∈ ws, IsWord w)

include h

/-- The titles and labels are made from one pair of inflected texts for all conventions. -/
theorem NameForms.exists_ofName_write : ∃ singularWords pluralWords, ∀ a : Convention,
    ∃ singular plural, NameForms.ofName (String.ofList (a.write ws))
      = .ok (ofInflected singular plural singularWords pluralWords) := by
  have hsnake := forall_isAscii (isNameChar_snakeChars (isNameChar_write h .snake))
  rw [snakeChars_write h] at hsnake
  obtain ⟨singularWords, hsingularWords⟩ := exists_inflectChars .singular hsnake
  obtain ⟨pluralWords, hpluralWords⟩ := exists_inflectChars .plural hsnake
  refine ⟨singularWords, pluralWords, fun a => ?_⟩
  have hascii := forall_isAscii (isNameChar_write h a)
  obtain ⟨singular, hsingular⟩ := exists_inflectChars .singular hascii
  obtain ⟨plural, hplural⟩ := exists_inflectChars .plural hascii
  refine ⟨singular, plural, ofName_eq_ok ?_ ?_ ?_ ?_⟩
  all_goals rw [String.toList_ofList]
  · exact hsingular
  · exact hplural
  · rw [snakeChars_write h]
    exact hsingularWords
  · rw [snakeChars_write h]
    exact hpluralWords

/-- By every two conventions the words have forms, and the same titles and labels. -/
theorem NameForms.ofName_write (a b : Convention) : ∃ forms forms',
    NameForms.ofName (String.ofList (a.write ws)) = .ok forms ∧
    NameForms.ofName (String.ofList (b.write ws)) = .ok forms' ∧
    forms.singularTitle = forms'.singularTitle ∧ forms.pluralTitle = forms'.pluralTitle ∧
    forms.singularLabel = forms'.singularLabel ∧ forms.pluralLabel = forms'.pluralLabel := by
  obtain ⟨singularWords, pluralWords, hforms⟩ := exists_ofName_write h
  obtain ⟨singular, plural, ha⟩ := hforms a
  obtain ⟨singular', plural', hb⟩ := hforms b
  exact ⟨_, _, ha, hb, rfl, rfl, rfl, rfl⟩

end

/-- The identifier of an author has the title `Author Id` and the label `Author` by both.  In the
plural the ending is not `_id`, so the label keeps it. -/
theorem NameForms.authorId_write : (∀ w ∈ ["author".toList, "id".toList], IsWord w) ∧
    ∃ forms forms', NameForms.ofName "authorId" = .ok forms ∧
      NameForms.ofName "AUTHOR_ID" = .ok forms' ∧
      (forms.singularTitle = forms'.singularTitle ∧ forms.pluralTitle = forms'.pluralTitle ∧
        forms.singularLabel = forms'.singularLabel ∧ forms.pluralLabel = forms'.pluralLabel) ∧
      forms.singularTitle = "Author Id" ∧ forms.pluralTitle = "Author Ids" ∧
      forms.singularLabel = "Author" ∧ forms.pluralLabel = "Author ids" := by
  have h : ∀ w ∈ ["author".toList, "id".toList], IsWord w := by decide
  obtain ⟨forms, forms', hforms, hforms', hagree⟩ := NameForms.ofName_write h .camel .upperSnake
  have hvalues : (NameForms.ofName "authorId").toOption.map
      (fun n => (n.singularTitle, n.pluralTitle, n.singularLabel, n.pluralLabel))
        = some ("Author Id", "Author Ids", "Author", "Author ids") := by
    decide +kernel
  rw [show NameForms.ofName "authorId" = .ok forms from hforms] at hvalues
  exact ⟨h, forms, forms', hforms, hforms', hagree, by simpa [Except.toOption] using hvalues⟩

end SchemaCatalog.Naming
