import SchemaCatalog.Catalog.Model
import SchemaCatalog.Proofs.Conventions

/-!
# Prose for enumerators

An enumerator is named by convention with words of capitals and digits and underscores between them.
Its title and its label are these words again, in other letters (`Enumerator.ofDecl_conventional`).
The title has all of them; the label leaves out `ID` if it is the last of several.

    OWNER_2_ID          Owner 2 Id          Owner 2
-/

namespace SchemaCatalog.Naming

open Text

/-! ## Words of a conventional name -/

/-- A word of capitals and digits in ASCII. -/
@[mk_iff]
structure IsConstantWord (w : List Char) : Prop where
  ne_nil : w ≠ []
  chars : ∀ c ∈ w, c.isUpper ∨ c.isDigit

instance (w : List Char) : Decidable (IsConstantWord w) :=
  decidable_of_iff (w ≠ [] ∧ w.all fun c => c.isUpper || c.isDigit) (by
    simp only [isConstantWord_iff, List.all_eq_true, Bool.or_eq_true])

/-- A text with its first character as it is and the rest in small letters. -/
def keepFirst : List Char → List Char
  | [] => []
  | c :: cs => c :: cs.map Char.toLower

/-- The words that a label takes up: all but an `ID` after others. -/
def labelWords (ws : List (List Char)) : List (List Char) :=
  if 2 ≤ ws.length ∧ ws.getLast? = some ['I', 'D'] then ws.dropLast else ws

theorem mem_of_mem_labelWords {ws : List (List Char)} {w : List Char} (h : w ∈ labelWords ws) :
    w ∈ ws := by
  unfold labelWords at h
  split at h
  · exact List.dropLast_subset ws h
  · exact h

/-- The words of a title, one blank between them. -/
def titleOfWords (ws : List (List Char)) : List Char :=
  List.intercalate [' '] (ws.map keepFirst)

/-- The words of a label in small letters, one blank between them; only the beginning of the whole
is a capital. -/
def labelOfWords (ws : List (List Char)) : List Char :=
  capital (List.intercalate [' '] ((labelWords ws).map (·.map Char.toLower)))

section

variable {c : Char} (h : c.isUpper ∨ c.isDigit)

include h

theorem isAlphanum_of_isUpper_or_isDigit : c.isAlphanum :=
  h.elim (fun hupper => isAlphanum_of_isAlpha (isAlpha_of_isUpper hupper))
    fun hdigit => Bool.or_eq_true_iff.2 (.inr hdigit)

/-- What is no small letter comes back from small letters. -/
theorem toUpper_toLower : c.toLower.toUpper = c :=
  forall_ascii (P := fun c => c.isUpper ∨ c.isDigit → c.toLower.toUpper = c) (by decide) c
    (isAscii_of_isAlphanum (isAlphanum_of_isUpper_or_isDigit h)) h

end

section

variable {w : List Char} (h : IsConstantWord w)

include h

theorem IsConstantWord.isAscii : ∀ c ∈ w, isAscii c :=
  fun c hc => isAscii_of_isAlphanum (isAlphanum_of_isUpper_or_isDigit (h.chars c hc))

theorem IsConstantWord.isAlphanum_lower :
    ∀ c ∈ w.map Char.toLower, c.isAlphanum ∧ ¬ c.isUpper :=
  List.forall_mem_map.2 fun c hc =>
    ⟨isAlphanum_toLower (isAlphanum_of_isUpper_or_isDigit (h.chars c hc)), not_isUpper_toLower c⟩

theorem IsConstantWord.underscore_notMem_lower : '_' ∉ w.map Char.toLower :=
  fun hmem => absurd (h.isAlphanum_lower '_' hmem).1 (by decide)

/-- Capitalizing the small letters brings the first character back. -/
theorem IsConstantWord.capitalize_lower : capitalize (w.map Char.toLower) = keepFirst w := by
  have hne := h.ne_nil
  cases w with
  | nil => exact absurd rfl hne
  | cons c s =>
    have hchars := List.forall_mem_cons.1 h.chars
    have hascii := List.forall_mem_cons.1 h.isAscii
    rw [List.map_cons, capitalize, upperChar_of_isAscii ((isAscii_toLower c).trans hascii.1),
      toUpper_toLower hchars.1, lowercaseWord_eq_map (isAscii_map_toLower hascii.2),
      map_toLower_toLower hascii.2, List.singleton_append, keepFirst]

theorem IsConstantWord.lower_eq_id_iff : w.map Char.toLower = ['i', 'd'] ↔ w = ['I', 'D'] := by
  have hback : (w.map Char.toLower).map Char.toUpper = w := by
    rw [List.map_map]
    exact (List.map_congr_left fun c hc => toUpper_toLower (h.chars c hc)).trans (List.map_id w)
  constructor
  · intro heq
    rw [← hback, heq]
    rfl
  · rintro rfl
    rfl

end

/-! ## The ending of a label -/

section

variable {cs w : List Char}

theorem cons_suffix_append_cons_iff {α : Type} {x : α} {as bs cs : List α} (has : x ∉ as)
    (hbs : x ∉ bs) : x :: as <:+ cs ++ x :: bs ↔ as = bs := by
  constructor
  · intro h
    rcases List.suffix_or_suffix_of_suffix h (List.suffix_append cs (x :: bs)) with h | h
    · refine (List.suffix_cons_iff.1 h).elim (fun heq => (List.cons.inj heq).2) fun hsub => ?_
      exact absurd (hsub.subset List.mem_cons_self) hbs
    · refine (List.suffix_cons_iff.1 h).elim (fun heq => (List.cons.inj heq).2.symm) fun hsub => ?_
      exact absurd (hsub.subset List.mem_cons_self) has
  · rintro rfl
    exact List.suffix_append cs (x :: as)

theorem dropIdSuffix_of_notMem (h : '_' ∉ cs) : dropIdSuffix cs = cs :=
  if_neg fun hid => h ((List.isSuffixOf_iff_suffix.1 hid).subset List.mem_cons_self)

/-- The ending is dropped if it is all that follows the last underscore. -/
theorem dropIdSuffix_append_cons (h : '_' ∉ w) :
    dropIdSuffix (cs ++ '_' :: w) = if w = ['i', 'd'] then cs else cs ++ '_' :: w := by
  have hiff : ['_', 'i', 'd'].isSuffixOf (cs ++ '_' :: w) ↔ w = ['i', 'd'] := by
    rw [List.isSuffixOf_iff_suffix, cons_suffix_append_cons_iff (by decide) h, eq_comm]
  unfold dropIdSuffix
  simp only [hiff]
  split
  · next hw =>
    subst hw
    exact List.take_left' (by simp)
  · rfl

end

section

variable {ws : List (List Char)} (h : ∀ w ∈ ws, IsConstantWord w)

include h

/-- The words that remain are those of the label. -/
theorem dropIdSuffix_intercalate :
    dropIdSuffix (List.intercalate ['_'] (ws.map (·.map Char.toLower)))
      = List.intercalate ['_'] ((labelWords ws).map (·.map Char.toLower)) := by
  rcases List.eq_nil_or_concat ws with rfl | ⟨init, w, rfl⟩
  · rfl
  · rw [List.concat_eq_append, List.forall_mem_append, List.forall_mem_singleton] at h
    have hw := h.2.underscore_notMem_lower
    rw [List.concat_eq_append, List.map_append, List.map_singleton]
    by_cases hinit : init = []
    · subst hinit
      rw [labelWords, if_neg fun hand => absurd hand.1 (Nat.not_succ_le_self 1), List.map_nil,
        List.nil_append, List.nil_append, List.map_singleton, List.intercalate_singleton,
        dropIdSuffix_of_notMem hw]
    · have hlength : 2 ≤ (init ++ [w]).length := by
        have := List.length_pos_iff.2 hinit
        rw [List.length_append, List.length_singleton]
        omega
      have hmap : init.map (·.map Char.toLower) ≠ [] := mt List.map_eq_nil_iff.1 hinit
      rw [labelWords, List.getLast?_concat, List.dropLast_concat, intercalate_concat hmap,
        dropIdSuffix_append_cons hw]
      by_cases hid : w = ['I', 'D']
      · rw [if_pos (h.2.lower_eq_id_iff.2 hid), if_pos ⟨hlength, congrArg some hid⟩]
      · rw [if_neg (mt h.2.lower_eq_id_iff.1 hid),
          if_neg fun hand => hid (Option.some_inj.1 hand.2), List.map_append, List.map_singleton,
          intercalate_concat hmap]

end

/-! ## Titles and labels of enumerators -/

theorem upperFirst_eq_capital {cs : List Char} (h : ∀ c ∈ cs, isAscii c) :
    upperFirst cs = capital cs := by
  cases cs with
  | nil => rfl
  | cons c cs =>
    rw [upperFirst_cons_of_isAscii (h c List.mem_cons_self), capital]

section

variable {ws : List (List Char)} (h : ∀ w ∈ ws, IsConstantWord w)

include h

theorem isAscii_intercalate : ∀ c ∈ List.intercalate ['_'] ws, isAscii c := by
  intro c hc
  rcases mem_intercalate hc with rfl | ⟨w, hw, hc⟩
  · rfl
  · exact (h w hw).isAscii c hc

theorem lowercase_intercalate : lowercase (List.intercalate ['_'] ws)
    = List.intercalate ['_'] (ws.map (·.map Char.toLower)) := by
  rw [lowercase_eq_map (isAscii_intercalate h), map_intercalate]
  rfl

theorem titleChars_lowercase :
    titleChars (lowercase (List.intercalate ['_'] ws)) = titleOfWords ws := by
  have hwords : words (List.intercalate ['_'] (ws.map (·.map Char.toLower)))
      = ws.map (·.map Char.toLower) :=
    words_intercalate_of_not_upper (List.forall_mem_map.2 fun w hw =>
      ⟨mt List.map_eq_nil_iff.1 (h w hw).ne_nil, (h w hw).isAlphanum_lower⟩)
  rw [lowercase_intercalate h, titleChars, hwords, List.map_map]
  exact congrArg _ (List.map_congr_left fun w hw => (h w hw).capitalize_lower)

/-- Blanks come for the underscores and nothing else. -/
theorem map_blank_intercalate : (List.intercalate ['_'] (ws.map (·.map Char.toLower))).map blank
    = List.intercalate [' '] (ws.map (·.map Char.toLower)) := by
  rw [map_intercalate, List.map_map]
  refine congrArg _ (List.map_congr_left fun w hw => ?_)
  refine (List.map_congr_left fun c hc => if_neg ?_).trans (List.map_id _)
  rintro rfl
  exact (h w hw).underscore_notMem_lower hc

theorem humanizeChars_lowercase :
    humanizeChars (lowercase (List.intercalate ['_'] ws)) = labelOfWords ws := by
  have hlabel : ∀ w ∈ labelWords ws, IsConstantWord w := fun w hw => h w (mem_of_mem_labelWords hw)
  rw [humanizeChars_eq, lowercase_lowercase (isAscii_intercalate h), lowercase_intercalate h,
    dropIdSuffix_intercalate h, map_blank_intercalate hlabel, labelOfWords]
  refine upperFirst_eq_capital fun c hc => ?_
  rcases mem_intercalate hc with rfl | ⟨v, hv, hc⟩
  · rfl
  · obtain ⟨w, hw, rfl⟩ := List.mem_map.1 hv
    exact isAscii_of_isAlphanum ((hlabel w hw).isAlphanum_lower c hc).1

end

end SchemaCatalog.Naming

namespace SchemaCatalog

open Naming

/-- An enumerator with a conventional name has the words of the name in its title and in its label,
and its name and its comment as declared. -/
theorem Enumerator.ofDecl_conventional {ws : List (List Char)} (h : ∀ w ∈ ws, IsConstantWord w)
    (comment : Option String) :
    enumeratorTitle (String.ofList (List.intercalate ['_'] ws)) = String.ofList (titleOfWords ws) ∧
    enumeratorLabel (String.ofList (List.intercalate ['_'] ws)) = String.ofList (labelOfWords ws) ∧
    Enumerator.ofDecl { name := String.ofList (List.intercalate ['_'] ws), comment }
      = { name := String.ofList (List.intercalate ['_'] ws)
          title := String.ofList (titleOfWords ws)
          label := String.ofList (labelOfWords ws)
          comment } := by
  have htitle : enumeratorTitle (String.ofList (List.intercalate ['_'] ws))
      = String.ofList (titleOfWords ws) := by
    rw [enumeratorTitle, titleCase, String.toList_ofList, String.toList_ofList,
      titleChars_lowercase h]
  have hlabel : enumeratorLabel (String.ofList (List.intercalate ['_'] ws))
      = String.ofList (labelOfWords ws) := by
    rw [enumeratorLabel, humanize, String.toList_ofList, String.toList_ofList,
      humanizeChars_lowercase h]
  refine ⟨htitle, hlabel, ?_⟩
  rw [Enumerator.ofDecl, htitle, hlabel]

/-- The words `OWNER`, `2` and `ID` are `Owner 2 Id` in a title and `Owner 2` in a label. -/
theorem Enumerator.ofDecl_owner2Id :
    (∀ w ∈ ["OWNER".toList, "2".toList, "ID".toList], IsConstantWord w) ∧
    enumeratorTitle "OWNER_2_ID" = "Owner 2 Id" ∧ enumeratorLabel "OWNER_2_ID" = "Owner 2" ∧
    Enumerator.ofDecl { name := "OWNER_2_ID", comment := some "The second owner." }
      = { name := "OWNER_2_ID", title := "Owner 2 Id", label := "Owner 2",
          comment := some "The second owner." } :=
  have h : ∀ w ∈ ["OWNER".toList, "2".toList, "ID".toList], IsConstantWord w := by decide
  ⟨h, Enumerator.ofDecl_conventional h (some "The second owner.")⟩

-- an `ID` with nothing before it stays, so of two there is one left
example : labelOfWords ["ID".toList] = "Id".toList ∧
    labelOfWords ["ID".toList, "ID".toList] = "Id".toList := by decide

end SchemaCatalog
