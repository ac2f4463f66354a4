import SchemaCatalog.Proofs.Forms
import SchemaCatalog.Proofs.Outcome
import SchemaCatalog.Proofs.Stops

/-!
# Refused words

On the way to its form a word lends its casing to a few texts: to the form that a table gives, or to
the tail that a rule finds, its stem and what the rule puts in place of its ending (`recased`).  A
word is refused just if one of these cannot take it.  A word in ASCII never is, so every name in
ASCII has its forms, and a build stops at none of them.

    (∃ form, inflectChars number word = .ok form) ↔
      ∀ text ∈ recased number word, ∃ t, recase word text = .ok t          (inflectChars_isOk_iff)
    (∀ c ∈ raw.toList, isAscii c) → ∃ forms, NameForms.ofName raw = .ok forms
                                                                       (NameForms.exists_ofName)
-/

namespace SchemaCatalog.Inflection

open Text

/-- The texts that are given the casing of the word on the way to its form. -/
def recased (number : GrammaticalNumber) (word : List Char) : List (List Char) :=
  match number.irregular? (String.ofList (lowercase word)) with
  | some form => [form.toList]
  | none =>
    if Unlisted number word then
      match firstSplit? number.rules word with
      | some (r, s) => [s.stem ++ s.ending, s.stem, r.replacement.toList]
      | none => []
    else []

section

variable {number : GrammaticalNumber} {word : List Char}

theorem Split.inflect_isOk_iff {s : Split} {replacement : List Char} :
    (∃ form, s.inflect word replacement = .ok form) ↔
      (∃ t, recase word (s.stem ++ s.ending) = .ok t) ∧ (∃ t, recase word s.stem = .ok t) ∧
        ∃ t, recase word replacement = .ok t := by
  unfold Split.inflect
  cases recase word (s.stem ++ s.ending) with
  | error e => simp [bind, Except.bind]
  | ok tail =>
    cases recase word s.stem with
    | error e => simp [bind, Except.bind]
    | ok stem => cases recase word replacement <;> simp [bind, Except.bind, pure, Except.pure]

/-- A word is inflected exactly if every text on the way can take its casing. -/
theorem inflectChars_isOk_iff : (∃ form, inflectChars number word = .ok form) ↔
    ∀ text ∈ recased number word, ∃ t, recase word text = .ok t := by
  cases hform : number.irregular? (String.ofList (lowercase word)) with
  | some form =>
    have hrecased : recased number word = [form.toList] := by simp only [recased, hform]
    rw [inflectChars_of_listed hform, hrecased, List.forall_mem_singleton]
  | none =>
    by_cases hunlisted : Unlisted number word
    · rw [inflectChars_of_unlisted hunlisted]
      cases hfirst : firstSplit? number.rules word with
      | none =>
        have hrecased : recased number word = [] := by simp only [recased, hform, hfirst, ite_self]
        simp [applyFirst_of_none hfirst, hrecased]
      | some rs =>
        obtain ⟨r, s⟩ := rs
        have hrecased : recased number word
            = [s.stem ++ s.ending, s.stem, r.replacement.toList] := by
          simp only [recased, hform, hfirst, if_pos hunlisted]
        rw [applyFirst_of_some hfirst, Split.inflect_isOk_iff, hrecased, List.forall_mem_cons,
          List.forall_mem_cons, List.forall_mem_singleton]
    · have hrecased : recased number word = [] := by simp only [recased, hform, if_neg hunlisted]
      simp [inflectChars_of_not_unlisted hform hunlisted, hrecased]

theorem exists_inflect (number : GrammaticalNumber) {word : String}
    (h : ∀ c ∈ word.toList, isAscii c) : ∃ form, inflect number word = .ok form := by
  obtain ⟨form, hform⟩ := exists_inflectChars number h
  exact ⟨_, congrArg (Except.map String.ofList) hform⟩

end

end SchemaCatalog.Inflection

namespace SchemaCatalog.Naming

open Inflection Text

section

variable {cs : List Char} {raw : String}

theorem isAscii_snakeChars (h : ∀ c ∈ cs, isAscii c) : ∀ c ∈ snakeChars cs, isAscii c := by
  intro c hc
  rcases mem_intercalate hc with rfl | ⟨v, hv, hc⟩
  · rfl
  · obtain ⟨w, hw, rfl⟩ := List.mem_map.1 hv
    have hascii : ∀ d ∈ w, isAscii d := fun d hd => h d ((of_mem_words hw).2 d hd).1
    rw [lowercaseWord_eq_map hascii] at hc
    exact isAscii_map_toLower hascii c hc

/-- Every name in ASCII has its forms. -/
theorem NameForms.exists_ofName (h : ∀ c ∈ raw.toList, isAscii c) :
    ∃ forms, NameForms.ofName raw = .ok forms := by
  have hwords := isAscii_snakeChars h
  obtain ⟨singular, hsingular⟩ := exists_inflectChars .singular h
  obtain ⟨plural, hplural⟩ := exists_inflectChars .plural h
  obtain ⟨singularWords, hsingularWords⟩ := exists_inflectChars .singular hwords
  obtain ⟨pluralWords, hpluralWords⟩ := exists_inflectChars .plural hwords
  exact ⟨_, ofName_eq_ok hsingular hplural hsingularWords hpluralWords⟩

end

end SchemaCatalog.Naming

namespace SchemaCatalog

open Inflection Naming Text

/-- No name in ASCII is refused.  It has a singular and a plural and all its forms, and no text on
the way to them is one that cannot take the casing of the name.  So a permissive build of
declarations whose models, fields and enums have such names comes to a catalog. -/
theorem ascii_names_never_refused :
    (∀ s : String, (∀ c ∈ s.toList, isAscii c) →
      (∃ form, singularize s = .ok form) ∧ (∃ form, pluralize s = .ok form) ∧
      (∃ forms, NameForms.ofName s = .ok forms) ∧
      ∀ word ∈ [s, snakeCase s], ∀ number, ∀ text ∈ recased number word.toList,
        ∃ t, recase word.toList text = .ok t) ∧
    ∀ (source : Source) (ds : List Declaration), source.declarations = .ok ds →
      (∀ name, Declares ds name → ∀ c ∈ name.toList, isAscii c) →
      ∃ c events, Builder.build { strict := false } source = .ok { result := .ok c, events } := by
  refine ⟨fun s h => ⟨exists_inflect .singular h, exists_inflect .plural h,
    NameForms.exists_ofName h, ?recased⟩, fun source ds hs h => ?build⟩
  case recased =>
    have hwords : ∀ c ∈ (snakeCase s).toList, isAscii c := by
      rw [snakeCase, String.toList_ofList]
      exact isAscii_snakeChars h
    intro word hword number
    apply inflectChars_isOk_iff.1
    apply exists_inflectChars
    rcases List.mem_pair.1 hword with rfl | rfl
    · exact h
    · exact hwords
  case build =>
    have hnames : NamesInflect ds := by
      rw [namesInflect_iff_declares]
      intro name hname
      obtain ⟨forms, hforms⟩ := NameForms.exists_ofName (h name hname)
      rw [hforms]
      rfl
    exact ⟨_, build_accepts hs hnames fun hstrict => nomatch hstrict⟩

/-- Names with dollar signs, in mixed case and empty, and an enumerator outside ASCII. -/
def oddDeclarations : List Declaration :=
  [.model { name := "Price$", fields := [{ name := "cANVAS_ids", type := "String" },
      { name := "", type := "kInD" }] },
    .enum { name := "kInD", enumerators := [{ name := "Aſ" }] }]

/-- They build, and each has its forms. -/
theorem oddDeclarations_never_refused :
    (∀ c ∈ "aOURSELVES$".toList, isAscii c) ∧
    (∃ form, singularize "aOURSELVES$" = .ok form) ∧
    (∃ forms, NameForms.ofName "aOURSELVES$" = .ok forms) ∧
    (∀ name, Declares oddDeclarations name → ∀ c ∈ name.toList, isAscii c) ∧
    ∃ c events, Builder.build { strict := false } (.handed (.declared oddDeclarations))
      = .ok { result := .ok c, events } := by
  have hname : ∀ c ∈ "aOURSELVES$".toList, isAscii c := List.all_eq_true.1 (by decide)
  have hall : ∀ d ∈ oddDeclarations, ∀ name ∈ d.inflected, name.toList.all isAscii := by decide
  have hnames : ∀ name, Declares oddDeclarations name → ∀ c ∈ name.toList, isAscii c :=
    forall_declares_iff.2 fun d hd name hmem => List.all_eq_true.1 (hall d hd name hmem)
  obtain ⟨hsingular, -, hforms, -⟩ := ascii_names_never_refused.1 "aOURSELVES$" hname
  exact ⟨hname, hsingular, hforms, hnames, ascii_names_never_refused.2 _ _ rfl hnames⟩

end SchemaCatalog
