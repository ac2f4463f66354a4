import Mathlib.Tactic.MkIffOfInductiveProp
import SchemaCatalog.Proofs.Inflected

/-!
# Regular words

A word is regular if nothing but the last rules is about it and about its plural in `-s`.  On
regular words the two numbers undo each other, and each leaves alone what is in it already.

    plural:    word ↦ word ++ pluralS word               (Regular.plural)
               word ++ pluralS word is left as it is     (Regular.plural_append)
    singular:  word ++ pluralS word ↦ word               (Regular.singular_append)
               word is left as it is                     (Regular.singular)
-/

namespace SchemaCatalog.Inflection

open Text

/-! ## The plural ending -/

/-- The `s` of a plural, in the casing of the word. -/
def pluralS (word : List Char) : List Char :=
  cased word ['s']

section

variable {word : List Char}

theorem Casing.ofWord_eq_upper :
    Casing.ofWord word = .upper ↔ word ≠ lowercase word ∧ word = uppercase word := by
  unfold Casing.ofWord
  split_ifs with hlower hupper
  · exact iff_of_false nofun fun h => h.1 hlower
  · exact iff_of_true rfl ⟨hlower, hupper⟩
  · exact iff_of_false nofun fun h => hupper h.2
  · exact iff_of_false nofun fun h => hupper h.2

/-- A word is in capitals if it has some and no small letters. -/
theorem ofWord_eq_upper_iff (h : ∀ c ∈ word, isAscii c) :
    Casing.ofWord word = .upper ↔ (∃ c ∈ word, c.isUpper) ∧ ∀ c ∈ word, ¬ c.isLower := by
  rw [Casing.ofWord_eq_upper, ne_comm, ne_eq, eq_comm (a := word), lowercase_eq_self_iff h,
    uppercase_eq_self_iff h]
  simp only [not_forall, not_not, exists_prop]

theorem pluralS_eq (word : List Char) :
    pluralS word = if Casing.ofWord word = .upper then ['S'] else ['s'] := by
  unfold pluralS cased
  split
  · next heq =>
    rw [heq]
    decide
  · cases Casing.ofWord word <;> decide

theorem exists_pluralS (word : List Char) : ∃ c, pluralS word = [c] ∧ (c = 's' ∨ c = 'S') := by
  rw [pluralS_eq]
  split
  · exact ⟨'S', rfl, .inr rfl⟩
  · exact ⟨'s', rfl, .inl rfl⟩

theorem forall_mem_append_pluralS {P : Char → Prop} (h : ∀ c ∈ word, P c) (hs : P 's')
    (hS : P 'S') : ∀ c ∈ word ++ pluralS word, P c := by
  obtain ⟨c, hc, rfl | rfl⟩ := exists_pluralS word
  all_goals
    rw [hc, List.forall_mem_append, List.forall_mem_singleton]
  · exact ⟨h, hs⟩
  · exact ⟨h, hS⟩

theorem marker_notMem_append_pluralS (h : '$' ∉ word) : '$' ∉ word ++ pluralS word :=
  fun hmem => forall_mem_append_pluralS (P := fun c => c ≠ '$')
    (fun _ hc => ne_of_mem_of_not_mem hc h) (by decide) (by decide) '$' hmem rfl

/-- The ending of a word in capitals is a capital, so the plural has the same ending. -/
theorem pluralS_append (h : ∀ c ∈ word, isAscii c) :
    pluralS (word ++ pluralS word) = pluralS word := by
  have happend := ofWord_eq_upper_iff (forall_mem_append_pluralS h rfl rfl)
  rw [pluralS_eq (word ++ _)]
  by_cases hcapitals : Casing.ofWord word = .upper
  · obtain ⟨-, hlower⟩ := (ofWord_eq_upper_iff h).1 hcapitals
    have hS : pluralS word = ['S'] := (pluralS_eq word).trans (if_pos hcapitals)
    rw [hS] at happend ⊢
    refine if_pos (happend.2 ⟨⟨'S', by simp, by decide⟩, ?_⟩)
    exact List.forall_mem_append.2 ⟨hlower, List.forall_mem_singleton.2 (by decide)⟩
  · have hs : pluralS word = ['s'] := (pluralS_eq word).trans (if_neg hcapitals)
    rw [hs] at happend ⊢
    exact if_neg fun hupper => (happend.1 hupper).2 's' (by simp) (by decide)

end

/-! ## Inflection of regular words -/

/-- The rule by which a plural gains its `-s`. -/
def Rule.addS : Rule :=
  .change ["s", ""] "s"

theorem pluralRules_eq : pluralRules = pluralRules.dropLast ++ [.addS] :=
  rfl

/-- Of the tables and the rules only the last rules are about the word and its plural in `-s`, and
the word is not such a plural itself. -/
@[mk_iff]
structure Regular (word : List Char) : Prop where
  unlisted (number : GrammaticalNumber) :
    Unlisted number word ∧ Unlisted number (word ++ pluralS word)
  unruled (number : GrammaticalNumber) : ∀ r ∈ number.rules.dropLast,
    r.split? word = none ∧ r.split? (word ++ pluralS word) = none
  bare : ∀ c ∈ word.getLast?, c.toLower ≠ 's'

theorem forall_number_iff {P : GrammaticalNumber → Prop} :
    (∀ number, P number) ↔ P .singular ∧ P .plural :=
  ⟨fun h => ⟨h .singular, h .plural⟩, fun h number => by
    cases number with
    | singular => exact h.1
    | plural => exact h.2⟩

instance {P : GrammaticalNumber → Prop} [DecidablePred P] : Decidable (∀ number, P number) :=
  decidable_of_iff _ forall_number_iff.symm

theorem bare_iff (word : List Char) :
    word.getLast?.all (·.toLower != 's') ↔ ∀ c ∈ word.getLast?, c.toLower ≠ 's' := by
  cases word.getLast? <;> simp

instance (word : List Char) : Decidable (Regular word) :=
  decidable_of_iff
    ((∀ number, Unlisted number word ∧ Unlisted number (word ++ pluralS word)) ∧
      (∀ number : GrammaticalNumber, ∀ r ∈ number.rules.dropLast,
        r.split? word = none ∧ r.split? (word ++ pluralS word) = none) ∧
      word.getLast?.all (·.toLower != 's'))
    (by rw [regular_iff, bare_iff])

section

variable {number : GrammaticalNumber} {word : List Char} {c : Char}

theorem firstSplit?_concat {before : List Rule} {last : Rule} {s : Split}
    (h : ∀ q ∈ before, q.split? word = none) (hs : last.split? word = some s) :
    firstSplit? (before ++ [last]) word = some (last, s) :=
  firstSplit?_eq_some_iff.2 ⟨before, [], rfl, h, hs⟩

theorem Tail.split?_s_eq_none (hword : ∀ c ∈ word, isAscii c)
    (h : ∀ c ∈ word.getLast?, c.toLower ≠ 's') :
    (⟨.anywhere, [], spell "s"⟩ : Tail).split? word = none := by
  refine Option.eq_none_iff_forall_ne_some.2 fun s hs => ?_
  obtain ⟨rfl, hstem, hending, -⟩ := Tail.split?_eq_some.1 hs
  rw [List.forall_mem_append] at hword
  have hlower := hending.map_toLower hword.2
  obtain ⟨c, rest, hc, hcs, hrest⟩ := List.map_eq_cons_iff.1 hlower
  rw [List.map_eq_nil_iff.1 hrest] at hc
  rw [hc] at h
  exact h c (by simp) hcs

theorem Tail.split?_nil (word : List Char) :
    (⟨.anywhere, [], spell ""⟩ : Tail).split? word = some ⟨word, [], []⟩ :=
  Tail.split?_eq_some.2 ⟨by simp, .nil, .nil, rfl⟩

/-- The last rule decides about what no other is about. -/
theorem inflectChars_of_last (number : GrammaticalNumber) {last : Rule} {kept cut : List Char}
    (hrules : number.rules = number.rules.dropLast ++ [last]) (hunlisted : Unlisted number word)
    (hunruled : ∀ r ∈ number.rules.dropLast, r.split? word = none)
    (hlast : last.split? word = some ⟨kept, [], cut⟩) (hword : ∀ c ∈ word, isAscii c)
    (hmarker : '$' ∉ word) :
    inflectChars number word = .ok (kept ++ cased word last.replacement.toList) := by
  have hfirst : firstSplit? number.rules word = some (last, ⟨kept, [], cut⟩) := by
    rw [hrules]
    exact firstSplit?_concat hunruled hlast
  obtain ⟨hmem, t, -, hcut, -, -⟩ := exists_tail_of_firstSplit? hfirst
  have hreplacement := replacement_isAlpha hmem
  have hascii := fun c hc => isAscii_of_isAlpha (hreplacement c hc)
  replace hcut : word = kept ++ cut := by simpa using hcut
  have hplain : '$' ∉ kept ++ cased word last.replacement.toList := by
    rw [List.mem_append, not_or]
    refine ⟨fun hmem => hmarker (hcut ▸ List.mem_append_left _ hmem), ?_⟩
    exact marker_notMem_cased hascii fun hmem => absurd (hreplacement _ hmem) (by decide)
  rw [inflectChars_of_unlisted hunlisted, applyFirst_of_some hfirst,
    Split.inflect_eq_ok (by simp) (fun c hc => hword c (hcut ▸ List.mem_append_right _ hc)) hascii,
    cased_nil, List.append_nil, dropMarkers_eq_self hplain]

variable (h : Regular word) (hword : ∀ c ∈ word, isAscii c) (hmarker : '$' ∉ word)

include h hword

/-- A regular word is in the singular. -/
theorem Regular.singular : inflectChars .singular word = .ok word := by
  rw [inflectChars_of_unlisted (h.unlisted .singular).1]
  refine applyFirst_of_none (firstSplit?_eq_none_iff.2 ?_)
  rw [GrammaticalNumber.rules, singularRules_eq, List.forall_mem_append, List.forall_mem_singleton]
  exact ⟨fun r hr => (h.unruled .singular r hr).1,
    congrArg (Split.longer? none) (Tail.split?_s_eq_none hword h.bare)⟩

include hmarker

/-- It gains an `-s` in the plural. -/
theorem Regular.plural : inflectChars .plural word = .ok (word ++ pluralS word) := by
  have hsplit : Rule.addS.split? word = some ⟨word, [], []⟩ :=
    congrArg₂ (fun a b => Split.longer? (Split.longer? none a) b)
      (Tail.split?_s_eq_none hword h.bare) (Tail.split?_nil word)
  exact inflectChars_of_last .plural pluralRules_eq (h.unlisted .plural).1
    (fun r hr => (h.unruled .plural r hr).1) hsplit hword hmarker

/-- The plural is in the plural. -/
theorem Regular.plural_append :
    inflectChars .plural (word ++ pluralS word) = .ok (word ++ pluralS word) := by
  obtain ⟨c, hc, hs⟩ := exists_pluralS word
  have hascii := forall_mem_append_pluralS hword rfl rfl
  have hplain := marker_notMem_append_pluralS hmarker
  have hsplit : Rule.addS.split? (word ++ pluralS word) = some ⟨word, [], pluralS word⟩ := by
    rw [hc]
    exact congrArg₂ (fun a b => Split.longer? (Split.longer? none a) b) (Tail.split?_s hs)
      (Tail.split?_nil (word ++ [c]))
  calc inflectChars .plural (word ++ pluralS word)
    _ = .ok (word ++ pluralS (word ++ pluralS word)) :=
      inflectChars_of_last .plural pluralRules_eq (h.unlisted .plural).2
        (fun r hr => (h.unruled .plural r hr).2) hsplit hascii hplain
    _ = .ok (word ++ pluralS word) := by rw [pluralS_append hword]

/-- The singular of the plural is the word. -/
theorem Regular.singular_append : inflectChars .singular (word ++ pluralS word) = .ok word := by
  obtain ⟨c, hc, hs⟩ := exists_pluralS word
  have hascii := forall_mem_append_pluralS hword rfl rfl
  have hplain := marker_notMem_append_pluralS hmarker
  have hsplit : Rule.dropS.split? (word ++ pluralS word) = some ⟨word, [], pluralS word⟩ := by
    rw [hc]
    exact congrArg (Split.longer? none) (Tail.split?_s hs)
  calc inflectChars .singular (word ++ pluralS word)
    _ = .ok (word ++ cased (word ++ pluralS word) []) :=
      inflectChars_of_last .singular singularRules_eq (h.unlisted .singular).2
        (fun r hr => (h.unruled .singular r hr).2) hsplit hascii hplain
    _ = .ok word := by rw [cased_nil, List.append_nil]

end

end SchemaCatalog.Inflection
