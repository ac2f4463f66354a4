import Mathlib.Data.List.Basic
import SchemaCatalog.Inflection.Number
import SchemaCatalog.Proofs.Ascii

/-!
# Inflected words

What becomes of a word in ASCII.  It is always inflected, in one of three ways (`Inflected`): a
table gives its form, nothing is about it and it stays, or the first rule that is about it replaces
its ending.  In each of them a beginning of the word is kept up to case, and letters take the place
of letters (`Inflected.exists_kept`).  So inflection leaves a name a name; only the rule that drops a
plural `-s` can leave nothing, or an underscore at the end.
-/

namespace SchemaCatalog.Inflection

open Text

/-! ## The rule that decides -/

/-- The first of the rules that is about the word, and its cut of the word. -/
def firstSplit? (rules : List Rule) (word : List Char) : Option (Rule × Split) :=
  rules.findSome? fun r => (r.split? word).map (r, ·)

section

variable {rules : List Rule} {r : Rule} {word : List Char} {s : Split}

theorem firstSplit?_eq_none_iff :
    firstSplit? rules word = none ↔ ∀ r ∈ rules, r.split? word = none := by
  simp [firstSplit?]

theorem firstSplit?_eq_some_iff :
    firstSplit? rules word = some (r, s) ↔ ∃ before after,
      rules = before ++ r :: after ∧ (∀ q ∈ before, q.split? word = none) ∧
        r.split? word = some s := by
  simp only [firstSplit?, List.findSome?_eq_some_iff, Option.map_eq_some_iff,
    Option.map_eq_none_iff, Prod.mk.injEq]
  constructor
  · rintro ⟨before, q, after, hrules, ⟨u, hu, rfl, rfl⟩, hbefore⟩
    exact ⟨before, after, hrules, hbefore, hu⟩
  · rintro ⟨before, after, hrules, hbefore, hs⟩
    exact ⟨before, r, after, hrules, ⟨s, hs, rfl, rfl⟩, hbefore⟩

theorem applyFirst_of_none (h : firstSplit? rules word = none) :
    applyFirst rules word = .ok word := by
  have hall := firstSplit?_eq_none_iff.1 h
  have hnone : rules.findSome? (·.inflect? word) = none := by
    simp only [List.findSome?_eq_none_iff, Rule.inflect?, Option.map_eq_none_iff]
    exact hall
  rw [applyFirst, hnone]
  rfl

theorem applyFirst_of_some (h : firstSplit? rules word = some (r, s)) :
    applyFirst rules word = s.inflect word r.replacement.toList := by
  obtain ⟨before, after, hrules, hbefore, hs⟩ := firstSplit?_eq_some_iff.1 h
  have hsome : rules.findSome? (·.inflect? word) = some (s.inflect word r.replacement.toList) := by
    rw [List.findSome?_eq_some_iff]
    refine ⟨before, r, after, hrules, ?_, fun q hq => ?_⟩
    · rw [Rule.inflect?, hs]
      rfl
    · rw [Rule.inflect?, hbefore q hq]
      rfl
  rw [applyFirst, hsome]
  rfl

/-- A rule finds nothing if none of its tails does. -/
theorem Rule.split?_eq_none_iff : r.split? word = none ↔ ∀ t ∈ r.tails, t.split? word = none := by
  constructor
  · intro h t ht
    by_contra hsome
    have := Rule.split?_of_mem ht (Option.ne_none_iff_isSome.1 hsome)
    rw [h] at this
    cases this
  · intro h
    refine Option.eq_none_iff_forall_ne_some.2 fun s hs => ?_
    obtain ⟨t, ht, hts⟩ := Rule.exists_mem_of_split? hs
    rw [h t ht] at hts
    cases hts

end

/-! ## Casing in ASCII -/

/-- The text in the casing of the word, where nothing can be refused. -/
def cased (word text : List Char) : List Char :=
  if word = text then text
  else match Casing.ofWord word with
    | .lower | .mixed => lowercase text
    | .upper => uppercase text
    | .capitalized => text

section

variable {word text : List Char}

theorem recase_eq_ok (h : ∀ c ∈ text, isAscii c) : recase word text = .ok (cased word text) := by
  have hhead : text.head?.all isAscii := by
    cases text with
    | nil => rfl
    | cons c cs => exact h c List.mem_cons_self
  unfold recase cased
  rw [if_pos hhead]
  split
  · rfl
  · cases Casing.ofWord word <;> rfl

theorem Split.inflect_eq_ok {s : Split} {replacement : List Char} (hstem : ∀ c ∈ s.stem, isAscii c)
    (hending : ∀ c ∈ s.ending, isAscii c) (hreplacement : ∀ c ∈ replacement, isAscii c) :
    s.inflect word replacement
      = .ok (dropMarkers (s.before ++ cased word s.stem ++ cased word replacement)) := by
  rw [Split.inflect, recase_eq_ok (List.forall_mem_append.2 ⟨hstem, hending⟩), recase_eq_ok hstem,
    recase_eq_ok hreplacement]
  rfl

/-- Casing changes nothing but case. -/
theorem map_toLower_cased (h : ∀ c ∈ text, isAscii c) :
    (cased word text).map Char.toLower = text.map Char.toLower := by
  have hlower : (lowercase text).map Char.toLower = text.map Char.toLower := by
    rw [lowercase_eq_map h, map_toLower_toLower h]
  have hupper : (uppercase text).map Char.toLower = text.map Char.toLower := by
    rw [uppercase_eq_map h, map_toLower_toUpper h]
  unfold cased
  split
  · rfl
  · cases Casing.ofWord word
    · exact hlower
    · exact hupper
    · rfl
    · exact hlower

theorem cased_nil (word : List Char) : cased word [] = [] := by
  unfold cased
  split
  · rfl
  · cases Casing.ofWord word <;> rfl

end

/-! ## What the tables hold -/

/-- Every ASCII character that stands at the position is a letter. -/
def Letter.isLetter : Letter → Bool
  | .only c => c.isLower
  | .oneOf cs => cs.all Char.isLower
  | .notAscii => true
  | .noneOf _ | .notWordChar => false

/-- The rule replaces letters by letters and leaves a letter at the end. -/
def Rule.isProper (r : Rule) : Bool :=
  r.replacement.toList.all Char.isLower && r.tails.all fun t =>
    t.ending.all Letter.isLetter &&
      (r.replacement.toList != [] || t.stem.getLast?.any Letter.isLetter)

theorem Rule.isProper_tail {r : Rule} {t : Tail} (h : r.isProper) (ht : t ∈ r.tails) :
    t.ending.all Letter.isLetter ∧
      (r.replacement.toList = [] → t.stem.getLast?.any Letter.isLetter) := by
  rw [isProper, Bool.and_eq_true, List.all_eq_true (l := r.tails)] at h
  have htail := h.2 t ht
  rw [Bool.and_eq_true, Bool.or_eq_true, bne_iff_ne] at htail
  exact ⟨htail.1, fun hnil => htail.2.resolve_left (not_not_intro hnil)⟩

/-- The rule by which a singular loses the `-s` of the plural. -/
def Rule.dropS : Rule :=
  .change ["s"] ""

theorem pluralRules_isProper : ∀ r ∈ pluralRules, r.isProper := by
  decide +kernel

theorem singularRules_isProper : ∀ r ∈ singularRules.dropLast, r.isProper := by
  decide +kernel

theorem singularRules_eq : singularRules = singularRules.dropLast ++ [.dropS] :=
  rfl

/-- The text is a word of letters. -/
def isLetters (text : String) : Bool :=
  text.toList != [] && text.toList.all Char.isAlpha

theorem of_isLetters {text : String} (h : isLetters text) :
    text.toList ≠ [] ∧ ∀ c ∈ text.toList, c.isAlpha := by
  rwa [isLetters, Bool.and_eq_true, bne_iff_ne, List.all_eq_true] at h

theorem irregular_letters : ∀ p ∈ irregular, isLetters p.1 ∧ isLetters p.2 := by
  decide +kernel

section

variable {number : GrammaticalNumber} {key form : String}

/-- The tables are asked for a word that they list and answer with one. -/
theorem mem_irregular_of_irregular? (h : number.irregular? key = some form) :
    (∃ p ∈ irregular, key = p.1 ∨ key = p.2) ∧ ∃ p ∈ irregular, form = p.1 ∨ form = p.2 := by
  have hplural : ∀ {a b}, pluralOf? a = some b → (a, b) ∈ irregular := by
    intro a b hab
    obtain ⟨before, after, hsplit, -⟩ := List.lookup_eq_some_iff.1 hab
    rw [hsplit]
    exact List.mem_append_right _ List.mem_cons_self
  have hsingular : ∀ {a b}, singularOf? b = some a → (a, b) ∈ irregular := by
    intro a b hab
    obtain ⟨before, after, hsplit, -⟩ := List.lookup_eq_some_iff.1 hab
    have hmem := List.mem_append_right before (@List.mem_cons_self _ (b, a) after)
    rw [← hsplit] at hmem
    obtain ⟨⟨x, y⟩, hp, heq⟩ := List.mem_map.1 hmem
    cases heq
    exact hp
  cases number with
  | singular =>
    simp only [GrammaticalNumber.irregular?] at h
    split at h
    · next hsome =>
      obtain ⟨plural, hkey⟩ := Option.isSome_iff_exists.1 hsome
      cases h
      exact ⟨⟨_, hplural hkey, .inl rfl⟩, _, hplural hkey, .inl rfl⟩
    · exact ⟨⟨_, hsingular h, .inr rfl⟩, _, hsingular h, .inl rfl⟩
  | plural =>
    simp only [GrammaticalNumber.irregular?] at h
    split at h
    · next hsome =>
      obtain ⟨singular, hkey⟩ := Option.isSome_iff_exists.1 hsome
      cases h
      exact ⟨⟨_, hsingular hkey, .inr rfl⟩, _, hsingular hkey, .inr rfl⟩
    · exact ⟨⟨_, hplural h, .inl rfl⟩, _, hplural h, .inr rfl⟩

theorem letters_of_irregular? (h : number.irregular? key = some form) :
    (∀ c ∈ key.toList, c.isAlpha) ∧ form.toList ≠ [] ∧ ∀ c ∈ form.toList, c.isAlpha := by
  obtain ⟨⟨p, hp, hkey⟩, q, hq, hform⟩ := mem_irregular_of_irregular? h
  refine ⟨?_, ?_⟩
  · rcases hkey with rfl | rfl
    · exact (of_isLetters (irregular_letters p hp).1).2
    · exact (of_isLetters (irregular_letters p hp).2).2
  · rcases hform with rfl | rfl
    · exact of_isLetters (irregular_letters q hq).1
    · exact of_isLetters (irregular_letters q hq).2

/-- Every rule but the one that drops a plural `-s` is proper. -/
theorem isProper_of_mem {r : Rule} (h : r ∈ number.rules) :
    r.isProper ∨ number = .singular ∧ r = .dropS := by
  cases number with
  | plural => exact .inl (pluralRules_isProper r h)
  | singular =>
    rw [GrammaticalNumber.rules, singularRules_eq, List.mem_append, List.mem_singleton] at h
    rcases h with h | h
    · exact .inl (singularRules_isProper r h)
    · exact .inr ⟨rfl, h⟩

end

section

variable {l : Letter} {ls : Spelling} {c : Char} {cs : List Char}

theorem foldCase_of_isAscii (h : isAscii c) : foldCase c = c.toLower :=
  forall_ascii (P := fun c => foldCase c = c.toLower) (by decide) c h

theorem Letter.isAlpha_of_accepts (hl : l.isLetter) (hc : isAscii c) (h : l.accepts c) :
    c.isAlpha := by
  have hlower : ∀ {d : Char}, d.isLower → c.toLower = d → c.isAlpha := by
    rintro d hd rfl
    rw [← isAlpha_toLower]
    exact isAlpha_of_isLower hd
  cases l with
  | only d =>
    rw [accepts, foldCase_of_isAscii hc, beq_iff_eq] at h
    exact hlower hl h
  | oneOf ds =>
    rw [accepts, foldCase_of_isAscii hc, List.contains_iff_mem] at h
    exact hlower (List.all_eq_true.1 hl _ h) rfl
  | notAscii =>
    rw [accepts, foldCase_of_isAscii hc, isAscii_toLower, hc] at h
    cases h
  | noneOf | notWordChar => cases hl

theorem Spelling.Spells.isAlpha (h : Spelling.Spells ls cs) (hls : ls.all Letter.isLetter)
    (hcs : ∀ c ∈ cs, isAscii c) : ∀ c ∈ cs, c.isAlpha := by
  induction h with
  | nil => simp
  | cons hc _ ih =>
    rw [List.all_cons, Bool.and_eq_true] at hls
    rw [List.forall_mem_cons] at hcs ⊢
    exact ⟨Letter.isAlpha_of_accepts hls.1 hcs.1 hc, ih hls.2 hcs.2⟩

/-- A stretch with the spelling of a word is the word up to case. -/
theorem Spelling.Spells.map_toLower {word : String} (h : Spelling.Spells (spell word) cs)
    (hcs : ∀ c ∈ cs, isAscii c) : cs.map Char.toLower = word.toList := by
  unfold spell at h
  generalize word.toList = ds at h ⊢
  induction ds generalizing cs with
  | nil =>
    cases h
    rfl
  | cons d ds ih =>
    cases h with
    | cons hc h =>
      rw [List.forall_mem_cons] at hcs
      rw [Letter.accepts, foldCase_of_isAscii hcs.1, beq_iff_eq] at hc
      rw [List.map_cons, hc, ih hcs.2 h]

/-- A stretch whose last position takes letters only ends in a letter. -/
theorem Spelling.Spells.isAlpha_getLast (h : Spelling.Spells ls cs)
    (hls : ls.getLast?.any Letter.isLetter) (hcs : ∀ c ∈ cs, isAscii c) :
    ∃ c ∈ cs.getLast?, c.isAlpha := by
  obtain ⟨l, hl⟩ : ∃ l, ls.getLast? = some l := by
    cases hlast : ls.getLast? with
    | none => simp [hlast] at hls
    | some l => exact ⟨l, rfl⟩
  rw [hl] at hls
  have hreverse := h.reverse
  rw [← List.head?_reverse] at hl ⊢
  have hmem : ∀ c ∈ cs.reverse, isAscii c := fun c hc => hcs c (List.mem_reverse.1 hc)
  generalize ls.reverse = ms at hl hreverse
  generalize cs.reverse = ds at hmem hreverse
  cases hreverse with
  | nil => cases hl
  | cons hc _ =>
    cases hl
    exact ⟨_, rfl, Letter.isAlpha_of_accepts hls (hmem _ List.mem_cons_self) hc⟩

end

/-! ## Inflected words -/

/-- No table lists the word: it has no irregular form in this number, and it is countable. -/
def Unlisted (number : GrammaticalNumber) (word : List Char) : Prop :=
  number.irregular? (String.ofList (lowercase word)) = none ∧
    String.ofList (lowercase word) ≠ "" ∧ String.ofList (lowercase word) ∉ uncountable

instance (number : GrammaticalNumber) (word : List Char) : Decidable (Unlisted number word) :=
  inferInstanceAs (Decidable (_ ∧ _ ∧ _))

/-- What a word becomes in a number, where nothing is refused. -/
inductive Inflected (number : GrammaticalNumber) (word : List Char) : List Char → Prop where
  | listed {form : String}
      (h : number.irregular? (String.ofList (lowercase word)) = some form) :
    Inflected number word (cased word form.toList)
  | kept (h : Unlisted number word → firstSplit? number.rules word = none) :
    Inflected number word word
  | ruled {r : Rule} {s : Split} (hunlisted : Unlisted number word)
      (h : firstSplit? number.rules word = some (r, s)) :
    Inflected number word
      (dropMarkers (s.before ++ cased word s.stem ++ cased word r.replacement.toList))

section

variable {number : GrammaticalNumber} {word form : List Char} {r : Rule} {s : Split}

/-- The rule that decides cuts the word at one of its tails. -/
theorem exists_tail_of_firstSplit? (h : firstSplit? number.rules word = some (r, s)) :
    r ∈ number.rules ∧ ∃ t ∈ r.tails, word = s.before ++ s.stem ++ s.ending ∧
      Spelling.Spells t.stem s.stem ∧ Spelling.Spells t.ending s.ending := by
  obtain ⟨before, after, hrules, -, hs⟩ := firstSplit?_eq_some_iff.1 h
  obtain ⟨t, ht, hts⟩ := Rule.exists_mem_of_split? hs
  obtain ⟨hword, hstem, hending, -⟩ := Tail.split?_eq_some.1 hts
  refine ⟨?_, t, ht, hword, hstem, hending⟩
  rw [hrules]
  exact List.mem_append_right _ List.mem_cons_self

theorem replacement_isAlpha (h : r ∈ number.rules) : ∀ c ∈ r.replacement.toList, c.isAlpha := by
  intro c hc
  rcases isProper_of_mem h with hproper | ⟨-, rfl⟩
  · rw [Rule.isProper, Bool.and_eq_true, List.all_eq_true] at hproper
    exact isAlpha_of_isLower (hproper.1 c hc)
  · cases hc

theorem inflectChars_of_unlisted (h : Unlisted number word) :
    inflectChars number word = applyFirst number.rules word := by
  simp only [inflectChars, h.1]
  exact if_neg (not_or.2 h.2)

theorem inflectChars_of_listed {irregular : String}
    (h : number.irregular? (String.ofList (lowercase word)) = some irregular) :
    inflectChars number word = recase word irregular.toList := by
  simp only [inflectChars, h]

/-- A listed word without an irregular form stays as it is. -/
theorem inflectChars_of_not_unlisted
    (hform : number.irregular? (String.ofList (lowercase word)) = none)
    (h : ¬ Unlisted number word) : inflectChars number word = .ok word := by
  simp only [inflectChars, hform]
  refine if_pos ?_
  by_contra hcountable
  exact h ⟨hform, not_or.1 hcountable⟩

/-- A word in ASCII is always inflected. -/
theorem inflectChars_inflected (number : GrammaticalNumber) (hword : ∀ c ∈ word, isAscii c) :
    ∃ form, inflectChars number word = .ok form ∧ Inflected number word form := by
  by_cases hunlisted : Unlisted number word
  · rw [inflectChars_of_unlisted hunlisted]
    cases hfirst : firstSplit? number.rules word with
    | none => exact ⟨word, applyFirst_of_none hfirst, .kept fun _ => hfirst⟩
    | some rs =>
      obtain ⟨r, s⟩ := rs
      obtain ⟨hr, t, -, hcut, -, -⟩ := exists_tail_of_firstSplit? hfirst
      have hparts := hword
      rw [hcut, List.forall_mem_append, List.forall_mem_append] at hparts
      obtain ⟨⟨-, hstem⟩, hending⟩ := hparts
      have hreplacement := fun c hc => isAscii_of_isAlpha (replacement_isAlpha hr c hc)
      exact ⟨_, (applyFirst_of_some hfirst).trans (Split.inflect_eq_ok hstem hending hreplacement),
        .ruled hunlisted hfirst⟩
  · cases hform : number.irregular? (String.ofList (lowercase word)) with
    | some form =>
      have hascii := fun c hc => isAscii_of_isAlpha ((letters_of_irregular? hform).2.2 c hc)
      exact ⟨_, (inflectChars_of_listed hform).trans (recase_eq_ok hascii), .listed hform⟩
    | none =>
      exact ⟨word, inflectChars_of_not_unlisted hform hunlisted, .kept fun h => absurd h hunlisted⟩

theorem exists_inflectChars (number : GrammaticalNumber) (hword : ∀ c ∈ word, isAscii c) :
    ∃ form, inflectChars number word = .ok form :=
  (inflectChars_inflected number hword).imp fun _ hform => hform.1

theorem dropMarkers_eq_self {cs : List Char} (h : '$' ∉ cs) : dropMarkers cs = cs := by
  fun_induction dropMarkers cs with
  | case1 => rfl
  | case2 | case3 => exact absurd List.mem_cons_self h
  | case4 c cs hc ih =>
    rw [ih fun hmem => h (List.mem_cons_of_mem c hmem)]

/-- The form has a beginning of the word, up to case, and letters for the letters cut off. -/
structure Replaces (number : GrammaticalNumber) (word form kept cut added : List Char) : Prop where
  word_eq : word = kept ++ cut
  form_eq : form.map Char.toLower = (kept ++ added).map Char.toLower
  cut_isAlpha : ∀ c ∈ cut, c.isAlpha
  added_isAlpha : ∀ c ∈ added, c.isAlpha
  /-- If nothing is put in place of what is cut off, a letter is left at the end, or it was the `-s`
  of a plural. -/
  bare : added = [] → cut = [] ∨ (∃ c ∈ kept.getLast?, c.isAlpha) ∨
    number = .singular ∧ cut.map Char.toLower = ['s']

theorem toLower_eq_marker (c : Char) : c.toLower = '$' ↔ c = '$' :=
  toLower_induction (P := fun c d => d = '$' ↔ c = '$') (fun _ => Iff.rfl) (by decide) c

theorem marker_notMem_cased {text : List Char} (htext : ∀ c ∈ text, isAscii c) (h : '$' ∉ text) :
    '$' ∉ cased word text := by
  intro hmem
  have hlower : '$' ∈ (cased word text).map Char.toLower :=
    List.mem_map.2 ⟨'$', hmem, by decide⟩
  rw [map_toLower_cased htext] at hlower
  obtain ⟨c, hc, hmarker⟩ := List.mem_map.1 hlower
  rw [(toLower_eq_marker c).1 hmarker] at hc
  exact h hc

/-- A word that bears no marker keeps a beginning. -/
theorem Inflected.exists_kept (h : Inflected number word form) (hword : ∀ c ∈ word, isAscii c)
    (hmarker : '$' ∉ word) : ∃ kept cut added, Replaces number word form kept cut added := by
  cases h with
  | listed h =>
    obtain ⟨hkey, hne, hform⟩ := letters_of_irregular? h
    rw [String.toList_ofList, lowercase_eq_map hword, List.forall_mem_map] at hkey
    exact ⟨[], word, _, {
      word_eq := rfl
      form_eq := map_toLower_cased fun c hc => isAscii_of_isAlpha (hform c hc)
      cut_isAlpha := fun c hc => isAlpha_toLower c ▸ hkey c hc
      added_isAlpha := hform
      bare := fun hnil => absurd hnil hne }⟩
  | kept h =>
    exact ⟨word, [], [], {
      word_eq := (List.append_nil word).symm
      form_eq := by rw [List.append_nil]
      cut_isAlpha := by simp
      added_isAlpha := by simp
      bare := fun _ => .inl rfl }⟩
  | @ruled r s hunlisted h =>
    obtain ⟨hr, t, ht, rfl, hstem, hending⟩ := exists_tail_of_firstSplit? h
    rw [List.forall_mem_append, List.forall_mem_append] at hword
    obtain ⟨⟨-, hstemAscii⟩, hendingAscii⟩ := hword
    rw [List.mem_append, List.mem_append, not_or, not_or] at hmarker
    have hreplacement := replacement_isAlpha hr
    have hreplacementAscii := fun c hc => isAscii_of_isAlpha (hreplacement c hc)
    have hplain : '$' ∉ s.before ++ cased (s.before ++ s.stem ++ s.ending) s.stem
        ++ cased (s.before ++ s.stem ++ s.ending) r.replacement.toList := by
      rw [List.mem_append, List.mem_append, not_or, not_or]
      refine ⟨⟨hmarker.1.1, marker_notMem_cased hstemAscii hmarker.1.2⟩, ?_⟩
      exact marker_notMem_cased hreplacementAscii fun hmem =>
        absurd (hreplacement _ hmem) (by decide)
    rw [dropMarkers_eq_self hplain]
    refine ⟨s.before ++ s.stem, s.ending, r.replacement.toList, {
      word_eq := rfl
      form_eq := ?_
      cut_isAlpha := ?_
      added_isAlpha := hreplacement
      bare := ?_ }⟩
    · simp only [List.map_append, map_toLower_cased hstemAscii, map_toLower_cased hreplacementAscii]
    · rcases isProper_of_mem hr with hproper | ⟨-, rfl⟩
      · exact hending.isAlpha (Rule.isProper_tail hproper ht).1 hendingAscii
      · obtain rfl := List.mem_singleton.1 ht
        exact hending.isAlpha (by decide) hendingAscii
    · intro hadded
      rcases isProper_of_mem hr with hproper | ⟨hnumber, rfl⟩
      · obtain ⟨c, hc, halpha⟩ :=
          hstem.isAlpha_getLast ((Rule.isProper_tail hproper ht).2 hadded) hstemAscii
        refine .inr (.inl ⟨c, ?_, halpha⟩)
        rw [List.getLast?_append, Option.mem_def.1 hc]
        rfl
      · obtain rfl := List.mem_singleton.1 ht
        exact .inr (.inr ⟨hnumber, hending.map_toLower hendingAscii⟩)

end

/-! ## A lone plural ending -/

/-- The tail fits no text in which an `s` stands alone after an underscore or at the beginning. -/
def Tail.passesLoneS (t : Tail) : Bool :=
  ['s', 'S'].all fun c =>
    match (t.stem ++ t.ending).reverse with
    | [] => false
    | [l] => !l.accepts c
    | l :: m :: _ => !(l.accepts c && m.accepts '_')

theorem singularRules_passLoneS :
    ∀ r ∈ singularRules.dropLast, ∀ t ∈ r.tails, t.passesLoneS := by
  decide +kernel

theorem uncountable_letters : ∀ word ∈ uncountable, isLetters word := by
  decide +kernel

section

variable {kept : List Char} {c : Char}

theorem toLower_eq_s {c : Char} : c.toLower = 's' → c = 's' ∨ c = 'S' :=
  toLower_induction (P := fun c d => d = 's' → c = 's' ∨ c = 'S') (fun _ => .inl) (by decide) c

/-- The tail of a plural `-s` fits an `s` of either case. -/
theorem Tail.split?_s (h : c = 's' ∨ c = 'S') :
    (⟨.anywhere, [], spell "s"⟩ : Tail).split? (kept ++ [c]) = some ⟨kept, [], [c]⟩ := by
  refine Tail.split?_eq_some.2 ⟨by simp, .nil, .cons ?_ .nil, rfl⟩
  rcases h with rfl | rfl <;> decide

/-- The word ends in an `s` of either case that is alone in its segment. -/
def EndsInLoneS (kept : List Char) (c : Char) : Prop :=
  (c = 's' ∨ c = 'S') ∧ ∀ d ∈ kept.getLast?, d = '_'

theorem Tail.split?_of_endsInLoneS {t : Tail} (ht : t.passesLoneS) (h : EndsInLoneS kept c) :
    t.split? (kept ++ [c]) = none := by
  refine Option.eq_none_iff_forall_ne_some.2 fun s hs => ?_
  obtain ⟨hword, hstem, hending, -⟩ := Tail.split?_eq_some.1 hs
  have hspells := (hstem.append hending).reverse
  have hreverse := congrArg List.reverse hword
  rw [List.append_assoc, @List.reverse_append _ s.before, List.reverse_append,
    List.reverse_singleton, List.singleton_append] at hreverse
  have hc : c ∈ ['s', 'S'] := by
    rcases h.1 with rfl | rfl <;> decide
  have hpass := List.all_eq_true.1 ht c hc
  have hlast := h.2
  rw [← List.head?_reverse] at hlast
  generalize (t.stem ++ t.ending).reverse = ls at hspells hpass
  generalize (s.stem ++ s.ending).reverse = cs at hspells hreverse
  generalize kept.reverse = ks at hlast hreverse
  cases hspells with
  | nil => cases hpass
  | cons hl hrest =>
    obtain ⟨rfl, hks⟩ := List.cons.inj hreverse
    cases hrest with
    | nil => simp [hl] at hpass
    | cons hm _ =>
      subst hks
      rw [hlast _ rfl] at hm
      simp [hl, hm] at hpass

theorem unlisted_of_endsInLoneS (number : GrammaticalNumber) (h : EndsInLoneS kept c)
    (hkept : ∀ c ∈ kept, isAscii c) : Unlisted number (kept ++ [c]) := by
  have hascii : ∀ d ∈ kept ++ [c], isAscii d := by
    rw [List.forall_mem_append, List.forall_mem_singleton]
    exact ⟨hkept, by rcases h.1 with rfl | rfl <;> decide⟩
  have hlower : c.toLower = 's' := by rcases h.1 with rfl | rfl <;> decide
  rw [Unlisted, lowercase_eq_map hascii, List.map_append, List.map_singleton, hlower]
  cases hlast : kept.getLast? with
  | none =>
    rw [List.getLast?_eq_none_iff.1 hlast]
    cases number <;> decide
  | some d =>
    -- a listed word has no underscore
    have hunderscore : '_' ∈ kept.map Char.toLower ++ ['s'] := by
      refine List.mem_append_left _ (List.mem_map.2 ⟨d, List.mem_of_getLast? hlast, ?_⟩)
      rw [h.2 d hlast]
      rfl
    refine ⟨?_, ?_, fun hmem => ?_⟩
    · refine Option.eq_none_iff_forall_ne_some.2 fun form hform => ?_
      have hletters := (letters_of_irregular? hform).1
      rw [String.toList_ofList] at hletters
      exact absurd (hletters _ hunderscore) (by decide)
    · intro hempty
      have := congrArg String.toList hempty
      simp at this
    · have hletters := (of_isLetters (uncountable_letters _ hmem)).2
      rw [String.toList_ofList] at hletters
      exact absurd (hletters _ hunderscore) (by decide)

/-- Of a lone `s` the singular leaves nothing. -/
theorem inflectChars_of_endsInLoneS (h : EndsInLoneS kept c) (hkept : ∀ c ∈ kept, isAscii c)
    (hmarker : '$' ∉ kept) : inflectChars .singular (kept ++ [c]) = .ok kept := by
  have hfirst : firstSplit? singularRules (kept ++ [c]) = some (.dropS, ⟨kept, [], [c]⟩) := by
    refine firstSplit?_eq_some_iff.2 ⟨_, [], singularRules_eq, fun r hr => ?_, ?_⟩
    · exact Rule.split?_eq_none_iff.2 fun t ht =>
        Tail.split?_of_endsInLoneS (singularRules_passLoneS r hr t ht) h
    · exact congrArg (Split.longer? none) (Tail.split?_s h.1)
  have hc : isAscii c := by rcases h.1 with rfl | rfl <;> decide
  calc inflectChars .singular (kept ++ [c])
    _ = applyFirst singularRules (kept ++ [c]) :=
      inflectChars_of_unlisted (unlisted_of_endsInLoneS .singular h hkept)
    _ = Split.inflect ⟨kept, [], [c]⟩ (kept ++ [c]) [] := applyFirst_of_some hfirst
    _ = .ok (dropMarkers (kept ++ cased (kept ++ [c]) [] ++ cased (kept ++ [c]) [])) :=
      Split.inflect_eq_ok (by simp) (by simpa using hc) (by simp)
    _ = .ok kept := by
      rw [cased_nil, List.append_nil, List.append_nil, dropMarkers_eq_self hmarker]

theorem inflectChars_s (h : c = 's' ∨ c = 'S') : inflectChars .singular [c] = .ok [] :=
  have hlone : EndsInLoneS [] c := ⟨h, nofun⟩
  inflectChars_of_endsInLoneS hlone nofun nofun

end

end SchemaCatalog.Inflection
