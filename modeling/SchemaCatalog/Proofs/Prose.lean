import Mathlib.Data.List.Chain
import SchemaCatalog.Naming.Style
import SchemaCatalog.Proofs.Ascii

/-!
# Words with single separators between them

`snake_case` and `Title Case` put a name together from its words, a label takes blanks for the
underscores that it finds.  A text is tidy if it is not empty and its separators stand one by one
between other characters.

    tidy_intercalate: words put together are tidy
    tidy_snakeChars: so is the `snake_case` of a name with a letter or a digit in it
    tidy_titleChars: and so is its title
    tidy_humanizeChars: the label of a tidy text is tidy
-/

namespace SchemaCatalog.Naming

open Text

/-! ## Characters of names -/

/-- The characters of identifiers: letters and digits in ASCII, and the underscore. -/
def isNameChar (c : Char) : Bool :=
  c.isAlphanum || c == '_'

section

variable {c : Char}

theorem isAscii_of_isNameChar (h : isNameChar c) : isAscii c := by
  rcases Bool.or_eq_true_iff.1 h with h | h
  · exact isAscii_of_isAlphanum h
  · rw [beq_iff_eq.1 h]
    decide

theorem isNameChar_of_isAlphanum (h : c.isAlphanum) : isNameChar c :=
  Bool.or_eq_true_iff.2 (.inl h)

theorem isNameChar_toLower (c : Char) : isNameChar c.toLower = isNameChar c :=
  toLower_induction (P := fun c d => isNameChar d = isNameChar c) (fun _ => rfl) (by decide) c

theorem toLower_eq_underscore (c : Char) : c.toLower = '_' ↔ c = '_' :=
  toLower_induction (P := fun c d => d = '_' ↔ c = '_') (fun _ => Iff.rfl) (by decide) c

/-- Of the characters of names the underscore alone separates words. -/
theorem isAlphanumeric_iff (h : isNameChar c) : isAlphanumeric c ↔ c ≠ '_' :=
  forall_ascii (P := fun c => isNameChar c → (isAlphanumeric c ↔ c ≠ '_')) (by decide) c
    (isAscii_of_isNameChar h) h

theorem isAlphanum_of_isNameChar (h : isNameChar c) (hc : c ≠ '_') : c.isAlphanum :=
  (Bool.or_eq_true_iff.1 h).resolve_right fun heq => hc (beq_iff_eq.1 heq)

theorem forall_isAscii {cs : List Char} (h : ∀ c ∈ cs, isNameChar c) : ∀ c ∈ cs, isAscii c :=
  fun c hc => isAscii_of_isNameChar (h c hc)

end

/-! ## Tidy texts -/

/-- The text is not empty, no separator stands at either end, and no two stand together. -/
structure Tidy (sep : Char) (cs : List Char) : Prop where
  ne_nil : cs ≠ []
  head : ∀ c ∈ cs.head?, c ≠ sep
  last : ∀ c ∈ cs.getLast?, c ≠ sep
  apart : cs.IsChain fun c d => c ≠ sep ∨ d ≠ sep

section

variable {sep sep' : Char} {cs ds : List Char}

/-- A stretch without separators is tidy. -/
theorem tidy_of_notMem (hne : cs ≠ []) (h : sep ∉ cs) : Tidy sep cs where
  ne_nil := hne
  head := fun _ hc => ne_of_mem_of_not_mem (List.mem_of_mem_head? hc) h
  last := fun _ hc => ne_of_mem_of_not_mem (List.mem_of_mem_getLast? hc) h
  apart := List.Pairwise.isChain (List.pairwise_of_forall_mem_list fun _ hc _ _ =>
    .inl (ne_of_mem_of_not_mem hc h))

theorem Tidy.exists_mem (h : Tidy sep cs) : ∃ c ∈ cs, c ≠ sep := by
  have hne := h.ne_nil
  cases cs with
  | nil => exact absurd rfl hne
  | cons c cs => exact ⟨c, List.mem_cons_self, h.head c rfl⟩

/-- Two tidy texts are tidy with a separator between them. -/
theorem Tidy.join (hcs : Tidy sep cs) (hds : Tidy sep ds) : Tidy sep (cs ++ sep :: ds) where
  ne_nil := List.append_ne_nil_of_left_ne_nil hcs.ne_nil _
  head := by
    rw [List.head?_append_of_ne_nil _ hcs.ne_nil]
    exact hcs.head
  last := by
    rw [List.getLast?_append_of_ne_nil _ (List.cons_ne_nil _ _),
      List.getLast?_cons_of_ne_nil hds.ne_nil]
    exact hds.last
  apart := by
    rw [List.isChain_append, List.isChain_cons]
    exact ⟨hcs.apart, ⟨fun c hc => .inr (hds.head c hc), hds.apart⟩,
      fun c hc _ _ => .inl (hcs.last c hc)⟩

/-- The first character of a tidy text may be replaced by any but a separator. -/
theorem Tidy.cons {c d : Char} (h : Tidy sep (c :: cs)) (hd : d ≠ sep) : Tidy sep (d :: cs) where
  ne_nil := List.cons_ne_nil d cs
  head := fun _ he => Option.mem_some_iff.1 he ▸ hd
  last := by
    have hlast := h.last
    cases cs with
    | nil => exact fun _ he => Option.mem_some_iff.1 he ▸ hd
    | cons e cs => exact hlast
  apart := List.isChain_cons.2 ⟨fun _ _ => .inl hd, (List.isChain_cons.1 h.apart).2⟩

/-- Texts whose separators stand in the same places are tidy alike. -/
theorem tidy_map_iff {f : Char → Char} (hf : ∀ c ∈ cs, f c = sep' ↔ c = sep) :
    Tidy sep' (cs.map f) ↔ Tidy sep cs := by
  have hend : ∀ o : Option Char, (∀ c ∈ o, c ∈ cs) →
      ((∀ c ∈ o.map f, c ≠ sep') ↔ ∀ c ∈ o, c ≠ sep) := by
    intro o ho
    cases o with
    | none => simp
    | some c => simp [hf c (ho c rfl)]
  have hhead := hend cs.head? fun _ => List.mem_of_mem_head?
  have hlast := hend cs.getLast? fun _ => List.mem_of_mem_getLast?
  rw [← List.head?_map] at hhead
  rw [← List.getLast?_map] at hlast
  constructor
  · intro h
    have hchain := (List.isChain_map f).1 h.apart
    refine ⟨fun hnil => h.ne_nil (List.map_eq_nil_iff.2 hnil), hhead.1 h.head, hlast.1 h.last, ?_⟩
    exact hchain.imp_of_mem_imp fun c d hc hd hor =>
      hor.imp (mt (hf c hc).2) (mt (hf d hd).2)
  · intro h
    refine ⟨fun hnil => h.ne_nil (List.map_eq_nil_iff.1 hnil), hhead.2 h.head, hlast.2 h.last, ?_⟩
    exact (List.isChain_map f).2 (h.apart.imp_of_mem_imp fun c d hc hd hor =>
      hor.imp (mt (hf c hc).1) (mt (hf d hd).1))

theorem tidy_map_toLower : Tidy '_' (cs.map Char.toLower) ↔ Tidy '_' cs :=
  tidy_map_iff fun c _ => toLower_eq_underscore c

/-- What is left of a tidy text before a separator is tidy. -/
theorem Tidy.left (h : Tidy sep (cs ++ sep :: ds)) : Tidy sep cs := by
  have hne : cs ≠ [] := by
    rintro rfl
    exact h.head sep rfl rfl
  refine ⟨hne, ?_, ?_, h.apart.left_of_append⟩
  · have hhead := h.head
    rwa [List.head?_append_of_ne_nil _ hne] at hhead
  · intro c hc
    have hmeet := (List.isChain_append.1 h.apart).2.2 c hc sep rfl
    exact hmeet.resolve_right fun hsep => hsep rfl

/-- The end of a tidy text may be replaced by a stretch without separators, if what is left before
it ends in none. -/
theorem Tidy.replace {kept cut added : List Char} (h : Tidy sep (kept ++ cut))
    (hadded : sep ∉ added) (hbare : added = [] → kept ≠ [] ∧ ∀ c ∈ kept.getLast?, c ≠ sep) :
    Tidy sep (kept ++ added) := by
  by_cases hkept : kept = []
  · subst hkept
    exact tidy_of_notMem (fun hnil => (hbare hnil).1 rfl) hadded
  · refine ⟨List.append_ne_nil_of_left_ne_nil hkept _, ?_, ?_, ?_⟩
    · have hhead := h.head
      rw [List.head?_append_of_ne_nil _ hkept] at hhead ⊢
      exact hhead
    · by_cases hnil : added = []
      · rw [hnil, List.append_nil]
        exact (hbare hnil).2
      · rw [List.getLast?_append_of_ne_nil _ hnil]
        exact fun c hc => ne_of_mem_of_not_mem (List.mem_of_mem_getLast? hc) hadded
    · refine List.isChain_append.2 ⟨h.apart.left_of_append, ?_, fun c _ d hd => .inr ?_⟩
      · by_cases hnil : added = []
        · rw [hnil]
          exact .nil
        · exact (tidy_of_notMem hnil hadded).apart
      · exact ne_of_mem_of_not_mem (List.mem_of_mem_head? hd) hadded

theorem mem_intercalate {ws : List (List Char)} {c : Char} (h : c ∈ List.intercalate [sep] ws) :
    c = sep ∨ ∃ w ∈ ws, c ∈ w := by
  induction ws with
  | nil => cases h
  | cons w ws ih =>
    rw [List.exists_mem_cons_iff]
    cases ws with
    | nil =>
      rw [List.intercalate_singleton] at h
      exact .inr (.inl h)
    | cons v ws =>
      rw [List.intercalate_cons_cons, List.mem_append, List.mem_append, List.mem_singleton] at h
      rcases h with (h | h) | h
      · exact .inr (.inl h)
      · exact .inl h
      · exact (ih h).imp_right .inr

theorem map_intercalate (f : Char → Char) (ws : List (List Char)) :
    (List.intercalate [sep] ws).map f = List.intercalate [f sep] (ws.map (·.map f)) := by
  induction ws with
  | nil => rfl
  | cons w ws ih =>
    cases ws with
    | nil => rw [List.map_singleton, List.intercalate_singleton, List.intercalate_singleton]
    | cons v ws =>
      rw [List.map_cons, List.map_cons, List.intercalate_cons_cons, List.intercalate_cons_cons,
        List.map_append, List.map_append, ih, List.map_cons]
      rfl

theorem intercalate_concat_append {ws : List (List Char)} {w v : List Char} :
    List.intercalate [sep] (ws ++ [w ++ v]) = List.intercalate [sep] (ws ++ [w]) ++ v := by
  induction ws with
  | nil => simp
  | cons u ws ih =>
    rw [List.cons_append, List.cons_append, List.intercalate_cons_of_ne_nil (by simp),
      List.intercalate_cons_of_ne_nil (by simp), ih, List.append_assoc _ _ v]

theorem intercalate_concat {ws : List (List Char)} {w : List Char} (h : ws ≠ []) :
    List.intercalate [sep] (ws ++ [w]) = List.intercalate [sep] ws ++ sep :: w := by
  induction ws with
  | nil => exact absurd rfl h
  | cons u ws ih =>
    cases ws with
    | nil => simp [List.intercalate_cons_cons]
    | cons t ws =>
      rw [List.cons_append, List.intercalate_cons_of_ne_nil (by simp), ih (List.cons_ne_nil t ws),
        List.intercalate_cons_of_ne_nil (List.cons_ne_nil t ws), List.append_assoc _ _ (sep :: w)]

theorem tidy_intercalate {ws : List (List Char)} (hne : ws ≠ [])
    (h : ∀ w ∈ ws, w ≠ [] ∧ sep ∉ w) : Tidy sep (List.intercalate [sep] ws) := by
  induction ws with
  | nil => exact absurd rfl hne
  | cons w ws ih =>
    rw [List.forall_mem_cons] at h
    have hw : Tidy sep w := tidy_of_notMem h.1.1 h.1.2
    cases ws with
    | nil =>
      rw [List.intercalate_singleton]
      exact hw
    | cons v ws =>
      rw [List.intercalate_cons_cons, List.append_assoc]
      exact hw.join (ih (List.cons_ne_nil v ws) h.2)

end

/-- A text for readers: tidy with blanks for separators, and without underscores. -/
structure IsProse (cs : List Char) : Prop extends Tidy ' ' cs where
  plain : '_' ∉ cs

/-! ## Words -/

theorem splitCase_ne_nil {state : WordState} {word cs : List Char}
    (h : state = .upper → word ≠ []) : ∀ w ∈ splitCase state word cs, w ≠ [] := by
  fun_induction splitCase state word cs with
  | case1 => simp
  | case2 => simp
  | case3 _ _ _ _ _ _ ih => simpa using ih
  | case4 _ _ _ _ _ _ hsplit ih =>
    rw [List.forall_mem_cons]
    exact ⟨List.reverse_ne_nil_iff.2 (h hsplit.1), ih fun heq => WordState.noConfusion heq⟩
  | case5 _ _ _ _ _ _ _ ih => exact ih fun _ => List.cons_ne_nil _ _

/-- No word is empty, and words hold letters and numbers of the text. -/
theorem of_mem_words {cs w : List Char} (h : w ∈ words cs) :
    w ≠ [] ∧ ∀ c ∈ w, c ∈ cs ∧ isAlphanumeric c := by
  constructor
  · obtain ⟨s, -, hw⟩ := List.mem_flatMap.1 h
    exact splitCase_ne_nil (fun heq : WordState.fresh = .upper => WordState.noConfusion heq) w hw
  · intro c hc
    have hmem := List.mem_flatten.2 ⟨w, h, hc⟩
    rw [words_flatten] at hmem
    exact List.mem_filter.1 hmem

theorem words_ne_nil {cs : List Char} {c : Char} (hc : c ∈ cs) (h : isAlphanumeric c) :
    words cs ≠ [] := by
  intro hnil
  have hmem := List.mem_filter.2 ⟨hc, h⟩
  rw [← words_flatten, hnil] at hmem
  cases hmem

/-! ## Names put together from words -/

section

variable {cs w : List Char} (hcs : ∀ c ∈ cs, isNameChar c)

include hcs

/-- The words of a name hold letters and digits in ASCII. -/
theorem isAlphanum_of_mem_words (hw : w ∈ words cs) : ∀ c ∈ w, c.isAlphanum := by
  intro c hc
  obtain ⟨hmem, halnum⟩ := (of_mem_words hw).2 c hc
  exact isAlphanum_of_isNameChar (hcs c hmem) ((isAlphanumeric_iff (hcs c hmem)).1 halnum)

theorem isAlphanum_lowercaseWord (hw : w ∈ words cs) : lowercaseWord w ≠ [] ∧
    ∀ c ∈ lowercaseWord w, c.isAlphanum := by
  have halnum := isAlphanum_of_mem_words hcs hw
  rw [lowercaseWord_eq_map fun c hc => isAscii_of_isAlphanum (halnum c hc), List.forall_mem_map]
  exact ⟨by simpa using (of_mem_words hw).1, fun c hc => isAlphanum_toLower (halnum c hc)⟩

theorem isAlphanum_capitalize (hw : w ∈ words cs) : capitalize w ≠ [] ∧
    ∀ c ∈ capitalize w, c.isAlphanum := by
  have halnum := isAlphanum_of_mem_words hcs hw
  have hne := (of_mem_words hw).1
  cases w with
  | nil => exact absurd rfl hne
  | cons c w =>
    rw [List.forall_mem_cons] at halnum
    rw [capitalize, upperChar_of_isAscii (isAscii_of_isAlphanum halnum.1),
      lowercaseWord_eq_map fun c hc => isAscii_of_isAlphanum (halnum.2 c hc), List.singleton_append,
      List.forall_mem_cons, List.forall_mem_map]
    exact ⟨List.cons_ne_nil _ _, isAlphanum_toUpper halnum.1,
      fun c hc => isAlphanum_toLower (halnum.2 c hc)⟩

theorem isNameChar_snakeChars : ∀ c ∈ snakeChars cs, isNameChar c := by
  intro c hc
  rcases mem_intercalate hc with rfl | ⟨v, hv, hc⟩
  · rfl
  · obtain ⟨w, hw, rfl⟩ := List.mem_map.1 hv
    exact isNameChar_of_isAlphanum ((isAlphanum_lowercaseWord hcs hw).2 c hc)

theorem not_isUpper_of_mem_snakeChars : ∀ c ∈ snakeChars cs, ¬ c.isUpper := by
  intro c hc
  rcases mem_intercalate hc with rfl | ⟨v, hv, hc⟩
  · decide
  · obtain ⟨w, hw, rfl⟩ := List.mem_map.1 hv
    have halnum := isAlphanum_of_mem_words hcs hw
    rw [lowercaseWord_eq_map fun c hc => isAscii_of_isAlphanum (halnum c hc)] at hc
    obtain ⟨d, -, rfl⟩ := List.mem_map.1 hc
    exact not_isUpper_toLower d

variable {c : Char} (hc : c ∈ cs) (hletter : c ≠ '_')

include hc hletter

/-- The words, each respelled with letters and digits, are tidy when put together. -/
theorem tidy_intercalate_words {sep : Char} {respell : List Char → List Char}
    (h : ∀ w ∈ words cs, respell w ≠ [] ∧ ∀ c ∈ respell w, c.isAlphanum)
    (hsep : ¬ sep.isAlphanum) : Tidy sep (List.intercalate [sep] ((words cs).map respell)) := by
  refine tidy_intercalate ?_ ?_
  · rw [ne_eq, List.map_eq_nil_iff]
    exact words_ne_nil hc ((isAlphanumeric_iff (hcs c hc)).2 hletter)
  · rw [List.forall_mem_map]
    exact fun w hw => ⟨(h w hw).1, fun hmem => hsep ((h w hw).2 sep hmem)⟩

theorem tidy_snakeChars : Tidy '_' (snakeChars cs) :=
  tidy_intercalate_words hcs hc hletter (fun _ => isAlphanum_lowercaseWord hcs) (by decide)

/-- A title is prose. -/
theorem isProse_titleChars : IsProse (titleChars cs) where
  toTidy := tidy_intercalate_words hcs hc hletter (fun _ => isAlphanum_capitalize hcs) (by decide)
  plain := by
    intro hmem
    rcases mem_intercalate hmem with heq | ⟨v, hv, hmem⟩
    · cases heq
    · obtain ⟨w, hw, rfl⟩ := List.mem_map.1 hv
      exact absurd ((isAlphanum_capitalize hcs hw).2 _ hmem) (by decide)

end

/-! ## Labels -/

/-- A blank for an underscore. -/
def blank (c : Char) : Char :=
  if c = '_' then ' ' else c

theorem humanizeChars_eq (cs : List Char) :
    humanizeChars cs = upperFirst ((dropIdSuffix (lowercase cs)).map blank) :=
  rfl

theorem blank_eq_blank {c : Char} (h : isNameChar c) : blank c = ' ' ↔ c = '_' := by
  unfold blank
  split
  · next heq => exact iff_of_true rfl heq
  · next hne => exact iff_of_false (fun heq => absurd h (heq ▸ by decide)) hne

theorem blank_ne_underscore (c : Char) : blank c ≠ '_' := by
  unfold blank
  split
  · decide
  · assumption

theorem upperFirst_append {cs ds : List Char} (h : cs ≠ []) :
    upperFirst (cs ++ ds) = upperFirst cs ++ ds := by
  cases cs with
  | nil => exact absurd rfl h
  | cons c cs => exact (List.append_assoc _ cs ds).symm

section

variable {cs : List Char}

theorem Tidy.lowercase (hcs : ∀ c ∈ cs, isNameChar c) (h : Tidy '_' cs) :
    (∀ c ∈ lowercase cs, isNameChar c) ∧ Tidy '_' (lowercase cs) := by
  rw [lowercase_eq_map (forall_isAscii hcs), List.forall_mem_map]
  refine ⟨fun c hc => ?_, tidy_map_toLower.2 h⟩
  rw [isNameChar_toLower]
  exact hcs c hc

theorem Tidy.dropIdSuffix (h : Tidy '_' cs) : Tidy '_' (dropIdSuffix cs) := by
  unfold Naming.dropIdSuffix
  split
  · next hid =>
    obtain ⟨ds, rfl⟩ := List.isSuffixOf_iff_suffix.1 hid
    rw [List.take_left' (by simp)]
    exact h.left
  · exact h

/-- A tidy name with blanks for its underscores and a capital at the beginning is prose. -/
theorem isProse_upperFirst (hcs : ∀ c ∈ cs, isNameChar c) (h : Tidy '_' cs) :
    IsProse (upperFirst (cs.map blank)) := by
  have hblank : Tidy ' ' (cs.map blank) :=
    (tidy_map_iff fun c hc => blank_eq_blank (hcs c hc)).2 h
  cases cs with
  | nil => exact absurd rfl h.ne_nil
  | cons c cs =>
    rw [List.forall_mem_cons] at hcs
    have hc : c ≠ '_' := h.head c rfl
    have hupper : c.toUpper.isAlphanum := isAlphanum_toUpper (isAlphanum_of_isNameChar hcs.1 hc)
    rw [List.map_cons, blank, if_neg hc] at hblank ⊢
    rw [upperFirst_cons_of_isAscii (isAscii_of_isNameChar hcs.1)]
    refine ⟨hblank.cons ?_, ?_⟩
    · rintro heq
      rw [heq] at hupper
      cases hupper
    · rw [List.mem_cons, List.mem_map]
      rintro (heq | ⟨d, -, hd⟩)
      · rw [← heq] at hupper
        cases hupper
      · exact blank_ne_underscore d hd

/-- The label of a tidy name is prose. -/
theorem isProse_humanizeChars (hcs : ∀ c ∈ cs, isNameChar c) (h : Tidy '_' cs) :
    IsProse (humanizeChars cs) := by
  obtain ⟨hlower, htidy⟩ := h.lowercase hcs
  rw [humanizeChars_eq]
  refine isProse_upperFirst (fun c hc => hlower c ?_) htidy.dropIdSuffix
  unfold dropIdSuffix at hc
  split at hc
  · exact List.mem_of_mem_take hc
  · exact hc

/-- An underscore at the end of a name is a blank at the end of its label. -/
theorem humanizeChars_append_underscore (hcs : ∀ c ∈ cs, isNameChar c) (hne : cs ≠ []) :
    humanizeChars (cs ++ ['_']) = upperFirst ((lowercase cs).map blank) ++ [' '] := by
  have hascii := forall_isAscii hcs
  have hlower : lowercase (cs ++ ['_']) = lowercase cs ++ ['_'] := by
    rw [lowercase_eq_map hascii, lowercase_eq_map, List.map_append]
    · rfl
    · rw [List.forall_mem_append, List.forall_mem_singleton]
      exact ⟨hascii, rfl⟩
  have hid : ¬ ['_', 'i', 'd'].isSuffixOf (lowercase cs ++ ['_']) := by
    intro hid
    obtain ⟨ds, hds⟩ := List.isSuffixOf_iff_suffix.1 hid
    have hlast := congrArg List.getLast? hds
    rw [List.getLast?_append_of_ne_nil _ (by simp), List.getLast?_concat] at hlast
    cases hlast
  have hmap : (lowercase cs).map blank ≠ [] := by
    simpa [lowercase_eq_map hascii] using hne
  rw [humanizeChars_eq, hlower, dropIdSuffix, if_neg hid, List.map_append]
  exact upperFirst_append hmap

end

end SchemaCatalog.Naming
