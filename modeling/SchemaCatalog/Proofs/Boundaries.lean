import SchemaCatalog.Proofs.Prose

/-!
# Word boundaries

Where the words of a name begin and end.  Words that are joined with underscores are found again.
One more character at the end of a name lengthens the last word, unless it stands after an
underscore and is a word by itself, or is a small letter after a run of capitals and takes the last
of them along into a new word: `userID` has the words `user` and `ID`, and `userIDs` has `user`, `I`
and `Ds`.

    words_intercalate_of_not_upper: joined words without capitals are found again
    words_intercalate_of_not_lower: so are joined words without small letters
    words_concat_s: an `s` lengthens the last word, or begins one after a run of capitals
    words_concat_S: after a name in capitals an `S` lengthens the last word
    words_concat_underscore: after an underscore either is a word
-/

namespace SchemaCatalog.Naming

open Text

/-! ## Separators -/

section

variable {sep : Char → Bool} {before cs : List Char} {c : Char}

theorem segments_append_cons (hc : sep c) :
    segments sep (before ++ c :: cs) = segments sep before ++ segments sep cs := by
  induction before with
  | nil => simp [segments, hc]
  | cons d before ih =>
    rw [List.cons_append, segments, segments, ih]
    split
    · rfl
    · obtain ⟨s, rest, hs⟩ := List.exists_cons_of_ne_nil (segments_ne_nil sep before)
      simp [hs]

theorem segments_of_forall (h : ∀ c ∈ cs, ¬ sep c) : segments sep cs = [cs] := by
  induction cs with
  | nil => rfl
  | cons c cs ih =>
    rw [List.forall_mem_cons] at h
    rw [segments, if_neg h.1, ih h.2]

/-- A text has no separator, or a last one. -/
theorem exists_last_separator (sep : Char → Bool) (cs : List Char) :
    (∀ c ∈ cs, ¬ sep c) ∨
      ∃ before c rest, cs = before ++ c :: rest ∧ sep c ∧ ∀ d ∈ rest, ¬ sep d := by
  induction cs with
  | nil => exact .inl nofun
  | cons c cs ih =>
    rcases ih with h | ⟨before, d, rest, rfl, hd, hrest⟩
    · by_cases hc : sep c
      · exact .inr ⟨[], c, cs, rfl, hc, h⟩
      · exact .inl (List.forall_mem_cons.2 ⟨hc, h⟩)
    · exact .inr ⟨c :: before, d, rest, rfl, hd, hrest⟩

theorem words_append_cons (hc : ¬ isAlphanumeric c) :
    words (before ++ c :: cs) = words before ++ words cs := by
  rw [words, segments_append_cons (by simpa using hc), List.flatMap_append]
  rfl

theorem words_of_forall (h : ∀ c ∈ cs, isAlphanumeric c) : words cs = splitCase .fresh [] cs := by
  rw [words, segments_of_forall (by simpa using h), List.flatMap_singleton]

/-- Joined words are read as they are if none of them is cut within. -/
theorem words_intercalate {ws : List (List Char)} (hc : ¬ isAlphanumeric c)
    (h : ∀ w ∈ ws, (∀ d ∈ w, isAlphanumeric d) ∧ splitCase .fresh [] w = [w]) :
    words (List.intercalate [c] ws) = ws := by
  induction ws with
  | nil => rfl
  | cons w ws ih =>
    rw [List.forall_mem_cons] at h
    have hw : words w = [w] := (words_of_forall h.1.1).trans h.1.2
    cases ws with
    | nil => rw [List.intercalate_singleton, hw]
    | cons v ws =>
      rw [List.intercalate_cons_cons, List.append_assoc, List.singleton_append,
        words_append_cons hc, hw, ih h.2, List.singleton_append]

end

/-! ## Changes of case -/

section

variable {state : WordState} {word s : List Char} {c : Char}

theorem next_ne_lower (hstate : state ≠ .lower) (hc : ¬ isLowercase c) : state.next c ≠ .lower := by
  rw [WordState.next, if_neg hc]
  split
  · nofun
  · exact hstate

/-- Capitals and digits are one word. -/
theorem splitCase_of_not_lower (hs : s ≠ []) (hstate : state ≠ .lower)
    (h : ∀ c ∈ s, ¬ isLowercase c) : splitCase state word s = [word.reverse ++ s] := by
  fun_induction splitCase state word s with
  | case1 => exact absurd rfl hs
  | case2 state word c => rw [List.reverse_cons]
  | case3 state word c d cs hsplit _ =>
    exact absurd hsplit.1 (next_ne_lower hstate (h c List.mem_cons_self))
  | case4 state word c d cs _ hsplit _ =>
    exact absurd hsplit.2.2 (h d (List.mem_cons_of_mem c List.mem_cons_self))
  | case5 state word c d cs _ _ ih =>
    rw [List.forall_mem_cons] at h
    rw [ih (List.cons_ne_nil d cs) (next_ne_lower hstate h.1) h.2, List.reverse_cons,
      List.append_assoc, List.singleton_append]

/-- Small letters and digits are one word. -/
theorem splitCase_of_not_upper (hs : s ≠ []) (h : ∀ c ∈ s, ¬ isUppercase c) :
    splitCase state word s = [word.reverse ++ s] := by
  fun_induction splitCase state word s with
  | case1 => exact absurd rfl hs
  | case2 state word c => rw [List.reverse_cons]
  | case3 state word c d cs hsplit _ =>
    exact absurd hsplit.2 (h d (List.mem_cons_of_mem c List.mem_cons_self))
  | case4 state word c d cs _ hsplit _ => exact absurd hsplit.2.1 (h c List.mem_cons_self)
  | case5 state word c d cs _ _ ih =>
    rw [List.forall_mem_cons] at h
    rw [ih (List.cons_ne_nil d cs) h.2, List.reverse_cons, List.append_assoc,
      List.singleton_append]

/-- Joined words without capitals are found again. -/
theorem words_intercalate_of_not_upper {ws : List (List Char)}
    (h : ∀ w ∈ ws, w ≠ [] ∧ ∀ c ∈ w, c.isAlphanum ∧ ¬ c.isUpper) :
    words (List.intercalate ['_'] ws) = ws := by
  refine words_intercalate (by decide) fun w hw => ?_
  obtain ⟨hne, hchars⟩ := h w hw
  refine ⟨fun c hc => isAlphanumeric_of_isAlphanum (hchars c hc).1, ?_⟩
  refine splitCase_of_not_upper hne fun c hc => ?_
  rw [isUppercase_of_isAscii (isAscii_of_isAlphanum (hchars c hc).1)]
  exact (hchars c hc).2

/-- So are joined words without small letters. -/
theorem words_intercalate_of_not_lower {ws : List (List Char)}
    (h : ∀ w ∈ ws, w ≠ [] ∧ ∀ c ∈ w, c.isAlphanum ∧ ¬ c.isLower) :
    words (List.intercalate ['_'] ws) = ws := by
  refine words_intercalate (by decide) fun w hw => ?_
  obtain ⟨hne, hchars⟩ := h w hw
  refine ⟨fun c hc => isAlphanumeric_of_isAlphanum (hchars c hc).1, ?_⟩
  refine splitCase_of_not_lower hne nofun fun c hc => ?_
  rw [isLowercase_of_isAscii (isAscii_of_isAlphanum (hchars c hc).1)]
  exact (hchars c hc).2

/-- Once a letter follows, what was before it is forgotten. -/
theorem foldl_next_eq {state' : WordState} {d : Char} {cs : List Char}
    (hd : isLowercase d ∨ isUppercase d) :
    (d :: cs).foldl WordState.next state = (d :: cs).foldl WordState.next state' := by
  have hnext : state.next d = state'.next d := by
    unfold WordState.next
    split
    · rfl
    · next hlower => rw [if_pos (hd.resolve_left hlower), if_pos (hd.resolve_left hlower)]
  rw [List.foldl_cons, List.foldl_cons, hnext]

/-- The words before the last character do not depend on what comes after it.  If it is a capital,
it is read in the state of a run of capitals just if it stands in one. -/
theorem splitCase_append_cons (state : WordState) (word s : List Char) (c : Char) :
    ∃ init state' word', (∀ rest,
        splitCase state word (s ++ c :: rest) = init ++ splitCase state' word' (c :: rest)) ∧
      (isUppercase c → ¬ isLowercase c → (state' = .upper ↔ s.foldl .next state = .upper)) := by
  induction s generalizing state word with
  | nil => exact ⟨[], state, word, fun _ => rfl, fun _ _ => Iff.rfl⟩
  | cons x s ih =>
    obtain ⟨d, tail, hd, hhead⟩ : ∃ d tail, (∀ rest, s ++ c :: rest = d :: (tail ++ rest)) ∧
        (s = [] ∧ d = c ∨ s.head? = some d) := by
      cases s with
      | nil => exact ⟨c, [], fun _ => rfl, .inl ⟨rfl, rfl⟩⟩
      | cons d s => exact ⟨d, s ++ [c], fun _ => by simp, .inr rfl⟩
    -- where a word begins, the state is forgotten, but the letter after it is the next one read
    by_cases hbefore : state.next x = .lower ∧ isUppercase d
    · obtain ⟨init, state', word', hinit, hstate⟩ := ih .fresh []
      refine ⟨(x :: word).reverse :: init, state', word', fun rest => ?_, fun hupper hlower => ?_⟩
      · rw [List.cons_append, hd, splitCase, if_pos hbefore, ← hd, hinit, List.cons_append]
      · rw [hstate hupper hlower, List.foldl_cons, hbefore.1]
        rcases hhead with ⟨rfl, -⟩ | hhead
        · decide
        · obtain ⟨s, rfl⟩ := List.head?_eq_some_iff.1 hhead
          rw [foldl_next_eq (.inr hbefore.2)]
    by_cases hafter : state = .upper ∧ isUppercase x ∧ isLowercase d
    · obtain ⟨init, state', word', hinit, hstate⟩ := ih .fresh [x]
      refine ⟨word.reverse :: init, state', word', fun rest => ?_, fun hupper hlower => ?_⟩
      · rw [List.cons_append, hd, splitCase, if_neg hbefore, if_pos hafter, ← hd, hinit,
          List.cons_append]
      · rw [hstate hupper hlower, List.foldl_cons]
        rcases hhead with ⟨-, rfl⟩ | hhead
        · exact absurd hafter.2.2 hlower
        · obtain ⟨s, rfl⟩ := List.head?_eq_some_iff.1 hhead
          rw [foldl_next_eq (.inl hafter.2.2)]
    · obtain ⟨init, state', word', hinit, hstate⟩ := ih (state.next x) (x :: word)
      refine ⟨init, state', word', fun rest => ?_, hstate⟩
      rw [List.cons_append, hd, splitCase, if_neg hbefore, if_neg hafter, ← hd, hinit]

end

/-! ## A run of capitals -/

/-- The text ends in a capital, or in one and digits after it. -/
def EndsInRun (cs : List Char) : Prop :=
  ∃ before a digits, cs = before ++ a :: digits ∧ a.isUpper ∧ ∀ d ∈ digits, d.isDigit

/-- The text ends in two capitals or more, with or without digits between them. -/
def EndsInCapitals (cs : List Char) : Prop :=
  ∃ run c, cs = run ++ [c] ∧ EndsInRun run ∧ c.isUpper

section

variable {s : List Char} {c : Char}

theorem cases_of_isAlphanum (h : c.isAlphanum) : c.isUpper ∨ c.isLower ∨ c.isDigit := by
  rcases Bool.or_eq_true_iff.1 h with h | h
  · exact (Bool.or_eq_true_iff.1 h).imp_right .inl
  · exact .inr (.inr h)

theorem endsInRun_concat : EndsInRun (s ++ [c]) ↔ c.isUpper ∨ c.isDigit ∧ EndsInRun s := by
  constructor
  · rintro ⟨before, a, digits, heq, ha, hdigits⟩
    rcases List.eq_nil_or_concat digits with rfl | ⟨digits, d, rfl⟩
    · obtain ⟨-, hlast⟩ := List.append_inj' heq rfl
      exact .inl (List.head_eq_of_cons_eq hlast ▸ ha)
    · rw [List.concat_eq_append] at heq hdigits
      rw [← List.cons_append, ← List.append_assoc] at heq
      obtain ⟨rfl, hlast⟩ := List.append_inj' heq rfl
      rw [List.forall_mem_append, List.forall_mem_singleton] at hdigits
      exact .inr ⟨List.head_eq_of_cons_eq hlast ▸ hdigits.2, before, a, digits, rfl, ha, hdigits.1⟩
  · rintro (hc | ⟨hc, before, a, digits, rfl, ha, hdigits⟩)
    · exact ⟨s, c, [], rfl, hc, nofun⟩
    · refine ⟨before, a, digits ++ [c], by simp, ha, ?_⟩
      exact List.forall_mem_append.2 ⟨hdigits, List.forall_mem_singleton.2 hc⟩

/-- The state of a run of capitals is reached by a capital and digits after it. -/
theorem foldl_next_eq_upper (h : ∀ c ∈ s, c.isAlphanum) :
    s.foldl WordState.next .fresh = .upper ↔ EndsInRun s := by
  induction s using List.reverseRecOn with
  | nil => exact iff_of_false nofun fun ⟨_, _, _, heq, _⟩ => by simp at heq
  | append_singleton s d ih =>
    rw [List.forall_mem_append, List.forall_mem_singleton] at h
    have hascii : isAscii d := isAscii_of_isAlphanum h.2
    rw [endsInRun_concat, ← ih h.1, List.foldl_append, List.foldl_cons, List.foldl_nil,
      WordState.next, isLowercase_of_isAscii hascii, isUppercase_of_isAscii hascii]
    rcases cases_of_isAlphanum h.2 with hd | hd | hd
    · rw [if_neg (not_isLower_of_isUpper hd), if_pos hd]
      exact iff_of_true rfl (.inl hd)
    · have hupper : ¬ d.isUpper := fun hupper => not_isLower_of_isUpper hupper hd
      have hdigit : ¬ d.isDigit := not_isDigit_of_isAlpha (isAlpha_of_isLower hd)
      rw [if_pos hd]
      exact iff_of_false nofun fun hor => hor.elim hupper fun hand => hdigit hand.1
    · have halpha : ¬ d.isAlpha := fun halpha => not_isDigit_of_isAlpha halpha hd
      have hupper : ¬ d.isUpper := fun hupper => halpha (isAlpha_of_isUpper hupper)
      have hlower : ¬ d.isLower := fun hlower => halpha (isAlpha_of_isLower hlower)
      rw [if_neg hlower, if_neg hupper]
      exact ⟨fun heq => .inr ⟨hd, heq⟩, fun hor => (hor.resolve_left hupper).2⟩

theorem endsInCapitals_concat : EndsInCapitals (s ++ [c]) ↔ EndsInRun s ∧ c.isUpper := by
  constructor
  · rintro ⟨run, d, heq, hrun, hd⟩
    obtain ⟨rfl, hlast⟩ := List.append_inj' heq rfl
    obtain rfl := List.head_eq_of_cons_eq hlast
    exact ⟨hrun, hd⟩
  · exact fun h => ⟨s, c, rfl, h.1, h.2⟩

/-- An `s` at the end of a segment lengthens the last word, or after a run of capitals begins a word
with the last of them. -/
theorem splitCase_concat (h : ∀ d ∈ s ++ [c], d.isAlphanum) : ∃ init word,
    splitCase .fresh [] (s ++ [c]) = init ++ [word ++ [c]] ∧
      (EndsInCapitals (s ++ [c]) →
        splitCase .fresh [] (s ++ [c] ++ ['s']) = init ++ [word, [c, 's']]) ∧
      (¬ EndsInCapitals (s ++ [c]) →
        splitCase .fresh [] (s ++ [c] ++ ['s']) = init ++ [word ++ [c] ++ ['s']]) := by
  obtain ⟨init, state, word, hinit, hstate⟩ := splitCase_append_cons .fresh [] s c
  replace h := List.forall_mem_append.1 h
  have hc : c.isAlphanum := h.2 c List.mem_cons_self
  have hupper := isUppercase_of_isAscii (isAscii_of_isAlphanum hc)
  have hlower := isLowercase_of_isAscii (isAscii_of_isAlphanum hc)
  have hlast : splitCase .fresh [] (s ++ [c] ++ ['s']) = init ++ splitCase state word [c, 's'] := by
    rw [List.append_assoc]
    exact hinit ['s']
  have hfirst : ¬ (state.next c = .lower ∧ isUppercase 's') := fun hand =>
    absurd hand.2 (by decide)
  refine ⟨init, word.reverse, ?_, fun hcapitals => ?_, fun hcapitals => ?_⟩
  · rw [hinit, splitCase, List.reverse_cons]
  · obtain ⟨hrun, hcUpper⟩ := endsInCapitals_concat.1 hcapitals
    have hrunState := (hstate (hupper.trans hcUpper)
      (by rw [hlower]; exact not_isLower_of_isUpper hcUpper)).2 ((foldl_next_eq_upper h.1).2 hrun)
    rw [hlast, splitCase, if_neg hfirst, if_pos ⟨hrunState, hupper.trans hcUpper, by decide⟩]
    rfl
  · rw [hlast, splitCase, if_neg hfirst, if_neg]
    · rw [splitCase, List.reverse_cons, List.reverse_cons]
    · rintro ⟨hrunState, hcUpper, -⟩
      rw [hupper] at hcUpper
      refine hcapitals (endsInCapitals_concat.2 ⟨(foldl_next_eq_upper h.1).1 ?_, hcUpper⟩)
      refine (hstate (hupper.trans hcUpper) ?_).1 hrunState
      rw [hlower]
      exact not_isLower_of_isUpper hcUpper

end

/-! ## The last word of a name -/

section

variable {before cs : List Char} {c : Char}

/-- Runs of capitals do not reach over an underscore. -/
theorem endsInRun_append_underscore : EndsInRun (before ++ '_' :: cs) ↔ EndsInRun cs := by
  induction cs using List.reverseRecOn with
  | nil =>
    rw [endsInRun_concat]
    refine iff_of_false (fun hor => hor.elim nofun fun hand => nomatch hand.1) ?_
    rintro ⟨_, _, _, heq, -⟩
    simp at heq
  | append_singleton cs d ih =>
    rw [← List.cons_append, ← List.append_assoc, endsInRun_concat, endsInRun_concat, ih]

theorem endsInCapitals_append_underscore :
    EndsInCapitals (before ++ '_' :: cs) ↔ EndsInCapitals cs := by
  rcases List.eq_nil_or_concat cs with rfl | ⟨cs, d, rfl⟩
  · rw [endsInCapitals_concat]
    refine iff_of_false (fun hand => nomatch hand.2) ?_
    rintro ⟨_, _, heq, -⟩
    simp at heq
  · rw [List.concat_eq_append, ← List.cons_append, ← List.append_assoc, endsInCapitals_concat,
      endsInCapitals_concat, endsInRun_append_underscore]

/-- A name that does not end in an underscore ends in a segment, and what is put at its end is put
at the end of that. -/
theorem exists_last_segment (hcs : ∀ c ∈ cs, isNameChar c) (hlast : ∃ c ∈ cs.getLast?, c ≠ '_') :
    ∃ init s c, s ++ [c] <:+ cs ∧ (∀ d ∈ s ++ [c], d.isAlphanum) ∧
      (EndsInCapitals (s ++ [c]) ↔ EndsInCapitals cs) ∧ ∀ rest, (∀ d ∈ rest, d.isAlphanum) →
        words (cs ++ rest) = init ++ splitCase .fresh [] (s ++ [c] ++ rest) := by
  have halnum : ∀ d ∈ cs, ¬ (d == '_') → d.isAlphanum := fun d hd hsep =>
    isAlphanum_of_isNameChar (hcs d hd) fun heq => hsep (beq_iff_eq.2 heq)
  have hwords : ∀ s rest : List Char, (∀ d ∈ s, d.isAlphanum) → (∀ d ∈ rest, d.isAlphanum) →
      words (s ++ rest) = splitCase .fresh [] (s ++ rest) := fun s rest hs hrest =>
    words_of_forall fun d hd =>
      isAlphanumeric_of_isAlphanum (List.forall_mem_append.2 ⟨hs, hrest⟩ d hd)
  obtain ⟨c, hc, hletter⟩ := hlast
  rcases exists_last_separator (· == '_') cs with h | ⟨before, x, segment, rfl, hx, h⟩
  · obtain ⟨s, rfl⟩ := List.getLast?_eq_some_iff.1 hc
    have hs : ∀ d ∈ s ++ [c], d.isAlphanum := fun d hd => halnum d hd (h d hd)
    exact ⟨[], s, c, List.suffix_rfl, hs, Iff.rfl, fun rest => hwords _ rest hs⟩
  · have hmem : ∀ d ∈ segment, d ∈ before ++ x :: segment := fun d hd =>
      List.mem_append_right _ (List.mem_cons_of_mem x hd)
    obtain rfl := beq_iff_eq.1 hx
    rcases List.eq_nil_or_concat segment with rfl | ⟨s, d, rfl⟩
    · rw [List.getLast?_concat] at hc
      exact absurd (Option.mem_some_iff.1 hc).symm hletter
    · rw [List.concat_eq_append] at h hmem ⊢
      have hs : ∀ e ∈ s ++ [d], e.isAlphanum := fun e he =>
        halnum e (by simpa using hmem e he) (h e he)
      refine ⟨words before, s, d, ⟨before ++ ['_'], by simp⟩, hs,
        endsInCapitals_append_underscore.symm, fun rest hrest => ?_⟩
      rw [List.append_assoc, List.cons_append, words_append_cons (by decide),
        hwords _ rest hs hrest]

variable (hcs : ∀ c ∈ cs, isNameChar c)

include hcs

/-- A small `s` at the end of a name lengthens its last word, or after a run of capitals begins a
word with the last of them. -/
theorem words_concat_s (hlast : ∃ c ∈ cs.getLast?, c ≠ '_') : ∃ init word c,
    words cs = init ++ [word ++ [c]] ∧
      (EndsInCapitals cs → words (cs ++ ['s']) = init ++ [word, [c, 's']]) ∧
      (¬ EndsInCapitals cs → words (cs ++ ['s']) = init ++ [word ++ [c] ++ ['s']]) := by
  obtain ⟨before, s, c, -, hs, hcapitals, hwords⟩ := exists_last_segment hcs hlast
  obtain ⟨init, word, hsplit, hbegin, hlengthen⟩ := splitCase_concat hs
  have hnil := hwords [] nofun
  rw [List.append_nil, List.append_nil, hsplit] at hnil
  rw [hwords ['s'] (List.forall_mem_singleton.2 rfl), ← hcapitals]
  refine ⟨before ++ init, word, c, ?_, fun h => ?_, fun h => ?_⟩
  · rw [hnil, List.append_assoc]
  · rw [hbegin h, List.append_assoc]
  · rw [hlengthen h, ← List.append_assoc before]

/-- A capital `S` at the end of a name in capitals lengthens its last word. -/
theorem words_concat_S (hlast : ∃ c ∈ cs.getLast?, c ≠ '_') (h : ∀ c ∈ cs, ¬ c.isLower) :
    ∃ init word, words cs = init ++ [word] ∧ words (cs ++ ['S']) = init ++ [word ++ ['S']] := by
  obtain ⟨before, s, c, hsuffix, hs, -, hwords⟩ := exists_last_segment hcs hlast
  have hlower : ∀ d ∈ s ++ [c], ¬ isLowercase d := by
    intro d hd
    rw [isLowercase_of_isAscii (isAscii_of_isAlphanum (hs d hd))]
    exact h d (hsuffix.subset hd)
  have hlowerS : ∀ d ∈ s ++ [c] ++ ['S'], ¬ isLowercase d :=
    List.forall_mem_append.2 ⟨hlower, List.forall_mem_singleton.2 (by decide)⟩
  have hstate : WordState.fresh ≠ .lower := nofun
  have hnil := hwords [] nofun
  rw [List.append_nil, List.append_nil, splitCase_of_not_lower (by simp) hstate hlower] at hnil
  refine ⟨before, s ++ [c], hnil, ?_⟩
  rw [hwords ['S'] (List.forall_mem_singleton.2 rfl),
    splitCase_of_not_lower (by simp) hstate hlowerS]
  rfl

omit hcs in
/-- After an underscore a character is a word by itself. -/
theorem words_concat_underscore (hc : c.isAlphanum) :
    words (cs ++ ['_'] ++ [c]) = words (cs ++ ['_']) ++ [[c]] := by
  have hsep : ¬ isAlphanumeric '_' := by decide
  have hword : words [c] = [[c]] :=
    words_of_forall (List.forall_mem_singleton.2 (isAlphanumeric_of_isAlphanum hc))
  have hnil : words [] = [] := rfl
  rw [List.append_assoc, List.singleton_append, words_append_cons hsep, words_append_cons hsep,
    hword, hnil, List.append_nil]

end

end SchemaCatalog.Naming
