import SchemaCatalog.Text.Case

/-!
# Text in ASCII

Within ASCII case conversion goes character by character, so that the tables of Unicode play no
part.

    (∀ c ∈ cs, isAscii c) → lowercase cs = cs.map Char.toLower     (lowercase_eq_map)
    (∀ c ∈ cs, isAscii c) → uppercase cs = cs.map Char.toUpper     (uppercase_eq_map)
-/

namespace SchemaCatalog.Text

/-- What holds of the first 128 characters holds of ASCII. -/
theorem forall_ascii {P : Char → Prop} (h : ∀ n < 128, P (Char.ofNat n)) (c : Char)
    (hc : isAscii c) : P c := by
  have hn := h c.toNat (of_decide_eq_true hc)
  rwa [Char.ofNat_toNat] at hn

variable {c : Char} {cs : List Char}

theorem isAlpha_of_isUpper (h : c.isUpper) : c.isAlpha :=
  Bool.or_eq_true_iff.2 (.inl h)

theorem isAlpha_of_isLower (h : c.isLower) : c.isAlpha :=
  Bool.or_eq_true_iff.2 (.inr h)

theorem isAlphanum_of_isAlpha (h : c.isAlpha) : c.isAlphanum :=
  Bool.or_eq_true_iff.2 (.inl h)

theorem isAscii_of_isAlpha (h : c.isAlpha) : isAscii c :=
  isAscii_of_isAlphanum (isAlphanum_of_isAlpha h)

theorem isAlphanumeric_of_isAlphanum (h : c.isAlphanum) : isAlphanumeric c := by
  rcases Bool.or_eq_true_iff.1 h with h | h
  · exact Bool.or_eq_true_iff.2 (.inl (isAlphabetic_of_isAlpha h))
  · exact Bool.or_eq_true_iff.2 (.inr (isNumeric_of_isDigit h))

theorem not_isDigit_of_isAlpha (h : c.isAlpha) : ¬ c.isDigit :=
  forall_ascii (P := fun c => c.isAlpha → ¬ c.isDigit) (by decide) c (isAscii_of_isAlpha h) h

/-! ## Case of a character -/

/-- Outside ASCII the case conversion of single characters does nothing. -/
theorem toLower_of_not_isAscii (h : ¬ isAscii c) : c.toLower = c :=
  dif_neg fun hc => h (isAscii_of_isAlpha (isAlpha_of_isUpper (decide_eq_true hc)))

/-- What case conversion keeps within ASCII it keeps everywhere. -/
theorem toLower_induction {P : Char → Char → Prop} (hself : ∀ c, P c c)
    (h : ∀ n < 128, P (Char.ofNat n) (Char.ofNat n).toLower) (c : Char) : P c c.toLower := by
  by_cases hc : isAscii c
  · exact forall_ascii (P := fun c => P c c.toLower) h c hc
  · rw [toLower_of_not_isAscii hc]
    exact hself c

theorem isAscii_toLower (c : Char) : isAscii c.toLower = isAscii c :=
  toLower_induction (P := fun c d => isAscii d = isAscii c) (fun _ => rfl) (by decide) c

theorem isAlpha_toLower (c : Char) : c.toLower.isAlpha = c.isAlpha :=
  toLower_induction (P := fun c d => d.isAlpha = c.isAlpha) (fun _ => rfl) (by decide) c

theorem toLower_toUpper (h : isAscii c) : c.toUpper.toLower = c.toLower :=
  forall_ascii (P := fun c => c.toUpper.toLower = c.toLower) (by decide) c h

theorem toLower_toLower (h : isAscii c) : c.toLower.toLower = c.toLower :=
  forall_ascii (P := fun c => c.toLower.toLower = c.toLower) (by decide) c h

theorem not_isUpper_toLower (c : Char) : ¬ c.toLower.isUpper := by
  by_cases h : isAscii c
  · exact forall_ascii (P := fun c => ¬ c.toLower.isUpper) (by decide) c h
  · rw [toLower_of_not_isAscii h]
    exact fun hupper => h (isAscii_of_isAlpha (isAlpha_of_isUpper hupper))

theorem isAlphanum_toLower (h : c.isAlphanum) : c.toLower.isAlphanum :=
  forall_ascii (P := fun c => c.isAlphanum → c.toLower.isAlphanum) (by decide) c
    (isAscii_of_isAlphanum h) h

theorem isAlphanum_toUpper (h : c.isAlphanum) : c.toUpper.isAlphanum :=
  forall_ascii (P := fun c => c.isAlphanum → c.toUpper.isAlphanum) (by decide) c
    (isAscii_of_isAlphanum h) h

theorem isAscii_toUpper (h : isAscii c) : isAscii c.toUpper :=
  forall_ascii (P := fun c => isAscii c.toUpper) (by decide) c h

theorem isLower_toLower (h : c.isAlpha) : c.toLower.isLower :=
  forall_ascii (P := fun c => c.isAlpha → c.toLower.isLower) (by decide) c (isAscii_of_isAlpha h) h

theorem toLower_of_isLower (h : c.isLower) : c.toLower = c :=
  forall_ascii (P := fun c => c.isLower → c.toLower = c) (by decide) c
    (isAscii_of_isAlpha (isAlpha_of_isLower h)) h

theorem isUpper_toUpper (h : c.isLower) : c.toUpper.isUpper :=
  forall_ascii (P := fun c => c.isLower → c.toUpper.isUpper) (by decide) c
    (isAscii_of_isAlpha (isAlpha_of_isLower h)) h

theorem isLowercase_of_isAscii (h : isAscii c) : isLowercase c = c.isLower :=
  if_pos h

theorem isUppercase_of_isAscii (h : isAscii c) : isUppercase c = c.isUpper :=
  if_pos h

theorem not_isLower_of_isUpper (h : c.isUpper) : ¬ c.isLower :=
  forall_ascii (P := fun c => c.isUpper → ¬ c.isLower) (by decide) c
    (isAscii_of_isAlpha (isAlpha_of_isUpper h)) h

/-! ## Case of a text -/

theorem lowerChar_of_isAscii (h : isAscii c) : lowerChar c = [c.toLower] :=
  if_pos h

theorem upperChar_of_isAscii (h : isAscii c) : upperChar c = [c.toUpper] :=
  if_pos h

theorem lowerFirst_cons_of_isAscii (h : isAscii c) : lowerFirst (c :: cs) = c.toLower :: cs := by
  rw [lowerFirst, lowerChar_of_isAscii h, List.singleton_append]

theorem upperFirst_cons_of_isAscii (h : isAscii c) : upperFirst (c :: cs) = c.toUpper :: cs := by
  rw [upperFirst, upperChar_of_isAscii h, List.singleton_append]

/-- What capitals keep holds of a text that is given one. -/
theorem forall_mem_upperFirst {P : Char → Prop} (hP : ∀ c, P c → isAscii c ∧ P c.toUpper)
    (h : ∀ c ∈ cs, P c) : ∀ c ∈ upperFirst cs, P c := by
  cases cs with
  | nil => exact h
  | cons c cs =>
    rw [List.forall_mem_cons] at h
    rw [upperFirst_cons_of_isAscii (hP c h.1).1, List.forall_mem_cons]
    exact ⟨(hP c h.1).2, h.2⟩

theorem lowercaseAfter_eq_map (before : List Char) (h : ∀ c ∈ cs, isAscii c) :
    lowercaseAfter before cs = cs.map Char.toLower := by
  induction cs generalizing before with
  | nil => rfl
  | cons c cs ih =>
    have hc : isAscii c := h c List.mem_cons_self
    have hsigma : c ≠ 'Σ' := by
      rintro rfl
      exact absurd hc (by decide)
    rw [lowercaseAfter, if_neg hsigma, lowerChar_of_isAscii hc,
      ih _ fun d hd => h d (List.mem_cons_of_mem _ hd)]
    rfl

theorem lowercase_eq_map (h : ∀ c ∈ cs, isAscii c) : lowercase cs = cs.map Char.toLower :=
  lowercaseAfter_eq_map [] h

theorem uppercase_eq_map (h : ∀ c ∈ cs, isAscii c) : uppercase cs = cs.map Char.toUpper := by
  induction cs with
  | nil => rfl
  | cons c cs ih =>
    rw [uppercase, List.flatMap_cons, upperChar_of_isAscii (h c List.mem_cons_self), ← uppercase,
      ih fun d hd => h d (List.mem_cons_of_mem _ hd)]
    rfl

theorem isAscii_map_toLower (h : ∀ c ∈ cs, isAscii c) : ∀ c ∈ cs.map Char.toLower, isAscii c :=
  List.forall_mem_map.2 fun c hc => (isAscii_toLower c).trans (h c hc)

theorem map_toLower_toLower (h : ∀ c ∈ cs, isAscii c) :
    (cs.map Char.toLower).map Char.toLower = cs.map Char.toLower := by
  rw [List.map_map]
  exact List.map_congr_left fun c hc => toLower_toLower (h c hc)

theorem map_toLower_toUpper (h : ∀ c ∈ cs, isAscii c) :
    (cs.map Char.toUpper).map Char.toLower = cs.map Char.toLower := by
  rw [List.map_map]
  exact List.map_congr_left fun c hc => toLower_toUpper (h c hc)

theorem lowercase_lowercase (h : ∀ c ∈ cs, isAscii c) :
    lowercase (lowercase cs) = lowercase cs := by
  rw [lowercase_eq_map h, lowercase_eq_map (isAscii_map_toLower h), map_toLower_toLower h]

/-- A text is in lowercase if it has no capital. -/
theorem lowercase_eq_self_iff (h : ∀ c ∈ cs, isAscii c) :
    lowercase cs = cs ↔ ∀ c ∈ cs, ¬ c.isUpper := by
  have hchar : ∀ c ∈ cs, (c.toLower = id c ↔ ¬ c.isUpper) := fun c hc =>
    forall_ascii (P := fun c => c.toLower = id c ↔ ¬ c.isUpper) (by decide) c (h c hc)
  rw [lowercase_eq_map h, ← forall₂_congr hchar, ← List.map_inj_left, List.map_id]

/-- A text is in uppercase if it has no small letter. -/
theorem uppercase_eq_self_iff (h : ∀ c ∈ cs, isAscii c) :
    uppercase cs = cs ↔ ∀ c ∈ cs, ¬ c.isLower := by
  have hchar : ∀ c ∈ cs, (c.toUpper = id c ↔ ¬ c.isLower) := fun c hc =>
    forall_ascii (P := fun c => c.toUpper = id c ↔ ¬ c.isLower) (by decide) c (h c hc)
  rw [uppercase_eq_map h, ← forall₂_congr hchar, ← List.map_inj_left, List.map_id]

theorem lowercaseWord_eq_map (h : ∀ c ∈ cs, isAscii c) :
    lowercaseWord cs = cs.map Char.toLower := by
  induction cs with
  | nil => rfl
  | cons c cs ih =>
    have hc : isAscii c := h c List.mem_cons_self
    cases cs with
    | nil =>
      have hsigma : c ≠ 'Σ' := by
        rintro rfl
        exact absurd hc (by decide)
      rw [lowercaseWord, if_neg hsigma, lowerChar_of_isAscii hc]
      rfl
    | cons d cs =>
      rw [lowercaseWord, lowerChar_of_isAscii hc, ih fun e he => h e (List.mem_cons_of_mem _ he)]
      · rfl
      · exact List.cons_ne_nil d cs

end SchemaCatalog.Text
