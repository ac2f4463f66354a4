import SchemaCatalog.Proofs.Boundaries

/-!
# Camel case

An underscore does no more than ask for a capital after it.  The `camelCase` of a text has none, and
underscores at an end of the text or beside another make no difference.  Within ASCII every other
character stays, recased by what stands before it, and doing it again changes nothing.

    '_' ∉ camelChars cs                                            (underscore_notMem_camelChars)
    Padded cs ds → camelChars ds = camelChars cs                            (Padded.camelChars_eq)
    (∀ c ∈ cs, isAscii c) → humps cs = camelChars cs                       (humps_eq_camelChars)
-/

namespace SchemaCatalog.Text

/-! ## Case conversion and the underscore

The tables move no other code point to 95, that of the underscore. -/

/-- The code points that the shift moves all come to lie below this one, or all above it. -/
def Shift.misses (s : Shift) (n : Nat) : Bool :=
  Int.ofNat s.stride.last + s.distance < n || n < Int.ofNat s.stride.first + s.distance

theorem Shift.move?_ne {table : List Shift} {k m n : Nat} (h : ∀ s ∈ table, s.misses n)
    (hn : 0 < n) (hmove : Shift.move? table k = some m) : m ≠ n := by
  obtain ⟨s, hs, rfl⟩ := Option.map_eq_some_iff.1 hmove
  have hmiss := h s (List.mem_of_find?_eq_some hs)
  have hcontains := List.find?_some hs
  simp only [misses, Bool.or_eq_true, decide_eq_true_eq] at hmiss
  simp only [Stride.contains, Bool.and_eq_true, decide_eq_true_eq] at hcontains
  show (Int.ofNat k + s.distance).toNat ≠ n
  simp only [Int.ofNat_eq_natCast] at hmiss ⊢
  omega

theorem eq_of_ofNat_eq_underscore {n : Nat} (h : Char.ofNat n = '_') : n = 95 := by
  by_cases hn : n.isValidChar
  · have hvalid : Char.ofNatAux n hn = '_' := (dif_pos hn).symm.trans h
    exact congrArg Char.toNat hvalid
  · cases (dif_neg hn).symm.trans h

theorem toLower_misses : ∀ s ∈ Table.toLower, s.misses 95 := by
  decide +kernel

theorem toUpper_misses : ∀ s ∈ Table.toUpper, s.misses 95 := by
  decide +kernel

theorem toLowerSeveral_misses : ∀ p ∈ Table.toLowerSeveral, 95 ∉ p.2 := by
  decide +kernel

theorem toUpperSeveral_misses : ∀ p ∈ Table.toUpperSeveral, 95 ∉ p.2 := by
  decide +kernel

section

variable {c : Char}

/-- The tables of a case conversion give no underscore for another character. -/
theorem underscore_notMem_converted {several : List (Nat × List Nat)} {shifts : List Shift}
    (hseveral : ∀ p ∈ several, 95 ∉ p.2) (hshifts : ∀ s ∈ shifts, s.misses 95) (hc : c ≠ '_') :
    '_' ∉ (match several.lookup c.toNat with
      | some ns => ns.map Char.ofNat
      | none => [((Shift.move? shifts c.toNat).map Char.ofNat).getD c]) := by
  intro hmem
  split at hmem
  · next ns hns =>
    obtain ⟨before, after, hsplit, -⟩ := List.lookup_eq_some_iff.1 hns
    obtain ⟨n, hn, heq⟩ := List.mem_map.1 hmem
    rw [eq_of_ofNat_eq_underscore heq] at hn
    refine hseveral (c.toNat, ns) ?_ hn
    rw [hsplit]
    exact List.mem_append_right _ List.mem_cons_self
  · rw [List.mem_singleton] at hmem
    cases hmove : Shift.move? shifts c.toNat with
    | none =>
      rw [hmove] at hmem
      exact hc hmem.symm
    | some n =>
      rw [hmove] at hmem
      exact Shift.move?_ne hshifts (by decide) hmove (eq_of_ofNat_eq_underscore hmem.symm)

theorem underscore_notMem_lowerChar (hc : c ≠ '_') : '_' ∉ lowerChar c := by
  by_cases hascii : isAscii c
  · rw [lowerChar_of_isAscii hascii, List.mem_singleton]
    exact fun h => hc ((Naming.toLower_eq_underscore c).1 h.symm)
  · rw [lowerChar, if_neg hascii]
    exact underscore_notMem_converted toLowerSeveral_misses toLower_misses hc

theorem underscore_notMem_upperChar (hc : c ≠ '_') : '_' ∉ upperChar c := by
  by_cases hascii : isAscii c
  · rw [upperChar_of_isAscii hascii, List.mem_singleton]
    intro h
    exact hc (forall_ascii (P := fun c => '_' = c.toUpper → c = '_') (by decide) c hascii h)
  · rw [upperChar, if_neg hascii]
    exact underscore_notMem_converted toUpperSeveral_misses toUpper_misses hc

end

end SchemaCatalog.Text

namespace SchemaCatalog.Naming

open Text

/-! ## No underscore is left -/

section

variable {s : List Char}

theorem underscore_notMem_upperFirst (h : '_' ∉ s) : '_' ∉ upperFirst s := by
  cases s with
  | nil => exact h
  | cons c s =>
    rw [List.mem_cons, not_or] at h
    rw [upperFirst, List.mem_append, not_or]
    exact ⟨underscore_notMem_upperChar (Ne.symm h.1), h.2⟩

theorem underscore_notMem_lowerFirst (h : '_' ∉ s) : '_' ∉ lowerFirst s := by
  cases s with
  | nil => exact h
  | cons c s =>
    rw [List.mem_cons, not_or] at h
    rw [lowerFirst, List.mem_append, not_or]
    exact ⟨underscore_notMem_lowerChar (Ne.symm h.1), h.2⟩

theorem underscore_notMem_camelChars (cs : List Char) : '_' ∉ camelChars cs := by
  apply underscore_notMem_lowerFirst
  intro hmem
  obtain ⟨s, hs, hmem⟩ := List.mem_flatMap.1 hmem
  refine underscore_notMem_upperFirst (fun hsep => ?_) hmem
  cases (mem_of_mem_segments hs hsep).2

end

/-! ## Underscores that separate nothing -/

/-- The text has underscores added, any number at either end and beside those that it has. -/
inductive Padded (cs : List Char) : List Char → Prop where
  | refl : Padded cs cs
  | front {ds : List Char} (h : Padded cs ds) : Padded cs ('_' :: ds)
  | back {ds : List Char} (h : Padded cs ds) : Padded cs (ds ++ ['_'])
  | beside {as bs : List Char} (h : Padded cs (as ++ '_' :: bs)) :
    Padded cs (as ++ '_' :: '_' :: bs)

section

variable {cs ds : List Char}

/-- The segments run together, cut at an underscore. -/
theorem flatMap_segments_append (as bs : List Char) :
    (segments (· == '_') (as ++ '_' :: bs)).flatMap upperFirst
      = (segments (· == '_') as).flatMap upperFirst
        ++ (segments (· == '_') bs).flatMap upperFirst := by
  rw [segments_append_cons rfl, List.flatMap_append]

theorem camelChars_cons_underscore (cs : List Char) : camelChars ('_' :: cs) = camelChars cs :=
  congrArg lowerFirst (flatMap_segments_append [] cs)

theorem camelChars_append_underscore (cs : List Char) :
    camelChars (cs ++ ['_']) = camelChars cs := by
  unfold camelChars
  rw [flatMap_segments_append]
  exact congrArg lowerFirst (List.append_nil _)

theorem camelChars_beside_underscore (as bs : List Char) :
    camelChars (as ++ '_' :: '_' :: bs) = camelChars (as ++ '_' :: bs) := by
  unfold camelChars
  rw [flatMap_segments_append, flatMap_segments_append]
  rfl

theorem Padded.camelChars_eq (h : Padded cs ds) : camelChars ds = camelChars cs := by
  induction h with
  | refl => rfl
  | front _ ih => exact (camelChars_cons_underscore _).trans ih
  | back _ ih => exact (camelChars_append_underscore _).trans ih
  | beside _ ih => exact (camelChars_beside_underscore _ _).trans ih

end

/-! ## Humps -/

/-- A character as it is written after `before`, which is given last character first: small at the
beginning, a capital after an underscore, and as it is everywhere else. -/
def humpAfter (before : List Char) (c : Char) : Char :=
  if before.all (· == '_') then c.toLower
  else if before.head? = some '_' then c.toUpper
  else c

/-- The characters of a text that stands after `before`, without the underscores. -/
def humpsAfter (before : List Char) : List Char → List Char
  | [] => []
  | c :: cs => (if c = '_' then [] else [humpAfter before c]) ++ humpsAfter (c :: before) cs

def humps (cs : List Char) : List Char :=
  humpsAfter [] cs

section

variable {cs before : List Char}

/-- Once there is another character, every segment that begins has a capital. -/
theorem humpsAfter_eq (h : ∀ c ∈ cs, isAscii c) (hbefore : ¬ before.all (· == '_')) :
    ∃ s rest, segments (· == '_') cs = s :: rest ∧ humpsAfter before cs
      = (if before.head? = some '_' then upperFirst s else s) ++ rest.flatMap upperFirst := by
  induction cs generalizing before with
  | nil => exact ⟨[], [], rfl, by split <;> rfl⟩
  | cons c cs ih =>
    rw [List.forall_mem_cons] at h
    have hstarted : ¬ (c :: before).all (· == '_') := fun hall =>
      hbefore (Bool.and_eq_true_iff.1 hall).2
    obtain ⟨s, rest, hsegments, heq⟩ := ih h.2 hstarted
    by_cases hc : c = '_'
    · -- a segment ends, and the next one is to begin
      subst hc
      refine ⟨[], s :: rest, congrArg ([] :: ·) hsegments, ?_⟩
      rw [humpsAfter, if_pos rfl, List.nil_append, heq, List.head?_cons, if_pos rfl]
      split <;> rfl
    · have hsep : ¬ (c == '_') := fun hsep => hc (beq_iff_eq.1 hsep)
      refine ⟨c :: s, rest, segments_cons_of_not hsep hsegments, ?_⟩
      have hhead : (c :: before).head? ≠ some '_' := fun hhead => hc (Option.some_inj.1 hhead)
      rw [humpsAfter, if_neg hc, heq, if_neg hhead, humpAfter, if_neg hbefore]
      split
      · rw [upperFirst_cons_of_isAscii h.1]
        rfl
      · rfl

/-- As long as there is none, the text has not begun. -/
theorem humpsAfter_eq_camelChars (h : ∀ c ∈ cs, isAscii c) (hbefore : before.all (· == '_')) :
    humpsAfter before cs = camelChars cs := by
  induction cs generalizing before with
  | nil => rfl
  | cons c cs ih =>
    rw [List.forall_mem_cons] at h
    by_cases hc : c = '_'
    · subst hc
      rw [humpsAfter, if_pos rfl, camelChars_cons_underscore]
      exact ih h.2 hbefore
    · have hsep : ¬ (c == '_') := fun hsep => hc (beq_iff_eq.1 hsep)
      have hstarted : ¬ (c :: before).all (· == '_') := fun hall =>
        hsep (Bool.and_eq_true_iff.1 hall).1
      obtain ⟨s, rest, hsegments, heq⟩ := humpsAfter_eq h.2 hstarted
      have hlonger : segments (· == '_') (c :: cs) = (c :: s) :: rest :=
        segments_cons_of_not hsep hsegments
      have hhead : (c :: before).head? ≠ some '_' := fun hhead => hc (Option.some_inj.1 hhead)
      calc humpsAfter before (c :: cs)
        _ = c.toLower :: (s ++ rest.flatMap upperFirst) := by
          rw [humpsAfter, if_neg hc, heq, if_neg hhead, humpAfter, if_pos hbefore,
            List.singleton_append]
        _ = lowerFirst (upperFirst (c :: s) ++ rest.flatMap upperFirst) := by
          rw [upperFirst_cons_of_isAscii h.1, List.cons_append,
            lowerFirst_cons_of_isAscii (isAscii_toUpper h.1), toLower_toUpper h.1]
        _ = camelChars (c :: cs) := by
          rw [camelChars, hlonger, List.flatMap_cons]

theorem humps_eq_camelChars (h : ∀ c ∈ cs, isAscii c) : humps cs = camelChars cs :=
  humpsAfter_eq_camelChars h rfl

end

/-! ## Doing it again -/

section

variable {cs : List Char}

theorem camelChars_of_notMem (h : '_' ∉ cs) : camelChars cs = lowerFirst (upperFirst cs) := by
  have hsep : ∀ c ∈ cs, ¬ (c == '_') := fun c hc heq => h (beq_iff_eq.1 heq ▸ hc)
  rw [camelChars, segments_of_forall hsep, List.flatMap_singleton]

theorem lowerFirst_upperFirst_lowerFirst (h : ∀ c ∈ cs, isAscii c) :
    lowerFirst (upperFirst (lowerFirst cs)) = lowerFirst cs := by
  cases cs with
  | nil => rfl
  | cons c cs =>
    have hc : isAscii c := h c List.mem_cons_self
    have hlower : isAscii c.toLower := (isAscii_toLower c).trans hc
    rw [lowerFirst_cons_of_isAscii hc, upperFirst_cons_of_isAscii hlower,
      lowerFirst_cons_of_isAscii (isAscii_toUpper hlower), toLower_toUpper hlower,
      toLower_toLower hc]

theorem camelChars_camelChars (h : ∀ c ∈ cs, isAscii c) :
    camelChars (camelChars cs) = camelChars cs := by
  rw [camelChars_of_notMem (underscore_notMem_camelChars cs)]
  apply lowerFirst_upperFirst_lowerFirst
  intro c hc
  obtain ⟨s, hs, hc⟩ := List.mem_flatMap.1 hc
  have hascii : ∀ d ∈ s, isAscii d := fun d hd => h d (mem_of_mem_segments hs hd).1
  exact forall_mem_upperFirst (fun d hd => ⟨hd, isAscii_toUpper hd⟩) hascii c hc

end

/-! ## The camel case of a text -/

/-- The `camelCase` of a text has no underscore, and underscores that separate nothing make no
difference to it.  In ASCII it has the other characters of the text, recased where a segment begins,
and it is its own `camelCase`. -/
theorem camelCase_normalizes :
    (∀ s : String, '_' ∉ (camelCase s).toList) ∧
    (∀ s t : String, Padded s.toList t.toList → camelCase t = camelCase s) ∧
    ∀ s : String, (∀ c ∈ s.toList, isAscii c) →
      camelCase s = String.ofList (humps s.toList) ∧ camelCase (camelCase s) = camelCase s := by
  refine ⟨fun s => ?none, fun s t h => ?padded, fun s h => ⟨?humps, ?again⟩⟩
  case none =>
    rw [camelCase, String.toList_ofList]
    exact underscore_notMem_camelChars s.toList
  case padded => exact congrArg String.ofList h.camelChars_eq
  case humps => exact congrArg String.ofList (humps_eq_camelChars h).symm
  case again =>
    rw [camelCase, camelCase, String.toList_ofList, camelChars_camelChars h]

/-- The identifier of a user keeps its capitals, however it is padded. -/
theorem userIDName_camelCase :
    Padded "user_ID_name".toList "_user__ID_name_".toList ∧
    (∀ c ∈ "_user__ID_name_".toList, isAscii c) ∧
    camelCase "_user__ID_name_" = camelCase "user_ID_name" ∧
    camelCase "_user__ID_name_" = "userIDName" ∧ camelCase "userIDName" = "userIDName" := by
  have hpadded : Padded "user_ID_name".toList "_user__ID_name_".toList :=
    .front (.back (@Padded.beside _ "user".toList "ID_name".toList .refl))
  have hascii : ∀ c ∈ "_user__ID_name_".toList, isAscii c := List.all_eq_true.1 (by decide)
  have hhumps : String.ofList (humps "_user__ID_name_".toList) = "userIDName" := by decide
  have hcamel := camelCase_normalizes.2.2 "_user__ID_name_" hascii
  rw [hhumps] at hcamel
  refine ⟨hpadded, hascii, camelCase_normalizes.2.1 _ _ hpadded, hcamel.1, ?_⟩
  rw [← hcamel.1]
  exact hcamel.2

-- outside ASCII it may take two steps
example : camelChars ['ẞ'] = ['ß'] ∧ camelChars ['ß'] = ['s', 'S'] := by decide +kernel

end SchemaCatalog.Naming
