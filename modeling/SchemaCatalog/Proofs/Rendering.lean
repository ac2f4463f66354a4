import Mathlib.Data.Nat.Digits.Defs
import SchemaCatalog.Declaration.Value
import SchemaCatalog.Proofs.Ascii

/-!
# Values can be told apart as written

A value as written begins with a quote, a bracket or a token, and what it begins with says where it
ends: a string at the first quote without a backslash, an array and a call at their own bracket, and
everything else with its token.  So a text says which value it begins with, even where it goes on.

    cs.flatMap escapeChar ++ '"' :: r = ds.flatMap escapeChar ++ '"' :: s → cs = ds ∧ r = s
                                                                  (Text.escaped_append_inj)
    Follows r → Follows s → v.chars ++ r = w.chars ++ s → v = w ∧ r = s   (Value.chars_append_inj)
    v.text = w.text ↔ v = w                                               (Value.text_inj)
-/

namespace SchemaCatalog

/-! ## Stretches -/

/-- Two stretches of one class of characters are equal if what follows them begins outside the
class: then neither can go on where the other has ended. -/
theorem append_inj_of_stops {p : Char → Bool} {as bs r s : List Char} (has : ∀ c ∈ as, p c)
    (hbs : ∀ c ∈ bs, p c) (hr : ∀ c ∈ r.head?, p c = false) (hs : ∀ c ∈ s.head?, p c = false)
    (h : as ++ r = bs ++ s) : as = bs ∧ r = s := by
  induction as generalizing bs with
  | nil =>
    cases bs with
    | nil => exact ⟨rfl, h⟩
    | cons b bs =>
      have hb : p b = false := hr b (by rw [List.nil_append] at h; simp [h])
      rw [hbs b List.mem_cons_self] at hb
      cases hb
  | cons a as ih =>
    cases bs with
    | nil =>
      have ha : p a = false := hs a (by rw [List.nil_append] at h; simp [← h])
      rw [has a List.mem_cons_self] at ha
      cases ha
    | cons b bs =>
      obtain ⟨rfl, htail⟩ := List.cons.inj h
      obtain ⟨rfl, rfl⟩ := ih (fun c hc => has c (List.mem_cons_of_mem _ hc))
        (fun c hc => hbs c (List.mem_cons_of_mem _ hc)) htail
      exact ⟨rfl, rfl⟩

/-! ## Code points -/

theorem digitChar_inj : ∀ j < 16, ∀ k < 16, Nat.digitChar j = Nat.digitChar k → j = k := by
  decide

theorem digitChar_ne_brace : ∀ k < 16, Nat.digitChar k ≠ '}' := by
  decide

theorem toDigits_ne_brace {n : Nat} {c : Char} (h : c ∈ Nat.toDigits 16 n) : c ≠ '}' := by
  induction n using Nat.strongRecOn with
  | ind n ih =>
    by_cases hn : n < 16
    · rw [Nat.toDigits_of_lt_base hn, List.mem_singleton] at h
      subst h
      exact digitChar_ne_brace n hn
    · rw [Nat.toDigits_of_base_le (by omega) (by omega), List.mem_append] at h
      rcases h with h | h
      · exact ih (n / 16) (by omega) h
      · rw [List.mem_singleton.1 h]
        exact digitChar_ne_brace (n % 16) (Nat.mod_lt _ (by omega))

/-- Numbers are told apart by their hexadecimal digits. -/
theorem toDigits_inj {m n : Nat} (h : Nat.toDigits 16 m = Nat.toDigits 16 n) : m = n := by
  have hlong : ∀ k, ¬ k < 16 → 1 < (Nat.toDigits 16 k).length := by
    intro k hk
    rw [Nat.toDigits_of_base_le (by omega) (by omega), List.length_append, List.length_singleton]
    have hpos : 0 < (Nat.toDigits 16 (k / 16)).length := Nat.length_toDigits_pos
    omega
  induction m using Nat.strongRecOn generalizing n with
  | ind m ih =>
    have hlength := congrArg List.length h
    by_cases hm : m < 16
    · by_cases hn : n < 16
      · rw [Nat.toDigits_of_lt_base hm, Nat.toDigits_of_lt_base hn] at h
        exact digitChar_inj m hm n hn (List.singleton_inj.1 h)
      · have := hlong n hn
        rw [Nat.toDigits_of_lt_base hm, List.length_singleton] at hlength
        omega
    · by_cases hn : n < 16
      · have := hlong m hm
        rw [Nat.toDigits_of_lt_base hn, List.length_singleton] at hlength
        omega
      · rw [Nat.toDigits_of_base_le (n := m) (by omega) (by omega),
          Nat.toDigits_of_base_le (n := n) (by omega) (by omega)] at h
        obtain ⟨hhigh, hlow⟩ := List.append_inj' h rfl
        have hdiv : m / 16 = n / 16 := ih (m / 16) (by omega) hhigh
        have hmod : m % 16 = n % 16 := digitChar_inj _ (Nat.mod_lt _ (by omega)) _
          (Nat.mod_lt _ (by omega)) (List.singleton_inj.1 hlow)
        omega

/-! ## Escapes -/

namespace Text

/-- The characters that have a name of their own after a backslash. -/
def namedEscapes : List (Char × Char) :=
  [('\x00', '0'), ('\t', 't'), ('\r', 'r'), ('\n', 'n'), ('"', '"'), ('\\', '\\')]

/-- The ways of writing a character between quotes. -/
inductive Escaped (c : Char) : List Char → Prop where
  | named {name : Char} (h : (c, name) ∈ namedEscapes) : Escaped c ['\\', name]
  | codePoint : Escaped c ('\\' :: 'u' :: '{' :: (Nat.toDigits 16 c.toNat ++ ['}']))
  | plain (hquote : c ≠ '"') (hslash : c ≠ '\\') : Escaped c [c]

theorem escaped_escapeChar (c : Char) : Escaped c (escapeChar c) := by
  unfold escapeChar
  split
  case h_7 _ _ _ _ hquote hslash =>
    split
    · exact .codePoint
    · exact .plain hquote hslash
  all_goals exact .named (by decide)

theorem namedEscapes_inj : ∀ e ∈ namedEscapes, ∀ f ∈ namedEscapes, e.2 = f.2 → e = f := by
  decide

theorem namedEscapes_ne_u : ∀ e ∈ namedEscapes, e.2 ≠ 'u' := by
  decide

/-- A written character says what it stands for and where it ends. -/
theorem Escaped.append_inj {c d : Char} {as bs r s : List Char} (hc : Escaped c as)
    (hd : Escaped d bs) (h : as ++ r = bs ++ s) : c = d ∧ r = s := by
  cases hc with
  | named hc =>
    cases hd with
    | named hd =>
      simp only [List.cons_append, List.nil_append, List.cons.injEq, true_and] at h
      exact ⟨congrArg Prod.fst (namedEscapes_inj _ hc _ hd h.1), h.2⟩
    | codePoint =>
      simp only [List.cons_append, List.cons.injEq, true_and] at h
      exact absurd h.1 (namedEscapes_ne_u _ hc)
    | plain hquote hslash => exact absurd (List.cons.inj h).1.symm hslash
  | codePoint =>
    cases hd with
    | named hd =>
      simp only [List.cons_append, List.cons.injEq, true_and] at h
      exact absurd h.1.symm (namedEscapes_ne_u _ hd)
    | codePoint =>
      simp only [List.cons_append, List.append_assoc, List.nil_append, List.cons.injEq,
        true_and] at h
      obtain ⟨hdigits, htail⟩ := append_inj_of_stops (p := (· != '}'))
        (fun _ hc => bne_iff_ne.2 (toDigits_ne_brace hc))
        (fun _ hc => bne_iff_ne.2 (toDigits_ne_brace hc)) (by simp) (by simp) h
      exact ⟨Char.toNat_inj.1 (toDigits_inj hdigits), (List.cons.inj htail).2⟩
    | plain hquote hslash => exact absurd (List.cons.inj h).1.symm hslash
  | plain hquote hslash =>
    cases hd with
    | named | codePoint => exact absurd (List.cons.inj h).1 hslash
    | plain => exact List.cons.inj h

/-- What is written for a character does not begin like the end of a string. -/
theorem Escaped.ne_quote {c : Char} {as r s : List Char} (hc : Escaped c as) :
    as ++ r ≠ '"' :: s := by
  intro h
  cases hc with
  | named | codePoint => exact absurd (List.cons.inj h).1 (by decide)
  | plain hquote => exact hquote (List.cons.inj h).1

/-- The first quote without a backslash ends a string. -/
theorem escaped_append_inj {cs ds r s : List Char}
    (h : cs.flatMap escapeChar ++ '"' :: r = ds.flatMap escapeChar ++ '"' :: s) :
    cs = ds ∧ r = s := by
  induction cs generalizing ds with
  | nil =>
    cases ds with
    | nil => exact ⟨rfl, (List.cons.inj h).2⟩
    | cons d ds =>
      rw [List.flatMap_cons, List.append_assoc] at h
      exact absurd h.symm (escaped_escapeChar d).ne_quote
  | cons c cs ih =>
    cases ds with
    | nil =>
      rw [List.flatMap_cons, List.append_assoc] at h
      exact absurd h (escaped_escapeChar c).ne_quote
    | cons d ds =>
      rw [List.flatMap_cons, List.flatMap_cons, List.append_assoc, List.append_assoc] at h
      obtain ⟨rfl, htail⟩ := (escaped_escapeChar c).append_inj (escaped_escapeChar d) h
      obtain ⟨rfl, rfl⟩ := ih htail
      exact ⟨rfl, rfl⟩

end Text

/-! ## Tokens -/

namespace Value

open Text

/-- The identifiers: letters, digits and underscores, and no digit first. -/
def IsIdentifier (name : String) : Prop :=
  ∃ c cs, name.toList = c :: cs ∧ (c.isAlpha ∨ c = '_') ∧ ∀ d ∈ cs, d.isAlphanum ∨ d = '_'

/-- The spellings of numbers: letters and digits of any script, with points and signs, and a digit
or a minus first. -/
def IsNumeral (spelling : String) : Prop :=
  ∃ c cs, spelling.toList = c :: cs ∧ (isNumeric c ∨ c = '-') ∧
    ∀ d ∈ cs, isAlphanumeric d ∨ d ∈ ['.', '+', '-']

/-- The values that a schema can be made to hold by writing them: identifiers are identifiers and
not the words for the booleans, and numbers look like numbers.  Strings are arbitrary. -/
inductive WellSpelled : Value → Prop where
  | ident {name : String} (h : IsIdentifier name) (htrue : name ≠ "true")
      (hfalse : name ≠ "false") : WellSpelled (.ident name)
  | string (content : String) : WellSpelled (.string content)
  | number {spelling : String} (h : IsNumeral spelling) : WellSpelled (.number spelling)
  | boolean (b : Bool) : WellSpelled (.boolean b)
  | array {items : List Value} (h : ∀ v ∈ items, WellSpelled v) : WellSpelled (.array items)
  | call {function : String} {args : List Value} (h : IsIdentifier function)
      (hargs : ∀ v ∈ args, WellSpelled v) : WellSpelled (.call function args)

/-- The characters of identifiers, numbers and booleans. -/
def isTokenChar (c : Char) : Bool :=
  isAlphanumeric c || ['_', '.', '+', '-'].contains c

/-- What a value as written begins with. -/
inductive Lead where
  | token (cs : List Char)
  | quote
  | bracket

def Lead.chars : Lead → List Char
  | .token cs => cs
  | .quote => ['"']
  | .bracket => ['[']

def lead : Value → Lead
  | .ident name => .token name.toList
  | .string _ => .quote
  | .number spelling => .token spelling.toList
  | .boolean b => .token (if b then "true" else "false").toList
  | .array _ => .bracket
  | .call function _ => .token function.toList

/-- The rest of a value as written. -/
def afterLead : Value → List Char
  | .ident _ | .number _ | .boolean _ => []
  | .string content => content.toList.flatMap escapeChar ++ ['"']
  | .array items => charsList items ++ [']']
  | .call _ args => '(' :: charsList args ++ [')']

theorem chars_eq (v : Value) : v.chars = v.lead.chars ++ v.afterLead := by
  cases v with
  | boolean b => cases b <;> simp [chars, lead, Lead.chars, afterLead]
  | _ => simp [chars, lead, Lead.chars, afterLead, quoteChars]

/-! ## What a value begins with -/

section

variable {v w : Value} {r s : List Char}

theorem isTokenChar_of_isAlphanumeric {c : Char} (h : isAlphanumeric c) : isTokenChar c := by
  simp [isTokenChar, h]

theorem IsIdentifier.isToken {name : String} (h : IsIdentifier name) :
    name.toList ≠ [] ∧ ∀ c ∈ name.toList, isTokenChar c := by
  obtain ⟨c, cs, hname, hc, hcs⟩ := h
  rw [hname]
  refine ⟨List.cons_ne_nil c cs, List.forall_mem_cons.2 ⟨?_, fun d hd => ?_⟩⟩
  · rcases hc with hc | rfl
    · exact isTokenChar_of_isAlphanumeric (isAlphanumeric_of_isAlphanum (isAlphanum_of_isAlpha hc))
    · decide
  · rcases hcs d hd with hd | rfl
    · exact isTokenChar_of_isAlphanumeric (isAlphanumeric_of_isAlphanum hd)
    · decide

theorem IsNumeral.isToken {spelling : String} (h : IsNumeral spelling) :
    spelling.toList ≠ [] ∧ ∀ c ∈ spelling.toList, isTokenChar c := by
  obtain ⟨c, cs, hspelling, hc, hcs⟩ := h
  rw [hspelling]
  refine ⟨List.cons_ne_nil c cs, List.forall_mem_cons.2 ⟨?_, fun d hd => ?_⟩⟩
  · rcases hc with hc | rfl
    · exact isTokenChar_of_isAlphanumeric (Bool.or_eq_true_iff.2 (.inr hc))
    · decide
  · rcases hcs d hd with hd | hd
    · exact isTokenChar_of_isAlphanumeric hd
    · simp only [isTokenChar, Bool.or_eq_true, List.contains_iff_mem]
      exact .inr (List.mem_cons_of_mem _ hd)

theorem isToken_of_lead {cs : List Char} (hv : v.WellSpelled) (h : v.lead = .token cs) :
    cs ≠ [] ∧ ∀ c ∈ cs, isTokenChar c := by
  cases hv with
  | ident hname => cases h; exact hname.isToken
  | number hspelling => cases h; exact hspelling.isToken
  | boolean b => cases h; cases b <;> exact ⟨by decide, List.all_eq_true.1 (by decide)⟩
  | call hname => cases h; exact hname.isToken
  | string | array => cases h

/-- No identifier is a number: an identifier begins with a letter or an underscore. -/
theorem IsIdentifier.not_isNumeral {name : String} (h : IsIdentifier name) : ¬ IsNumeral name := by
  rintro ⟨d, ds, hds, hd, -⟩
  obtain ⟨c, cs, hcs, hc, -⟩ := h
  obtain ⟨rfl, -⟩ := List.cons.inj (hcs.symm.trans hds)
  rcases hc with hc | rfl
  · have halnum : c.isAlphanum := isAlphanum_of_isAlpha hc
    rcases hd with hd | rfl
    · rw [isNumeric, if_pos (isAscii_of_isAlphanum halnum)] at hd
      exact not_isDigit_of_isAlpha hc hd
    · exact absurd hc (by decide)
  · exact absurd hd (by decide)

/-- What may stand after a value: nothing, a comma, or the end of what it is part of. -/
def Follows (r : List Char) : Prop :=
  ∀ c ∈ r.head?, c ∈ [',', ']', ')']

/-- No value begins like what may follow one. -/
theorem of_mem_follow {c : Char} (h : c ∈ [',', ']', ')']) :
    isTokenChar c = false ∧ c ≠ '"' ∧ c ≠ '[' := by
  simp only [List.mem_cons, List.not_mem_nil, or_false] at h
  rcases h with rfl | rfl | rfl <;> decide

theorem Follows.stops (h : Follows r) : ∀ c ∈ r.head?, isTokenChar c = false :=
  fun c hc => (of_mem_follow (h c hc)).1

theorem afterLead_stops {cs : List Char} (h : v.lead = .token cs) (hr : Follows r) :
    ∀ c ∈ (v.afterLead ++ r).head?, isTokenChar c = false := by
  cases v with
  | ident | number | boolean => exact hr.stops
  | call function args =>
    intro c hc
    cases hc
    decide
  | string | array => cases h

/-- A token does not begin like what is none. -/
theorem token_append_ne {cs x y : List Char} {c : Char} (hcs : cs ≠ [] ∧ ∀ c ∈ cs, isTokenChar c)
    (hc : isTokenChar c = false) : cs ++ x ≠ c :: y := by
  intro h
  cases cs with
  | nil => exact hcs.1 rfl
  | cons d ds =>
    have hd : isTokenChar d := hcs.2 d List.mem_cons_self
    rw [(List.cons.inj h).1, hc] at hd
    cases hd

/-- A text says what the value at its beginning begins with. -/
theorem lead_append_inj (hv : v.WellSpelled) (hw : w.WellSpelled) (hr : Follows r)
    (hs : Follows s) (h : v.chars ++ r = w.chars ++ s) :
    v.lead = w.lead ∧ v.afterLead ++ r = w.afterLead ++ s := by
  rw [chars_eq, chars_eq, List.append_assoc, List.append_assoc] at h
  cases hvl : v.lead with
  | token cs =>
    have hcs := isToken_of_lead hv hvl
    cases hwl : w.lead with
    | token ds =>
      rw [hvl, hwl] at h
      obtain ⟨rfl, htail⟩ := append_inj_of_stops hcs.2 (isToken_of_lead hw hwl).2
        (afterLead_stops hvl hr) (afterLead_stops hwl hs) h
      exact ⟨rfl, htail⟩
    | quote | bracket =>
      rw [hvl, hwl] at h
      exact absurd h (token_append_ne hcs (by decide))
  | quote | bracket =>
    cases hwl : w.lead with
    | token ds =>
      rw [hvl, hwl] at h
      exact absurd h.symm (token_append_ne (isToken_of_lead hw hwl) (by decide))
    | quote | bracket =>
      rw [hvl, hwl] at h
      first
        | exact ⟨rfl, (List.cons.inj h).2⟩
        | exact absurd (List.cons.inj h).1 (by decide)

theorem IsNumeral.ne_boolean {spelling : String} (h : IsNumeral spelling) (b : Bool) :
    spelling ≠ if b then "true" else "false" := by
  rintro rfl
  obtain ⟨c, cs, hcs, hc, -⟩ := h
  cases b <;> cases hcs <;> exact absurd hc (by decide)

/-- Values of one token are told apart by it. -/
theorem eq_of_lead_eq (hv : v.WellSpelled) (hw : w.WellSpelled) (h : v.lead = w.lead)
    (hvnil : v.afterLead = []) (hwnil : w.afterLead = []) : v = w := by
  have hspelling : ∀ {a b : String}, Lead.token a.toList = .token b.toList → a = b :=
    fun h => String.toList_inj.1 (Lead.token.inj h)
  cases hv with
  | ident hname htrue hfalse =>
    cases hw with
    | ident => rw [hspelling h]
    | number hnumeral => exact absurd (hspelling h ▸ hnumeral) hname.not_isNumeral
    | boolean b => cases b <;> [exact absurd (hspelling h) hfalse; exact absurd (hspelling h) htrue]
    | string | array | call => simp [afterLead] at hwnil
  | number hnumeral =>
    cases hw with
    | ident hname => exact absurd (hspelling h ▸ hnumeral) hname.not_isNumeral
    | number => rw [hspelling h]
    | boolean b => exact absurd (hspelling h) (hnumeral.ne_boolean b)
    | string | array | call => simp [afterLead] at hwnil
  | boolean b =>
    cases hw with
    | ident _ htrue hfalse =>
      cases b <;> [exact absurd (hspelling h).symm hfalse; exact absurd (hspelling h).symm htrue]
    | number hnumeral => exact absurd (hspelling h).symm (hnumeral.ne_boolean b)
    | boolean b' =>
      have hb := hspelling h
      cases b <;> cases b' <;> first | rfl | exact absurd hb (by decide)
    | string | array | call => simp [afterLead] at hwnil
  | string | array | call => simp [afterLead] at hvnil

theorem exists_token_of_afterLead_eq_nil (h : v.afterLead = []) : ∃ cs, v.lead = .token cs := by
  cases v with
  | ident | number | boolean => exact ⟨_, rfl⟩
  | string | array | call => simp [afterLead] at h

/-- A value of one token ends where the token does: a bracket would make it the name of a call. -/
theorem token_chars_append_inj (hv : v.WellSpelled) (hw : w.WellSpelled) (hr : Follows r)
    (hs : Follows s) (hnil : v.afterLead = []) (h : v.chars ++ r = w.chars ++ s) :
    v = w ∧ r = s := by
  obtain ⟨hlead, hafter⟩ := lead_append_inj hv hw hr hs h
  rw [hnil, List.nil_append] at hafter
  have hwnil : w.afterLead = [] := by
    cases w with
    | ident | number | boolean => rfl
    | call function args =>
      have hopen : '(' ∈ [',', ']', ')'] := hr '(' (by rw [hafter]; rfl)
      exact absurd hopen (by decide)
    | string | array =>
      obtain ⟨cs, hcs⟩ := exists_token_of_afterLead_eq_nil hnil
      rw [hcs] at hlead
      cases hlead
  rw [hwnil, List.nil_append] at hafter
  exact ⟨eq_of_lead_eq hv hw hlead hnil hwnil, hafter⟩

end

/-! ## Values in a text -/

/-- The characters after an item of a list: none after the last item, else a comma, a blank and the
items that follow. -/
def afterItem : List Value → List Char
  | [] => []
  | v :: vs => ',' :: ' ' :: charsList (v :: vs)

theorem charsList_cons (v : Value) (vs : List Value) :
    charsList (v :: vs) = v.chars ++ afterItem vs := by
  cases vs <;> simp [charsList, afterItem]

theorem mem_follow {close : Char} (hclose : close = ']' ∨ close = ')') :
    close ∈ [',', ']', ')'] := by
  rcases hclose with rfl | rfl <;> decide

theorem follows_afterItem {close : Char} (hclose : close = ']' ∨ close = ')') (vs : List Value)
    (r : List Char) : Follows (afterItem vs ++ close :: r) := by
  intro c hc
  cases vs with
  | nil =>
    cases hc
    exact mem_follow hclose
  | cons v vs =>
    cases hc
    decide

/-- After equal items the lists go on alike. -/
theorem append_close_of_afterItem {close : Char} (hclose : close = ']' ∨ close = ')')
    {vs ws : List Value} {r s : List Char}
    (h : afterItem vs ++ close :: r = afterItem ws ++ close :: s) :
    charsList vs ++ close :: r = charsList ws ++ close :: s := by
  have hcomma : close ≠ ',' := by rcases hclose with rfl | rfl <;> decide
  cases vs with
  | nil =>
    cases ws with
    | nil => exact h
    | cons w ws => exact absurd (List.cons.inj h).1 hcomma
  | cons v vs =>
    cases ws with
    | nil => exact absurd (List.cons.inj h).1.symm hcomma
    | cons w ws => exact (List.cons.inj (List.cons.inj h).2).2

/-- What is written for a value does not begin like what may follow one. -/
theorem chars_append_ne {v : Value} {r s : List Char} {c : Char} (hv : v.WellSpelled)
    (hc : c ∈ [',', ']', ')']) : v.chars ++ r ≠ c :: s := by
  rw [chars_eq, List.append_assoc]
  obtain ⟨htoken, hquote, hbracket⟩ := of_mem_follow hc
  cases hlead : v.lead with
  | token cs => exact token_append_ne (isToken_of_lead hv hlead) htoken
  | quote => exact fun h => hquote (List.cons.inj h).1.symm
  | bracket => exact fun h => hbracket (List.cons.inj h).1.symm

mutual

/-- A text with a value at its beginning says which value it is and where it ends. -/
theorem chars_append_inj : ∀ (v : Value) {w : Value} {r s : List Char}, v.WellSpelled →
    w.WellSpelled → Follows r → Follows s → v.chars ++ r = w.chars ++ s → v = w ∧ r = s
  | .ident _, _, _, _, hv, hw, hr, hs, h => token_chars_append_inj hv hw hr hs rfl h
  | .number _, _, _, _, hv, hw, hr, hs, h => token_chars_append_inj hv hw hr hs rfl h
  | .boolean _, _, _, _, hv, hw, hr, hs, h => token_chars_append_inj hv hw hr hs rfl h
  | .string content, w, r, s, hv, hw, hr, hs, h => by
    obtain ⟨hlead, hafter⟩ := lead_append_inj hv hw hr hs h
    cases w <;> cases hlead
    rw [afterLead, afterLead, List.append_assoc, List.append_assoc] at hafter
    obtain ⟨hcontent, rfl⟩ := escaped_append_inj hafter
    exact ⟨congrArg Value.string (String.toList_inj.1 hcontent), rfl⟩
  | .array items, w, r, s, .array hitems, hw, hr, hs, h => by
    obtain ⟨hlead, hafter⟩ := lead_append_inj (.array hitems) hw hr hs h
    cases hw <;> cases hlead
    next hitems' =>
      rw [afterLead, afterLead, List.append_assoc, List.append_assoc] at hafter
      obtain ⟨rfl, rfl⟩ := charsList_append_inj items (.inl rfl) hitems hitems' hafter
      exact ⟨rfl, rfl⟩
  | .call function args, w, r, s, .call hname hargs, hw, hr, hs, h => by
    by_cases hwnil : w.afterLead = []
    · obtain ⟨rfl, rfl⟩ := token_chars_append_inj hw (.call hname hargs) hs hr hwnil h.symm
      exact ⟨rfl, rfl⟩
    · obtain ⟨hlead, hafter⟩ := lead_append_inj (.call hname hargs) hw hr hs h
      cases hw with
      | ident | number | boolean => exact absurd rfl hwnil
      | string | array => cases hlead
      | call hname' hargs' =>
        obtain rfl := String.toList_inj.1 (Lead.token.inj hlead)
        rw [afterLead, afterLead, List.cons_append, List.cons_append, List.append_assoc,
          List.append_assoc] at hafter
        obtain ⟨rfl, rfl⟩ :=
          charsList_append_inj args (.inr rfl) hargs hargs' (List.cons.inj hafter).2
        exact ⟨rfl, rfl⟩

/-- The same for the values of a list up to the bracket that closes it. -/
theorem charsList_append_inj : ∀ (vs : List Value) {ws : List Value} {r s : List Char}
    {close : Char}, close = ']' ∨ close = ')' → (∀ v ∈ vs, v.WellSpelled) →
    (∀ w ∈ ws, w.WellSpelled) → charsList vs ++ close :: r = charsList ws ++ close :: s →
    vs = ws ∧ r = s
  | [], [], _, _, _, _, _, _, h => ⟨rfl, (List.cons.inj h).2⟩
  | [], w :: ws, _, _, _, hclose, _, hws, h => by
    rw [charsList_cons, List.append_assoc] at h
    exact absurd h.symm (chars_append_ne (hws w List.mem_cons_self) (mem_follow hclose))
  | v :: vs, [], _, _, _, hclose, hvs, _, h => by
    rw [charsList_cons, List.append_assoc] at h
    exact absurd h (chars_append_ne (hvs v List.mem_cons_self) (mem_follow hclose))
  | v :: vs, w :: ws, r, s, close, hclose, hvs, hws, h => by
    rw [charsList_cons, charsList_cons, List.append_assoc, List.append_assoc] at h
    obtain ⟨rfl, htail⟩ := chars_append_inj v (hvs v List.mem_cons_self)
      (hws w List.mem_cons_self) (follows_afterItem hclose vs r) (follows_afterItem hclose ws s) h
    have hitems : charsList vs ++ close :: r = charsList ws ++ close :: s :=
      append_close_of_afterItem hclose htail
    obtain ⟨rfl, rfl⟩ := charsList_append_inj vs hclose
      (fun v hv => hvs v (List.mem_cons_of_mem _ hv))
      (fun w hw => hws w (List.mem_cons_of_mem _ hw)) hitems
    exact ⟨rfl, rfl⟩

end

/-- Two values are written alike only if they are one value. -/
theorem text_inj (v w : Value) (hv : v.WellSpelled) (hw : w.WellSpelled) :
    v.text = w.text ↔ v = w := by
  refine ⟨fun h => ?_, congrArg text⟩
  have hnothing : Follows [] := by simp [Follows]
  have hchars : v.chars = w.chars := String.ofList_injective h
  exact (chars_append_inj v hv hw hnothing hnothing (by rw [hchars])).1

/-- Quotes, commas and brackets in a string do not make one argument look like two. -/
theorem quotedArguments_apart :
    (call "f" [string "a\", [b", number "-1"]).WellSpelled ∧
      (call "f" [string "a", array [ident "b", number "-1"]]).WellSpelled ∧
      (call "f" [string "a\", [b", number "-1"]).text
        ≠ (call "f" [string "a", array [ident "b", number "-1"]]).text := by
  have hf : IsIdentifier "f" := ⟨'f', [], rfl, by decide, nofun⟩
  have hb : IsIdentifier "b" := ⟨'b', [], rfl, by decide, nofun⟩
  have hnumeral : IsNumeral "-1" :=
    ⟨'-', ['1'], rfl, by decide, List.forall_mem_singleton.2 (by decide)⟩
  have hone : (call "f" [string "a\", [b", number "-1"]).WellSpelled :=
    .call hf (List.forall_mem_cons.2 ⟨.string _, List.forall_mem_singleton.2 (.number hnumeral)⟩)
  have htwo : (call "f" [string "a", array [ident "b", number "-1"]]).WellSpelled := by
    refine .call hf (List.forall_mem_cons.2 ⟨.string _, List.forall_mem_singleton.2 (.array ?_)⟩)
    exact List.forall_mem_cons.2
      ⟨.ident hb (by decide) (by decide), List.forall_mem_singleton.2 (.number hnumeral)⟩
  exact ⟨hone, htwo, (text_inj _ _ hone htwo).not.2 (by decide)⟩

end Value

end SchemaCatalog
