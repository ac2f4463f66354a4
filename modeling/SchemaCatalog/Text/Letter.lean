import SchemaCatalog.Text.Table.Alphabetic
import SchemaCatalog.Text.Table.Numeric
import SchemaCatalog.Text.Table.Mark
import SchemaCatalog.Text.Table.LetterCase

/-!
# Classes of characters

Letters, numbers and letter case over all of Unicode.  Below 128 each class is given by the ranges
of core's `Char`, so that it can be reasoned about without a table; above, by the tables.

* `isAlphabetic_of_isAlpha`, `isNumeric_of_isDigit`, `isLowercase_of_isLower`,
  `isUppercase_of_isUpper`: the classes of ASCII are in the classes here.
-/

namespace SchemaCatalog.Text

/-- Whether the character is one of the first 128. -/
def isAscii (c : Char) : Bool :=
  c.toNat < 128

/-- Letters and whatever else is used as one. -/
def isAlphabetic (c : Char) : Bool :=
  if isAscii c then c.isAlpha else Table.alphabetic.any (·.contains c.toNat)

/-- Decimal digits of any script. -/
def isDecimalDigit (c : Char) : Bool :=
  if isAscii c then c.isDigit else Table.decimalDigit.any (·.contains c.toNat)

/-- Decimal digits, numerals written with letters, and other numbers such as `²`. -/
def isNumeric (c : Char) : Bool :=
  if isAscii c then c.isDigit
  else isDecimalDigit c || Table.otherNumber.any (·.contains c.toNat)

def isAlphanumeric (c : Char) : Bool :=
  isAlphabetic c || isNumeric c

/-- Letters, decimal digits, combining marks, connecting punctuation and joiners. -/
def isWordChar (c : Char) : Bool :=
  if isAscii c then c.isAlphanum || c == '_'
  else isAlphabetic c || isDecimalDigit c || Table.mark.any (·.contains c.toNat)
    || Table.connector.any (·.contains c.toNat)

def isLowercase (c : Char) : Bool :=
  if isAscii c then c.isLower else Table.lowercase.any (·.contains c.toNat)

def isUppercase (c : Char) : Bool :=
  if isAscii c then c.isUpper else Table.uppercase.any (·.contains c.toNat)

/-- Letters that have case: lowercase, uppercase or titlecase. -/
def isCased (c : Char) : Bool :=
  isLowercase c || isUppercase c || Table.titlecase.any (·.contains c.toNat)

/-- Characters that stand inside or beside a word without ending it, such as an apostrophe. -/
def isCaseIgnorable (c : Char) : Bool :=
  if isAscii c then ['\'', '.', ':', '^', '\x60'].contains c
  else Table.caseIgnorable.any (·.contains c.toNat)

/-! ## ASCII -/

theorem isAscii_of_isAlphanum {c : Char} (h : c.isAlphanum) : isAscii c := by
  change ((decide (c.val ≥ 'A'.val ∧ c.val ≤ 'Z'.val) ||
      (decide (c.val ≥ 'a'.val) && decide (c.val ≤ 'z'.val))) ||
    (decide (c.val ≥ '0'.val) && decide (c.val ≤ '9'.val))) = true at h
  simp only [Bool.or_eq_true, Bool.and_eq_true, decide_eq_true_eq, ge_iff_le,
    UInt32.le_iff_toNat_le] at h
  simp only [isAscii, decide_eq_true_eq]
  change ((65 ≤ c.toNat ∧ c.toNat ≤ 90) ∨ (97 ≤ c.toNat ∧ c.toNat ≤ 122)) ∨
    (48 ≤ c.toNat ∧ c.toNat ≤ 57) at h
  omega

theorem isAlphabetic_of_isAlpha {c : Char} (h : c.isAlpha) : isAlphabetic c := by
  have ha : isAscii c := isAscii_of_isAlphanum (Bool.or_eq_true_iff.2 (.inl h))
  simp [isAlphabetic, ha, h]

theorem isNumeric_of_isDigit {c : Char} (h : c.isDigit) : isNumeric c := by
  have ha : isAscii c := isAscii_of_isAlphanum (Bool.or_eq_true_iff.2 (.inr h))
  simp [isNumeric, ha, h]

theorem isLowercase_of_isLower {c : Char} (h : c.isLower) : isLowercase c := by
  have halpha : c.isAlpha := Bool.or_eq_true_iff.2 (.inr h)
  have ha : isAscii c := isAscii_of_isAlphanum (Bool.or_eq_true_iff.2 (.inl halpha))
  simp [isLowercase, ha, h]

theorem isUppercase_of_isUpper {c : Char} (h : c.isUpper) : isUppercase c := by
  have halpha : c.isAlpha := Bool.or_eq_true_iff.2 (.inl h)
  have ha : isAscii c := isAscii_of_isAlphanum (Bool.or_eq_true_iff.2 (.inl halpha))
  simp [isUppercase, ha, h]

end SchemaCatalog.Text
