import Mathlib
import NearDup.Text.Blank

/-! ASCII letters and digits. Main statements: the small form of one is a small letter or a digit, and
no character becomes one, or becomes a blank, by a change of case. -/

namespace NearDup

namespace Text

variable {c : Char}

/-! ### Ranges -/

theorem isUpper_iff : c.isUpper = true ↔ 65 ≤ c.toNat ∧ c.toNat ≤ 90 := by
  simp only [Char.isUpper, decide_eq_true_eq, ge_iff_le, UInt32.le_iff_toNat_le]
  rfl

theorem isUpper_eq_false_iff : c.isUpper = false ↔ c.toNat < 65 ∨ 90 < c.toNat := by
  rw [← Bool.not_eq_true, isUpper_iff]
  omega

theorem isLower_or_isDigit_iff : (c.isLower = true ∨ c.isDigit = true) ↔
    (97 ≤ c.toNat ∧ c.toNat ≤ 122) ∨ (48 ≤ c.toNat ∧ c.toNat ≤ 57) := by
  simp only [Char.isLower, Char.isDigit, Bool.and_eq_true, decide_eq_true_eq, ge_iff_le,
    UInt32.le_iff_toNat_le]
  rfl

theorem isAlphanum_iff : c.isAlphanum = true ↔ (65 ≤ c.toNat ∧ c.toNat ≤ 90) ∨
    (97 ≤ c.toNat ∧ c.toNat ≤ 122) ∨ (48 ≤ c.toNat ∧ c.toNat ≤ 57) := by
  simp only [Char.isAlphanum, Char.isAlpha, Char.isUpper, Char.isLower, Char.isDigit,
    Bool.or_eq_true, Bool.and_eq_true, decide_eq_true_eq, ge_iff_le, UInt32.le_iff_toNat_le]
  exact or_assoc

/-! ### Small letters and digits -/

theorem isUpper_of_isLower_or_isDigit (h : c.isLower = true ∨ c.isDigit = true) :
    c.isUpper = false := by
  have hrange := isLower_or_isDigit_iff.mp h
  exact isUpper_eq_false_iff.mpr (by omega)

theorem isAlphanum_of_isLower_or_isDigit (h : c.isLower = true ∨ c.isDigit = true) :
    c.isAlphanum = true :=
  isAlphanum_iff.mpr (.inr (isLower_or_isDigit_iff.mp h))

theorem isAlphanum_of_isUpper (h : c.isUpper = true) : c.isAlphanum = true :=
  isAlphanum_iff.mpr (.inl (isUpper_iff.mp h))

/-! ### Changes of case -/

theorem isLower_or_isDigit_toLower (h : c.isAlphanum = true) :
    c.toLower.isLower = true ∨ c.toLower.isDigit = true := by
  rw [Char.isAlphanum, Bool.or_eq_true] at h
  rcases h with halpha | hdigit
  · exact .inl ((Char.isLower_toLower_eq_isAlpha c).trans halpha)
  · have hupper : ¬c.isUpper := Bool.eq_false_iff.mp (isUpper_of_isLower_or_isDigit (.inr hdigit))
    rw [Char.toLower_eq_of_not_isUpper hupper]
    exact .inr hdigit

theorem isAlphanum_toLower (c : Char) : c.toLower.isAlphanum = c.isAlphanum := by
  by_cases h : c.isUpper
  · have hc : c.isAlphanum = true := isAlphanum_of_isUpper h
    rw [hc, isAlphanum_of_isLower_or_isDigit (isLower_or_isDigit_toLower hc)]
  · rw [Char.toLower_eq_of_not_isUpper h]

theorem isBlank_of_isAlphanum (h : c.isAlphanum = true) : isBlank c = false := by
  rw [isAlphanum_iff] at h
  simp only [isBlank, Bool.or_eq_false_iff, Bool.and_eq_false_iff, decide_eq_false_iff_not,
    beq_eq_false_iff_ne]
  omega

theorem isBlank_toLower (c : Char) : isBlank c.toLower = isBlank c := by
  by_cases h : c.isUpper
  · have hc : c.isAlphanum = true := isAlphanum_of_isUpper h
    rw [isBlank_of_isAlphanum hc, isBlank_of_isAlphanum ((isAlphanum_toLower c).trans hc)]
  · rw [Char.toLower_eq_of_not_isUpper h]

/-! ### Small words -/

/-- Whether a text is a word of ASCII small letters and ASCII digits. -/
structure IsSmallWord (word : String) : Prop where
  ne_empty : word ≠ ""
  isLower_or_isDigit : ∀ c ∈ word.toList, c.isLower = true ∨ c.isDigit = true

instance (word : String) : Decidable (IsSmallWord word) :=
  decidable_of_iff (word ≠ "" ∧ word.toList.all (fun c => c.isLower || c.isDigit) = true)
    ⟨fun h => ⟨h.1, by simpa using h.2⟩, fun h => ⟨h.1, by simpa using h.2⟩⟩

end Text

end NearDup
