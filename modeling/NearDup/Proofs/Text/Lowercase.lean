import NearDup.Proofs.Text.Ascii
import NearDup.Text.Lowercase

/-! Small forms of letters. Main statement: the small form of a text holds no ASCII capital, whatever
letters the text holds. -/

namespace NearDup

namespace Text

variable {c d : Char} {text : String}

/-! ### ASCII -/

theorem asciiLowercase_of_forall (h : ∀ c ∈ text.toList, c.isUpper = false) :
    asciiLowercase text = text := by
  have hmap : text.toList.map Char.toLower = text.toList.map id :=
    List.map_congr_left fun c hc => Char.toLower_eq_of_not_isUpper (by simp [h c hc])
  rw [asciiLowercase, hmap, List.map_id, String.ofList_toList]

/-! ### All of Unicode -/

theorem isUpper_ofNat {n : Nat} (h : 90 < n) : (Char.ofNat n).isUpper = false := by
  rw [Char.ofNat]
  split
  · exact isUpper_eq_false_iff.mpr (.inr h)
  · rfl

/-- No letter beyond ASCII has an ASCII capital for its small form. -/
theorem caseRuns_above : ∀ run ∈ caseRuns, 90 < run.first + run.shift := by
  decide +kernel

theorem isUpper_of_mem_smallForm (h : d ∈ smallForm c) : d.isUpper = false := by
  unfold smallForm at h
  split at h
  · rw [List.mem_singleton.mp h]
    exact Char.isUpper_toLower_eq_false c
  · rename_i hascii
    split at h
    · simp only [List.mem_cons, List.not_mem_nil, or_false] at h
      rcases h with rfl | rfl <;> rfl
    · split at h
      · rename_i run hrun
        have habove := caseRuns_above run (List.mem_of_find?_eq_some hrun)
        have hrange := List.find?_some hrun
        simp only [CaseRun.contains, Bool.and_eq_true, decide_eq_true_eq] at hrange
        rw [List.mem_singleton.mp h]
        apply isUpper_ofNat
        omega
      · rw [List.mem_singleton.mp h, isUpper_eq_false_iff]
        omega

theorem isUpper_of_mem_lowercaseFrom {afterCased : Bool} {cs : List Char}
    (h : d ∈ lowercaseFrom afterCased cs) : d.isUpper = false := by
  induction cs generalizing afterCased with
  | nil => simp [lowercaseFrom] at h
  | cons c cs ih =>
    rcases List.mem_append.mp h with h | h
    · split at h
      · split at h <;> rw [List.mem_singleton.mp h] <;> rfl
      · exact isUpper_of_mem_smallForm h
    · exact ih h

theorem asciiLowercase_lowercase (text : String) :
    asciiLowercase (lowercase text) = lowercase text := by
  refine asciiLowercase_of_forall fun c hc => ?_
  rw [lowercase, String.toList_ofList] at hc
  exact isUpper_of_mem_lowercaseFrom hc

/-! ### Small words -/

theorem lowercaseFrom_of_forall {afterCased : Bool} {cs : List Char}
    (h : ∀ c ∈ cs, c.isLower = true ∨ c.isDigit = true) : lowercaseFrom afterCased cs = cs := by
  induction cs generalizing afterCased with
  | nil => rfl
  | cons c cs ih =>
    obtain ⟨hc, hcs⟩ := List.forall_mem_cons.mp h
    have hrange := isLower_or_isDigit_iff.mp hc
    have hascii : c.toNat < 0x80 := by omega
    have hupper : c.isUpper = false := isUpper_of_isLower_or_isDigit hc
    have hsigma : (c == 'Σ') = false := by
      rw [beq_eq_false_iff_ne]
      rintro rfl
      exact absurd hascii (by decide)
    rw [lowercaseFrom, ih hcs, hsigma, smallForm, if_pos hascii,
      Char.toLower_eq_of_not_isUpper (by rw [hupper]; exact Bool.false_ne_true)]
    rfl

theorem IsSmallWord.lowercase_eq {word : String} (h : IsSmallWord word) : lowercase word = word := by
  rw [lowercase, lowercaseFrom_of_forall h.isLower_or_isDigit, String.ofList_toList]

end Text

end NearDup
