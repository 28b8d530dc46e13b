import NearDup.Text.Blank

/-! Words, and the runs of blanks between them. Main statements: a blank anywhere cuts the words of a
text in two, and a run of them does what one does. -/

namespace NearDup

namespace Text

theorem pieces_eq_splitOnP (cut : Char → Bool) (cs : List Char) :
    pieces cut cs = cs.splitOnP cut := by
  induction cs with
  | nil => rfl
  | cons c cs ih =>
    rw [pieces, List.splitOnP_cons_eq_if_modifyHead, ih]
    congr 1
    split
    · exact absurd ‹_› (List.splitOnP_ne_nil cut cs)
    · rename_i hpieces
      rw [hpieces, List.modifyHead_cons]

theorem sublist_of_mem_pieces (cut : Char → Bool) (cs : List Char) :
    ∀ piece ∈ pieces cut cs, piece.Sublist cs := by
  induction cs with
  | nil => simp [pieces]
  | cons c cs ih =>
    rw [pieces]
    split
    · rw [List.forall_mem_cons]
      exact ⟨List.nil_sublist _, fun piece hpiece => (ih piece hpiece).cons c⟩
    · split
      · rename_i hpieces
        exact absurd hpieces (pieces_ne_nil cut cs)
      · rename_i piece rest hpieces
        rw [hpieces, List.forall_mem_cons] at ih
        rw [List.forall_mem_cons]
        exact ⟨ih.1.cons_cons c, fun later hlater => (ih.2 later hlater).cons c⟩

variable {c : Char} {w : List Char}

/-- A word is not empty, and its characters are those of the text that are no blanks. -/
theorem mem_wordsOf {cs : List Char} (h : w ∈ wordsOf cs) :
    w ≠ [] ∧ ∀ c ∈ w, isBlank c = false ∧ c ∈ cs := by
  obtain ⟨hpiece, hne⟩ := List.mem_filter.mp h
  exact ⟨by simpa using hne, fun c hc =>
    ⟨not_cut_of_mem_pieces isBlank cs w hpiece c hc, (sublist_of_mem_pieces isBlank cs w hpiece).mem hc⟩⟩

@[simp] theorem wordsOf_nil : wordsOf [] = [] := rfl

/-- A blank belongs to no word, and no word goes on behind it. -/
theorem wordsOf_append_cons (hc : isBlank c = true) (a b : List Char) :
    wordsOf (a ++ c :: b) = wordsOf a ++ wordsOf b := by
  simp only [wordsOf, pieces_eq_splitOnP, List.splitOnP_append_cons a b hc, List.filter_append]

theorem wordsOf_cons (hc : isBlank c = true) (b : List Char) : wordsOf (c :: b) = wordsOf b :=
  wordsOf_append_cons hc [] b

theorem wordsOf_blanks_append (hw : ∀ c ∈ w, isBlank c = true) (b : List Char) :
    wordsOf (w ++ b) = wordsOf b := by
  induction w with
  | nil => rfl
  | cons c w ih =>
    obtain ⟨hc, hw⟩ := List.forall_mem_cons.mp hw
    rw [List.cons_append, wordsOf_cons hc, ih hw]

theorem wordsOf_append_blanks_append (hw : ∀ c ∈ w, isBlank c = true) (hne : w ≠ [])
    (a b : List Char) : wordsOf (a ++ w ++ b) = wordsOf a ++ wordsOf b := by
  cases w with
  | nil => exact absurd rfl hne
  | cons c w =>
    obtain ⟨hc, hw⟩ := List.forall_mem_cons.mp hw
    rw [List.append_assoc, List.cons_append, wordsOf_append_cons hc, wordsOf_blanks_append hw]

theorem wordsOf_append_blanks (hw : ∀ c ∈ w, isBlank c = true) (a : List Char) :
    wordsOf (a ++ w) = wordsOf a := by
  by_cases hne : w = []
  · rw [hne, List.append_nil]
  · have happend := wordsOf_append_blanks_append hw hne a []
    rwa [List.append_nil, wordsOf_nil, List.append_nil] at happend

/-- A text without blanks is one word. -/
theorem wordsOf_of_forall (hne : w ≠ []) (h : ∀ c ∈ w, isBlank c = false) : wordsOf w = [w] := by
  rw [wordsOf, pieces_eq_splitOnP, List.splitOnP_eq_singleton h]
  simp [hne]

end Text

end NearDup
