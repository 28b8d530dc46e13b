import Mathlib.Data.List.Forall2
import NearDup.Csv
import NearDup.Proofs.Text.Words

/-! Rows of cells. Main statements: texts of cells with commas between them are read as one record; rows
without quotation marks are read back cell by cell, behind a comment as well. -/

namespace NearDup

theorem Text.trimmed_of_forall {cs : List Char} (h : ∀ c ∈ cs, isBlank c = false) :
    trimmed cs = cs := by
  have hdrop : ∀ ds : List Char, (∀ c ∈ ds, isBlank c = false) → ds.dropWhile isBlank = ds := by
    intro ds hds
    cases ds with
    | nil => rfl
    | cons d ds => exact List.dropWhile_cons_of_neg (by simp [hds d])
  rw [trimmed, hdrop cs h, hdrop cs.reverse (by simpa using h), List.reverse_reverse]

namespace Csv

/-- Whether a character can stand anywhere in a cell without quotation marks. -/
def isPlain (c : Char) : Bool :=
  !Text.isBlank c && c != ',' && c != '"' && c != '#'

/-- Whether a cell can be written as it is. -/
structure IsPlainCell (cell : String) : Prop where
  ne_empty : cell ≠ ""
  isPlain : ∀ c ∈ cell.toList, Csv.isPlain c = true

instance (cell : String) : Decidable (IsPlainCell cell) :=
  decidable_of_iff (cell ≠ "" ∧ cell.toList.all Csv.isPlain = true)
    ⟨fun h => ⟨h.1, List.all_eq_true.mp h.2⟩, fun h => ⟨h.1, List.all_eq_true.mpr h.2⟩⟩

variable {c : Char}

theorem isBlank_of_isPlain (h : isPlain c = true) : Text.isBlank c = false := by
  simp only [isPlain, Bool.and_eq_true, Bool.not_eq_true'] at h
  exact h.1.1.1

theorem ne_of_isPlain (h : isPlain c = true) {d : Char} (hd : isPlain d = false) : c ≠ d := by
  rintro rfl
  exact absurd (h.symm.trans hd) (by decide)

namespace Reading

variable {r : Reading}

theorem isTerminator_of_isPlain (h : isPlain c = true) : isTerminator c = false := by
  have hnewline : c ≠ '\n' := ne_of_isPlain h (by decide)
  have hreturn : c ≠ '\r' := ne_of_isPlain h (by decide)
  simp [isTerminator, hnewline, hreturn]

theorem stepBare_of_isPlain (h : isPlain c = true) : r.stepBare c = (r.keep .bare c, none) := by
  have hcomma : c ≠ ',' := ne_of_isPlain h (by decide)
  rw [stepBare, if_neg hcomma, isTerminator_of_isPlain h]
  rfl

theorem stepCellStart_of_isPlain (h : isPlain c = true) :
    r.stepCellStart c = (r.keep .bare c, none) := by
  have hquote : c ≠ '"' := ne_of_isPlain h (by decide)
  rw [stepCellStart, if_neg hquote, stepBare_of_isPlain h]

/-- Where the reader is ready for a cell or in the middle of one. -/
def IsOutside (r : Reading) : Prop :=
  r.place = .recordStart ∨ r.place = .cellStart ∨ r.place = .bare

theorem step_of_isPlain (hr : r.IsOutside) (h : isPlain c = true) :
    r.step c = (r.keep .bare c, none) := by
  have hnewline : c ≠ '\n' := ne_of_isPlain h (by decide)
  have hnumber : c ≠ '#' := ne_of_isPlain h (by decide)
  rw [step, if_neg hnewline]
  rcases hr with hplace | hplace | hplace <;> simp only [hplace]
  · rw [isTerminator_of_isPlain h, if_neg Bool.false_ne_true, if_neg hnumber,
      stepCellStart_of_isPlain h]
  · exact stepCellStart_of_isPlain h
  · exact stepBare_of_isPlain h

/-- The characters of a cell are kept, last first. -/
theorem recordsFrom_plain (r : Reading) (hr : r.IsOutside) {cs : List Char} (hne : cs ≠ [])
    (h : ∀ c ∈ cs, isPlain c = true) (rest : List Char) :
    r.recordsFrom (cs ++ rest) =
      ({ r with place := .bare, cell := cs.reverse ++ r.cell } : Reading).recordsFrom rest := by
  induction cs generalizing r with
  | nil => exact absurd rfl hne
  | cons c cs ih =>
    obtain ⟨hc, hcs⟩ := List.forall_mem_cons.mp h
    rw [List.cons_append, recordsFrom, step_of_isPlain hr hc]
    by_cases hend : cs = []
    · subst hend
      rfl
    · have hkept : (r.keep .bare c).IsOutside := .inr (.inr rfl)
      rw [List.reverse_cons, List.append_assoc, List.singleton_append]
      exact ih (r.keep .bare c) hkept hend hcs

/-! ### Cells and rows -/

/-- The same place in a record with the given line, behind the given number of line ends. -/
def on (r : Reading) (newlines line : Nat) : Reading := { r with newlines, line }

/-- A character counts as a line end or not, whatever it does besides. -/
theorem count_eq_on (r : Reading) (c : Char) :
    (if c = '\n' then { r with newlines := r.newlines + 1 } else r : Reading) =
      r.on (r.newlines + [c].count '\n') r.line := by
  split
  · rename_i hc
    subst hc
    rfl
  · rename_i hc
    rw [List.count_singleton, if_neg (by simpa using hc)]
    rfl

/-- The reader at the start of a record. -/
def atRecord (newlines line : Nat) : Reading := ⟨.recordStart, newlines, line, [], []⟩

/-- The reader behind a record. -/
def behind (newlines : Nat) : Reading := atRecord newlines (newlines + 1)

/-- Behind a cell, where a comma or a line end is not part of it. -/
def IsClosed (r : Reading) : Prop :=
  r.place = .bare ∨ r.place = .quoteInQuoted

theorem step_of_isClosed (hr : r.IsClosed) (hc : c ≠ '"') :
    r.step c = (r.on (r.newlines + [c].count '\n') r.line).stepBare c := by
  rw [step, count_eq_on]
  rcases hr with hplace | hplace <;> simp only [on, hplace]
  exact if_neg hc

theorem recordsFrom_comma (hr : r.IsClosed) (rest : List Char) :
    r.recordsFrom (',' :: rest) = r.endCell.recordsFrom rest := by
  rw [recordsFrom, step_of_isClosed hr (by decide)]
  rfl

theorem recordsFrom_terminator (hr : r.IsClosed) (hc : isTerminator c = true) (rest : List Char) :
    r.recordsFrom (c :: rest) =
      ⟨r.endCell.line, r.endCell.cells.reverse⟩ ::
        (behind (r.endCell.newlines + [c].count '\n')).recordsFrom rest := by
  have hcomma : c ≠ ',' := by
    rintro rfl
    exact absurd hc (by decide)
  have hquote : c ≠ '"' := by
    rintro rfl
    exact absurd hc (by decide)
  rw [recordsFrom, step_of_isClosed hr hquote, stepBare, if_neg hcomma, if_pos hc]
  rfl

/-- Where the reader is ready for a cell. -/
structure IsReady (r : Reading) : Prop where
  place : r.place = .recordStart ∨ r.place = .cellStart
  cell : r.cell = []

/-- The reader behind a cell and the comma that follows it. -/
def afterCell (r : Reading) (cell : String) : Reading :=
  { r with place := .cellStart, cells := cell :: r.cells }

/-- A text that is read as one cell. -/
def IsCellText (text : List Char) (cell : String) : Prop :=
  ∀ r : Reading, r.IsReady → ∃ next : Reading, next.IsClosed ∧
    next.endCell = (r.on (r.newlines + text.count '\n') r.line).afterCell cell ∧
    ∀ rest, r.recordsFrom (text ++ rest) = next.recordsFrom rest

/-- Cells with commas between them become one record, and the next one starts behind it. -/
theorem recordsFrom_row (r : Reading) (hr : r.IsReady) {texts : List (List Char)}
    {cells : List String} (h : List.Forall₂ IsCellText texts cells) (hne : cells ≠ [])
    (hc : isTerminator c = true) (rest : List Char) :
    r.recordsFrom ([','].intercalate texts ++ c :: rest) =
      ⟨r.line, r.cells.reverse ++ cells⟩ ::
        (behind (r.newlines + ([','].intercalate texts ++ [c]).count '\n')).recordsFrom rest := by
  induction h generalizing r with
  | nil => exact absurd rfl hne
  | @cons text cell texts cells htext htexts ih =>
    obtain ⟨next, hclosed, hended, hread⟩ := htext r hr
    cases htexts with
    | nil =>
      rw [List.intercalate_singleton, hread, recordsFrom_terminator hclosed hc, hended]
      simp only [afterCell, on, List.reverse_cons, List.count_append, Nat.add_assoc]
    | @cons text' cell' texts cells _ _ =>
      have hcount : ([','].intercalate (text :: text' :: texts) ++ [c]).count '\n' =
          text.count '\n' + ([','].intercalate (text' :: texts) ++ [c]).count '\n' := by
        rw [List.intercalate_cons_cons, List.append_assoc, List.append_assoc, List.count_append,
          List.singleton_append, List.count_cons_of_ne (by decide)]
      have hready : ((r.on (r.newlines + text.count '\n') r.line).afterCell cell).IsReady :=
        ⟨.inr rfl, hr.cell⟩
      rw [hcount, List.intercalate_cons_cons, List.append_assoc, List.append_assoc,
        List.singleton_append, hread, recordsFrom_comma hclosed, hended,
        ih _ hready (List.cons_ne_nil _ _)]
      simp only [afterCell, on, List.reverse_cons, List.append_assoc, List.singleton_append,
        Nat.add_assoc]

/-! ### Plain cells -/

theorem isCellText_of_isPlainCell {cell : String} (h : IsPlainCell cell) :
    IsCellText cell.toList cell := by
  intro r hr
  have hnonempty : cell.toList ≠ [] := by simpa using h.ne_empty
  have houtside : r.IsOutside := hr.place.imp_right .inl
  have htrimmed : Text.trimmed cell.toList = cell.toList :=
    Text.trimmed_of_forall fun c hc => isBlank_of_isPlain (h.isPlain c hc)
  have hcount : cell.toList.count '\n' = 0 :=
    List.count_eq_zero.mpr fun hmem => ne_of_isPlain (h.isPlain _ hmem) (by decide) rfl
  refine ⟨_, .inl rfl, ?_, recordsFrom_plain r houtside hnonempty h.isPlain⟩
  simp only [endCell, afterCell, on, hr.cell, hcount, List.append_nil, List.reverse_reverse, htrimmed,
    String.ofList_toList, Nat.add_zero]

/-! ### Comments -/

/-- The reader in a comment. -/
def inComment (newlines line : Nat) : Reading := ⟨.comment, newlines, line, [], []⟩

theorem recordsFrom_inComment {cs : List Char} (h : '\n' ∉ cs) (newlines line : Nat)
    (rest : List Char) :
    (inComment newlines line).recordsFrom (cs ++ rest) = (inComment newlines line).recordsFrom rest := by
  induction cs with
  | nil => rfl
  | cons c cs ih =>
    rw [List.mem_cons, not_or] at h
    obtain ⟨hc, hcs⟩ := h
    have hstep : (inComment newlines line).step c = (inComment newlines line, none) := by
      rw [step, if_neg (Ne.symm hc)]
      simp only [inComment, if_neg (Ne.symm hc)]
    rw [List.cons_append, recordsFrom, hstep]
    exact ih hcs

theorem recordsFrom_comment {cs : List Char} (h : '\n' ∉ cs) (newlines line : Nat)
    (rest : List Char) :
    (atRecord newlines line).recordsFrom ('#' :: (cs ++ '\n' :: rest)) =
      (atRecord (newlines + 1) line).recordsFrom rest :=
  recordsFrom_inComment h newlines line ('\n' :: rest)

end Reading

theorem toList_ofRows_cons (cells : List String) (rows : List (List String)) :
    (ofRows (cells :: rows)).toList =
      [','].intercalate (cells.map String.toList) ++ '\n' :: (ofRows rows).toList := by
  simp [ofRows, String.toList_intercalate]

/-- Rows of plain cells are read back. -/
theorem cells_recordsFrom_ofRows {rows : List (List String)}
    (h : ∀ cells ∈ rows, cells ≠ [] ∧ ∀ cell ∈ cells, IsPlainCell cell) (newlines line : Nat) :
    ((Reading.atRecord newlines line).recordsFrom (ofRows rows).toList).map (·.cells) = rows := by
  induction rows generalizing newlines line with
  | nil => rfl
  | cons cells rows ih =>
    obtain ⟨⟨hne, hcells⟩, hrows⟩ := List.forall_mem_cons.mp h
    have htexts : List.Forall₂ Reading.IsCellText (cells.map String.toList) cells :=
      List.forall₂_map_left_iff.mpr (List.forall₂_same.mpr fun cell hcell =>
        Reading.isCellText_of_isPlainCell (hcells cell hcell))
    rw [toList_ofRows_cons, Reading.recordsFrom_row _ ⟨.inl rfl, rfl⟩ htexts hne rfl, List.map_cons,
      Reading.behind, ih hrows]
    rfl

/-- A comment in front of the rows changes nothing. -/
theorem cells_records_of_comment {text : String} {comment : List Char} {rows : List (List String)}
    (htext : text.toList = '#' :: (comment ++ '\n' :: (ofRows rows).toList)) (hcomment : '\n' ∉ comment)
    (hrows : ∀ cells ∈ rows, cells ≠ [] ∧ ∀ cell ∈ cells, IsPlainCell cell) :
    (records text).map (·.cells) = rows := by
  have hmark : withoutMark text.toList = '#' :: (comment ++ '\n' :: (ofRows rows).toList) := by
    rw [htext]
    rfl
  have hstart : Reading.start = Reading.atRecord 0 1 := rfl
  rw [records, hmark, hstart, Reading.recordsFrom_comment hcomment, cells_recordsFrom_ofRows hrows]

end Csv

end NearDup
