import NearDup.Proofs.Csv.Layout

/-! Rows whose cells are written in quotation marks, among comments and empty lines. Main statement:
such a text is read as its rows, cell by cell. -/

namespace NearDup.Csv

/-! ### Cells in quotation marks -/

/-- Characters with each quotation mark written twice. -/
def doubled (cs : List Char) : List Char :=
  cs.flatMap fun c => if c = '"' then ['"', '"'] else [c]

/-- A cell in quotation marks. -/
def quoted (cell : String) : List Char :=
  '"' :: (doubled cell.toList ++ ['"'])

theorem doubled_cons (c : Char) (cs : List Char) :
    doubled (c :: cs) = (if c = '"' then ['"', '"'] else [c]) ++ doubled cs :=
  List.flatMap_cons

theorem count_doubled (cs : List Char) : (doubled cs).count '\n' = cs.count '\n' := by
  induction cs with
  | nil => rfl
  | cons c cs ih =>
    rw [doubled_cons, List.count_append, ih]
    split
    · rename_i hc
      subst hc
      rw [List.count_cons_of_ne (by decide)]
      exact Nat.zero_add _
    · rw [← List.count_append, List.singleton_append]

theorem count_quoted (cell : String) : (quoted cell).count '\n' = cell.toList.count '\n' := by
  rw [quoted, List.count_cons_of_ne (by decide), List.count_append, count_doubled]
  rfl

namespace Reading

variable {r : Reading}

/-- The reader in quotation marks, behind some more characters of a cell. -/
def within (r : Reading) (cs : List Char) : Reading :=
  { r with place := .quoted, newlines := r.newlines + cs.count '\n', cell := cs.reverse ++ r.cell }

theorem within_within (r : Reading) (cs ds : List Char) :
    (r.within cs).within ds = r.within (cs ++ ds) := by
  simp only [within, List.count_append, List.reverse_append, List.append_assoc, Nat.add_assoc]

theorem recordsFrom_mark (hr : r.IsReady) (rest : List Char) :
    r.recordsFrom ('"' :: rest) = (r.within []).recordsFrom rest := by
  have hstep : r.step '"' = (r.within [], none) := by
    rw [step, count_eq_on]
    rcases hr.place with hplace | hplace <;> simp only [on, hplace] <;> rfl
  rw [recordsFrom, hstep]

theorem recordsFrom_doubled_cons (hr : r.place = .quoted) (c : Char) (rest : List Char) :
    r.recordsFrom ((if c = '"' then ['"', '"'] else [c]) ++ rest) =
      (r.within [c]).recordsFrom rest := by
  obtain ⟨place, newlines, line, cells, cell⟩ := r
  obtain rfl : place = .quoted := hr
  split
  · rename_i hc
    subst hc
    rfl
  · rename_i hc
    have hstep : (⟨.quoted, newlines, line, cells, cell⟩ : Reading).step c =
        ((⟨.quoted, newlines, line, cells, cell⟩ : Reading).within [c], none) := by
      rw [step, count_eq_on]
      exact if_neg hc
    rw [List.singleton_append, recordsFrom, hstep]

theorem recordsFrom_doubled (hr : r.place = .quoted) (cs rest : List Char) :
    r.recordsFrom (doubled cs ++ rest) = (r.within cs).recordsFrom rest := by
  induction cs generalizing r with
  | nil =>
    obtain ⟨place, newlines, line, cells, cell⟩ := r
    obtain rfl : place = .quoted := hr
    rfl
  | cons c cs ih =>
    rw [doubled_cons, List.append_assoc, recordsFrom_doubled_cons hr, ih rfl, within_within,
      List.singleton_append]

/-- What stands in quotation marks is one cell, whatever its characters. -/
theorem isCellText_quoted (cell : String) : IsCellText (quoted cell) (Text.trim cell) := by
  intro r hr
  refine ⟨{ r.within cell.toList with place := .quoteInQuoted }, .inr rfl, ?_, fun rest => ?_⟩
  · simp only [endCell, afterCell, on, within, hr.cell, count_quoted, List.append_nil,
      List.reverse_reverse, Text.trim]
  · rw [quoted, List.cons_append, List.append_assoc, recordsFrom_mark hr, recordsFrom_doubled rfl]
    rfl

end Reading

/-! ### Lines -/

/-- How a line ends. -/
inductive LineEnd
  | newline
  | returnNewline
deriving DecidableEq, Repr

def LineEnd.chars : LineEnd → List Char
  | .newline => ['\n']
  | .returnNewline => ['\r', '\n']

/-- What is written between two ends of lines outside quotation marks: nothing, a comment, or a row. -/
inductive Line
  | empty (ending : LineEnd)
  | comment (text : String) (newline_notMem : '\n' ∉ text.toList)
  | row (cells : List String) (ending : LineEnd)

namespace Line

def chars : Line → List Char
  | empty ending => ending.chars
  | comment text _ => '#' :: (text.toList ++ ['\n'])
  | row cells ending => [','].intercalate (cells.map quoted) ++ ending.chars

def row? : Line → Option (List String)
  | row cells _ => some cells
  | _ => none

end Line

/-- The text of lines. -/
def written (lines : List Line) : String :=
  String.ofList (lines.flatMap Line.chars)

/-- The rows among lines. -/
def rowsOf (lines : List Line) : List (List String) :=
  lines.filterMap Line.row?

theorem LineEnd.exists_cons (ending : LineEnd) :
    ∃ c gap, ending.chars = c :: gap ∧ Reading.isTerminator c = true ∧ Gap gap := by
  cases ending with
  | newline => exact ⟨'\n', [], rfl, rfl, .nil⟩
  | returnNewline => exact ⟨'\r', ['\n'], rfl, rfl, .lineEnd rfl .nil⟩

/-- A line is read as its row, if it has one, and the next line where it stands. -/
theorem Line.cells_recordsFrom (line : Line) (h : line.row? ≠ some []) (newlines start : Nat)
    (rest : List Char) :
    ∃ newlines' start',
      ((Reading.atRecord newlines start).recordsFrom (line.chars ++ rest)).map (·.cells) =
        (line.row?.map (·.map Text.trim)).toList ++
          ((Reading.atRecord newlines' start').recordsFrom rest).map (·.cells) := by
  cases line with
  | empty ending =>
    obtain ⟨c, gap, hchars, hc, hgap⟩ := ending.exists_cons
    have hread := (Gap.lineEnd hc hgap).recordsFrom newlines start rest
    rw [chars, hchars, hread]
    exact ⟨_, _, rfl⟩
  | comment text htext =>
    rw [chars, (Gap.comment htext .nil).recordsFrom]
    exact ⟨_, _, rfl⟩
  | row cells ending =>
    obtain ⟨c, gap, hchars, hc, hgap⟩ := ending.exists_cons
    have hne : cells.map Text.trim ≠ [] := by
      intro hempty
      exact h (congrArg some (List.map_eq_nil_iff.mp hempty))
    have htexts : List.Forall₂ Reading.IsCellText (cells.map quoted) (cells.map Text.trim) :=
      List.forall₂_map_left_iff.mpr (List.forall₂_map_right_iff.mpr
        (List.forall₂_same.mpr fun cell _ => Reading.isCellText_quoted cell))
    rw [chars, hchars, List.append_assoc, List.cons_append,
      Reading.recordsFrom_row _ ⟨.inl rfl, rfl⟩ htexts hne hc, Reading.behind, hgap.recordsFrom]
    exact ⟨_, _, rfl⟩

theorem cells_recordsFrom_lines {lines : List Line} (h : [] ∉ rowsOf lines) (newlines start : Nat) :
    ((Reading.atRecord newlines start).recordsFrom (lines.flatMap Line.chars)).map (·.cells) =
      (rowsOf lines).map (·.map Text.trim) := by
  induction lines generalizing newlines start with
  | nil => rfl
  | cons line lines ih =>
    have hrows : rowsOf (line :: lines) = line.row?.toList ++ rowsOf lines := by
      rw [rowsOf, List.filterMap_cons, rowsOf]
      cases line.row? <;> rfl
    rw [hrows, List.mem_append, not_or, Option.mem_toList] at h
    obtain ⟨newlines', start', hread⟩ :=
      line.cells_recordsFrom h.1 newlines start (lines.flatMap Line.chars)
    rw [List.flatMap_cons, hread, ih h.2, hrows, List.map_append]
    cases line.row? <;> rfl

theorem LineEnd.ne_mark (ending : LineEnd) : ending.chars.head? ≠ some '\uFEFF' := by
  cases ending <;> decide

/-- No line begins with the mark of a byte order. -/
theorem Line.ne_mark (line : Line) : line.chars.head? ≠ some '\uFEFF' := by
  match line with
  | empty ending => exact ending.ne_mark
  | comment text _ => simp [chars]
  | row [] ending => exact ending.ne_mark
  | row [cell] ending => simp [chars, quoted]
  | row (cell :: cell' :: cells) ending => simp [chars, quoted]

theorem withoutMark_of_head? {cs : List Char} (h : cs.head? ≠ some '\uFEFF') :
    withoutMark cs = cs := by
  unfold withoutMark
  split
  · exact absurd rfl h
  · rfl

theorem withoutMark_lines (lines : List Line) :
    withoutMark (lines.flatMap Line.chars) = lines.flatMap Line.chars := by
  refine withoutMark_of_head? fun hmark => ?_
  rw [List.head?_flatMap] at hmark
  obtain ⟨line, -, hline⟩ := List.exists_of_findSome?_eq_some hmark
  exact line.ne_mark hline

/-- Lines are read as their rows, each cell without the blanks at its ends. -/
theorem cells_records_written {lines : List Line} (h : [] ∉ rowsOf lines) :
    (records (written lines)).map (·.cells) = (rowsOf lines).map (·.map Text.trim) := by
  rw [records, written, String.toList_ofList, withoutMark_lines]
  exact cells_recordsFrom_lines h 0 1

end NearDup.Csv
