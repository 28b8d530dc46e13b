import NearDup.Proofs.Csv

/-! Where the records of a text stand in it. Main statements: every text is laid out as rows with line
ends and comments between them; the line of a record is the one on which the row before it ends. -/

namespace NearDup.Csv

/-- The line on which a text goes on behind `before`. -/
def lineAfter (before : List Char) : Nat :=
  before.count '\n' + 1

/-! ### One character of a record -/

namespace Reading

variable {r : Reading}

/-- Whether the reader has begun with a record. -/
def IsWithin (r : Reading) : Prop :=
  r.place ≠ .recordStart ∧ r.place ≠ .comment

/-- Whether a record goes on or ends, without regard to its line and to the line ends so far: where a
row ends and what its cells are does not depend on where it stands. -/
def Proceeds (r : Reading) (move : Reading → Reading × Option Record) : Prop :=
  (∃ next : Reading, next.IsWithin ∧ ∀ newlines line,
    move (r.on newlines line) = (next.on newlines line, none)) ∨
  ∀ newlines line, move (r.on newlines line) = (behind newlines, some ⟨line, r.record.cells⟩)

theorem proceeds_keep (r : Reading) (place : Place) (c : Char)
    (h : place ≠ .recordStart ∧ place ≠ .comment) :
    r.Proceeds fun r => (r.keep place c, none) :=
  .inl ⟨r.keep place c, h, fun _ _ => rfl⟩

theorem proceeds_place (r : Reading) (place : Place) (h : place ≠ .recordStart ∧ place ≠ .comment) :
    r.Proceeds fun r => ({ r with place }, none) :=
  .inl ⟨{ r with place }, h, fun _ _ => rfl⟩

theorem proceeds_stepBare (r : Reading) (c : Char) : r.Proceeds (·.stepBare c) := by
  unfold stepBare
  split
  · exact .inl ⟨r.endCell, ⟨nofun, nofun⟩, fun _ _ => rfl⟩
  · split
    · exact .inr fun _ _ => rfl
    · exact r.proceeds_keep .bare c ⟨nofun, nofun⟩

theorem proceeds_stepCellStart (r : Reading) (c : Char) : r.Proceeds (·.stepCellStart c) := by
  unfold stepCellStart
  split
  · exact r.proceeds_place .quoted ⟨nofun, nofun⟩
  · exact r.proceeds_stepBare c

theorem proceeds_ite (p : Prop) [Decidable p]
    {move move' : Reading → Reading × Option Record} (h : r.Proceeds move) (h' : r.Proceeds move') :
    r.Proceeds fun r => if p then move r else move' r := by
  split
  · exact h
  · exact h'

/-- Within a record a character is counted, and then the record goes on or ends. -/
theorem proceeds_step (h : r.IsWithin) (c : Char) :
    ∃ move, r.Proceeds move ∧ ∀ newlines line,
      (r.on newlines line).step c = move (r.on (newlines + [c].count '\n') line) := by
  obtain ⟨place, newlines, line, cells, cell⟩ := r
  cases place with
  | recordStart => exact absurd rfl h.1
  | comment => exact absurd rfl h.2
  | cellStart =>
    refine ⟨_, proceeds_stepCellStart _ c, fun newlines line => ?_⟩
    rw [step, count_eq_on]
    rfl
  | bare =>
    refine ⟨_, proceeds_stepBare _ c, fun newlines line => ?_⟩
    rw [step, count_eq_on]
    rfl
  | quoted =>
    refine ⟨_, proceeds_ite (c = '"') (proceeds_place _ .quoteInQuoted (by decide))
      (proceeds_keep _ .quoted c (by decide)), fun newlines line => ?_⟩
    rw [step, count_eq_on]
    rfl
  | quoteInQuoted =>
    refine ⟨_, proceeds_ite (c = '"') (proceeds_keep _ .quoted c (by decide)) (proceeds_stepBare _ c),
      fun newlines line => ?_⟩
    rw [step, count_eq_on]
    rfl

theorem recordsFrom_step (h : r.IsWithin) (c : Char) :
    (∃ next : Reading, next.IsWithin ∧ ∀ newlines line rest,
      (r.on newlines line).recordsFrom (c :: rest) =
        (next.on (newlines + [c].count '\n') line).recordsFrom rest) ∨
    ∀ newlines line rest, (r.on newlines line).recordsFrom (c :: rest) =
      ⟨line, r.record.cells⟩ :: (behind (newlines + [c].count '\n')).recordsFrom rest := by
  obtain ⟨move, hproceeds, hstep⟩ := proceeds_step h c
  rcases hproceeds with ⟨next, hnext, hgoes⟩ | hends
  · refine .inl ⟨next, hnext, fun newlines line rest => ?_⟩
    rw [recordsFrom, hstep, hgoes]
  · refine .inr fun newlines line rest => ?_
    rw [recordsFrom, hstep, hends]

/-- Text that breaks off within a record ends it. -/
theorem recordsFrom_nil (h : r.IsWithin) (newlines line : Nat) :
    (r.on newlines line).recordsFrom [] = [⟨line, r.record.cells⟩] := by
  obtain ⟨place, _, _, cells, cell⟩ := r
  cases place with
  | recordStart => exact absurd rfl h.1
  | comment => exact absurd rfl h.2
  | cellStart | bare | quoted | quoteInQuoted => rfl

/-- The first cell of a record is read like any other. -/
theorem recordsFrom_begin {c : Char} (hc : isTerminator c = false) (hcomment : c ≠ '#')
    (newlines line : Nat) (rest : List Char) :
    (atRecord newlines line).recordsFrom (c :: rest) =
      (({ atRecord 0 0 with place := .cellStart } : Reading).on newlines line).recordsFrom (c :: rest) := by
  have hstep : (atRecord newlines line).step c =
      (({ atRecord 0 0 with place := .cellStart } : Reading).on newlines line).step c := by
    rw [step, step, count_eq_on, count_eq_on]
    simp only [on, atRecord, hc, if_neg hcomment, Bool.false_eq_true, if_false]
    rfl
  rw [recordsFrom, recordsFrom, hstep]

end Reading

/-! ### Rows and what stands between them -/

/-- What holds no record: ends of lines, and comments with theirs. -/
inductive Gap : List Char → Prop
  | nil : Gap []
  | lineEnd {c : Char} {gap : List Char} (isTerminator : Reading.isTerminator c = true) (h : Gap gap) :
    Gap (c :: gap)
  | comment {text gap : List Char} (newline_notMem : '\n' ∉ text) (h : Gap gap) :
    Gap ('#' :: (text ++ '\n' :: gap))

theorem Gap.append {gap gap' : List Char} (h : Gap gap) (h' : Gap gap') : Gap (gap ++ gap') := by
  induction h with
  | nil => exact h'
  | lineEnd hc _ ih => exact .lineEnd hc ih
  | comment htext _ ih =>
    rw [List.cons_append, List.append_assoc, List.cons_append]
    exact .comment htext ih

/-- Ends of lines and comments are counted and passed over. -/
theorem Gap.recordsFrom {gap : List Char} (h : Gap gap) (newlines line : Nat) (rest : List Char) :
    (Reading.atRecord newlines line).recordsFrom (gap ++ rest) =
      (Reading.atRecord (newlines + gap.count '\n') line).recordsFrom rest := by
  induction h generalizing newlines with
  | nil => rfl
  | @lineEnd c gap hc _ ih =>
    have hstep : (Reading.atRecord newlines line).step c =
        (Reading.atRecord (newlines + [c].count '\n') line, none) := by
      rw [Reading.step, Reading.count_eq_on]
      exact if_pos hc
    rw [List.cons_append, Reading.recordsFrom, hstep]
    simp only
    rw [ih, Nat.add_assoc, ← List.count_append, List.singleton_append]
  | @comment text gap htext _ ih =>
    rw [List.cons_append, List.append_assoc, List.cons_append, Reading.recordsFrom_comment htext, ih]
    have hcount : ('#' :: (text ++ '\n' :: gap)).count '\n' = 1 + gap.count '\n' := by
      rw [List.count_cons_of_ne (by decide), List.count_append, List.count_eq_zero.mpr htext,
        List.count_cons_self, Nat.zero_add, Nat.add_comm]
    rw [hcount, Nat.add_assoc]

/-- Whether a text begins a record. -/
def Begins (row : List Char) : Prop :=
  ∃ c ∈ row.head?, Reading.isTerminator c = false ∧ c ≠ '#'

/-- A text that is read as one record, with the cells `cells`, where it stands before `rest`. -/
structure IsRow (row : List Char) (cells : List String) (rest : List Char) : Prop where
  begins : Begins row
  recordsFrom : ∀ newlines line, (Reading.atRecord newlines line).recordsFrom (row ++ rest) =
    ⟨line, cells⟩ :: (Reading.behind (newlines + row.count '\n')).recordsFrom rest

/-- A row where it stands in a text. -/
structure Passage where
  /-- The text up to the end of the row before. -/
  before : List Char
  /-- What stands between the two rows. -/
  gap : List Char
  row : List Char
  cells : List String

namespace Passage

/-- The record of the row, with the line on which the row before it ends. -/
def record (p : Passage) : Record := ⟨lineAfter p.before, p.cells⟩

/-- The line on which the row begins. -/
def line (p : Passage) : Nat := lineAfter (p.before ++ p.gap)

theorem line_eq (p : Passage) : p.line = p.record.line + p.gap.count '\n' := by
  rw [line, lineAfter, List.count_append]
  exact Nat.add_right_comm _ _ _

end Passage

/-- The rows of a text that goes on behind `before`. -/
inductive Layout : List Char → List Char → List Passage → Prop
  | gap {before gap : List Char} (h : Gap gap) : Layout before gap []
  | comment {before gap text : List Char} (h : Gap gap) (newline_notMem : '\n' ∉ text) :
    Layout before (gap ++ '#' :: text) []
  | row {before gap row rest : List Char} {cells : List String} {passages : List Passage}
    (hgap : Gap gap) (hrow : IsRow row cells rest)
    (h : Layout (before ++ gap ++ row) rest passages) :
    Layout before (gap ++ (row ++ rest)) (⟨before, gap, row, cells⟩ :: passages)

/-- The records of a text are those of its rows. -/
theorem Layout.recordsFrom {before text : List Char} {passages : List Passage}
    (h : Layout before text passages) :
    (Reading.behind (before.count '\n')).recordsFrom text = passages.map (·.record) := by
  induction h with
  | @gap before gap hgap =>
    have hread := hgap.recordsFrom (before.count '\n') (lineAfter before) []
    rw [List.append_nil] at hread
    exact hread
  | @comment before gap text hgap htext =>
    have hread := hgap.recordsFrom (before.count '\n') (lineAfter before) ('#' :: text)
    have hcomment := Reading.recordsFrom_inComment htext ((before ++ gap).count '\n')
      (lineAfter before) []
    rw [List.append_nil, List.count_append] at hcomment
    exact hread.trans hcomment
  | row hgap hrow _ ih =>
    rw [List.map_cons, ← ih, Reading.behind, hgap.recordsFrom, hrow.recordsFrom, List.count_append,
      List.count_append]
    rfl

/-! ### Every text has a layout -/

/-- A text that is read from the start of a record up to `r` within it. -/
structure Unfinished (row : List Char) (r : Reading) : Prop where
  begins : Begins row
  isWithin : r.IsWithin
  recordsFrom : ∀ newlines line rest, (Reading.atRecord newlines line).recordsFrom (row ++ rest) =
    (r.on (newlines + row.count '\n') line).recordsFrom rest

/-- What can have been read since a record ended. -/
inductive Begun : List Char → Prop
  | gap {gap : List Char} (h : Gap gap) : Begun gap
  | comment {gap text : List Char} (h : Gap gap) (newline_notMem : '\n' ∉ text) :
    Begun (gap ++ '#' :: text)
  | row {gap row : List Char} {r : Reading} (h : Gap gap) (hrow : Unfinished row r) :
    Begun (gap ++ row)

/-- A row either goes on behind a character or ends with it. -/
theorem exists_unfinished_or_isRow {row : List Char} {r : Reading} {c : Char} (hbegins : Begins (row ++ [c]))
    (hwithin : r.IsWithin)
    (hread : ∀ newlines line rest, (Reading.atRecord newlines line).recordsFrom (row ++ c :: rest) =
      (r.on (newlines + row.count '\n') line).recordsFrom (c :: rest)) :
    (∃ next, Unfinished (row ++ [c]) next) ∨ ∃ cells, ∀ rest, IsRow (row ++ [c]) cells rest := by
  have hcount : ∀ newlines,
      newlines + row.count '\n' + [c].count '\n' = newlines + (row ++ [c]).count '\n' := by
    intro newlines
    rw [List.count_append, Nat.add_assoc]
  rcases Reading.recordsFrom_step hwithin c with ⟨next, hnext, hgoes⟩ | hends
  · refine .inl ⟨next, hbegins, hnext, fun newlines line rest => ?_⟩
    rw [List.append_assoc, List.singleton_append, hread, hgoes, hcount]
  · refine .inr ⟨r.record.cells, fun rest => ⟨hbegins, fun newlines line => ?_⟩⟩
    rw [List.append_assoc, List.singleton_append, hread, hends, hcount]

theorem Begins.append {row : List Char} (h : Begins row) (rest : List Char) : Begins (row ++ rest) := by
  obtain ⟨c, hc, hbegins⟩ := h
  refine ⟨c, ?_, hbegins⟩
  rw [List.head?_append, Option.mem_def.mp hc]
  rfl

/-- One more character: it belongs to what has been read, or ends a row. -/
theorem Begun.step {read : List Char} (h : Begun read) (c : Char) :
    Begun (read ++ [c]) ∨
    ∃ gap row cells, read ++ [c] = gap ++ row ∧ Gap gap ∧ ∀ rest, IsRow row cells rest := by
  cases h with
  | gap hgap =>
    cases hend : Reading.isTerminator c with
    | true => exact .inl (.gap (hgap.append (.lineEnd hend .nil)))
    | false =>
      by_cases hcomment : c = '#'
      · subst hcomment
        exact .inl (.comment hgap List.not_mem_nil)
      · have hbegins : Begins ([] ++ [c]) := ⟨c, rfl, hend, hcomment⟩
        have hread := Reading.recordsFrom_begin hend hcomment
        have hwithin : Reading.IsWithin ⟨.cellStart, 0, 0, [], []⟩ := ⟨nofun, nofun⟩
        rcases exists_unfinished_or_isRow hbegins hwithin hread with ⟨next, hnext⟩ | ⟨cells, hrow⟩
        · exact .inl (.row hgap hnext)
        · exact .inr ⟨_, [c], cells, rfl, hgap, hrow⟩
  | @comment gap text hgap htext =>
    rw [List.append_assoc, List.cons_append]
    by_cases hend : c = '\n'
    · subst hend
      exact .inl (.gap (hgap.append (.comment htext .nil)))
    · exact .inl (.comment hgap (by simp [htext, Ne.symm hend]))
  | @row gap row r hgap hrow =>
    rw [List.append_assoc]
    have hread := fun newlines line rest => hrow.recordsFrom newlines line (c :: rest)
    rcases exists_unfinished_or_isRow (hrow.begins.append [c]) hrow.isWithin hread with
      ⟨next, hnext⟩ | ⟨cells, hrow⟩
    · exact .inl (.row hgap hnext)
    · exact .inr ⟨gap, row ++ [c], cells, rfl, hgap, hrow⟩

theorem Begun.exists_layout {read : List Char} (h : Begun read) (before : List Char) :
    ∃ passages, Layout before read passages := by
  cases h with
  | gap hgap => exact ⟨[], .gap hgap⟩
  | comment hgap htext => exact ⟨[], .comment hgap htext⟩
  | @row gap row r hgap hrow =>
    have hlast : IsRow row r.record.cells [] := by
      refine ⟨hrow.begins, fun newlines line => ?_⟩
      rw [hrow.recordsFrom, Reading.recordsFrom_nil hrow.isWithin]
      rfl
    have hlayout : Layout before (gap ++ (row ++ [])) [⟨before, gap, row, r.record.cells⟩] :=
      .row hgap hlast (.gap .nil)
    rw [List.append_nil] at hlayout
    exact ⟨_, hlayout⟩

-- The induction is on the text that follows what has been read since a record ended.
theorem Begun.exists_layout_append {read : List Char} (h : Begun read) (before text : List Char) :
    ∃ passages, Layout before (read ++ text) passages := by
  induction text generalizing read before with
  | nil =>
    rw [List.append_nil]
    exact h.exists_layout before
  | cons c text ih =>
    rw [List.append_cons]
    rcases h.step c with hbegun | ⟨gap, row, cells, hread, hgap, hrow⟩
    · exact ih hbegun before
    · obtain ⟨passages, hpassages⟩ := ih (.gap .nil) (before ++ gap ++ row)
      rw [hread, List.append_assoc]
      exact ⟨⟨before, gap, row, cells⟩ :: passages, .row hgap (hrow text) hpassages⟩

/-- Every text is made of rows with nothing but ends of lines and comments between them. -/
theorem exists_layout (text : List Char) : ∃ passages, Layout [] text passages :=
  (Begun.gap .nil).exists_layout_append [] text

end NearDup.Csv
