import Mathlib.Data.List.TakeWhile
import NearDup.Proofs.Csv.Quoted
import NearDup.Proofs.Verb.Table

/-! Verb tables as they are written. Main statements: a table whose cells stand in quotation marks is
the table of its rows, whatever else is written between them; of a malformed row the line is named on
which the row before it ends. -/

namespace NearDup

theorem Text.trimmed_ne_nil {cs : List Char} (h : cs.all isBlank = false) : trimmed cs ≠ [] := by
  obtain ⟨c, hc, hblank⟩ := List.all_eq_false.mp h
  intro hempty
  rw [trimmed, List.reverse_eq_nil_iff, List.dropWhile_eq_nil_iff] at hempty
  have hsplit : cs.takeWhile isBlank ++ cs.dropWhile isBlank = cs :=
    List.takeWhile_append_dropWhile
  rw [← hsplit, List.mem_append] at hc
  rcases hc with hbefore | hbehind
  · exact hblank (List.mem_takeWhile_imp hbefore)
  · exact hblank (hempty c (List.mem_reverse.mpr hbehind))

namespace VerbTable

open Csv (Record Line Layout Passage)

/-! ### Rows in quotation marks -/

/-- Whether the first three cells of a row are there and not blank. -/
def IsVerbRow (cells : List String) : Prop :=
  3 ≤ cells.length ∧ ∀ cell ∈ cells.take 3, cell.toList.all Text.isBlank = false

instance : DecidablePred IsVerbRow := fun _ => inferInstanceAs (Decidable (_ ∧ _))

/-- The record of a row: its cells without the blanks at their ends. -/
def recordOf (cells : List String) : Record := ⟨0, cells.map Text.trim⟩

theorem IsVerbRow.not_isMalformed {cells : List String} (h : IsVerbRow cells) :
    (recordOf cells).isMalformed = false := by
  obtain ⟨hlength, hcells⟩ := h
  have hempty : "" ∉ (cells.map Text.trim).take 3 := by
    rw [← List.map_take, List.mem_map]
    rintro ⟨cell, hcell, htrim⟩
    have hnil : Text.trimmed cell.toList = [] := by
      rw [← String.toList_ofList (l := Text.trimmed cell.toList)]
      exact congrArg String.toList htrim
    exact Text.trimmed_ne_nil (hcells cell hcell) hnil
  simpa [Record.isMalformed, recordOf, hempty] using hlength

/-- Lines whose rows begin with three cells that are not blank are the table of these rows. Nothing
else that is written between them counts. -/
theorem ofCsv?_written (lines : List Line) (h : ∀ cells ∈ Csv.rowsOf lines, IsVerbRow cells) :
    let rows := (Csv.rowsOf lines).map recordOf
    ∃ table, ofCsv? (Csv.written lines) = .ok table ∧ ofRecords? rows = .ok table.verbs ∧
      table.size = (Csv.rowsOf lines).length ∧
      ∀ token, table.infinitive? token =
        Record.infinitiveIn? Record.forms rows (Text.asciiLowercase token) := by
  intro rows
  have hnonempty : [] ∉ Csv.rowsOf lines := fun hnil => absurd (h [] hnil).1 (by decide)
  have hrecords : (Csv.records (Csv.written lines)).map (fun record => Record.mk 0 record.cells) =
      rows := by
    have hcells := congrArg (List.map (Record.mk 0)) (Csv.cells_records_written hnonempty)
    rwa [List.map_map, List.map_map] at hcells
  have hrows : ∀ row ∈ rows, row.isMalformed = false := by
    intro row hrow
    obtain ⟨cells, hcells, rfl⟩ := List.mem_map.mp hrow
    exact (h cells hcells).not_isMalformed
  have hwell : ∀ record ∈ Csv.records (Csv.written lines), record.isMalformed = false := by
    intro record hrecord
    exact hrows ⟨0, record.cells⟩ (hrecords ▸ List.mem_map_of_mem hrecord)
  have hverbs : (Csv.records (Csv.written lines)).map Verb.ofRow = rows.map Verb.ofRow := by
    rw [← hrecords, List.map_map]
    rfl
  have hsmall : (ofVerbs (rows.map Verb.ofRow)).IsSmall := isSmall_ofVerbs rows
  refine ⟨ofVerbs (rows.map Verb.ofRow), ?_, ofRecords?_of_not_isMalformed hrows, ?_, fun token => ?_⟩
  · rw [ofCsv?_of_not_isMalformed hwell, hverbs]
  · rw [size, ofVerbs, List.length_map, List.length_map]
  · rw [hsmall.infinitive?_eq, lookup?_ofVerbs]

/-- Cells with all that means something outside quotation marks. -/
theorem ofCsv?_written_marked :
    let lines : List Line := [.comment " verbs" (by decide +kernel), .empty .returnNewline,
      .row ["go", " #we\"nt, or\r\n", "gone"] .returnNewline, .comment "\"\r" (by decide +kernel),
      .row ["#b,e", "was/were", "been", "", "\""] .newline, .empty .newline]
    Csv.written lines = "# verbs\n\r\n\"go\",\" #we\"\"nt, or\r\n\",\"gone\"\r\n#\"\r\n" ++
        "\"#b,e\",\"was/were\",\"been\",\"\",\"\"\"\"\n\n" ∧
      (∀ cells ∈ Csv.rowsOf lines, IsVerbRow cells) ∧
      ∃ table, ofCsv? (Csv.written lines) = .ok table ∧ table.size = 2 ∧
        table.infinitive? "#WE\"nt, or" = some "go" ∧ table.infinitive? "were" = some "#b,e" := by
  intro lines
  have hrows : ∀ cells ∈ Csv.rowsOf lines, IsVerbRow cells := by decide +kernel
  obtain ⟨table, htable, -, hsize, hlookup⟩ := ofCsv?_written lines hrows
  refine ⟨by decide +kernel, hrows, table, htable, hsize, ?_, ?_⟩
  · exact (hlookup _).trans (by decide +kernel)
  · exact (hlookup _).trans (by decide +kernel)

/-! ### The line of a malformed row -/

/-- Of malformed rows the first one is reported, with the line on which the row before it ends. It begins
on this line just if no line ends between the two. -/
theorem ofCsv?_line (text : String) :
    (∃ passages, Layout [] (Csv.withoutMark text.toList) passages) ∧
    ∀ passages, Layout [] (Csv.withoutMark text.toList) passages → ∀ e,
      ofCsv? text = .error e ↔
        ∃ p, passages.find? (fun p => p.record.isRow && p.record.isMalformed) = some p ∧
          e.line = Csv.lineAfter p.before ∧ (e.line = p.line ↔ '\n' ∉ p.gap) := by
  refine ⟨Csv.exists_layout _, fun passages hlayout e => ?_⟩
  have hrecords : Csv.records text = passages.map (·.record) := hlayout.recordsFrom
  have hfirst : (Csv.records text).find? (fun record => record.isRow && record.isMalformed) =
      (passages.find? fun p => p.record.isRow && p.record.isMalformed).map (·.record) := by
    rw [hrecords, List.find?_map]
    rfl
  have htable := ofCsv?_eq text
  rw [hfirst] at htable
  cases hfind : passages.find? (fun p => p.record.isRow && p.record.isMalformed) with
  | none =>
    rw [hfind, Option.map_none] at htable
    rw [htable]
    constructor
    · rintro ⟨⟩
    · rintro ⟨p, ⟨⟩, -⟩
  | some p =>
    rw [hfind, Option.map_some] at htable
    have hbegins : p.record.line = p.line ↔ '\n' ∉ p.gap := by
      rw [p.line_eq, ← List.count_eq_zero]
      omega
    constructor
    · intro herror
      obtain rfl := Except.error.inj (htable.symm.trans herror)
      exact ⟨p, rfl, rfl, hbegins⟩
    · rintro ⟨_, ⟨⟩, hline, -⟩
      rw [htable]
      exact congrArg (Except.error ∘ MalformedRow.mk) hline.symm

/-- Behind a comment a malformed row begins on another line than the one that is named. -/
theorem ofCsv?_line_of_comment :
    let text := "# verbs\ngo,went\n"
    let p : Passage := ⟨[], "# verbs\n".toList, "go,went\n".toList, ["go", "went"]⟩
    Layout [] (Csv.withoutMark text.toList) [p] ∧ p.record.isRow ∧ p.record.isMalformed ∧ p.line = 2 ∧
      ∃ e, ofCsv? text = .error e ∧ e.message =
        "malformed verb table: line 1 needs infinitive, simple past and past participle" := by
  intro text p
  have hchars : Csv.withoutMark text.toList = p.gap ++ (p.row ++ []) := by decide +kernel
  have hgap : Csv.Gap p.gap := by
    have hcomment : p.gap = '#' :: (" verbs".toList ++ ['\n']) := by decide +kernel
    rw [hcomment]
    exact .comment (by decide +kernel) .nil
  have hrow : Csv.IsRow p.row p.cells [] := by
    have hcells : p.row = ['g', 'o', ',', 'w', 'e', 'n', 't', '\n'] := by decide +kernel
    rw [hcells]
    exact ⟨⟨'g', rfl, by decide, by decide⟩, fun newlines line => rfl⟩
  refine ⟨?_, by decide +kernel, by decide +kernel, by decide +kernel, ⟨1⟩, by decide +kernel, by decide +kernel⟩
  rw [hchars]
  exact .row hgap hrow (.gap .nil)

end VerbTable

end NearDup
