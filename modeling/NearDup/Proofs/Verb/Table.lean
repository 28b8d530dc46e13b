import NearDup.Proofs.Text.Lowercase
import NearDup.Verb.Table

/-! Verb tables as the records of their text. Main statement: a text is a table just if none of its
rows is malformed, and what a word then stands for can be read off the rows, whatever the case of its
ASCII letters. -/

namespace NearDup

/-! ### Rows -/

namespace Csv.Record

/-- Whether a record holds a verb: its cells are not all empty. -/
def isRow (record : Record) : Bool :=
  record.cells.any (! ·.isEmpty)

/-- Whether one of the first three cells is missing or empty. -/
def isMalformed (record : Record) : Bool :=
  record.cells.length < 3 || (record.cells.take 3).contains ""

/-- The small form of the first cell. -/
def infinitive (record : Record) : String :=
  Text.lowercase (record.cells.headD "")

/-- The small forms of what stands between the strokes of the second and the third cell, trimmed. -/
def pieces (record : Record) : List String :=
  ((record.cells.drop 1).take 2).flatMap fun cell =>
    (Text.splitAt '/' cell).map fun piece => Text.lowercase (Text.trim piece)

/-- The pieces that are not empty. -/
def forms (record : Record) : List String :=
  record.pieces.filter (! ·.isEmpty)

/-- What rows say about a word: it stands for itself if it is an infinitive, and otherwise for that of
the first row which has it among its `formsOf`. -/
def infinitiveIn? (formsOf : Record → List String) (rows : List Record) (word : String) :
    Option String :=
  if rows.any (·.infinitive == word) then some word
  else (rows.find? fun row => (formsOf row).contains word).map infinitive

theorem isRow_of_not_isMalformed (record : Record) (h : record.isMalformed = false) :
    record.isRow = true := by
  obtain ⟨line, cells⟩ := record
  match cells with
  | [] => cases h
  | cell :: cells =>
    have hcell : cell ≠ "" := by
      rintro rfl
      simp [isMalformed] at h
    simp [isRow, hcell]

end Csv.Record

namespace Verb

open Csv (Record)

/-- The verb of a row that is not malformed. -/
def ofRow (row : Record) : Verb := ⟨row.infinitive, row.forms⟩

theorem ofRecord?_eq (record : Record) :
    ofRecord? record =
      if record.isRow && record.isMalformed then .error ⟨record.line⟩
      else .ok (if record.isRow then some (ofRow record) else none) := by
  have hall : record.cells.all (·.isEmpty) = !record.isRow := by
    simp only [Record.isRow, List.not_any_eq_all_not, Bool.not_not]
  rw [ofRecord?, hall]
  cases record.isRow with
  | false => rfl
  | true =>
    obtain ⟨line, cells⟩ := record
    match cells with
    | [] | [_] | [_, _] => rfl
    | infinitive :: past :: participle :: rest =>
      have hmalformed : Record.isMalformed ⟨line, infinitive :: past :: participle :: rest⟩ =
          (infinitive.isEmpty || past.isEmpty || participle.isEmpty) := by
        have hlength : ¬ rest.length + 1 + 1 + 1 < 3 := by omega
        rw [Bool.eq_iff_iff]
        simp [Record.isMalformed, hlength, or_assoc, @eq_comm _ ""]
      simp only [hmalformed, Bool.true_and, Bool.not_true, Bool.false_eq_true, if_false, if_true]
      simp [ofRow, Record.infinitive, Record.forms, Record.pieces, formsOf, List.filter_append]

end Verb

namespace VerbTable

open Csv (Record)

variable {table : VerbTable} {word token infinitive : String}

/-- Of malformed rows the first one is reported; otherwise each row is a verb. -/
theorem ofRecords?_eq (records : List Record) :
    ofRecords? records =
      match records.find? fun record => record.isRow && record.isMalformed with
      | some record => .error ⟨record.line⟩
      | none => .ok ((records.filter Record.isRow).map Verb.ofRow) := by
  induction records with
  | nil => rfl
  | cons record records ih =>
    rw [ofRecords?, Verb.ofRecord?_eq, ih, List.find?_cons]
    cases hmalformed : record.isRow && record.isMalformed with
    | true => rfl
    | false =>
      cases records.find? fun record => record.isRow && record.isMalformed with
      | some later => rfl
      | none =>
        cases hrow : record.isRow with
        | true => simp [hrow, bind, Except.bind, pure, Except.pure]
        | false => simp [hrow, bind, Except.bind, pure, Except.pure]

/-! ### Lookups -/

/-- Whether all words of a table are written without ASCII capitals. -/
def IsSmall (table : VerbTable) : Prop :=
  ∀ verb ∈ table.verbs, Text.asciiLowercase verb.infinitive = verb.infinitive ∧
    ∀ form ∈ verb.forms, Text.asciiLowercase form = form

theorem IsSmall.lookup? (h : table.IsSmall) (hword : Text.asciiLowercase word ≠ word) :
    table.lookup? word = none := by
  rw [lookup?_eq, if_neg, Option.map_eq_none_iff, List.find?_eq_none]
  · intro verb hverb hform
    exact hword ((h verb hverb).2 word (by simpa using hform))
  · intro hany
    obtain ⟨verb, hverb, hinfinitive⟩ := List.any_eq_true.mp hany
    rw [beq_iff_eq] at hinfinitive
    exact hword (hinfinitive ▸ (h verb hverb).1)

/-- The second try of a lookup finds what it would find at once for the small form. -/
theorem IsSmall.infinitive?_eq (h : table.IsSmall) (token : String) :
    table.infinitive? token = table.lookup? (Text.asciiLowercase token) := by
  by_cases hsmall : Text.asciiLowercase token = token
  · rw [infinitive?, hsmall]
    cases table.lookup? token with
    | some infinitive => rfl
    | none => exact ite_self none
  · cases hupper : token.toList.any Char.isUpper with
    | true =>
      rw [infinitive?, h.lookup? hsmall]
      exact if_pos hupper
    | false =>
      refine absurd (Text.asciiLowercase_of_forall fun c hc => ?_) hsmall
      simpa using List.any_eq_false.mp hupper c hc

theorem mem_of_lookup? (h : table.lookup? word = some infinitive) :
    ∃ verb ∈ table.verbs, verb.infinitive = infinitive := by
  rw [lookup?_eq] at h
  split at h
  · rename_i hany
    obtain ⟨verb, hverb, hinfinitive⟩ := List.any_eq_true.mp hany
    obtain rfl := Option.some.inj h
    exact ⟨verb, hverb, eq_of_beq hinfinitive⟩
  · obtain ⟨verb, hverb, hinfinitive⟩ := Option.map_eq_some_iff.mp h
    exact ⟨verb, List.mem_of_find?_eq_some hverb, hinfinitive⟩

theorem mem_of_infinitive? (h : table.infinitive? token = some infinitive) :
    ∃ verb ∈ table.verbs, verb.infinitive = infinitive := by
  unfold infinitive? at h
  split at h
  · rename_i hlookup
    exact mem_of_lookup? (hlookup.trans h)
  · split at h
    · exact mem_of_lookup? h
    · cases h

theorem infinitive?_of_mem {verb : Verb} (h : verb ∈ table.verbs) :
    table.infinitive? verb.infinitive = some verb.infinitive := by
  rw [infinitive?, lookup?_infinitive table verb h]

theorem toInfinitive_toInfinitive (table : VerbTable) (token : String) :
    table.toInfinitive (table.toInfinitive token) = table.toInfinitive token := by
  cases h : table.infinitive? token with
  | none =>
    have hself : table.toInfinitive token = token := by rw [toInfinitive, h, Option.getD_none]
    rw [hself, hself]
  | some infinitive =>
    have hinfinitive : table.toInfinitive token = infinitive := by
      rw [toInfinitive, h, Option.getD_some]
    obtain ⟨verb, hverb, rfl⟩ := mem_of_infinitive? h
    rw [hinfinitive, toInfinitive, infinitive?_of_mem hverb, Option.getD_some]

/-! ### The table of a text -/

theorem ofCsv?_eq (text : String) :
    ofCsv? text =
      match (Csv.records text).find? fun record => record.isRow && record.isMalformed with
      | some record => .error ⟨record.line⟩
      | none => .ok (ofVerbs (((Csv.records text).filter Record.isRow).map Verb.ofRow)) := by
  rw [ofCsv?, ofRecords?_eq]
  cases (Csv.records text).find? fun record => record.isRow && record.isMalformed <;> rfl

theorem ofRecords?_of_not_isMalformed {records : List Record}
    (h : ∀ record ∈ records, record.isMalformed = false) :
    ofRecords? records = .ok (records.map Verb.ofRow) := by
  have hwell : (records.find? fun record => record.isRow && record.isMalformed) = none := by
    rw [List.find?_eq_none]
    intro record hrecord
    simp [h record hrecord]
  have hrows : records.filter Record.isRow = records :=
    List.filter_eq_self.mpr fun record hrecord => record.isRow_of_not_isMalformed (h record hrecord)
  rw [ofRecords?_eq, hwell, hrows]

theorem ofCsv?_of_not_isMalformed {text : String}
    (h : ∀ record ∈ Csv.records text, record.isMalformed = false) :
    ofCsv? text = .ok (ofVerbs ((Csv.records text).map Verb.ofRow)) := by
  rw [ofCsv?, ofRecords?_of_not_isMalformed h]
  rfl

theorem isSmall_ofVerbs (rows : List Record) : (ofVerbs (rows.map Verb.ofRow)).IsSmall := by
  intro verb hverb
  obtain ⟨row, -, rfl⟩ := List.mem_map.mp hverb
  refine ⟨Text.asciiLowercase_lowercase _, fun form hform => ?_⟩
  obtain ⟨hpiece, -⟩ := List.mem_filter.mp hform
  obtain ⟨cell, -, hcell⟩ := List.mem_flatMap.mp hpiece
  obtain ⟨piece, -, rfl⟩ := List.mem_map.mp hcell
  exact Text.asciiLowercase_lowercase _

theorem lookup?_ofVerbs (rows : List Record) (word : String) :
    (ofVerbs (rows.map Verb.ofRow)).lookup? word = Record.infinitiveIn? Record.forms rows word := by
  rw [lookup?_eq, Record.infinitiveIn?]
  simp only [ofVerbs, List.any_map, List.find?_map, Option.map_map]
  rfl

/-- A text is refused just if one of its rows is malformed. Otherwise a word stands, whatever the case
of its ASCII letters, for itself or for the infinitive of the first row with such a form, and what it
stands for stands for itself. -/
theorem ofCsv?_laws (text : String) :
    let records := Csv.records text
    let rows := records.filter Record.isRow
    ((∃ e, ofCsv? text = .error e) ↔ ∃ record ∈ records, record.isRow ∧ record.isMalformed) ∧
    ∀ table, ofCsv? text = .ok table →
      table.size = rows.length ∧
      (∀ token, table.infinitive? token =
        Record.infinitiveIn? Record.forms rows (Text.asciiLowercase token)) ∧
      (∀ token token', Text.asciiLowercase token = Text.asciiLowercase token' →
        table.infinitive? token = table.infinitive? token') ∧
      ∀ token, table.toInfinitive (table.toInfinitive token) = table.toInfinitive token := by
  intro records rows
  have htable := ofCsv?_eq text
  cases hfind : records.find? fun record => record.isRow && record.isMalformed with
  | some record =>
    rw [hfind] at htable
    have hmalformed := List.find?_some hfind
    rw [Bool.and_eq_true] at hmalformed
    refine ⟨⟨fun _ => ⟨record, List.mem_of_find?_eq_some hfind, hmalformed⟩, fun _ => ⟨_, htable⟩⟩, ?_⟩
    intro table h
    rw [htable] at h
    cases h
  | none =>
    rw [hfind] at htable
    have hnone := List.find?_eq_none.mp hfind
    refine ⟨⟨?_, ?_⟩, ?_⟩
    · rintro ⟨e, he⟩
      rw [htable] at he
      cases he
    · rintro ⟨record, hrecord, hmalformed⟩
      exact absurd (Bool.and_eq_true _ _ ▸ hmalformed) (hnone record hrecord)
    · intro table h
      obtain rfl := Except.ok.inj (htable.symm.trans h)
      have hsmall : (ofVerbs (rows.map Verb.ofRow)).IsSmall := isSmall_ofVerbs rows
      refine ⟨List.length_map _, fun token => ?_, fun token token' hsame => ?_,
        toInfinitive_toInfinitive _⟩
      · rw [hsmall.infinitive?_eq, lookup?_ofVerbs]
      · rw [hsmall.infinitive?_eq, hsmall.infinitive?_eq, hsame]

/-- A form of one verb is the infinitive of another, and two verbs share a form. -/
theorem ofCsv?_laws_chained :
    let text := "lie,lay,lain\nlay,laid,laid\nlaze,laid,lazed\n"
    ∃ table, ofCsv? text = .ok table ∧ table.size = 3 ∧ table.infinitive? "LAY" = some "lay" ∧
      Text.asciiLowercase "Laid" = Text.asciiLowercase "lAID" ∧
      table.infinitive? "Laid" = table.infinitive? "lAID" ∧ table.infinitive? "Laid" = some "lay" ∧
      table.toInfinitive (table.toInfinitive "Lain") = table.toInfinitive "Lain" := by
  intro text
  have hwell : ((Csv.records text).find? fun record => record.isRow && record.isMalformed) = none := by
    decide +kernel
  have hsame : Text.asciiLowercase "Laid" = Text.asciiLowercase "lAID" := by decide +kernel
  have htable := ofCsv?_eq text
  rw [hwell] at htable
  obtain ⟨hsize, hlookup, hcase, hagain⟩ := (ofCsv?_laws text).2 _ htable
  refine ⟨_, htable, hsize.trans ?_, (hlookup "LAY").trans ?_, hsame, hcase _ _ hsame,
    (hlookup "Laid").trans ?_, hagain "Lain"⟩
  all_goals decide +kernel

/-- An empty piece is no form: the empty word stands for nothing. -/
theorem infinitive?_of_empty_piece :
    let text := "go,/,gone\n"
    let table := ofVerbs [⟨"go", ["gone"]⟩]
    ofCsv? text = .ok table ∧ table.infinitive? "" = none ∧
      Record.infinitiveIn? Record.pieces ((Csv.records text).filter Record.isRow)
        (Text.asciiLowercase "") = some "go" :=
  ⟨by rfl, by decide +kernel, by decide +kernel⟩

end VerbTable

end NearDup
