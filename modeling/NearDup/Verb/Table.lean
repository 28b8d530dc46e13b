import NearDup.Csv
import NearDup.Text.Lowercase
import NearDup.Verb.Index

/-! Irregular verbs and their inflected forms. Main statement: a word that is an infinitive of the
table stands for itself, whatever forms it is listed under. -/

namespace NearDup

/-- Verbs in the order in which they are listed, with their index. -/
structure VerbTable where
  verbs : List Verb
  index : VerbIndex := VerbIndex.ofVerbs verbs
  index_eq : index = VerbIndex.ofVerbs verbs := by rfl
deriving DecidableEq, Repr

/-- A row, begun to be looked for at the given line, that lacks one of its three cells. -/
structure MalformedRow where
  line : Nat
deriving DecidableEq, Repr

def MalformedRow.message (row : MalformedRow) : String :=
  "malformed verb table: line " ++ toString row.line ++
    " needs infinitive, simple past and past participle"

namespace Verb

/-- The forms that a cell lists, separated by strokes. -/
def formsOf (cell : String) : List String :=
  ((Text.splitAt '/' cell).map fun form => Text.lowercase (Text.trim form)).filter (! ·.isEmpty)

/-- The verb of a record, which starts with infinitive, simple past and past participle; a record
of empty cells holds none. -/
def ofRecord? (record : Csv.Record) : Except MalformedRow (Option Verb) :=
  if record.cells.all (·.isEmpty) then .ok none
  else
    match record.cells with
    | infinitive :: past :: participle :: _ =>
      if infinitive.isEmpty || past.isEmpty || participle.isEmpty then .error ⟨record.line⟩
      else .ok (some ⟨Text.lowercase infinitive, formsOf past ++ formsOf participle⟩)
    | _ => .error ⟨record.line⟩

end Verb

namespace VerbTable

def ofVerbs (verbs : List Verb) : VerbTable := { verbs }

def empty : VerbTable := ofVerbs []

/-- The verbs of the records, unless one of these is malformed. -/
def ofRecords? : List Csv.Record → Except MalformedRow (List Verb)
  | [] => .ok []
  | record :: records => do
    let verb? ← Verb.ofRecord? record
    let verbs ← ofRecords? records
    return verb?.toList ++ verbs

/-- The table that a text of records writes. -/
def ofCsv? (text : String) : Except MalformedRow VerbTable :=
  return ofVerbs (← ofRecords? (Csv.records text))

def size (table : VerbTable) : Nat :=
  table.verbs.length

/-- The infinitive that the word `key` stands for. -/
def lookup? (table : VerbTable) (key : String) : Option String :=
  table.index.find? key

/-- The infinitive that `token` stands for, whatever the case of its ASCII letters. -/
def infinitive? (table : VerbTable) (token : String) : Option String :=
  match table.lookup? token with
  | some infinitive => some infinitive
  | none =>
    if token.toList.any Char.isUpper then table.lookup? (Text.asciiLowercase token) else none

/-- The infinitive that `token` stands for, or else `token`. -/
def toInfinitive (table : VerbTable) (token : String) : String :=
  (table.infinitive? token).getD token

end VerbTable

/-- A word that is an infinitive stands for itself, and any other word for the infinitive of the
first verb with such a form. -/
theorem VerbTable.lookup?_eq (table : VerbTable) (key : String) :
    table.lookup? key =
      if table.verbs.any (·.infinitive == key) then some key
      else (table.verbs.find? (·.forms.contains key)).map (·.infinitive) := by
  rw [lookup?, table.index_eq, VerbIndex.find?_ofVerbs]

theorem VerbTable.lookup?_infinitive (table : VerbTable) (verb : Verb) (h : verb ∈ table.verbs) :
    table.lookup? verb.infinitive = some verb.infinitive := by
  have : table.verbs.any (·.infinitive == verb.infinitive) = true :=
    List.any_eq_true.mpr ⟨verb, h, by simp⟩
  simp [lookup?_eq, this]

end NearDup
