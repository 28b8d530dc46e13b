import NearDup.Text.Blank

/-! Records of comma-separated cells, as many to a record as it has. A cell may stand in quotation
marks, with a mark inside it written twice; a line whose first character is `#` is a comment;
empty lines hold no record. -/

namespace NearDup.Csv

/-- One record: its cells without the blanks at their ends, and the number of the line at which
the reader stood when it began to look for the record, blank lines and comments included. -/
structure Record where
  line : Nat
  cells : List String
deriving DecidableEq, Repr

/-- Where the reader stands. -/
inductive Place
  /-- Before the first cell of a record. -/
  | recordStart
  /-- In a comment. -/
  | comment
  /-- Before a cell that is not the first. -/
  | cellStart
  /-- In a cell, outside quotation marks. -/
  | bare
  /-- Inside quotation marks. -/
  | quoted
  /-- After a mark inside quotation marks: their end, or the first half of a mark written twice. -/
  | quoteInQuoted
deriving DecidableEq, Repr

/-- What has been read: line ends so far, the line of the current record, its finished cells and
the characters of the current one, both last first. -/
structure Reading where
  place : Place
  newlines : Nat
  line : Nat
  cells : List String
  cell : List Char

namespace Reading

def start : Reading := ⟨.recordStart, 0, 1, [], []⟩

def keep (r : Reading) (place : Place) (c : Char) : Reading :=
  { r with place, cell := c :: r.cell }

def endCell (r : Reading) : Reading :=
  { r with
    place := .cellStart
    cells := String.ofList (Text.trimmed r.cell.reverse) :: r.cells
    cell := [] }

def record (r : Reading) : Record :=
  ⟨r.line, r.endCell.cells.reverse⟩

/-- Finishes the record; the next one begins where the reader stands. -/
def endRecord (r : Reading) : Reading × Option Record :=
  (⟨.recordStart, r.newlines, r.newlines + 1, [], []⟩, some r.record)

def isTerminator (c : Char) : Bool := c = '\n' || c = '\r'

/-- A character that is not inside quotation marks and starts none. -/
def stepBare (r : Reading) (c : Char) : Reading × Option Record :=
  if c = ',' then (r.endCell, none)
  else if isTerminator c then r.endRecord
  else (r.keep .bare c, none)

/-- A character at the start of a cell. -/
def stepCellStart (r : Reading) (c : Char) : Reading × Option Record :=
  if c = '"' then ({ r with place := .quoted }, none) else r.stepBare c

def step (r : Reading) (c : Char) : Reading × Option Record :=
  let r := if c = '\n' then { r with newlines := r.newlines + 1 } else r
  match r.place with
  | .recordStart =>
    if isTerminator c then (r, none)
    else if c = '#' then ({ r with place := .comment }, none)
    else r.stepCellStart c
  | .comment => (if c = '\n' then { r with place := .recordStart } else r, none)
  | .cellStart => r.stepCellStart c
  | .bare => r.stepBare c
  | .quoted => if c = '"' then ({ r with place := .quoteInQuoted }, none) else (r.keep .quoted c, none)
  | .quoteInQuoted => if c = '"' then (r.keep .quoted c, none) else r.stepBare c

def finish (r : Reading) : List Record :=
  match r.place with
  | .recordStart | .comment => []
  | _ => [r.record]

def recordsFrom (r : Reading) : List Char → List Record
  | [] => r.finish
  | c :: cs =>
    match r.step c with
    | (r, none) => recordsFrom r cs
    | (r, some record) => record :: recordsFrom r cs

end Reading

/-- A text without the mark of its byte order. -/
def withoutMark : List Char → List Char
  | '\uFEFF' :: cs => cs
  | cs => cs

def records (text : String) : List Record :=
  Reading.start.recordsFrom (withoutMark text.toList)

/-- The text of rows whose cells need no quotation marks. -/
def ofRows (rows : List (List String)) : String :=
  String.join (rows.map fun cells => ",".intercalate cells ++ "\n")

end NearDup.Csv
