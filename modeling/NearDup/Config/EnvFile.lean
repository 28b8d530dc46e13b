import NearDup.Text.Blank
import NearDup.Text.CharClass.Alphanumeric
import NearDup.Text.Utf8

/-! Files of assignments such as `NAME=value`, which set variables that are not set yet. A value may
be quoted, span lines, and refer to variables. The first line with a fault ends the reading; what
comes before it counts. -/

namespace NearDup

abbrev Environment := List (String × String)

/-- Sets a variable that is not set yet. -/
def Environment.setNew (e : Environment) (name value : String) : Environment :=
  if (e.lookup name).isSome then e else e ++ [(name, value)]

theorem Environment.lookup_setNew (e : Environment) (name value : String) :
    (e.setNew name value).lookup name = some ((e.lookup name).getD value) := by
  rw [setNew]
  cases h : e.lookup name with
  | some v => simp [h]
  | none => simp [List.lookup_append, h]

namespace EnvFile

/-! ### Lines -/

/-- The lines of a file with their ends, up to the first that is not text. -/
def textLines (held : List Char) : List Text.Symbol → List (List Char)
  | [] => if held.isEmpty then [] else [held]
  | .char c :: rest =>
    if c == '\n' then (held ++ [c]) :: textLines [] rest else textLines (held ++ [c]) rest
  | .stray _ :: _ => []

/-- What the characters so far mean for the end of a line. -/
inductive Span
  | plain
  | escape
  | single
  | singleEscape
  | double
  | doubleEscape
  | blank
deriving DecidableEq, Repr

/-- What one more character means outside quotation marks. -/
def Span.outside (c : Char) : Span :=
  if c == '\\' then .escape else if c == '"' then .double else if c == '\'' then .single else .plain

/-- What one more character means; nothing if a comment begins with it. -/
def Span.next? (s : Span) (c : Char) : Option Span :=
  match s with
  | .plain =>
    some (if Text.isBlank c && c != '\n' && c != '\r' then .blank else outside c)
  | .blank => if c == '#' then none else some (outside c)
  | .escape => some .plain
  | .single => some (if c == '\\' then .singleEscape else if c == '\'' then .plain else .single)
  | .singleEscape => some .single
  | .double => some (if c == '\\' then .doubleEscape else if c == '"' then .plain else .double)
  | .doubleEscape => some .double

/-- How a line goes on: it ends before a comment, or in some span. -/
inductive LineEnd
  | comment (before : List Char)
  | span (s : Span)

/-- Follows a line to its end or to a comment in it; `before` is what has been read of it. -/
def lineEnd (before : List Char) (s : Span) : List Char → LineEnd
  | [] => .span s
  | c :: cs =>
    match s.next? c with
    | none => .comment before
    | some s => lineEnd (before ++ [c]) s cs

/-- The statements that lines make up. One that the file ends in is left out. -/
def statements (held : List Char) (s : Span) : List (List Char) → List (List Char)
  | [] => []
  | line :: lines =>
    let text := held ++ line
    if (text.dropWhile Text.isBlank).head? = some '#' then statements [] .plain lines
    else
      match lineEnd [] s line with
      | .comment before => (held ++ before) :: statements [] .plain lines
      | .span .plain => text :: statements [] .plain lines
      | .span s => statements text s lines

/-! ### Values -/

/-- Where a reader of a value is. In `name`, it reads the name of a variable, in braces or not. -/
inductive Place
  | bare
  | single
  | double
  | escaped (inDouble : Bool)
  | name (taken : List Char) (braced inDouble : Bool)
  | ended
deriving DecidableEq, Repr

/-- The place that an escape or a name leads back to. -/
def Place.back (inDouble : Bool) : Place :=
  if inDouble then .double else .bare

def valueOf (e : Environment) (name : List Char) : List Char :=
  ((e.lookup (String.ofList name)).getD "").toList

/-- Reads a value from a place on, to its end or to a comment after it. -/
def readValue (e : Environment) : Place → List Char → Option (List Char)
  | .bare, [] | .ended, [] | .escaped false, [] => some []
  | .name taken false false, [] => some (valueOf e taken)
  | .single, [] | .double, [] | .escaped true, [] | .name _ _ _, [] => none
  | .ended, c :: cs =>
    if c == ' ' || c == '\t' then readValue e .ended cs else if c == '#' then some [] else none
  | .escaped inDouble, c :: cs =>
    if "\\'\"$ ".toList.contains c then (readValue e (.back inDouble) cs).map (c :: ·)
    else if c == 'n' then (readValue e (.back inDouble) cs).map ('\n' :: ·)
    else none
  | .single, c :: cs =>
    if c == '\'' then readValue e .bare cs else (readValue e .single cs).map (c :: ·)
  | .name taken braced inDouble, c :: cs =>
    if Text.alphanumeric.contains c then readValue e (.name (taken ++ [c]) braced inDouble) cs
    else if braced then
      if c == '\x7d' then (readValue e (.back inDouble) cs).map (valueOf e taken ++ ·)
      else readValue e (.name (taken ++ [c]) true inDouble) cs
    else if c == '\x7b' && taken.isEmpty then readValue e (.name [] true inDouble) cs
    else if c == '$' then (readValue e (.name [] false inDouble) cs).map (valueOf e taken ++ ·)
    else (readValue e (.back inDouble) cs).map (valueOf e taken ++ c :: ·)
  | .double, c :: cs =>
    if c == '$' then readValue e (.name [] false true) cs
    else if c == '"' then readValue e .bare cs
    else if c == '\\' then readValue e (.escaped true) cs
    else (readValue e .double cs).map (c :: ·)
  | .bare, c :: cs =>
    if c == '$' then readValue e (.name [] false false) cs
    else if c == '\'' then readValue e .single cs
    else if c == '"' then readValue e .double cs
    else if c == '\\' then readValue e (.escaped false) cs
    else if c == ' ' || c == '\t' then readValue e .ended cs
    else (readValue e .bare cs).map (c :: ·)

/-! ### Statements -/

/-- What a statement does. -/
inductive Statement
  | empty
  | assignment (name value : String)
deriving DecidableEq, Repr

def takeName (cs : List Char) : Option (List Char × List Char) :=
  match cs with
  | c :: _ =>
    if c.isAlpha || c == '_' then
      let name := cs.takeWhile fun c => c.isAlphanum || c == '_' || c == '.'
      some (name, (cs.drop name.length).dropWhile Text.isBlank)
    else none
  | [] => none

def takeEquals : List Char → Option (List Char)
  | '=' :: cs => some (cs.dropWhile Text.isBlank)
  | _ => none

/-- Takes the name of a variable and the equals sign off the front; the word `export` may stand
before them. -/
def takeTarget (cs : List Char) : Option (List Char × List Char) := do
  let (name, rest) ← takeName cs
  match takeEquals rest with
  | some rest => return (name, rest)
  | none =>
    if String.ofList name = "export" then
      let (name, rest) ← takeName rest
      return (name, ← takeEquals rest)
    else none

def statement? (e : Environment) (text : List Char) : Option Statement := do
  match Text.trimmed text with
  | [] => return .empty
  | '#' :: _ => return .empty
  | text =>
    let (name, rest) ← takeTarget text
    let value ← if rest.head? = some '#' then some [] else readValue e .bare rest
    return .assignment (String.ofList name) (String.ofList value)

/-- Carries out statements, up to the first that has a fault. -/
def execute (e : Environment) : List (List Char) → Environment
  | [] => e
  | text :: rest =>
    match statement? e text with
    | none => e
    | some .empty => execute e rest
    | some (.assignment name value) => execute (e.setNew name value) rest

/-- The bytes after a mark for their order. -/
def withoutMark (symbols : List Text.Symbol) : List Text.Symbol :=
  match symbols with
  | .char '\uFEFF' :: rest => rest
  | symbols => symbols

def load (e : Environment) (file : Bytes) : Environment :=
  execute e (statements [] .plain (textLines [] (withoutMark (Text.symbols file))))

end EnvFile

end NearDup
