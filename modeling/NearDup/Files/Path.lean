import NearDup.Text.Blank

/-! Paths below one directory, as text and as the names on the way. -/

namespace NearDup

structure Path where
  text : String
deriving DecidableEq, Repr

namespace Path

/-- The names between the strokes of a path. -/
def parts (p : Path) : List String :=
  (Text.splitAt '/' p.text).filter (! ·.isEmpty)

/-- The names to follow from the top; a stroke at the end asks for a directory, as a dot does. -/
def route (p : Path) : List String :=
  if p.text.endsWith "/" then p.parts ++ ["."] else p.parts

/-- Names without the dots that lead nowhere; a dot in front stays. -/
def withoutDots : List String → List String
  | [] => []
  | first :: names => first :: names.filter (· ≠ ".")

/-- The names of a path without the dots that lead nowhere. -/
def components (p : Path) : List String :=
  withoutDots p.parts

def ofNames (names : List String) : Path :=
  ⟨"/".intercalate names⟩

def parent? (p : Path) : Option Path :=
  if p.components.isEmpty then none else some (ofNames p.components.dropLast)

def fileName? (p : Path) : Option String :=
  p.components.getLast?.filter fun name => name ≠ "." ∧ name ≠ ".."

/-- A file name up to its last dot; a dot in front begins no extension. -/
def stem (name : String) : String :=
  match (name.toList.reverse.dropWhile (· ≠ '.')).drop 1 with
  | [] => name
  | head => String.ofList head.reverse

/-- The path with the extension of its last name exchanged or added. -/
def withExtension (p : Path) (extension : String) : Path :=
  match p.fileName? with
  | some name => ofNames (p.components.dropLast ++ [stem name ++ "." ++ extension])
  | none => p

def join (p : Path) (name : String) : Path :=
  if p.text.isEmpty || p.text.endsWith "/" then ⟨p.text ++ name⟩ else ⟨p.text ++ "/" ++ name⟩

end Path

end NearDup
