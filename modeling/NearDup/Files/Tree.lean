import NearDup.Files.Path
import NearDup.Text.Utf8

/-! A directory with all files and directories below it, and what can be done to them. Main
statements: an entry that is set is found, and every other place stays as it was. -/

namespace NearDup

inductive IoError
  | missing
  | exists
  | notADirectory
  | isADirectory
  | notEmpty
  | other (message : String)
deriving DecidableEq, Repr

def IoError.message : IoError → String
  | .missing => "No such file or directory (os error 2)"
  | .exists => "File exists (os error 17)"
  | .notADirectory => "Not a directory (os error 20)"
  | .isADirectory => "Is a directory (os error 21)"
  | .notEmpty => "Directory not empty (os error 39)"
  | .other message => message

/-- What stands at a place. -/
inductive Entry
  | file (bytes : Bytes)
  | dir
deriving DecidableEq, Repr

/-- A place in a tree, by the names on the way to it. -/
abbrev Location := List String

/-- The place that a name leads to from another one. -/
def Location.next (place : Location) (name : String) : Location :=
  if name = "." then place else if name = ".." then place.dropLast else place ++ [name]

/-- Entries by their places. The place without names is the tree itself, a directory. -/
structure Tree where
  entries : List (Location × Entry)

namespace Tree

def empty : Tree := ⟨[]⟩

def find? (t : Tree) (place : Location) : Option Entry :=
  if place = [] then some .dir else t.entries.lookup place

def set (t : Tree) (place : Location) (entry : Entry) : Tree :=
  ⟨(place, entry) :: t.entries.filter (·.1 ≠ place)⟩

def erase (t : Tree) (place : Location) : Tree :=
  ⟨t.entries.filter (·.1 ≠ place)⟩

theorem lookup_filter_ne (entries : List (Location × Entry)) (place other : Location)
    (h : other ≠ place) :
    (entries.filter (·.1 ≠ place)).lookup other = entries.lookup other := by
  induction entries with
  | nil => rfl
  | cons entry entries ih =>
    obtain ⟨key, value⟩ := entry
    simp only [ne_eq, decide_not] at ih ⊢
    by_cases hk : key = place
    · subst hk
      have : (other == key) = false := by simpa using h
      simp [List.lookup_cons, this, ih]
    · simp [hk, List.lookup_cons, ih]

@[simp] theorem find?_set (t : Tree) (place : Location) (entry : Entry) (h : place ≠ []) :
    (t.set place entry).find? place = some entry := by
  simp [find?, set, h]

theorem find?_set_of_ne (t : Tree) (place other : Location) (entry : Entry) (h : other ≠ place) :
    (t.set place entry).find? other = t.find? other := by
  have : (other == place) = false := by simpa using h
  simp only [find?, set, List.lookup_cons, this, lookup_filter_ne _ _ _ h]

theorem find?_erase_of_ne (t : Tree) (place other : Location) (h : other ≠ place) :
    (t.erase place).find? other = t.find? other := by
  simp only [find?, erase, lookup_filter_ne _ _ _ h]

/-- The place that names lead to from `place`; everything on the way must be a directory. -/
def walk (t : Tree) (place : Location) : List String → Except IoError Location
  | [] => .ok place
  | name :: names =>
    match t.find? place with
    | none => .error .missing
    | some (.file _) => .error .notADirectory
    | some .dir => t.walk (place.next name) names

/-- What becomes of a tree by something that changes nothing when it fails. -/
def outcome (t : Tree) : Except IoError Tree → Option IoError × Tree
  | .ok t => (none, t)
  | .error e => (some e, t)

/-- The place of a path. -/
def locate (t : Tree) (p : Path) : Except IoError Location :=
  if p.text.isEmpty then .error .missing else t.walk [] p.route

def read (t : Tree) (p : Path) : Except IoError Bytes := do
  match t.find? (← t.locate p) with
  | none => .error .missing
  | some .dir => .error .isADirectory
  | some (.file bytes) => .ok bytes

/-- The bytes of the file at a path, if there is one. -/
def readOptional (t : Tree) (p : Path) : Except IoError (Option Bytes) :=
  match t.read p with
  | .ok bytes => .ok (some bytes)
  | .error .missing => .ok none
  | .error e => .error e

def list? (t : Tree) (p : Path) : Option (List String) :=
  match t.locate p with
  | .error _ => none
  | .ok place =>
    if t.find? place = some .dir then
      some ((t.entries.filterMap fun entry =>
        if entry.1.dropLast = place then entry.1.getLast? else none).mergeSort (· ≤ ·))
    else none

/-- Makes the directory that the names after `place` lead to, with all directories on the way. Those
that were made before an error stay. -/
def makeDirsFrom (t : Tree) (place : Location) : List String → Option IoError × Tree
  | [] => (none, t)
  | name :: names =>
    let next := place.next name
    match t.find? next with
    | some .dir => t.makeDirsFrom next names
    | some (.file _) => (some (if names.isEmpty then .exists else .notADirectory), t)
    | none => (t.set next .dir).makeDirsFrom next names

/-- Makes the directory at a path, with all directories on the way. -/
def makeDirs (t : Tree) (p : Path) : Except IoError Tree :=
  match t.makeDirsFrom [] p.components with
  | (none, t) => .ok t
  | (some e, _) => .error e

/-- Opens the file at a path for writing, empty from now on. -/
def create (t : Tree) (p : Path) : Except IoError Tree := do
  let place ← t.locate p
  if t.find? place = some .dir then .error .isADirectory else .ok (t.set place (.file []))

def append (t : Tree) (p : Path) (bytes : Bytes) : Except IoError Tree := do
  let place ← t.locate p
  match t.find? place with
  | none => .error .missing
  | some .dir => .error .isADirectory
  | some (.file old) => .ok (t.set place (.file (old ++ bytes)))

/-- Moves the file at `source` to `target`, in place of a file that stands there. -/
def rename (t : Tree) (source target : Path) : Except IoError Tree := do
  let origin ← t.locate source
  match t.find? origin with
  | none => .error .missing
  | some .dir => .error .isADirectory
  | some (.file bytes) =>
    if target.text.endsWith "/" then .error .notADirectory
    else
      let place ← t.locate target
      if t.find? place = some .dir then .error .isADirectory
      else .ok ((t.erase origin).set place (.file bytes))

def removeFile (t : Tree) (p : Path) : Except IoError Tree := do
  let place ← t.locate p
  match t.find? place with
  | none => .error .missing
  | some .dir => .error .isADirectory
  | some (.file _) => .ok (t.erase place)

def remove (t : Tree) (p : Path) : Except IoError Tree := do
  let place ← t.locate p
  match t.find? place with
  | none => .error .missing
  | some (.file _) => .ok (t.erase place)
  | some .dir =>
    if t.entries.any fun entry => entry.1.dropLast = place then .error .notEmpty
    else .ok (t.erase place)

/-- Puts an entry at a path, with all directories on the way to it. -/
def plant (t : Tree) (p : Path) (entry : Entry) : Except IoError Tree := do
  let t ← t.makeDirs ((p.parent?).getD ⟨""⟩)
  let place ← t.locate p
  .ok (t.set place entry)

end Tree

end NearDup
