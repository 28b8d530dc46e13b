import NearDup.Files.Tree

/-! Writing a file so that it always holds its old bytes or its new ones: a sibling is written first
and then renamed over the target. Each step can be met by an obstacle. -/

namespace NearDup

inductive WriteStep
  | makeParents
  | createSibling
  | fill
  | flush
  | sync
  | rename
deriving DecidableEq, Repr

/-- Something outside the tree that makes a step fail. `progress` says how far the step gets: how many
names the making of the parents goes on, or how many bytes are written. -/
structure Obstacle where
  step : WriteStep
  error : IoError
  progress : Nat
  /-- Whether it also keeps the sibling from being removed. -/
  lasts : Bool
deriving DecidableEq, Repr

/-- A write of `bytes` to the file at `target`. -/
structure AtomicWrite where
  target : Path
  bytes : Bytes

namespace AtomicWrite

def sibling (w : AtomicWrite) : Path :=
  w.target.withExtension "tmp"

/-- The names on the way to the directory of the target. -/
def parents (w : AtomicWrite) : List String :=
  (w.target.parent?.map Path.components).getD []

/-- What a step does when nothing stands in its way but the tree. -/
def perform (w : AtomicWrite) (t : Tree) : WriteStep → Option IoError × Tree
  | .makeParents => t.makeDirsFrom [] w.parents
  | .createSibling => t.outcome (t.create w.sibling)
  | .fill => t.outcome (t.append w.sibling w.bytes)
  | .flush | .sync => (none, t)
  | .rename => t.outcome (t.rename w.sibling w.target)

/-- What a step does until it meets an obstacle. -/
def interrupted (w : AtomicWrite) (o : Obstacle) (t : Tree) : Tree :=
  match o.step with
  | .makeParents => (t.makeDirsFrom [] (w.parents.take o.progress)).2
  | .fill => (t.outcome (t.append w.sibling (w.bytes.take o.progress))).2
  | .createSibling | .flush | .sync | .rename => t

/-- A step with the tree that it leaves and the error that it ends in. -/
def step (w : AtomicWrite) (obstacle : Option Obstacle) (t : Tree) (s : WriteStep) :
    Option IoError × Tree :=
  match obstacle.filter (·.step = s) with
  | some o => (some o.error, w.interrupted o t)
  | none => w.perform t s

/-- Steps one after another, up to the first that fails. -/
def steps (w : AtomicWrite) (obstacle : Option Obstacle) :
    List WriteStep → Tree → Option IoError × Tree
  | [], t => (none, t)
  | s :: rest, t =>
    match w.step obstacle t s with
    | (some e, t) => (some e, t)
    | (none, t) => w.steps obstacle rest t

/-- The steps that follow once the parents are there. -/
def fileSteps : List WriteStep := [.createSibling, .fill, .flush, .sync, .rename]

/-- Removes the sibling if it is there, and if nothing keeps it. -/
def cleanUp (w : AtomicWrite) (obstacle : Option Obstacle) (t : Tree) : Tree :=
  if obstacle.any (·.lasts) then t else (t.outcome (t.removeFile w.sibling)).2

/-- How a write ends whose parents are there: a failure removes the sibling. -/
def finish (w : AtomicWrite) (obstacle : Option Obstacle) :
    Option IoError × Tree → Except IoError Unit × Tree
  | (none, t) => (.ok (), t)
  | (some e, t) => (.error e, w.cleanUp obstacle t)

/-- The whole write. -/
def run (w : AtomicWrite) (obstacle : Option Obstacle) (t : Tree) : Except IoError Unit × Tree :=
  match w.step obstacle t .makeParents with
  | (some e, t) => (.error e, t)
  | (none, t) => w.finish obstacle (w.steps obstacle fileSteps t)

end AtomicWrite

end NearDup
