import NearDup.Files.Tree

/-! Work on files in steps, each of which finds a tree and leaves one. Main statement: work that is made
up of reading steps ends as the tree says and leaves it as it is. -/

namespace NearDup

/-- Work on the files of a tree. It ends in a value or an error, and leaves a tree in both cases. -/
abbrev FileWork (ε α : Type) := ExceptT ε (StateM Tree) α

namespace FileWork

variable {ε δ α β : Type}

/-- What work on some files ends in, and the files that it leaves. -/
def on (work : FileWork ε α) (files : Tree) : Except ε α × Tree :=
  StateT.run (ExceptT.run work) files

def ofExcept (result : Except ε α) : FileWork ε α :=
  ExceptT.mk (pure result)

def read (p : Path) : FileWork IoError Bytes := do
  ofExcept ((← get).read p)

def readOptional (p : Path) : FileWork IoError (Option Bytes) := do
  ofExcept ((← get).readOptional p)

/-- Whether work ends as the files say, and leaves them as they are. -/
def Reads (work : FileWork ε α) (result : Tree → Except ε α) : Prop :=
  ∀ files, work.on files = (result files, files)

theorem reads_ofExcept (result : Except ε α) : (ofExcept result).Reads fun _ => result :=
  fun _ => rfl

theorem reads_pure (a : α) : (pure a : FileWork ε α).Reads fun _ => .ok a :=
  fun _ => rfl

theorem reads_get : (get : FileWork ε Tree).Reads .ok :=
  fun _ => rfl

theorem reads_read (p : Path) : (read p).Reads (Tree.read · p) :=
  fun _ => rfl

theorem reads_readOptional (p : Path) : (readOptional p).Reads (Tree.readOptional · p) :=
  fun _ => rfl

theorem on_adapt (work : FileWork ε α) (f : ε → δ) (files : Tree) :
    FileWork.on (ExceptT.adapt f work) files =
      ((work.on files).1.mapError f, (work.on files).2) :=
  rfl

theorem on_bind (work : FileWork ε α) (next : α → FileWork ε β) (files : Tree) :
    (work >>= next).on files =
      match work.on files with
      | (.ok a, left) => (next a).on left
      | (.error e, left) => (.error e, left) := by
  unfold on
  simp only [ExceptT.run_bind, StateT.run_bind]
  cases StateT.run (ExceptT.run work) files with
  | mk result left => cases result <;> rfl

theorem Reads.adapt {work : FileWork ε α} {result : Tree → Except ε α} (h : work.Reads result)
    (f : ε → δ) : FileWork.Reads (ExceptT.adapt f work) fun files => (result files).mapError f := by
  intro files
  rw [on_adapt, h files]

theorem Reads.bind {work : FileWork ε α} {result : Tree → Except ε α} {next : α → FileWork ε β}
    {result' : α → Tree → Except ε β} (h : work.Reads result)
    (hnext : ∀ a, (next a).Reads (result' a)) :
    (work >>= next).Reads fun files => result files >>= fun a => result' a files := by
  intro files
  rw [on_bind, h files]
  dsimp only
  cases result files with
  | error e => rfl
  | ok a => exact hnext a files

theorem Reads.congr {work : FileWork ε α} {result result' : Tree → Except ε α}
    (h : work.Reads result) (hsame : ∀ files, result files = result' files) : work.Reads result' := by
  intro files
  rw [h files, hsame files]

end FileWork

end NearDup
