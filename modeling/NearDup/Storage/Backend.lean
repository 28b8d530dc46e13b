import NearDup.Files.AtomicWrite
import NearDup.Storage.Program
import NearDup.Store.Json

/-! Storages in memory and in a file. The file holds the text of the whole store and is written
anew by every call that changes it; a call is not answered before its file is written. -/

namespace NearDup

/-- A store, and the file that holds its text. -/
structure Snapshot where
  path : Path
  store : Store

namespace Snapshot

def fileName : String := "artsim.json"

/-- The snapshot in a directory, empty if there is no file. -/
def open? (files : Tree) (dir : Path) : Except Error Snapshot := do
  let path := dir.join fileName
  match ← (files.readOptional path).mapError .io with
  | none => return ⟨path, .empty⟩
  | some bytes => return ⟨path, ← (Store.ofBytes? bytes).mapError .json⟩

def write (s : Snapshot) (store : Store) : AtomicWrite :=
  ⟨s.path, Text.encode store.text⟩

/-- Answers a call. If the file cannot be written, nothing is changed. -/
def perform (s : Snapshot) (limit : Nat) (obstacle : Option Obstacle) (files : Tree) {m : Method}
    (c : Call m) : Except Error m.Reply × Snapshot × Tree :=
  match s.store.perform limit c with
  | .error e => (.error e, s, files)
  | .ok (reply, store) =>
    if m.writes then
      match (s.write store).run obstacle files with
      | (.ok (), files) => (.ok reply, { s with store }, files)
      | (.error e, files) => (.error (.io e), s, files)
    else (.ok reply, s, files)

end Snapshot

/-- Where articles are kept. -/
inductive Backend
  | memory (store : Store)
  | file (snapshot : Snapshot)

def Backend.store : Backend → Store
  | .memory store => store
  | .file snapshot => snapshot.store

/-- A backend with the tree that its files are in and the limit of its listings. -/
structure Storage where
  backend : Backend
  files : Tree
  limit : Nat

namespace Storage

/-- Answers a call. -/
def perform (s : Storage) {m : Method} (c : Call m) : Except Error m.Reply × Storage :=
  match s.backend with
  | .memory store =>
    match store.perform s.limit c with
    | .ok (reply, store) => (.ok reply, { s with backend := .memory store })
    | .error e => (.error e, s)
  | .file snapshot =>
    let (reply, snapshot, files) := snapshot.perform s.limit none s.files c
    (reply, { s with backend := .file snapshot, files })

def open? (files : Tree) (c : StorageConfig) : Except Error Storage :=
  match c.backend with
  | .memory => .ok ⟨.memory .empty, files, c.scanLimit⟩
  | .file => return ⟨.file (← Snapshot.open? files c.dataDir), files, c.scanLimit⟩

/-- The storage with the snapshot in a directory as its backend from now on. -/
def reopen? (s : Storage) (dir : Path) : Except Error (Snapshot × Storage) := do
  let snapshot ← Snapshot.open? s.files dir
  return (snapshot, { s with backend := .file snapshot })

end Storage

end NearDup
