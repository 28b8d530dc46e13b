import NearDup.App
import NearDup.Proofs.Config.Variables
import NearDup.Proofs.Files.Work
import NearDup.Proofs.Storage.Backend
import NearDup.Proofs.Verb.Table

/-! The opening of an application from its configuration and the files, also as work on these. Main
statement: it succeeds just if the choices are in range, the table of verbs can be read and the backend
finds nothing wrong with its file; it ends in the error of the first of these that is not so; and it
never changes a file. -/

namespace NearDup

/-! ### The steps of an opening -/

/-- Reads the table in a file. -/
def VerbTable.loading (path : Path) : FileWork ConfigError VerbTable := do
  let bytes ← (FileWork.read path).adapt fun e => .unreadableTable path (.io e)
  match Text.decode? bytes with
  | none => throw (.unreadableTable path .notText)
  | some text => .ofExcept ((VerbTable.ofCsv? text).mapError .malformedTable)

/-- Reads the table that is chosen, for which there may be no file. -/
def SimilarityConfig.loading (c : SimilarityConfig) : FileWork ConfigError VerbTable :=
  match c.verbsPath with
  | some path => VerbTable.loading path
  | none =>
    .ofExcept (if c.bundledVerbs then VerbTable.bundled?.mapError .malformedTable else .ok .empty)

/-- Reads the store in a file, if there is one. -/
def Store.loading (path : Path) : FileWork Error Store := do
  match ← (FileWork.readOptional path).adapt .io with
  | none => return .empty
  | some bytes => .ofExcept ((Store.ofBytes? bytes).mapError .json)

/-- Opens the backend that is chosen. -/
def StorageConfig.opening (c : StorageConfig) : FileWork Error Backend :=
  match c.backend with
  | .memory => return .memory .empty
  | .file => do
    let path := c.dataDir.join Snapshot.fileName
    return .file ⟨path, ← Store.loading path⟩

/-- Opens the application step by step, each step on the files that the one before has left. -/
def Config.opening (c : Config) : FileWork Error (App × Storage) := do
  .ofExcept (c.validate.mapError .config)
  let verbs ← c.similarity.loading.adapt .config
  let detector ← .ofExcept ((Detector.ofThreshold? c.similarity.threshold
    (.ofWords c.similarity.stopwords verbs)).mapError fun bad => .config (.badThreshold bad))
  let backend ← c.storage.opening
  return (⟨(Similarity.ofDetector detector).matcher, c.server.requestTimeout⟩,
    ⟨backend, ← get, c.storage.scanLimit⟩)

open FileWork

theorem VerbTable.loading_reads (path : Path) : (loading path).Reads (load? · path) := by
  have hdecode (bytes : Bytes) : FileWork.Reads (match Text.decode? bytes with
      | none => throw (ConfigError.unreadableTable path .notText)
      | some text => .ofExcept ((VerbTable.ofCsv? text).mapError .malformedTable)) fun _ =>
        match Text.decode? bytes with
        | none => .error (ConfigError.unreadableTable path .notText)
        | some text => (VerbTable.ofCsv? text).mapError .malformedTable := by
    cases Text.decode? bytes <;> exact fun _ => rfl
  refine (((reads_read path).adapt _).bind hdecode).congr fun files => ?_
  unfold load?
  cases files.read path <;> rfl

theorem SimilarityConfig.loading_reads (c : SimilarityConfig) : c.loading.Reads c.verbs? := by
  unfold loading verbs?
  cases c.verbsPath with
  | none => exact reads_ofExcept _
  | some path => exact VerbTable.loading_reads path

theorem Store.loading_reads (path : Path) : (loading path).Reads (stored? · path) := by
  have hdecode (found : Option Bytes) : FileWork.Reads (match found with
      | none => return .empty
      | some bytes => .ofExcept ((Store.ofBytes? bytes).mapError Error.json)) fun _ =>
        match found with
        | none => .ok .empty
        | some bytes => (Store.ofBytes? bytes).mapError Error.json := by
    cases found <;> exact fun _ => rfl
  refine (((reads_readOptional path).adapt Error.io).bind hdecode).congr fun files => ?_
  unfold stored?
  cases files.readOptional path with
  | error e => rfl
  | ok found => cases found <;> rfl

theorem StorageConfig.opening_reads (c : StorageConfig) :
    c.opening.Reads fun files => (Storage.open? files c).map Storage.backend := by
  unfold opening Storage.open?
  cases c.backend with
  | memory => exact reads_pure _
  | file =>
    let path := c.dataDir.join Snapshot.fileName
    refine ((Store.loading_reads path).bind
      fun store => reads_pure (Backend.file ⟨path, store⟩)).congr fun files => ?_
    simp only [Snapshot.open?_eq]
    cases Store.stored? files (c.dataDir.join Snapshot.fileName) <;> rfl

/-- The opening ends as the files say, and leaves them as they are. -/
theorem Config.opening_reads (c : Config) : c.opening.Reads (App.ofConfig? · c) := by
  refine ((reads_ofExcept _).bind fun _ => (c.similarity.loading_reads.adapt .config).bind fun verbs =>
    (reads_ofExcept _).bind fun detector => c.storage.opening_reads.bind fun backend =>
      reads_get.bind fun left => reads_pure _).congr fun files => ?_
  dsimp only [App.ofConfig?, SimilarityConfig.detector?]
  cases c.validate with
  | error e => rfl
  | ok _ =>
    simp only [Except.mapError, bind, Except.bind]
    cases c.similarity.verbs? files with
    | error e => rfl
    | ok verbs =>
      simp only
      cases Detector.ofThreshold? c.similarity.threshold (.ofWords c.similarity.stopwords verbs) with
      | error e => rfl
      | ok detector =>
        simp only
        unfold Storage.open?
        cases c.storage.backend with
        | memory => rfl
        | file =>
          simp only
          cases Snapshot.open? files c.storage.dataDir <;> rfl

/-! ### When an opening succeeds, and how it fails -/

namespace SimilarityConfig

/-- The text of the table that is chosen, if it can be read. -/
def tableText? (c : SimilarityConfig) (files : Tree) : Option String :=
  match c.verbsPath with
  | some path => (files.read path).toOption.bind Text.decode?
  | none => some (if c.bundledVerbs then VerbTable.bundledText else "")

/-- Whether the table that is chosen can be read, and none of its rows is malformed. -/
def HasTable (c : SimilarityConfig) (files : Tree) : Prop :=
  ∃ text, c.tableText? files = some text ∧
    ∀ record ∈ Csv.records text, record.isRow → ¬ record.isMalformed

/-- How a table fails to be read. -/
inductive TableFails (c : SimilarityConfig) (files : Tree) : ConfigError → Prop
  | unreadable {path e} (hpath : c.verbsPath = some path) (h : files.read path = .error e) :
      TableFails c files (.unreadableTable path (.io e))
  | notText {path bytes} (hpath : c.verbsPath = some path) (h : files.read path = .ok bytes)
      (htext : Text.decode? bytes = none) : TableFails c files (.unreadableTable path .notText)
  | malformed {text record} (h : c.tableText? files = some text)
      (hrecord : (Csv.records text).find? (fun r => r.isRow && r.isMalformed) = some record) :
      TableFails c files (.malformedTable ⟨record.line⟩)

variable {c : SimilarityConfig} {files : Tree} {text : String}

theorem verbs?_of_tableText? (h : c.tableText? files = some text) :
    c.verbs? files = (VerbTable.ofCsv? text).mapError .malformedTable := by
  unfold tableText? at h
  unfold verbs? VerbTable.load?
  cases hpath : c.verbsPath with
  | some path =>
    rw [hpath] at h
    cases hread : files.read path with
    | error e => simp [hread, Except.toOption] at h
    | ok bytes =>
      have hdecode : Text.decode? bytes = some text := by simpa [hread, Except.toOption] using h
      simp only [hread, hdecode]
  | none =>
    rw [hpath] at h
    obtain rfl := Option.some.inj h
    cases c.bundledVerbs <;> rfl

/-- The table of a text that can be read, unless a row of it is malformed. -/
theorem verbs?_eq (h : c.tableText? files = some text) : c.verbs? files =
    match (Csv.records text).find? fun r => r.isRow && r.isMalformed with
    | some record => .error (.malformedTable ⟨record.line⟩)
    | none => .ok (.ofVerbs (((Csv.records text).filter Csv.Record.isRow).map Verb.ofRow)) := by
  rw [verbs?_of_tableText? h, VerbTable.ofCsv?_eq]
  cases (Csv.records text).find? fun r => r.isRow && r.isMalformed <;> rfl

/-- Where there is no text, there is a path, and its file is missing or holds no text. -/
theorem exists_tableFails (h : c.tableText? files = none) :
    ∃ e, c.verbs? files = .error e ∧ c.TableFails files e := by
  cases hpath : c.verbsPath with
  | none => simp [tableText?, hpath] at h
  | some path =>
    cases hread : files.read path with
    | error fault =>
      exact ⟨_, by simp only [verbs?, VerbTable.load?, hpath, hread], .unreadable hpath hread⟩
    | ok bytes =>
      have hdecode : Text.decode? bytes = none := by
        simpa [tableText?, hpath, hread, Except.toOption] using h
      exact ⟨_, by simp only [verbs?, VerbTable.load?, hpath, hread, hdecode],
        .notText hpath hread hdecode⟩

theorem exists_verbs?_eq_ok_iff : (∃ table, c.verbs? files = .ok table) ↔ c.HasTable files := by
  cases htext : c.tableText? files with
  | none =>
    obtain ⟨e, hverbs, -⟩ := exists_tableFails htext
    simp [HasTable, htext, hverbs]
  | some text =>
    have hrows : c.HasTable files ↔
        (Csv.records text).find? (fun r => r.isRow && r.isMalformed) = none := by
      simp [HasTable, htext]
    rw [verbs?_eq htext, hrows]
    cases (Csv.records text).find? fun r => r.isRow && r.isMalformed <;> simp

theorem verbs?_eq_error_iff {e : ConfigError} :
    c.verbs? files = .error e ↔ c.TableFails files e := by
  constructor
  · intro h
    cases htext : c.tableText? files with
    | none =>
      obtain ⟨e', hverbs, hfails⟩ := exists_tableFails htext
      exact Except.error.inj (hverbs.symm.trans h) ▸ hfails
    | some text =>
      rw [verbs?_eq htext] at h
      split at h
      · exact Except.error.inj h ▸ .malformed htext ‹_›
      · cases h
  · intro h
    cases h with
    | unreadable hpath h => simp only [verbs?, VerbTable.load?, hpath, h]
    | notText hpath h hdecode => simp only [verbs?, VerbTable.load?, hpath, h, hdecode]
    | malformed h hrecord => simp only [verbs?_eq h, hrecord]

end SimilarityConfig

namespace StorageConfig

/-- The file that a store is kept in. -/
def snapshotPath (c : StorageConfig) : Path := c.dataDir.join Snapshot.fileName

/-- Whether the backend that is chosen needs no file, finds none, or finds one that holds a store. -/
def HasStore (c : StorageConfig) (files : Tree) : Prop :=
  c.backend = .memory ∨ files.readOptional c.snapshotPath = .ok none ∨
    ∃ bytes store, files.readOptional c.snapshotPath = .ok (some bytes) ∧
      Store.ofBytes? bytes = .ok store

/-- How a store fails to be read. -/
inductive StoreFails (c : StorageConfig) (files : Tree) : Error → Prop
  | unreadable {e} (hbackend : c.backend = .file)
      (h : files.readOptional c.snapshotPath = .error e) : StoreFails c files (.io e)
  | undecodable {bytes e} (hbackend : c.backend = .file)
      (h : files.readOptional c.snapshotPath = .ok (some bytes))
      (hdecode : Store.ofBytes? bytes = .error e) : StoreFails c files (.json e)

variable {c : StorageConfig} {files : Tree}

theorem open?_of_file (hbackend : c.backend = .file) : Storage.open? files c =
    match files.readOptional c.snapshotPath with
    | .error e => .error (.io e)
    | .ok none => .ok ⟨.file ⟨c.snapshotPath, .empty⟩, files, c.scanLimit⟩
    | .ok (some bytes) =>
      match Store.ofBytes? bytes with
      | .error e => .error (.json e)
      | .ok store => .ok ⟨.file ⟨c.snapshotPath, store⟩, files, c.scanLimit⟩ := by
  simp only [Storage.open?, hbackend, Snapshot.open?_eq, Store.stored?, snapshotPath]
  cases files.readOptional (c.dataDir.join Snapshot.fileName) with
  | error e => rfl
  | ok found =>
    cases found with
    | none => rfl
    | some bytes =>
      simp only
      cases Store.ofBytes? bytes <;> rfl

theorem exists_open?_eq_ok_iff :
    (∃ storage, Storage.open? files c = .ok storage) ↔ c.HasStore files := by
  unfold HasStore
  cases hbackend : c.backend with
  | memory => simp [Storage.open?, hbackend]
  | file =>
    rw [open?_of_file hbackend]
    cases files.readOptional c.snapshotPath with
    | error e => simp
    | ok found =>
      cases found with
      | none => simp
      | some bytes => cases h : Store.ofBytes? bytes <;> simp [h]

theorem files_of_open? {storage : Storage} (h : Storage.open? files c = .ok storage) :
    storage.files = files := by
  cases hbackend : c.backend with
  | memory =>
    simp only [Storage.open?, hbackend] at h
    exact Except.ok.inj h ▸ rfl
  | file =>
    rw [open?_of_file hbackend] at h
    split at h
    · cases h
    · exact Except.ok.inj h ▸ rfl
    · split at h
      · cases h
      · exact Except.ok.inj h ▸ rfl

theorem open?_eq_error_iff {e : Error} :
    Storage.open? files c = .error e ↔ c.StoreFails files e := by
  constructor
  · intro h
    cases hbackend : c.backend with
    | memory => simp [Storage.open?, hbackend] at h
    | file =>
      rw [open?_of_file hbackend] at h
      split at h
      · obtain rfl := Except.error.inj h
        exact .unreadable hbackend ‹_›
      · cases h
      · split at h
        · obtain rfl := Except.error.inj h
          exact .undecodable hbackend ‹_› ‹_›
        · cases h
  · intro h
    cases h with
    | unreadable hbackend h => simp only [open?_of_file hbackend, h]
    | undecodable hbackend h hdecode => simp only [open?_of_file hbackend, h, hdecode]

end StorageConfig

namespace Config

/-- How an opening fails: at the first of its steps that does. -/
inductive Fails (c : Config) (files : Tree) : Error → Prop
  | range {e} (h : c.firstBreach? = some e) : Fails c files (.config e)
  | table {e} (hrange : c.InRange) (h : c.similarity.TableFails files e) :
      Fails c files (.config e)
  | store {e} (hrange : c.InRange) (htable : c.similarity.HasTable files)
      (h : c.storage.StoreFails files e) : Fails c files e

/-- What is to be said of an opening: when it succeeds, which error it ends in otherwise, and that in
both cases it leaves the files as they are. -/
structure Opens (c : Config) (files : Tree) : Prop where
  accepted : (∃ app storage, App.ofConfig? files c = .ok (app, storage)) ↔
    c.InRange ∧ c.similarity.HasTable files ∧ c.storage.HasStore files
  refused : ∀ e, App.ofConfig? files c = .error e ↔ c.Fails files e
  config : ∀ e, App.ofConfig? files c = .error e →
    ¬ (c.InRange ∧ c.similarity.HasTable files) → ∃ cause, e = .config cause
  untouched : c.opening.on files = (App.ofConfig? files c, files)
  given : ∀ app storage, App.ofConfig? files c = .ok (app, storage) → storage.files = files

variable {c : Config} {files : Tree}

theorem ofConfig?_eq (c : Config) (files : Tree) : App.ofConfig? files c =
    match c.firstBreach? with
    | some e => .error (.config e)
    | none =>
      match c.similarity.verbs? files with
      | .error e => .error (.config e)
      | .ok verbs => (Storage.open? files c.storage).map fun storage =>
        (⟨(Similarity.ofDetector ⟨c.similarity.threshold,
          .ofWords c.similarity.stopwords verbs⟩).matcher, c.server.requestTimeout⟩, storage) := by
  dsimp only [App.ofConfig?, SimilarityConfig.detector?]
  rw [validate_eq]
  cases hbreach : c.firstBreach? with
  | some e => rfl
  | none =>
    have hthreshold := (firstBreach?_eq_none_iff.mp hbreach).threshold
    simp only [Detector.ofThreshold?, hthreshold, if_true, Except.mapError, bind, Except.bind]
    cases c.similarity.verbs? files with
    | error e => rfl
    | ok verbs => cases Storage.open? files c.storage <;> rfl

theorem exists_ofConfig?_eq_ok_iff :
    (∃ app storage, App.ofConfig? files c = .ok (app, storage)) ↔
      c.InRange ∧ c.similarity.HasTable files ∧ c.storage.HasStore files := by
  rw [ofConfig?_eq, ← firstBreach?_eq_none_iff, ← SimilarityConfig.exists_verbs?_eq_ok_iff,
    ← StorageConfig.exists_open?_eq_ok_iff]
  cases c.firstBreach? with
  | some e => simp
  | none =>
    cases c.similarity.verbs? files with
    | error e => simp
    | ok verbs => cases Storage.open? files c.storage <;> simp [Except.map]

theorem ofConfig?_eq_error_iff {e : Error} :
    App.ofConfig? files c = .error e ↔ c.Fails files e := by
  rw [ofConfig?_eq]
  constructor
  · intro h
    cases hbreach : c.firstBreach? with
    | some cause =>
      simp only [hbreach] at h
      exact Except.error.inj h ▸ .range hbreach
    | none =>
      have hrange := firstBreach?_eq_none_iff.mp hbreach
      cases hverbs : c.similarity.verbs? files with
      | error cause =>
        simp only [hbreach, hverbs] at h
        exact Except.error.inj h ▸ .table hrange (SimilarityConfig.verbs?_eq_error_iff.mp hverbs)
      | ok verbs =>
        have htable := SimilarityConfig.exists_verbs?_eq_ok_iff.mp ⟨verbs, hverbs⟩
        cases hopen : Storage.open? files c.storage with
        | error cause =>
          simp only [hbreach, hverbs, hopen, Except.map] at h
          exact Except.error.inj h ▸ .store hrange htable (StorageConfig.open?_eq_error_iff.mp hopen)
        | ok storage => simp [hbreach, hverbs, hopen, Except.map] at h
  · intro h
    cases h with
    | range h => simp only [h]
    | table hrange h =>
      simp only [firstBreach?_eq_none_iff.mpr hrange, SimilarityConfig.verbs?_eq_error_iff.mpr h]
    | store hrange htable h =>
      obtain ⟨verbs, hverbs⟩ := SimilarityConfig.exists_verbs?_eq_ok_iff.mpr htable
      simp only [firstBreach?_eq_none_iff.mpr hrange, hverbs,
        StorageConfig.open?_eq_error_iff.mpr h, Except.map]

theorem files_of_ofConfig? {app : App} {storage : Storage}
    (h : App.ofConfig? files c = .ok (app, storage)) : storage.files = files := by
  rw [ofConfig?_eq] at h
  split at h
  · cases h
  · split at h
    · cases h
    · cases hopen : Storage.open? files c.storage with
      | error e => simp [hopen, Except.map] at h
      | ok opened =>
        simp only [hopen, Except.map, Except.ok.injEq, Prod.mk.injEq] at h
        exact h.2 ▸ StorageConfig.files_of_open? hopen

/-- An application is opened just if its choices are in range, its table of verbs can be read and has
no malformed row, and its backend needs no file, finds none or finds one that holds a store. Otherwise
the opening ends in the error of the first of these that is not so. The files stay as they are, however
it ends. -/
theorem opens (c : Config) (files : Tree) : c.Opens files where
  accepted := exists_ofConfig?_eq_ok_iff
  refused _ := ofConfig?_eq_error_iff
  config e h hfails := by
    cases ofConfig?_eq_error_iff.mp h with
    | range _ => exact ⟨_, rfl⟩
    | table _ _ => exact ⟨_, rfl⟩
    | store hrange htable _ => exact absurd ⟨hrange, htable⟩ hfails
  untouched := c.opening_reads files
  given app storage h := files_of_ofConfig? h

end Config

end NearDup
