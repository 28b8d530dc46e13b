import Mathlib.Data.List.Induction
import NearDup.Proofs.Files.AtomicWrite
import NearDup.Proofs.Storage.Backend
import NearDup.Proofs.Store.Json

/-! Storages in a file beside storages in memory. Main statement: as long as files can be written, a
storage in a file answers as one in memory does, however often it is opened again, and its file
holds what the other one has stored. -/

namespace NearDup

/-! ### Numbers in range -/

/-- Whether all numbers that a call brings with it are under the bound. -/
def Call.InRange : {m : Method} → Call m → Prop
  | _, .createArticle a => a.InRange
  | _, .updateDuplicateIds id duplicateIds => id < idBound ∧ ∀ id ∈ duplicateIds, id < idBound
  | _, .articleById id => id < idBound
  | _, .createMembership m => m.InRange
  | _, _ => True

namespace Store

variable {s s' : Store} {m : Method} {c : Call m}

def CountersInRange (s : Store) : Prop :=
  s.articleCounter < idBound ∧ s.groupCounter < idBound

/-- Whether the counters of a store are those of another one, or further on. -/
def CountersLe (s s' : Store) : Prop :=
  s.articleCounter ≤ s'.articleCounter ∧ s.groupCounter ≤ s'.groupCounter

theorem CountersLe.refl (s : Store) : s.CountersLe s := ⟨Nat.le_refl _, Nat.le_refl _⟩

theorem CountersLe.trans {s s₁ s' : Store} (h : s.CountersLe s₁) (h' : s₁.CountersLe s') :
    s.CountersLe s' :=
  ⟨Nat.le_trans h.1 h'.1, Nat.le_trans h.2 h'.2⟩

theorem CountersLe.inRange (h : s.CountersLe s') (hs' : s'.CountersInRange) : s.CountersInRange :=
  ⟨Nat.lt_of_le_of_lt h.1 hs'.1, Nat.lt_of_le_of_lt h.2 hs'.2⟩

theorem Performs.countersLe (h : s.Performs c s') : s.CountersLe s' := by
  cases h with
  | nextArticleId => exact ⟨Nat.le_succ _, Nat.le_refl _⟩
  | nextGroupId => exact ⟨Nat.le_refl _, Nat.le_succ _⟩
  | createArticle | updateDuplicateIds | createMembership | reads => exact .refl _

theorem Performs.counters_le_succ (h : s.Performs c s') :
    s'.articleCounter ≤ s.articleCounter + 1 ∧ s'.groupCounter ≤ s.groupCounter + 1 := by
  cases h with
  | nextArticleId => exact ⟨Nat.le_refl _, Nat.le_succ _⟩
  | nextGroupId => exact ⟨Nat.le_succ _, Nat.le_refl _⟩
  | createArticle | updateDuplicateIds | createMembership | reads =>
    exact ⟨Nat.le_succ _, Nat.le_succ _⟩

theorem InRange.insert (h : s.InRange) {id : ArticleId} {a : Article} (hid : id < idBound)
    (ha : a.InRange) : InRange { s with articles := s.articles.insert id a } :=
  { h with
    articles := fun entry he => by
      rcases IdMap.mem_insertEntry he with rfl | he
      · exact ⟨hid, ha⟩
      · exact h.articles entry he }

/-- A call leaves all numbers in range if the counters stay there. -/
theorem Performs.inRange (hperforms : s.Performs c s') (h : s.InRange) (hc : c.InRange)
    (hcounters : s'.CountersInRange) : s'.InRange := by
  cases hperforms with
  | nextArticleId => exact { h with articleCounter_lt := hcounters.1 }
  | nextGroupId => exact { h with groupCounter_lt := hcounters.2 }
  | createArticle _ => exact h.insert hc.id_lt hc
  | updateDuplicateIds hfind =>
    obtain ⟨-, ha⟩ := h.articles _ (IdMap.mem_entries_iff.mpr hfind)
    exact h.insert hc.1 { ha with duplicateIds_lt := hc.2 }
  | createMembership m =>
    exact { h with
      memberships := List.forall_mem_append.mpr ⟨h.memberships, List.forall_mem_singleton.mpr hc⟩ }
  | reads _ => exact h

end Store

/-! ### One call -/

/-- Whether a call failed because a file could not be written. -/
def Exchange.unwritten (x : Exchange) : Bool :=
  match x.reply with
  | .error (.io _) => true
  | _ => false

theorem Storage.countersLe_perform (s : Storage) {m : Method} (c : Call m) :
    s.backend.store.CountersLe (s.perform c).2.backend.store := by
  rcases (s.perform_answers c).performs_or_eq with hperforms | hsame
  · exact hperforms.countersLe
  · rw [hsame]
    exact .refl _

theorem Storage.counters_perform_le_succ (s : Storage) {m : Method} (c : Call m) :
    (s.perform c).2.backend.store.articleCounter ≤ s.backend.store.articleCounter + 1 ∧
      (s.perform c).2.backend.store.groupCounter ≤ s.backend.store.groupCounter + 1 := by
  rcases (s.perform_answers c).performs_or_eq with hperforms | hsame
  · exact hperforms.counters_le_succ
  · rw [hsame]
    exact ⟨Nat.le_succ _, Nat.le_succ _⟩

theorem Storage.inRange_perform {s : Storage} {m : Method} {c : Call m}
    (h : s.backend.store.InRange) (hc : c.InRange)
    (hcounters : (s.perform c).2.backend.store.CountersInRange) :
    (s.perform c).2.backend.store.InRange := by
  rcases (s.perform_answers c).performs_or_eq with hperforms | hsame
  · exact hperforms.inRange h hc hcounters
  · rwa [hsame]

theorem Storage.perform_memory (store : Store) (files : Tree) (limit : Nat) {m : Method}
    (c : Call m) : (Storage.mk (.memory store) files limit).perform c =
      ((store.attempt limit none c).1, ⟨.memory (store.attempt limit none c).2, files, limit⟩) := by
  cases hperform : store.perform limit c with
  | error e => simp only [perform, Store.attempt, hperform]
  | ok answer => simp only [perform, Store.attempt, hperform]

/-- Whether the snapshot in a directory holds a store: its text, or nothing for the empty store. -/
def Snapshot.Holds (files : Tree) (dir : Path) (store : Store) : Prop :=
  (files.readOptional (dir.join fileName) = .ok none ∧ store = .empty) ∨
    ∃ bytes, files.readOptional (dir.join fileName) = .ok (some bytes) ∧
      Store.ofBytes? bytes = .ok store

theorem Snapshot.holds_iff {files : Tree} {dir : Path} {store : Store} :
    Holds files dir store ↔ Store.stored? files (dir.join fileName) = .ok store := by
  unfold Holds Store.stored?
  cases files.readOptional (dir.join fileName) with
  | error e => simp
  | ok found =>
    cases found with
    | none => simp [eq_comm]
    | some bytes => cases h : Store.ofBytes? bytes <;> simp [h, Except.mapError]

/-- A snapshot is opened just if its file holds the store in it. -/
theorem Snapshot.open?_eq_ok_iff {files : Tree} {dir : Path} {s : Snapshot} :
    open? files dir = .ok s ↔ s.path = dir.join fileName ∧ Holds files dir s.store := by
  rw [open?_eq, holds_iff]
  cases Store.stored? files (dir.join fileName) with
  | error e => simp [Except.map]
  | ok store =>
    obtain ⟨path, store'⟩ := s
    simp [Except.map, eq_comm]

theorem Snapshot.Holds.inRange {files : Tree} {dir : Path} {store : Store}
    (h : Holds files dir store) : store.InRange := by
  obtain ⟨-, rfl⟩ | ⟨bytes, -, hdecode⟩ := h
  · exact Store.inRange_empty
  · exact Store.inRange_of_ofBytes? hdecode

theorem Snapshot.readOptional_of_run {s : Snapshot} {store : Store} {obstacle : Option Obstacle}
    {files files' : Tree} (hrun : (s.write store).run obstacle files = (.ok (), files')) :
    files'.readOptional s.path = .ok (some (Text.encode store.text)) :=
  (AtomicWrite.written_of_run hrun).readOptional_eq

/-- A file that was written holds the store that was to be written. -/
theorem Snapshot.holds_of_run {s : Snapshot} {dir : Path} {store : Store}
    {obstacle : Option Obstacle} {files files' : Tree} (hpath : s.path = dir.join fileName)
    (hrange : store.InRange) (hrun : (s.write store).run obstacle files = (.ok (), files')) :
    Holds files' dir store :=
  .inr ⟨_, hpath ▸ readOptional_of_run hrun, Store.ofBytes?_encode_text hrange⟩

/-- A call that does not fail for its file is answered as in memory, and the file follows. -/
theorem Storage.perform_file {store : Store} {files : Tree} {dir : Path} {limit : Nat} {m : Method}
    {c : Call m} (hholds : Snapshot.Holds files dir store)
    (hrange : (store.attempt limit none c).2.InRange)
    (hwritten : Exchange.unwritten ⟨c, ((Storage.mk
      (.file ⟨dir.join Snapshot.fileName, store⟩) files limit).perform c).1⟩ = false) :
    ∃ files', (Storage.mk (.file ⟨dir.join Snapshot.fileName, store⟩) files limit).perform c =
      ((store.attempt limit none c).1,
        ⟨.file ⟨dir.join Snapshot.fileName, (store.attempt limit none c).2⟩, files', limit⟩) ∧
      Snapshot.Holds files' dir (store.attempt limit none c).2 := by
  unfold Store.attempt at hrange ⊢
  dsimp only [perform, Snapshot.perform] at hrange hwritten ⊢
  cases hperform : store.perform limit c with
  | error e => exact ⟨files, rfl, hholds⟩
  | ok answer =>
    obtain ⟨reply, store'⟩ := answer
    simp only [hperform] at hrange hwritten ⊢
    by_cases hm : m.writes = true
    · simp only [if_pos hm] at hwritten ⊢
      cases hrun : ((Snapshot.mk (dir.join Snapshot.fileName) store).write store').run none
        files with
      | mk result files' =>
        simp only [hrun] at hwritten ⊢
        cases result with
        | error e => cases hwritten
        | ok _ => exact ⟨files', rfl, Snapshot.holds_of_run rfl hrange hrun⟩
    · obtain rfl := Store.perform_of_reads (by simpa using hm) hperform
      simp only [if_neg hm]
      exact ⟨files, rfl, hholds⟩

/-- A snapshot that is opened again is the one that was left. -/
theorem Storage.reopen?_file {store : Store} {files : Tree} {dir : Path} (limit : Nat)
    (hholds : Snapshot.Holds files dir store) :
    let s := Storage.mk (.file ⟨dir.join Snapshot.fileName, store⟩) files limit
    s.reopen? dir = .ok (⟨dir.join Snapshot.fileName, store⟩, s) := by
  have hopen : Snapshot.open? files dir = .ok ⟨dir.join Snapshot.fileName, store⟩ :=
    Snapshot.open?_eq_ok_iff.mpr ⟨rfl, hholds⟩
  intro s
  rw [reopen?, hopen]
  rfl

/-! ### Whole runs -/

/-- What is done to a storage: a call, or opening its snapshot again. -/
inductive Operation
  | call {m : Method} (c : Call m)
  | reopen

def Operation.isCall : Operation → Bool
  | .call _ => true
  | .reopen => false

def Operation.InRange : Operation → Prop
  | .call c => c.InRange
  | .reopen => True

/-- A storage in use, the calls that it has answered, and why it could not be opened again. -/
structure Usage where
  storage : Storage
  exchanges : List Exchange
  failures : List Error

namespace Usage

def start (storage : Storage) : Usage := ⟨storage, [], []⟩

def store (u : Usage) : Store := u.storage.backend.store

/-- Does one thing to a storage whose snapshot is in a directory. -/
def operate (dir : Path) (u : Usage) : Operation → Usage
  | .call c =>
    { u with
      storage := (u.storage.perform c).2
      exchanges := u.exchanges ++ [⟨c, (u.storage.perform c).1⟩] }
  | .reopen =>
    match u.storage.reopen? dir with
    | .ok (_, storage) => { u with storage }
    | .error e => { u with failures := u.failures ++ [e] }

def run (dir : Path) (u : Usage) (operations : List Operation) : Usage :=
  operations.foldl (fun u o => u.operate dir o) u

variable {dir : Path} {u filed kept : Usage}

@[simp] theorem run_nil : u.run dir [] = u := rfl

theorem run_append (operations operations' : List Operation) :
    u.run dir (operations ++ operations') = (u.run dir operations).run dir operations' :=
  List.foldl_append

theorem run_concat (operations : List Operation) (o : Operation) :
    u.run dir (operations ++ [o]) = (u.run dir operations).operate dir o :=
  run_append operations [o]

/-- What has been answered stays. -/
theorem exchanges_subset_run (operations : List Operation) :
    u.exchanges ⊆ (u.run dir operations).exchanges := by
  induction operations using List.reverseRecOn with
  | nil => exact List.Subset.refl _
  | append_singleton operations o ih =>
    rw [run_concat]
    refine List.Subset.trans ih ?_
    unfold operate
    split
    · exact List.subset_append_left _ _
    · split <;> exact List.Subset.refl _

/-- A storage in a file that stands as one in memory does. -/
inductive Mirrors (dir : Path) : Usage → Usage → Prop
  | intro {store files files' limit exchanges} (hholds : Snapshot.Holds files dir store) :
      Mirrors dir ⟨⟨.file ⟨dir.join Snapshot.fileName, store⟩, files, limit⟩, exchanges, []⟩
        ⟨⟨.memory store, files', limit⟩, exchanges, []⟩

theorem Mirrors.call (h : Mirrors dir filed kept) {m : Method} (c : Call m)
    (hrange : (kept.operate dir (.call c)).store.InRange)
    (hwritten : ∀ x ∈ (filed.operate dir (.call c)).exchanges, x.unwritten = false) :
    Mirrors dir (filed.operate dir (.call c)) (kept.operate dir (.call c)) := by
  obtain ⟨hholds⟩ := h
  simp only [operate, store, Storage.perform_memory] at hrange hwritten ⊢
  obtain ⟨files', hperform, hholds'⟩ := Storage.perform_file hholds hrange (hwritten _ (by simp))
  rw [hperform]
  exact ⟨hholds'⟩

theorem Mirrors.reopen (h : Mirrors dir filed kept) :
    Mirrors dir (filed.operate dir .reopen) kept := by
  obtain ⟨hholds⟩ := h
  simp only [operate, Storage.reopen?_file _ hholds]
  exact ⟨hholds⟩

theorem Mirrors.holds (h : Mirrors dir filed kept) :
    Snapshot.Holds filed.storage.files dir kept.store := by
  obtain ⟨hholds⟩ := h
  exact hholds

theorem Mirrors.exchanges_eq (h : Mirrors dir filed kept) :
    filed.exchanges = kept.exchanges ∧ filed.failures = [] := by
  obtain ⟨-⟩ := h
  exact ⟨rfl, rfl⟩

/-! ### Both together -/

/-- The same operations, without those that open the snapshot again. -/
def calls (operations : List Operation) : List Operation :=
  operations.filter Operation.isCall

theorem calls_append (operations operations' : List Operation) :
    calls (operations ++ operations') = calls operations ++ calls operations' :=
  List.filter_append _ _

theorem countersLe_run_calls (operations : List Operation) :
    u.store.CountersLe (u.run dir (calls operations)).store := by
  induction operations using List.reverseRecOn with
  | nil => exact .refl _
  | append_singleton operations o ih =>
    rw [calls_append, run_append]
    cases o with
    | call c => exact ih.trans ((u.run dir (calls operations)).storage.countersLe_perform c)
    | reopen => exact ih

theorem counters_run_calls_le (u : Usage) (dir : Path) (operations : List Operation) :
    (u.run dir (calls operations)).store.articleCounter ≤
        u.store.articleCounter + operations.length ∧
      (u.run dir (calls operations)).store.groupCounter ≤
        u.store.groupCounter + operations.length := by
  induction operations using List.reverseRecOn with
  | nil => exact ⟨Nat.le_refl _, Nat.le_refl _⟩
  | append_singleton operations o ih =>
    rw [calls_append, run_append, List.length_append, List.length_singleton]
    cases o with
    | call c =>
      have hstep := (u.run dir (calls operations)).storage.counters_perform_le_succ c
      exact ⟨Nat.le_trans hstep.1 (Nat.succ_le_succ ih.1),
        Nat.le_trans hstep.2 (Nat.succ_le_succ ih.2)⟩
    | reopen => exact ⟨Nat.le_succ_of_le ih.1, Nat.le_succ_of_le ih.2⟩

/-- It takes as many operations as there are numbers to bring a counter out of range. -/
theorem countersInRange_run_calls {operations : List Operation} (hempty : u.store = .empty)
    (h : operations.length < idBound) :
    (u.run dir (calls operations)).store.CountersInRange := by
  have hle := u.counters_run_calls_le dir operations
  simp only [hempty, Store.empty, Nat.zero_add] at hle
  exact ⟨Nat.lt_of_le_of_lt hle.1 h, Nat.lt_of_le_of_lt hle.2 h⟩

theorem inRange_run_calls (h : u.store.InRange) {operations : List Operation}
    (hrange : ∀ o ∈ operations, o.InRange)
    (hcounters : (u.run dir (calls operations)).store.CountersInRange) :
    (u.run dir (calls operations)).store.InRange := by
  induction operations using List.reverseRecOn with
  | nil => exact h
  | append_singleton operations o ih =>
    rw [List.forall_mem_append, List.forall_mem_singleton] at hrange
    rw [calls_append, run_append] at hcounters ⊢
    have hbefore := ih hrange.1 ((countersLe_run_calls [o]).inRange hcounters)
    cases o with
    | call c => exact Storage.inRange_perform hbefore hrange.2 hcounters
    | reopen => exact hbefore

/-- As long as files can be written and the counters stay in range, a storage in a file stands as
one in memory does. -/
theorem Mirrors.run (h : Mirrors dir filed kept) (hkept : kept.store.InRange)
    {operations : List Operation} (hrange : ∀ o ∈ operations, o.InRange)
    (hcounters : (kept.run dir (calls operations)).store.CountersInRange)
    (hwritten : ∀ x ∈ (filed.run dir operations).exchanges, x.unwritten = false) :
    Mirrors dir (filed.run dir operations) (kept.run dir (calls operations)) := by
  -- From the back: what is assumed of the end holds at every moment before it.
  induction operations using List.reverseRecOn with
  | nil => exact h
  | append_singleton operations o ih =>
    have hafter := inRange_run_calls hkept hrange hcounters
    rw [List.forall_mem_append] at hrange
    rw [calls_append, run_append] at hcounters hafter ⊢
    rw [run_append] at hwritten ⊢
    have hbefore := ih hrange.1 ((countersLe_run_calls [o]).inRange hcounters)
      fun x hx => hwritten x (exchanges_subset_run [o] hx)
    cases o with
    | call c => exact hbefore.call c hafter hwritten
    | reopen => exact hbefore.reopen

/-- A storage in a file that is absent at first and can always be written answers as one in memory
does, however often it is opened again, and it always can be. At every moment its file holds what
the other one has stored, or is absent as long as that is nothing. All numbers are to be in range:
those that calls bring with them and the counters, see `countersInRange_run_calls`. -/
theorem file_eq_memory (files : Tree) (dir : Path) (limit : Nat)
    (habsent : files.readOptional (dir.join Snapshot.fileName) = .ok none) :
    ∃ filed kept, Storage.open? files ⟨.file, dir, limit⟩ = .ok filed ∧
      Storage.open? files ⟨.memory, dir, limit⟩ = .ok kept ∧
      ∀ operations : List Operation, (∀ o ∈ operations, o.InRange) →
        ((start kept).run dir (calls operations)).store.CountersInRange →
        (∀ x ∈ ((start filed).run dir operations).exchanges, x.unwritten = false) →
          ((start filed).run dir operations).exchanges =
              ((start kept).run dir (calls operations)).exchanges ∧
            ((start filed).run dir operations).failures = [] ∧
            ∀ before, before <+: operations →
              Snapshot.Holds ((start filed).run dir before).storage.files dir
                ((start kept).run dir (calls before)).store := by
  refine ⟨⟨.file ⟨dir.join Snapshot.fileName, .empty⟩, files, limit⟩,
    ⟨.memory .empty, files, limit⟩, ?_, rfl, fun operations hrange hcounters hwritten => ?_⟩
  · simp only [Storage.open?, Snapshot.open?, habsent]
    rfl
  · have hmirrors : Mirrors dir (start ⟨.file ⟨dir.join Snapshot.fileName, .empty⟩, files, limit⟩)
        (start ⟨.memory .empty, files, limit⟩) := ⟨.inl ⟨habsent, rfl⟩⟩
    obtain ⟨hexchanges, hfailures⟩ :=
      (hmirrors.run Store.inRange_empty hrange hcounters hwritten).exchanges_eq
    refine ⟨hexchanges, hfailures, ?_⟩
    rintro before ⟨after, rfl⟩
    rw [calls_append, run_append] at hcounters
    rw [run_append] at hwritten
    exact (hmirrors.run Store.inRange_empty (fun o ho => hrange o (List.mem_append_left _ ho))
      ((countersLe_run_calls after).inRange hcounters)
      fun x hx => hwritten x (exchanges_subset_run after hx)).holds

/-- One article, which is asked for after the snapshot has been opened again. -/
theorem file_eq_memory_reopened :
    let dir : Path := ⟨"data"⟩
    let filed := start ⟨.file ⟨dir.join Snapshot.fileName, .empty⟩, .empty, 10⟩
    let kept := start ⟨.memory .empty, .empty, 10⟩
    let operations : List Operation :=
      [.call (.createArticle ⟨1, "\"a\"\n", [], true, 1⟩), .reopen, .call (.articleById 1)]
    (filed.run dir operations).exchanges.map Exchange.failed = [false, false] ∧
      (filed.run dir operations).exchanges = (kept.run dir (calls operations)).exchanges ∧
      Snapshot.Holds (filed.run dir operations).storage.files dir
        (kept.run dir (calls operations)).store := by
  have habsent : Tree.empty.readOptional (Path.join ⟨"data"⟩ Snapshot.fileName) = .ok none := by
    decide +kernel
  obtain ⟨filed, kept, hfiled, hkept, hsame⟩ := file_eq_memory .empty ⟨"data"⟩ 10 habsent
  have hopened : Storage.open? .empty ⟨.file, ⟨"data"⟩, 10⟩ =
      .ok ⟨.file ⟨Path.join ⟨"data"⟩ Snapshot.fileName, .empty⟩, .empty, 10⟩ := by
    simp only [Storage.open?, Snapshot.open?, habsent]
    rfl
  obtain rfl := Except.ok.inj (hopened.symm.trans hfiled)
  obtain rfl := Except.ok.inj hkept
  have hrange : ∀ o ∈ ([.call (.createArticle ⟨1, "\"a\"\n", [], true, 1⟩), .reopen,
      .call (.articleById 1)] : List Operation), o.InRange := by
    simp only [List.forall_mem_cons, List.not_mem_nil, false_implies, implies_true]
    exact ⟨⟨by decide, by simp, by decide⟩, trivial, show 1 < idBound by decide, trivial⟩
  have hrun := hsame _ hrange (countersInRange_run_calls rfl (by decide)) (by decide +kernel)
  refine ⟨?_, hrun.1, hrun.2.2 _ (List.prefix_refl _)⟩
  rw [hrun.1]
  decide

end Usage

end NearDup
