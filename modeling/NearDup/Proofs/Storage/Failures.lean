import NearDup.Proofs.Storage.Persistence

/-! Calls to a storage in a file, some of which fail, for the file or for what they ask. Main
statement: a call that fails leaves the store and the file as they were, one that succeeds leaves
the file with the store in it, and all others are answered as if those that failed had not been
made. This takes a directory the path of which goes up only after directories that are there:
otherwise a directory that a failed write has made can open a way to a file. -/

namespace NearDup

/-- A call to a storage, and what stands in the way of its file. -/
structure Attempt where
  {method : Method}
  call : Call method
  obstacle : Option Obstacle

/-- A store in memory and in a file, with the tree that the file is in. -/
structure FiledStore where
  snapshot : Snapshot
  files : Tree

namespace FiledStore

/-- What the file of the snapshot holds, if there is one. -/
def contents (u : FiledStore) : Except IoError (Option Bytes) :=
  u.files.readOptional u.snapshot.path

/-- Makes a call. -/
def attempt (limit : Nat) (u : FiledStore) (a : Attempt) : Exchange × FiledStore :=
  let (reply, snapshot, files) := u.snapshot.perform limit a.obstacle u.files a.call
  (⟨a.call, reply⟩, ⟨snapshot, files⟩)

/-- Makes calls one after another. -/
def run (limit : Nat) (u : FiledStore) : List Attempt → List Exchange × FiledStore
  | [] => ([], u)
  | a :: attempts =>
    let (x, u) := u.attempt limit a
    let (exchanges, u) := u.run limit attempts
    (x :: exchanges, u)

/-- The calls without those that fail. -/
def succeeding (limit : Nat) (u : FiledStore) : List Attempt → List Attempt
  | [] => []
  | a :: attempts =>
    let (x, u) := u.attempt limit a
    if x.failed then u.succeeding limit attempts else a :: u.succeeding limit attempts

/-- Whether each of some calls takes effect as a whole or not at all, in the store and in the file
in a directory, and those that fail could as well not have been made. -/
structure Atomic (limit : Nat) (dir : Path) (u : FiledStore) (attempts : List Attempt) : Prop where
  failed : ∀ earlier a later, attempts = earlier ++ a :: later →
    let before := (u.run limit earlier).2
    let after := (before.attempt limit a).2
    (before.attempt limit a).1.failed = true →
      after.snapshot = before.snapshot ∧ after.contents = before.contents
  succeeded : ∀ earlier a later, attempts = earlier ++ a :: later →
    let before := (u.run limit earlier).2
    let after := (before.attempt limit a).2
    (before.attempt limit a).1.failed = false →
      Snapshot.Holds after.files dir after.snapshot.store ∧
        (a.method.writes = true →
          after.contents = .ok (some (Text.encode after.snapshot.store.text)))
  removed :
    let last := (u.run limit attempts).2
    let last' := (u.run limit (u.succeeding limit attempts)).2
    (u.run limit (u.succeeding limit attempts)).1 =
        (u.run limit attempts).1.filter (! ·.failed) ∧
      last'.snapshot = last.snapshot ∧ last'.contents = last.contents

variable {limit : Nat} {dir : Path} {u u' v : FiledStore} {a : Attempt} {x : Exchange}
  {attempts : List Attempt}

/-! ### One call -/

/-- What can come of a call: the store refuses it, it only reads, its file is written, or its file
cannot be written. -/
inductive Comes (limit : Nat) (u : FiledStore) (a : Attempt) : Exchange → FiledStore → Prop
  | refused {e} (h : u.snapshot.store.perform limit a.call = .error e) :
      Comes limit u a ⟨a.call, .error e⟩ u
  | read {reply} (hreads : a.method.writes = false)
      (h : u.snapshot.store.perform limit a.call = .ok (reply, u.snapshot.store)) :
      Comes limit u a ⟨a.call, .ok reply⟩ u
  | written {reply store files} (hwrites : a.method.writes = true)
      (h : u.snapshot.store.perform limit a.call = .ok (reply, store))
      (hrun : (u.snapshot.write store).run a.obstacle u.files = (.ok (), files)) :
      Comes limit u a ⟨a.call, .ok reply⟩ ⟨{ u.snapshot with store }, files⟩
  | lost {reply store e files} (hwrites : a.method.writes = true)
      (h : u.snapshot.store.perform limit a.call = .ok (reply, store))
      (hrun : (u.snapshot.write store).run a.obstacle u.files = (.error e, files)) :
      Comes limit u a ⟨a.call, .error (.io e)⟩ ⟨u.snapshot, files⟩

theorem attempt_of_comes (h : u.Comes limit a x u') : u.attempt limit a = (x, u') := by
  cases h with
  | refused h => simp only [attempt, Snapshot.perform, h]
  | read hreads h => simp only [attempt, Snapshot.perform, h, hreads, Bool.false_eq_true, if_false]
  | written hwrites h hrun => simp only [attempt, Snapshot.perform, h, hwrites, if_true, hrun]
  | lost hwrites h hrun => simp only [attempt, Snapshot.perform, h, hwrites, if_true, hrun]

theorem exists_comes (limit : Nat) (u : FiledStore) (a : Attempt) :
    ∃ x u', u.Comes limit a x u' := by
  cases hperform : u.snapshot.store.perform limit a.call with
  | error e => exact ⟨_, _, .refused hperform⟩
  | ok answer =>
    obtain ⟨reply, store⟩ := answer
    cases hwrites : a.method.writes with
    | false =>
      obtain rfl := Store.perform_of_reads hwrites hperform
      exact ⟨_, _, .read hwrites hperform⟩
    | true =>
      cases hrun : (u.snapshot.write store).run a.obstacle u.files with
      | mk result files =>
        cases result with
        | error e => exact ⟨_, _, .lost hwrites hperform hrun⟩
        | ok _ => exact ⟨_, _, .written hwrites hperform hrun⟩

theorem comes_attempt (limit : Nat) (u : FiledStore) (a : Attempt) :
    u.Comes limit a (u.attempt limit a).1 (u.attempt limit a).2 := by
  obtain ⟨x, u', h⟩ := exists_comes limit u a
  rwa [attempt_of_comes h]

namespace Comes

theorem performs_or_eq (h : u.Comes limit a x u') :
    u.snapshot.store.Performs a.call u'.snapshot.store ∨ u'.snapshot.store = u.snapshot.store := by
  cases h with
  | refused | read | lost => exact .inr rfl
  | written _ h _ => exact .inl (Store.performs_of_perform h)

theorem countersLe (h : u.Comes limit a x u') :
    u.snapshot.store.CountersLe u'.snapshot.store := by
  rcases h.performs_or_eq with hperforms | hsame
  · exact hperforms.countersLe
  · rw [hsame]
    exact .refl _

theorem inRange (h : u.Comes limit a x u') (hu : u.snapshot.store.InRange) (ha : a.call.InRange)
    (hcounters : u'.snapshot.store.CountersInRange) : u'.snapshot.store.InRange := by
  rcases h.performs_or_eq with hperforms | hsame
  · exact hperforms.inRange hu ha hcounters
  · rwa [hsame]

end Comes

/-! ### What calls keep -/

/-- Whether the file is the one in a directory and holds the store, and would be read as the same if
directories were made on the way to it. -/
structure Sound (dir : Path) (u : FiledStore) : Prop where
  path_eq : u.snapshot.path = dir.join Snapshot.fileName
  steady : u.files.Steady u.snapshot.path dir.parts
  holds : Snapshot.Holds u.files dir u.snapshot.store
  inRange : u.snapshot.store.InRange

theorem apart_write {s : Snapshot} (hpath : s.path = dir.join Snapshot.fileName) (store : Store) :
    (s.write store).Apart dir.parts Snapshot.fileName "artsim.tmp" := by
  have htarget : s.path.LeadsTo dir.parts Snapshot.fileName :=
    hpath ▸ Path.leadsTo_join dir (by decide)
  have hcomponents : (s.write store).target.components =
      Path.withoutDots dir.parts ++ [Snapshot.fileName] := htarget.components_eq (by decide)
  have hother : Path.stem Snapshot.fileName ++ "." ++ "tmp" = "artsim.tmp" := by decide
  have hapart := AtomicWrite.apart_of_components hcomponents (by decide) (by decide)
  exact hother ▸ hapart.of_endsAt (Tree.endsAt_of_leadsTo htarget)

/-- A call that fails changes neither the store nor the file. -/
theorem Comes.unchanged (h : u.Comes limit a x u') (hu : u.Sound dir) (hfailed : x.failed = true) :
    u'.snapshot = u.snapshot ∧ u'.contents = u.contents := by
  cases h with
  | refused => exact ⟨rfl, rfl⟩
  | read | written => cases hfailed
  | lost hwrites h hrun =>
    exact ⟨rfl, ((AtomicWrite.abandoned_of_run hrun).steady (apart_write hu.path_eq _) hu.steady).1⟩

theorem Comes.sound (h : u.Comes limit a x u') (hu : u.Sound dir) (ha : a.call.InRange)
    (hcounters : u'.snapshot.store.CountersInRange) : u'.Sound dir := by
  have hrange := h.inRange hu.inRange ha hcounters
  cases h with
  | refused | read => exact hu
  | written hwrites h hrun =>
    exact ⟨hu.path_eq, (AtomicWrite.written_of_run hrun).steady (apart_write hu.path_eq _),
      Snapshot.holds_of_run hu.path_eq hrange hrun, hrange⟩
  | @lost reply store e files hwrites h hrun =>
    obtain ⟨hread, hsteady⟩ :=
      (AtomicWrite.abandoned_of_run hrun).steady (apart_write hu.path_eq _) hu.steady
    have hholds : Snapshot.Holds files dir u.snapshot.store := by
      have hsame : files.readOptional (dir.join Snapshot.fileName) =
          u.files.readOptional (dir.join Snapshot.fileName) := hu.path_eq ▸ hread
      rw [Snapshot.Holds, hsame]
      exact hu.holds
    exact ⟨hu.path_eq, hsteady, hholds, hrange⟩

/-- A call that succeeds leaves the store in the file. -/
theorem Comes.contents_eq (h : u.Comes limit a x u') (hsucceeded : x.failed = false)
    (hwrites : a.method.writes = true) :
    u'.contents = .ok (some (Text.encode u'.snapshot.store.text)) := by
  cases h with
  | refused | lost => cases hsucceeded
  | read hreads => cases hreads.symm.trans hwrites
  | written _ _ hrun => exact Snapshot.readOptional_of_run hrun

/-! ### Calls without those that fail -/

/-- Whether a store goes on as another one does: it is the same, the file holds the same, and a
write to it that meets no obstacle has the same outcome. -/
structure GoesOnAs (u v : FiledStore) : Prop where
  snapshot_eq : u.snapshot = v.snapshot
  contents_eq : u.contents = v.contents
  run_eq : ∀ w : AtomicWrite, w.target = v.snapshot.path → w.run none u.files = w.run none v.files

theorem GoesOnAs.refl (u : FiledStore) : u.GoesOnAs u := ⟨rfl, rfl, fun _ _ => rfl⟩

/-- A call that fails makes no difference later. -/
theorem GoesOnAs.of_failed (hv : u.GoesOnAs v) (h : u.Comes limit a x u') (hu : u.Sound dir)
    (hfailed : x.failed = true) : u'.GoesOnAs v := by
  obtain ⟨hsnapshot, hcontents⟩ := h.unchanged hu hfailed
  refine ⟨hsnapshot.trans hv.snapshot_eq, hcontents.trans hv.contents_eq, fun w hw => ?_⟩
  cases h with
  | refused => exact hv.run_eq w hw
  | read | written => cases hfailed
  | lost hwrites h hrun =>
    have htarget : w.target = u.snapshot.path :=
      hw.trans (congrArg Snapshot.path hv.snapshot_eq).symm
    exact ((AtomicWrite.abandoned_of_run hrun).run_eq htarget).trans (hv.run_eq w hw)

/-- A call that succeeds is answered by the other one as well. -/
theorem GoesOnAs.of_succeeded (hv : u.GoesOnAs v) (h : u.Comes limit a x u')
    (hsucceeded : x.failed = false) : ∃ v', v.Comes limit a x v' ∧ u'.GoesOnAs v' := by
  obtain ⟨snapshot, files⟩ := u
  obtain ⟨snapshot', files'⟩ := v
  obtain rfl : snapshot = snapshot' := hv.snapshot_eq
  cases h with
  | refused | lost => cases hsucceeded
  | read hreads h => exact ⟨_, .read hreads h, hv⟩
  | written hwrites h hrun =>
    have hnone := AtomicWrite.obstacle_eq_none hrun
    rw [hnone, hv.run_eq _ rfl, ← hnone] at hrun
    exact ⟨_, .written hwrites h hrun, .refl _⟩

theorem countersLe_run (limit : Nat) (u : FiledStore) (attempts : List Attempt) :
    u.snapshot.store.CountersLe (u.run limit attempts).2.snapshot.store := by
  induction attempts generalizing u with
  | nil => exact .refl _
  | cons a attempts ih => exact (comes_attempt limit u a).countersLe.trans (ih _)

/-- Without the calls that fail, the others are answered as with them. -/
theorem GoesOnAs.run (hv : u.GoesOnAs v) (hu : u.Sound dir)
    (hrange : ∀ a ∈ attempts, a.call.InRange)
    (hcounters : (u.run limit attempts).2.snapshot.store.CountersInRange) :
    (v.run limit (u.succeeding limit attempts)).1 =
        (u.run limit attempts).1.filter (! ·.failed) ∧
      (u.run limit attempts).2.GoesOnAs (v.run limit (u.succeeding limit attempts)).2 := by
  induction attempts generalizing u v with
  | nil => exact ⟨rfl, hv⟩
  | cons a attempts ih =>
    obtain ⟨ha, hrest⟩ := List.forall_mem_cons.mp hrange
    have hcomes := comes_attempt limit u a
    have hsound := hcomes.sound hu ha ((countersLe_run limit _ attempts).inRange hcounters)
    cases hfailed : (u.attempt limit a).1.failed with
    | true =>
      have hsucceeding : u.succeeding limit (a :: attempts) =
          (u.attempt limit a).2.succeeding limit attempts := by
        simp only [succeeding, hfailed, if_true]
      have hlater := ih (hv.of_failed hcomes hu hfailed) hsound hrest hcounters
      rw [hsucceeding]
      simpa [run, hfailed] using hlater
    | false =>
      have hsucceeding : u.succeeding limit (a :: attempts) =
          a :: (u.attempt limit a).2.succeeding limit attempts := by
        simp only [succeeding, hfailed, Bool.false_eq_true, if_false]
      obtain ⟨v', hcomes', hv'⟩ := hv.of_succeeded hcomes hfailed
      have hlater := ih hv' hsound hrest hcounters
      rw [hsucceeding]
      simpa [run, hfailed, attempt_of_comes hcomes'] using hlater

/-! ### Whole runs -/

theorem run_append (limit : Nat) (u : FiledStore) (earlier later : List Attempt) :
    (u.run limit (earlier ++ later)).2 = ((u.run limit earlier).2.run limit later).2 := by
  induction earlier generalizing u with
  | nil => rfl
  | cons a earlier ih => exact ih _

theorem Sound.run (hu : u.Sound dir) (hrange : ∀ a ∈ attempts, a.call.InRange)
    (hcounters : (u.run limit attempts).2.snapshot.store.CountersInRange) :
    (u.run limit attempts).2.Sound dir := by
  induction attempts generalizing u with
  | nil => exact hu
  | cons a attempts ih =>
    obtain ⟨ha, hrest⟩ := List.forall_mem_cons.mp hrange
    exact ih ((comes_attempt limit u a).sound hu ha
      ((countersLe_run limit _ attempts).inRange hcounters)) hrest hcounters

theorem sound_of_opened {files : Tree} {s : Snapshot} (hclosed : files.Closed)
    (hup : files.UpWithin dir.parts) (hopen : Snapshot.open? files dir = .ok s) :
    Sound dir ⟨s, files⟩ := by
  have hleads : (dir.join Snapshot.fileName).LeadsTo dir.parts Snapshot.fileName :=
    Path.leadsTo_join dir (by decide)
  have hsteady : files.Steady (dir.join Snapshot.fileName) dir.parts :=
    Tree.steady_of_upAfter hclosed (Tree.endsAt_of_leadsTo hleads) (by decide) hup.upAfter
  obtain ⟨hpath, hholds⟩ := Snapshot.open?_eq_ok_iff.mp hopen
  exact ⟨hpath, hpath ▸ hsteady, hholds, hholds.inRange⟩

/-- Calls to a storage in a file take effect as a whole or not at all, whichever writes of the file
fail and however far they get, and those that fail could as well not have been made. The path of
the directory is to go up only after directories that are there when the storage is opened, and all
numbers are to be in range: those that calls bring with them and the counters. -/
theorem atomic_of_opened (limit : Nat) (files : Tree) (dir : Path) (s : Snapshot)
    (attempts : List Attempt) (hclosed : files.Closed) (hup : files.UpWithin dir.parts)
    (hopen : Snapshot.open? files dir = .ok s)
    (hrange : ∀ a ∈ attempts, a.call.InRange)
    (hcounters : ((FiledStore.mk s files).run limit attempts).2.snapshot.store.CountersInRange) :
    Atomic limit dir ⟨s, files⟩ attempts := by
  have hu := sound_of_opened hclosed hup hopen
  -- What holds before and after a call in the middle.
  have hmiddle (earlier : List Attempt) (a : Attempt) (later : List Attempt)
      (h : attempts = earlier ++ a :: later) :
      let before := ((FiledStore.mk s files).run limit earlier).2
      before.Sound dir ∧ (before.attempt limit a).2.Sound dir := by
    subst h
    rw [List.forall_mem_append, List.forall_mem_cons] at hrange
    rw [run_append] at hcounters
    have hbefore := hu.run hrange.1 ((countersLe_run limit _ (a :: later)).inRange hcounters)
    exact ⟨hbefore, (comes_attempt limit _ a).sound hbefore hrange.2.1
      ((countersLe_run limit _ later).inRange hcounters)⟩
  refine ⟨fun earlier a later h hfailed => ?_, fun earlier a later h hsucceeded => ?_, ?_⟩
  · exact (comes_attempt limit _ a).unchanged (hmiddle earlier a later h).1 hfailed
  · exact ⟨(hmiddle earlier a later h).2.holds,
      (comes_attempt limit _ a).contents_eq hsucceeded⟩
  · obtain ⟨hexchanges, hlast⟩ := (GoesOnAs.refl _).run hu hrange hcounters
    exact ⟨hexchanges, hlast.snapshot_eq.symm, hlast.contents_eq.symm⟩

/-- An article that is only stored at the second try, after a write that left some bytes in the
sibling of the file, and before that a number that is only given at the second try. -/
theorem atomic_of_opened_obstacles :
    let dir : Path := ⟨"here/../new/data"⟩
    let files : Tree := ⟨[(["here"], .dir)]⟩
    let u : FiledStore := ⟨⟨dir.join Snapshot.fileName, .empty⟩, files⟩
    let a : Article := ⟨1, "\"a\"\n", [], true, 1⟩
    let attempts : List Attempt := [
      ⟨.nextArticleId, some ⟨.makeParents, .other "", 1, false⟩⟩, ⟨.nextArticleId, none⟩,
      ⟨.createArticle a, some ⟨.fill, .other "", 3, true⟩⟩, ⟨.createArticle a, none⟩,
      ⟨.articleById 2, none⟩, ⟨.articleById 1, none⟩]
    (u.run 10 attempts).1.map Exchange.failed = [true, false, true, false, true, false] ∧
      u.Atomic 10 dir attempts := by
  intro dir files u a attempts
  have hread : files.readOptional (dir.join Snapshot.fileName) = .ok none := by
    decide +kernel
  have hopen : Snapshot.open? files dir = .ok u.snapshot := by
    simp only [Snapshot.open?, hread]
    rfl
  have hrange : ∀ a ∈ attempts, a.call.InRange := by
    simp only [attempts, List.forall_mem_cons, List.not_mem_nil, false_implies, implies_true]
    exact ⟨trivial, trivial, ⟨by decide, by simp [a], by decide⟩,
      ⟨by decide, by simp [a], by decide⟩, show 2 < idBound by decide,
      show 1 < idBound by decide, trivial⟩
  have hup : files.UpWithin dir.parts :=
    ⟨["here", ".."], ["new", "data"], by decide +kernel, by decide, by decide⟩
  refine ⟨by decide +kernel, atomic_of_opened 10 files dir u.snapshot attempts
    (Tree.closed_of_entries (by decide)) hup hopen hrange ?_⟩
  exact ⟨by decide +kernel, by decide +kernel⟩

/-- Where a way goes down to a directory that is not there and up again, a write that fails makes
the directory, and with it a file appear that was not there when the storage was opened. -/
theorem not_atomic_upwards :
    let dir : Path := ⟨"new/.."⟩
    let bytes := Text.encode (Store.text { Store.empty with articleCounter := 5 })
    let files : Tree := ⟨[(["artsim.json"], .file bytes), (["artsim.tmp"], .dir)]⟩
    let u : FiledStore := ⟨⟨dir.join Snapshot.fileName, .empty⟩, files⟩
    files.Closed ∧ Snapshot.open? files dir = .ok u.snapshot ∧
      ¬ u.Atomic 1000 dir [⟨.nextArticleId, none⟩, ⟨.allArticles, none⟩] := by
  intro dir bytes files u
  have hread : files.readOptional (dir.join Snapshot.fileName) = .ok none := by
    decide +kernel
  have hopen : Snapshot.open? files dir = .ok u.snapshot := by
    simp only [Snapshot.open?, hread]
    rfl
  refine ⟨Tree.closed_of_entries (by decide +kernel), hopen, fun hatomic => ?_⟩
  have hsame := hatomic.failed [] ⟨.nextArticleId, none⟩ [⟨.allArticles, none⟩] rfl
    (by decide +kernel)
  have hfound : (u.attempt 1000 ⟨.nextArticleId, none⟩).2.contents = .ok (some bytes) := by
    decide +kernel
  cases hfound.symm.trans (hsame.2.trans hread)

end FiledStore

end NearDup
