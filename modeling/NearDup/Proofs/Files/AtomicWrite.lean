import NearDup.Files.AtomicWrite
import NearDup.Proofs.Files.Directories

/-! What writes leave. Main statements: a write succeeds if nothing is in its way, and then leaves
its bytes at the target; one that fails changes nothing there, if directories that are made on the
way to the target do not; and a write ends as it would without those that failed before it. -/

namespace NearDup.AtomicWrite

variable {w w' : AtomicWrite} {obstacle : Option Obstacle} {t t₁ t' : Tree}

/-! ### Writes that succeed -/

/-- A step that ends in no error has met no obstacle. -/
theorem perform_of_step {s : WriteStep} (h : w.step obstacle t s = (none, t')) :
    w.perform t s = (none, t') := by
  unfold step at h
  split at h
  · cases h
  · exact h

theorem steps_cons {s : WriteStep} {rest : List WriteStep}
    (h : w.steps obstacle (s :: rest) t = (none, t')) :
    ∃ next, w.perform t s = (none, next) ∧ w.steps obstacle rest next = (none, t') := by
  rw [steps] at h
  split at h
  · cases h
  · exact ⟨_, perform_of_step ‹_›, h⟩

theorem step_ne {o : Obstacle} {s : WriteStep} (h : w.step (some o) t s = (none, t')) :
    o.step ≠ s := by
  rintro rfl
  have hmet : (some o).filter (·.step = o.step) = some o := by simp
  rw [step, hmet] at h
  cases h

theorem step_notMem_steps {o : Obstacle} {rest : List WriteStep}
    (h : w.steps (some o) rest t = (none, t')) : o.step ∉ rest := by
  induction rest generalizing t with
  | nil => exact List.not_mem_nil
  | cons s rest ih =>
    rw [steps] at h
    split at h
    · cases h
    · exact List.not_mem_cons_of_ne_of_not_mem (step_ne ‹_›) (ih h)

/-- No write succeeds that meets an obstacle. -/
theorem obstacle_eq_none (h : w.run obstacle t = (.ok (), t')) : obstacle = none := by
  cases obstacle with
  | none => rfl
  | some o =>
    unfold run at h
    split at h
    · cases h
    · rename_i hparents
      unfold finish at h
      split at h
      · rename_i hsteps
        have hmem : ∀ s : WriteStep, s ≠ .makeParents → s ∈ fileSteps := by
          intro s hs
          cases s <;> simp_all [fileSteps]
        exact absurd (hmem o.step (step_ne hparents)) (step_notMem_steps hsteps)
      · cases h

/-- What a write that succeeds leaves: its bytes at the target, the parents of which are there, and
no sibling. -/
inductive Written (w : AtomicWrite) (t : Tree) : Tree → Prop
  | intro {t₁ origin place} (hparents : t.makeDirsFrom [] w.parents = (none, t₁))
      (hsibling : t₁.locate w.sibling = .ok origin) (horigin : t₁.find? origin ≠ some .dir)
      (htarget : t₁.locate w.target = .ok place) (hplace : t₁.find? place ≠ some .dir) :
      Written w t ((t₁.erase origin).set place (.file w.bytes))

/-- The sibling holds the bytes when it is renamed. -/
theorem written_of_fileSteps (hparents : t.makeDirsFrom [] w.parents = (none, t₁))
    (h : w.steps obstacle fileSteps t₁ = (none, t')) : w.Written t t' := by
  obtain ⟨created, hcreate, h⟩ := steps_cons h
  obtain ⟨filled, hfill, h⟩ := steps_cons h
  obtain ⟨flushed, hflush, h⟩ := steps_cons h
  obtain ⟨synced, hsync, h⟩ := steps_cons h
  obtain ⟨renamed, hrename, h⟩ := steps_cons h
  obtain rfl : renamed = t' := (Prod.mk.inj h).2
  obtain rfl : filled = flushed := (Prod.mk.inj hflush).2
  obtain rfl : filled = synced := (Prod.mk.inj hsync).2
  obtain ⟨origin, hsibling, horigin, rfl⟩ :=
    Tree.create_eq_ok_iff.mp (Tree.outcome_eq_none_iff.mp hcreate)
  have hnil := Tree.ne_nil_of_find? horigin
  have hsame (bytes : Bytes) {place : Location}
      (h : (t₁.set origin (.file bytes)).locate w.sibling = .ok place) : place = origin :=
    Except.ok.inj (((Tree.locate_set_iff horigin bytes).mp h).symm.trans hsibling)
  obtain ⟨place, old, hlocate, hold, rfl⟩ :=
    Tree.append_eq_ok_iff.mp (Tree.outcome_eq_none_iff.mp hfill)
  obtain rfl := hsame [] hlocate
  obtain rfl : [] = old := by simpa [Tree.find?_set t₁ place _ hnil] using hold
  rw [Tree.set_set, List.nil_append] at hrename
  obtain ⟨origin, bytes, target, hlocate, hbytes, htarget, hplace, rfl⟩ :=
    Tree.rename_eq_ok_iff.mp (Tree.outcome_eq_none_iff.mp hrename)
  obtain rfl := hsame w.bytes hlocate
  obtain rfl : w.bytes = bytes := by simpa [Tree.find?_set t₁ origin _ hnil] using hbytes
  rw [Tree.erase_set]
  exact ⟨hparents, hsibling, horigin, (Tree.locate_set_iff horigin _).mp htarget,
    fun hdir => hplace ((Tree.dir_set_iff horigin _).mpr hdir)⟩

theorem written_of_run (h : w.run obstacle t = (.ok (), t')) : w.Written t t' := by
  unfold run at h
  split at h
  · cases h
  · rename_i t₁ hparents
    unfold finish at h
    split at h
    · rename_i hsteps
      obtain rfl := (Prod.mk.inj h).2
      exact written_of_fileSteps (perform_of_step hparents) hsteps
    · cases h

/-- A write that succeeds leaves its bytes at the target. -/
theorem Written.readOptional_eq (h : w.Written t t') :
    t'.readOptional w.target = .ok (some w.bytes) := by
  obtain ⟨hparents, hsibling, horigin, htarget, hplace⟩ := h
  have hplace' := mt (Tree.dir_erase_iff horigin).mp hplace
  rw [Tree.readOptional, Tree.read_eq_ok_iff.mpr ⟨_,
    (Tree.locate_set_iff hplace' _).mpr ((Tree.locate_erase_iff horigin).mpr htarget),
    Tree.find?_set _ _ _ (Tree.ne_nil_of_find? hplace)⟩]

theorem run_of_create {t₂ : Tree} (hparents : t.makeDirsFrom [] w.parents = (none, t₁))
    (hcreate : t₁.create w.sibling = .ok t₂) :
    w.run none t = w.finish none (w.steps none [.fill, .flush, .sync, .rename] t₂) := by
  have hfirst : w.steps none fileSteps t₁ = w.steps none [.fill, .flush, .sync, .rename] t₂ := by
    simp only [fileSteps, steps, step, Option.filter_none, perform, hcreate, Tree.outcome]
  simp only [run, step, Option.filter_none, perform, hparents, hfirst]

/-- A write that meets nothing in its way succeeds. -/
theorem run_of_free {origin place : Location}
    (hparents : t.makeDirsFrom [] w.parents = (none, t₁))
    (hsibling : t₁.locate w.sibling = .ok origin) (horigin : t₁.find? origin ≠ some .dir)
    (htarget : t₁.locate w.target = .ok place) (hplace : t₁.find? place ≠ some .dir) :
    w.run none t = (.ok (), (t₁.erase origin).set place (.file w.bytes)) := by
  have hnil := Tree.ne_nil_of_find? horigin
  have hcreate : t₁.create w.sibling = .ok (t₁.set origin (.file [])) :=
    Tree.create_eq_ok_iff.mpr ⟨origin, hsibling, horigin, rfl⟩
  have hfill : (t₁.set origin (.file [])).append w.sibling w.bytes =
      .ok (t₁.set origin (.file w.bytes)) :=
    Tree.append_eq_ok_iff.mpr ⟨origin, [], (Tree.locate_set_iff horigin _).mpr hsibling,
      Tree.find?_set _ _ _ hnil, by rw [Tree.set_set, List.nil_append]⟩
  have hrename : (t₁.set origin (.file w.bytes)).rename w.sibling w.target =
      .ok ((t₁.erase origin).set place (.file w.bytes)) :=
    Tree.rename_eq_ok_iff.mpr ⟨origin, w.bytes, place,
      (Tree.locate_set_iff horigin _).mpr hsibling, Tree.find?_set _ _ _ hnil,
      (Tree.locate_set_iff horigin _).mpr htarget, mt (Tree.dir_set_iff horigin _).mp hplace,
      by rw [Tree.erase_set]⟩
  rw [run_of_create hparents hcreate]
  simp only [steps, step, Option.filter_none, perform, hfill, hrename, Tree.outcome, finish]

/-! ### Writes that fail -/

/-- A tree while a file is written to it: as it was, or with a change at the place of the sibling,
where there is no directory. -/
inductive Unfinished (w : AtomicWrite) (t : Tree) : Tree → Prop
  | before : Unfinished w t t
  | sibling {t' : Tree} {origin} (hsibling : t.locate w.sibling = .ok origin)
      (horigin : t.find? origin ≠ some .dir) (hnot : t'.find? origin ≠ some .dir)
      (herase : t'.erase origin = t.erase origin) : Unfinished w t t'

theorem Unfinished.of_erase_eq {place : Location} (h : w.Unfinished t t₁)
    (hplace : t₁.locate w.sibling = .ok place) (hnot₁ : t₁.find? place ≠ some .dir)
    (hnot : t'.find? place ≠ some .dir) (herase : t'.erase place = t₁.erase place) :
    w.Unfinished t t' := by
  cases h with
  | before => exact .sibling hplace hnot₁ hnot herase
  | sibling hsibling horigin hnot' herase' =>
    have hplace' : t.locate w.sibling = .ok place :=
      (Tree.locate_congr fun _ => Tree.dir_iff_of_erase_eq herase' horigin hnot').mp hplace
    obtain rfl := Except.ok.inj (hplace'.symm.trans hsibling)
    exact .sibling hsibling horigin hnot (herase.trans herase')

theorem Unfinished.set {place : Location} (h : w.Unfinished t t₁)
    (hplace : t₁.locate w.sibling = .ok place) (hnot : t₁.find? place ≠ some .dir)
    (bytes : Bytes) : w.Unfinished t (t₁.set place (.file bytes)) :=
  h.of_erase_eq hplace hnot (by simp [Tree.find?_set _ _ _ (Tree.ne_nil_of_find? hnot)])
    (Tree.erase_set t₁ place _)

theorem Unfinished.create (h : w.Unfinished t t₁) :
    w.Unfinished t (t₁.outcome (t₁.create w.sibling)).2 := by
  cases hcreate : t₁.create w.sibling with
  | error e => exact h
  | ok t' =>
    obtain ⟨place, hplace, hnot, rfl⟩ := Tree.create_eq_ok_iff.mp hcreate
    exact h.set hplace hnot []

theorem Unfinished.append (h : w.Unfinished t t₁) (bytes : Bytes) :
    w.Unfinished t (t₁.outcome (t₁.append w.sibling bytes)).2 := by
  cases happend : t₁.append w.sibling bytes with
  | error e => exact h
  | ok t' =>
    obtain ⟨place, old, hplace, hold, rfl⟩ := Tree.append_eq_ok_iff.mp happend
    exact h.set hplace (by simp [hold]) _

theorem Unfinished.cleanUp (h : w.Unfinished t t₁) (obstacle : Option Obstacle) :
    w.Unfinished t (w.cleanUp obstacle t₁) := by
  unfold AtomicWrite.cleanUp
  split
  · exact h
  · cases hremove : t₁.removeFile w.sibling with
    | error e => exact h
    | ok t' =>
      obtain ⟨place, bytes, hplace, hfound, rfl⟩ := Tree.removeFile_eq_ok_iff.mp hremove
      have hnot : t₁.find? place ≠ some .dir := by simp [hfound]
      have hgone : (t₁.erase place).find? place ≠ some .dir := by
        simp [Tree.find?_erase (Tree.ne_nil_of_find? hnot)]
      exact h.of_erase_eq hplace hnot hgone (Tree.erase_erase t₁ place)

/-- Until the sibling is renamed, a step changes nothing but the sibling. -/
theorem Unfinished.step (h : w.Unfinished t t₁) (obstacle : Option Obstacle) {s : WriteStep}
    (hparents : s ≠ .makeParents)
    (hrename : s ≠ .rename ∨ (w.step obstacle t₁ s).1 ≠ none) :
    w.Unfinished t (w.step obstacle t₁ s).2 := by
  unfold AtomicWrite.step at hrename ⊢
  split
  · rename_i o ho
    obtain rfl : o.step = s := by simpa using (Option.filter_eq_some_iff.mp ho).2
    unfold interrupted
    split
    · exact absurd ‹_› hparents
    · exact h.append _
    all_goals exact h
  · rename_i hnone
    cases s with
    | makeParents => exact absurd rfl hparents
    | createSibling => exact h.create
    | fill => exact h.append w.bytes
    | flush | sync => exact h
    | rename =>
      simp only [hnone, perform] at hrename ⊢
      cases hresult : t₁.rename w.sibling w.target with
      | error e => exact h
      | ok t' => simp [hresult, Tree.outcome] at hrename

theorem Unfinished.steps (h : w.Unfinished t t₁) {rest : List WriteStep} {result : Option IoError}
    (hparents : .makeParents ∉ rest) (hrename : .rename ∉ rest.dropLast)
    (hresult : .rename ∈ rest → result ≠ none)
    (hsteps : w.steps obstacle rest t₁ = (result, t')) : w.Unfinished t t' := by
  induction rest generalizing t₁ with
  | nil =>
    obtain rfl := (Prod.mk.inj hsteps).2
    exact h
  | cons s rest ih =>
    rw [List.mem_cons, not_or] at hparents
    have hstep := h.step obstacle (Ne.symm hparents.1)
    rw [AtomicWrite.steps] at hsteps
    split at hsteps
    · rename_i heq
      obtain rfl := (Prod.mk.inj hsteps).2
      rw [heq] at hstep
      exact hstep (.inr (by simp))
    · rename_i heq
      rw [heq] at hstep
      cases rest with
      | nil =>
        obtain ⟨rfl, rfl⟩ := Prod.mk.inj hsteps
        exact hstep (.inl fun hs => hresult (List.mem_singleton.mpr hs.symm) rfl)
      | cons next rest =>
        rw [List.dropLast_cons_cons, List.mem_cons, not_or] at hrename
        exact ih (hstep (.inl (Ne.symm hrename.1))) hparents.2 hrename.2
          (fun hmem => hresult (List.mem_cons_of_mem s hmem)) hsteps

theorem unfinished_of_fileSteps {e : IoError}
    (h : w.steps obstacle fileSteps t = (some e, t')) : w.Unfinished t t' :=
  Unfinished.before.steps (by decide) (by decide) (by simp) h

/-- What a write that fails leaves: some of the parents of its target, or all of them and a change
at the place of the sibling. -/
inductive Abandoned (w : AtomicWrite) (t : Tree) : Tree → Prop
  | parents (k : Nat) : Abandoned w t (t.makeDirsFrom [] (w.parents.take k)).2
  | unfinished {t₁ t' : Tree} (hparents : t.makeDirsFrom [] w.parents = (none, t₁))
      (h : w.Unfinished t₁ t') : Abandoned w t t'

theorem abandoned_of_makeParents {e : IoError}
    (h : w.step obstacle t .makeParents = (some e, t')) : w.Abandoned t t' := by
  unfold step at h
  split at h
  · rename_i o ho
    obtain rfl := (Prod.mk.inj h).2
    have hparents : o.step = .makeParents := by simpa using (Option.filter_eq_some_iff.mp ho).2
    simp only [interrupted, hparents]
    exact .parents o.progress
  · have hall := Abandoned.parents (w := w) (t := t) w.parents.length
    rw [List.take_length] at hall
    rw [perform] at h
    rwa [h] at hall

theorem abandoned_of_run {e : IoError} (h : w.run obstacle t = (.error e, t')) :
    w.Abandoned t t' := by
  unfold run at h
  split at h
  · rename_i hparents
    obtain rfl := (Prod.mk.inj h).2
    exact abandoned_of_makeParents hparents
  · rename_i hparents
    unfold finish at h
    split at h
    · cases h
    · rename_i hsteps
      obtain rfl := (Prod.mk.inj h).2
      exact .unfinished (perform_of_step hparents)
        ((unfinished_of_fileSteps hsteps).cleanUp obstacle)

/-! ### Writes after those that failed -/

theorem run_of_parents_eq (h : t'.makeDirsFrom [] w.parents = t.makeDirsFrom [] w.parents) :
    w.run none t' = w.run none t := by
  simp only [run, step, Option.filter_none, perform, h]

/-- A write ends as it would if one before it had not failed but not been made at all. -/
theorem Abandoned.run_eq (h : w.Abandoned t t') (htarget : w'.target = w.target) :
    w'.run none t' = w'.run none t := by
  have hparents' : w'.parents = w.parents := by
    rw [AtomicWrite.parents, AtomicWrite.parents, htarget]
  have hsibling' : w'.sibling = w.sibling := by rw [sibling, sibling, htarget]
  rcases h with ⟨k⟩ | ⟨hparents, ⟨⟩ | ⟨hsibling, horigin, hnot, herase⟩⟩
  · exact run_of_parents_eq (hparents' ▸ t.makeDirsFrom_take [] w.parents k)
  · rw [← hparents'] at hparents
    rw [run_of_parents_eq]
    rw [hparents, Tree.makeDirsFrom_of_dirs (Tree.dirs_of_makeDirsFrom hparents)]
  · rw [← hparents'] at hparents
    rw [← hsibling'] at hsibling
    have hsame (q : Location) := Tree.dir_iff_of_erase_eq (q := q) herase horigin hnot
    have hmade := Tree.makeDirsFrom_of_dirs fun q hq =>
      (hsame q).mpr (Tree.dirs_of_makeDirsFrom hparents q hq)
    -- The sibling is created anew, whatever has become of it.
    rw [run_of_create hparents (Tree.create_eq_ok_iff.mpr ⟨_, hsibling, horigin, rfl⟩),
      run_of_create hmade (Tree.create_eq_ok_iff.mpr
        ⟨_, (Tree.locate_congr hsame).mpr hsibling, hnot, rfl⟩),
      Tree.set_of_erase_eq herase]

/-! ### The target -/

/-- Whether the target of a write is a name at the end of a way, and its sibling another one. -/
structure Apart (w : AtomicWrite) (way : List String) (name other : String) : Prop where
  target : Tree.EndsAt w.target way name
  sibling : w.sibling.LeadsTo w.parents other
  parents_eq : w.parents = Path.withoutDots way
  isName : Path.IsName name
  isName_other : Path.IsName other
  ne : other ≠ name

section

variable {way : List String} {name : String} (h : w.target.components = way ++ [name])
  (hname : name ≠ "." ∧ name ≠ "..")

include h hname

theorem sibling_leadsTo : w.sibling.LeadsTo way (Path.stem name ++ "." ++ "tmp") := by
  have hnames : ∀ name ∈ w.target.components, name ≠ "" ∧ '/' ∉ name.toList :=
    fun _ => Path.mem_components
  rw [h, List.forall_mem_append, List.forall_mem_singleton] at hnames
  have hfile : w.target.fileName? = some name := by simp [Path.fileName?, h, hname]
  have hsibling : w.sibling = Path.ofNames (way ++ [Path.stem name ++ "." ++ "tmp"]) := by
    simp [sibling, Path.withExtension, hfile, h]
  rw [hsibling]
  exact Path.leadsTo_ofNames hnames.1 (Path.isName_tmp hnames.2.2)

theorem sibling_components : w.sibling.components = way ++ [Path.stem name ++ "." ++ "tmp"] := by
  have hstroke := (Path.mem_components (h ▸ List.mem_append_right way List.mem_cons_self)).2
  rw [(sibling_leadsTo h hname).components_eq (Path.isName_tmp hstroke).ne_dot,
    Path.withoutDots_way hname.1 h]

theorem apart_of_components (hne : Path.stem name ++ "." ++ "tmp" ≠ name) :
    w.Apart way name (Path.stem name ++ "." ++ "tmp") := by
  have hempty := Path.mem_components (h ▸ List.mem_append_right way List.mem_cons_self)
  have hparents : w.parents = way := Path.components_parent_of_eq hname.1 h
  exact {
    target := Tree.endsAt_of_components hname.1 h
    sibling := hparents.symm ▸ sibling_leadsTo h hname
    parents_eq := hparents.trans (Path.withoutDots_way hname.1 h).symm
    isName := ⟨hempty.1, hempty.2, hname.1, hname.2⟩
    isName_other := Path.isName_tmp hempty.2
    ne := hne }

end

/-- A target the path of which is not that of its sibling has a name of its own. -/
theorem exists_apart (h : w.sibling.components ≠ w.target.components) :
    ∃ name other, w.target.components = w.parents ++ [name] ∧
      w.sibling.components = w.parents ++ [other] ∧ w.Apart w.parents name other := by
  cases hfile : w.target.fileName? with
  | none => exact absurd (by rw [sibling, Path.withExtension, hfile]) h
  | some name =>
    obtain ⟨hlast, hname⟩ := Option.filter_eq_some_iff.mp hfile
    have hdots : name ≠ "." ∧ name ≠ ".." := by simpa using hname
    obtain ⟨way, hway⟩ := List.getLast?_eq_some_iff.mp hlast
    obtain rfl : w.parents = way := Path.components_parent_of_eq hdots.1 hway
    have hsibling := sibling_components hway hdots
    refine ⟨name, _, hway, hsibling, apart_of_components hway hdots fun hsame => h ?_⟩
    rw [hsibling, hway, hsame]

/-- Where the directory of a target is written with dots, the way there can be as well. -/
theorem Apart.of_endsAt {way : List String} {name other : String}
    (h : w.Apart (Path.withoutDots way) name other) (htarget : Tree.EndsAt w.target way name) :
    w.Apart way name other :=
  { h with
    target := htarget
    parents_eq := h.parents_eq.trans (Path.withoutDots_withoutDots way) }

namespace Apart

variable {way : List String} {name other : String} {origin place : Location}

theorem mem_along_parents (h : w.Apart way name other) {q : Location} :
    q ∈ Location.along [] w.parents ↔ q ∈ Location.along [] way := by
  rw [h.parents_eq, Location.mem_along_withoutDots]

/-- The target and the sibling have different places. -/
theorem place_ne (h : w.Apart way name other) :
    (Location.follow [] way).next name ≠ (Location.follow [] w.parents).next other := by
  rw [Location.next_of_isName h.isName, Location.next_of_isName h.isName_other]
  intro hsame
  exact h.ne (List.cons.inj (List.append_inj_right' hsame rfl)).1.symm

theorem dirs (h : w.Apart way name other) (hparents : t.makeDirsFrom [] w.parents = (none, t₁)) :
    ∀ q ∈ Location.along [] way, t₁.find? q = some .dir := fun q hq =>
  Tree.dirs_of_makeDirsFrom hparents q (h.mem_along_parents.mpr hq)

theorem gains (h : w.Apart way name other) (t : Tree) (k : Nat) :
    t.Gains (Location.along [] way) (t.makeDirsFrom [] (w.parents.take k)).2 :=
  (t.gains_makeDirsFrom [] _).mono fun _ hq =>
    h.mem_along_parents.mp (List.mem_of_mem_take (Location.along_take k ▸ hq))

theorem gains_of_made (h : w.Apart way name other)
    (hparents : t.makeDirsFrom [] w.parents = (none, t₁)) : t.Gains (Location.along [] way) t₁ := by
  have hgains := h.gains t w.parents.length
  rwa [List.take_length, hparents] at hgains

end Apart

variable {way : List String} {name other : String}

theorem Written.steady (h : w.Written t t') (hw : w.Apart way name other) :
    t'.Steady w.target way := by
  obtain ⟨hparents, hsibling, horigin, htarget, hplace⟩ := h
  refine Tree.steady_of_dirs fun q hq => ?_
  rw [Tree.dir_set_iff (mt (Tree.dir_erase_iff horigin).mp hplace), Tree.dir_erase_iff horigin]
  exact hw.dirs hparents q hq

/-- A write that fails changes nothing at the target, if directories on the way to it do not. -/
theorem Abandoned.steady (h : w.Abandoned t t') (hw : w.Apart way name other)
    (hsteady : t.Steady w.target way) :
    t'.readOptional w.target = t.readOptional w.target ∧ t'.Steady w.target way := by
  cases h with
  | parents k => exact ⟨hsteady _ (hw.gains t k), hsteady.of_gains (hw.gains t k)⟩
  | @unfinished t₁ _ hparents hunfinished =>
    have hdirs := hw.dirs hparents
    have hread := hsteady t₁ (hw.gains_of_made hparents)
    cases hunfinished with
    | before => exact ⟨hread, Tree.steady_of_dirs hdirs⟩
    | sibling hsibling horigin hnot herase =>
      have hsame (q : Location) := Tree.dir_iff_of_erase_eq (q := q) herase horigin hnot
      have hdirs' (q : Location) (hq : q ∈ Location.along [] way) : t'.find? q = some .dir :=
        (hsame q).mpr (hdirs q hq)
      obtain rfl := ((Tree.locate_iff_of_leadsTo hw.sibling).mp hsibling).2
      have hfound := Tree.find?_of_erase_eq herase hw.place_ne
      exact ⟨(Tree.readOptional_endsAt_congr hw.target hdirs hdirs' hfound).trans hread,
        Tree.steady_of_dirs hdirs'⟩

end NearDup.AtomicWrite
