import Mathlib.Data.List.Infix
import NearDup.Proofs.Files.AtomicWrite

/-! What a crash can leave of a write, whichever of its steps fails. Main statement: after any of
the steps, and at the end, every place is as it was but those of the target and of the sibling,
up to directories that are made on the way to them; the target is as it was or holds the new bytes,
as a whole, unless its path goes down into such a directory and up again. -/

namespace NearDup.AtomicWrite

variable {w : AtomicWrite} {obstacle : Option Obstacle} {t t₁ t' : Tree} {q : Location}

/-- All steps of a write. -/
def everyStep : List WriteStep := .makeParents :: fileSteps

/-- The trees that there are after the first steps of a write, however many, and at its end. -/
def stages (w : AtomicWrite) (obstacle : Option Obstacle) (t : Tree) : List Tree :=
  (w.run obstacle t).2 :: everyStep.inits.map fun first => (w.steps obstacle first t).2

/-- The place that the names in the path of the target lead to. -/
def targetPlace (w : AtomicWrite) : Location :=
  Location.follow [] w.target.components

def siblingPlace (w : AtomicWrite) : Location :=
  Location.follow [] w.sibling.components

/-- Whether at a place there is what was there, or a directory where nothing was, on the way to the
target. -/
def Keeps (w : AtomicWrite) (t t' : Tree) (q : Location) : Prop :=
  t'.find? q = t.find? q ∨
    q ∈ Location.along [] w.parents ∧ t.find? q = none ∧ t'.find? q = some .dir

/-- Whether at the end of the path of the target all is as it was. -/
def Untouched (w : AtomicWrite) (t t' : Tree) : Prop :=
  t'.find? w.targetPlace = t.find? w.targetPlace ∧
    t'.readOptional w.target = t.readOptional w.target

/-- Whether a tree has the bytes of a write at the end of the path of the target. -/
def Replaced (w : AtomicWrite) (t' : Tree) : Prop :=
  t'.find? w.targetPlace = some (.file w.bytes) ∧
    t'.readOptional w.target = .ok (some w.bytes)

/-- What is kept of the files when a write is made that can fail and be interrupted. The target is
sure to have its old bytes or its new ones, as a whole, if its path goes up only after what is
there: otherwise directories that are made can stand at its place, or open the way to it. -/
structure Interruptible (w : AtomicWrite) (obstacle : Option Obstacle) (t : Tree) : Prop where
  spared : ∀ t' ∈ w.stages obstacle t, ∀ q, q ≠ w.targetPlace → q ≠ w.siblingPlace →
    w.Keeps t t' q
  target : ∀ t' ∈ w.stages obstacle t, w.Keeps t t' w.targetPlace ∨ w.Replaced t'
  succeeds : ∀ t₁ place, obstacle = none → t.makeDirsFrom [] w.parents = (none, t₁) →
    t₁.locate w.target = .ok place → t₁.find? place ≠ some .dir →
    t₁.find? w.siblingPlace ≠ some .dir → (w.run obstacle t).1 = .ok ()
  succeeded : ∀ t', w.run obstacle t = (.ok (), t') →
    w.Replaced t' ∧ t'.find? w.siblingPlace = none
  failed : ∀ e t', w.run obstacle t = (.error e, t') → w.Keeps t t' w.targetPlace
  whole : t.Closed → t.UpAfter [] w.parents →
    ∀ t' ∈ w.stages obstacle t, w.Untouched t t' ∨ w.Replaced t'
  undone : t.Closed → t.UpAfter [] w.parents →
    ∀ e t', w.run obstacle t = (.error e, t') → w.Untouched t t'

/-! ### Stages -/

/-- Steps that are made before the sibling is renamed leave the target alone. -/
theorem abandoned_or_written_of_steps (w : AtomicWrite) (obstacle : Option Obstacle) (t : Tree)
    {first : List WriteStep} (h : first <+: everyStep) :
    w.Abandoned t (w.steps obstacle first t).2 ∨ w.Written t (w.steps obstacle first t).2 := by
  obtain ⟨rest, hrest⟩ := h
  cases first with
  | nil => exact .inl (.parents 0)
  | cons s first =>
    obtain ⟨rfl, hfirst⟩ := List.cons.inj hrest
    rw [steps]
    split
    · exact .inl (abandoned_of_makeParents ‹_›)
    · rename_i t₁ hmade
      have hparents := perform_of_step hmade
      cases hsteps : w.steps obstacle first t₁ with
      | mk result t' =>
        have hprefix : first <+: [.createSibling, .fill, .flush, .sync] ++ [.rename] :=
          ⟨rest, hfirst⟩
        rcases List.prefix_concat_iff.mp hprefix with rfl | hbefore
        · cases result with
          | none => exact .inr (written_of_fileSteps hparents hsteps)
          | some e => exact .inl (.unfinished hparents (unfinished_of_fileSteps hsteps))
        · have hrename : WriteStep.rename ∉ first :=
            fun hmem => absurd (hbefore.subset hmem) (by decide)
          refine .inl (.unfinished hparents (Unfinished.before.steps ?_ ?_ ?_ hsteps))
          · exact fun hmem => absurd (hbefore.subset hmem) (by decide)
          · exact fun hmem => hrename (List.mem_of_mem_dropLast hmem)
          · exact fun hmem => absurd hmem hrename

theorem abandoned_or_written_of_run (w : AtomicWrite) (obstacle : Option Obstacle) (t : Tree) :
    w.Abandoned t (w.run obstacle t).2 ∨ w.Written t (w.run obstacle t).2 := by
  cases hrun : w.run obstacle t with
  | mk result t' =>
    cases result with
    | ok => exact .inr (written_of_run hrun)
    | error e => exact .inl (abandoned_of_run hrun)

theorem abandoned_or_written_of_mem (h : t' ∈ w.stages obstacle t) :
    w.Abandoned t t' ∨ w.Written t t' := by
  rcases List.mem_cons.mp h with rfl | h
  · exact abandoned_or_written_of_run w obstacle t
  · obtain ⟨first, hfirst, rfl⟩ := List.mem_map.mp h
    exact abandoned_or_written_of_steps w obstacle t ((List.mem_inits _ _).mp hfirst)

/-! ### Places -/

section

variable (hne : w.sibling.components ≠ w.target.components)

include hne

theorem exists_places :
    ∃ name other, w.Apart w.parents name other ∧
      w.targetPlace = (Location.follow [] w.parents).next name ∧
      w.siblingPlace = (Location.follow [] w.parents).next other := by
  obtain ⟨name, other, htarget, hsibling, hapart⟩ := exists_apart hne
  refine ⟨name, other, hapart, ?_, ?_⟩
  · rw [targetPlace, htarget, Location.follow_append]
    rfl
  · rw [siblingPlace, hsibling, Location.follow_append]
    rfl

theorem targetPlace_ne : w.targetPlace ≠ w.siblingPlace := by
  obtain ⟨name, other, hapart, htarget, hsibling⟩ := exists_places hne
  rw [htarget, hsibling]
  exact hapart.place_ne

theorem Unfinished.find?_eq (h : w.Unfinished t t') (hq : q ≠ w.siblingPlace) :
    t'.find? q = t.find? q := by
  cases h with
  | before => rfl
  | sibling horigin _ _ herase =>
    obtain ⟨name, other, hapart, -, hsibling⟩ := exists_places hne
    obtain rfl := ((Tree.locate_iff_of_leadsTo hapart.sibling).mp horigin).2
    exact Tree.find?_of_erase_eq herase (hsibling ▸ hq)

theorem Abandoned.keeps (h : w.Abandoned t t') (hq : q ≠ w.siblingPlace) : w.Keeps t t' q := by
  obtain ⟨name, other, hapart, -, -⟩ := exists_places hne
  cases h with
  | parents k => exact hapart.gains t k q
  | unfinished hparents hunfinished =>
    rw [Keeps, hunfinished.find?_eq hne hq]
    exact hapart.gains_of_made hparents q

theorem Written.keeps (h : w.Written t t') (hq : q ≠ w.targetPlace) (hq' : q ≠ w.siblingPlace) :
    w.Keeps t t' q := by
  obtain ⟨name, other, hapart, htarget, hsibling⟩ := exists_places hne
  obtain ⟨hparents, horigin, -, hplace, -⟩ := h
  obtain rfl := ((Tree.locate_iff_of_leadsTo hapart.sibling).mp horigin).2
  obtain rfl := (Tree.place_of_locate hapart.target hplace).2
  rw [Keeps, Tree.find?_set_of_ne _ _ _ _ (htarget ▸ hq),
    Tree.find?_erase_of_ne _ _ _ (hsibling ▸ hq')]
  exact hapart.gains_of_made hparents q

theorem Written.replaced (h : w.Written t t') : w.Replaced t' := by
  refine ⟨?_, h.readOptional_eq⟩
  obtain ⟨name, other, hapart, htarget, -⟩ := exists_places hne
  obtain ⟨-, -, -, hplace, hnot⟩ := h
  rw [htarget, ← (Tree.place_of_locate hapart.target hplace).2]
  exact Tree.find?_set _ _ _ (Tree.ne_nil_of_find? hnot)

theorem Written.find?_siblingPlace (h : w.Written t t') : t'.find? w.siblingPlace = none := by
  obtain ⟨name, other, hapart, htarget, hsibling⟩ := exists_places hne
  have hother := (targetPlace_ne hne).symm
  obtain ⟨-, horigin, hnot, hplace, -⟩ := h
  rw [htarget, ← (Tree.place_of_locate hapart.target hplace).2] at hother
  rw [Tree.find?_set_of_ne _ _ _ _ hother, hsibling,
    ← ((Tree.locate_iff_of_leadsTo hapart.sibling).mp horigin).2]
  exact Tree.find?_erase (Tree.ne_nil_of_find? hnot)

theorem run_eq_ok {place : Location} (hparents : t.makeDirsFrom [] w.parents = (none, t₁))
    (htarget : t₁.locate w.target = .ok place) (hplace : t₁.find? place ≠ some .dir)
    (horigin : t₁.find? w.siblingPlace ≠ some .dir) : (w.run none t).1 = .ok () := by
  obtain ⟨name, other, hapart, -, hsibling⟩ := exists_places hne
  have hlocate : t₁.locate w.sibling = .ok w.siblingPlace :=
    (Tree.locate_iff_of_leadsTo hapart.sibling).mpr ⟨hapart.dirs hparents, hsibling⟩
  rw [run_of_free hparents hlocate horigin htarget hplace]

theorem Abandoned.untouched (h : w.Abandoned t t') (hclosed : t.Closed)
    (hup : t.UpAfter [] w.parents) : w.Untouched t t' := by
  obtain ⟨name, other, hapart, htarget, -⟩ := exists_places hne
  have hsteady := Tree.steady_of_upAfter hclosed hapart.target hapart.isName hup
  refine ⟨?_, (h.steady hapart hsteady).1⟩
  rcases h.keeps hne (targetPlace_ne hne) with hsame | ⟨hmem, hnone, -⟩
  · exact hsame
  · rw [htarget] at hmem hnone
    exact absurd hnone (hup.ne_none_of_mem hapart.isName hmem)

end

/-- A write can be interrupted after any step, and any step of it can fail, if the paths of its
target and of its sibling are different. -/
theorem interruptible (w : AtomicWrite) (obstacle : Option Obstacle) (t : Tree)
    (hne : w.sibling.components ≠ w.target.components) : w.Interruptible obstacle t where
  spared t' ht' q hq hq' := by
    rcases abandoned_or_written_of_mem ht' with h | h
    · exact h.keeps hne hq'
    · exact h.keeps hne hq hq'
  target t' ht' := by
    rcases abandoned_or_written_of_mem ht' with h | h
    · exact .inl (h.keeps hne (targetPlace_ne hne))
    · exact .inr (h.replaced hne)
  succeeds := by
    rintro t₁ place rfl hparents htarget hplace horigin
    exact run_eq_ok hne hparents htarget hplace horigin
  succeeded t' hrun :=
    ⟨(written_of_run hrun).replaced hne, (written_of_run hrun).find?_siblingPlace hne⟩
  failed e t' hrun := (abandoned_of_run hrun).keeps hne (targetPlace_ne hne)
  whole hclosed hup t' ht' := by
    rcases abandoned_or_written_of_mem ht' with h | h
    · exact .inl (h.untouched hne hclosed hup)
    · exact .inr (h.replaced hne)
  undone hclosed hup e t' hrun := (abandoned_of_run hrun).untouched hne hclosed hup

/-- A write over old bytes, beside a sibling that one before it has left. -/
theorem interruptible_fill :
    let w : AtomicWrite := ⟨⟨"here/../data/./a.json"⟩, Text.encode "new"⟩
    let t : Tree := ⟨[(["here"], .dir), (["data"], .dir),
      (["data", "a.json"], .file (Text.encode "old")), (["data", "a.tmp"], .file [0])]⟩
    let obstacle : Obstacle := ⟨.fill, .other "No space left on device (os error 28)", 2, true⟩
    w.sibling.components ≠ w.target.components ∧ t.Closed ∧ t.UpAfter [] w.parents ∧
      w.Interruptible (some obstacle) t := by
  intro w t obstacle
  have hne : w.sibling.components ≠ w.target.components := by decide +kernel
  have hup : t.UpWithin w.parents :=
    ⟨["here", ".."], ["data"], by decide +kernel, by decide, by decide⟩
  exact ⟨hne, Tree.closed_of_entries (by decide), hup.upAfter,
    interruptible w (some obstacle) t hne⟩

/-- Where the path of the target goes down to the place of the target and up again, a directory is
made there, and the write fails for it. -/
theorem made_directory_upwards :
    let w : AtomicWrite := ⟨⟨"x/../x"⟩, Text.encode "new"⟩
    let t := (w.run none .empty).2
    w.sibling.components ≠ w.target.components ∧ Tree.empty.Closed ∧
      (w.run none .empty).1 = .error .isADirectory ∧
      Tree.empty.find? w.targetPlace = none ∧ t.find? w.targetPlace = some .dir ∧
      Tree.empty.readOptional w.target = .ok none ∧
      t.readOptional w.target = .error .isADirectory := by
  refine ⟨by decide +kernel, Tree.closed_of_entries (by decide), ?_⟩
  decide +kernel

end NearDup.AtomicWrite
