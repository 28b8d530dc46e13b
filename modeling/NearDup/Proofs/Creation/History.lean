import Mathlib.Data.List.Induction
import NearDup.Proofs.Creation.Semantics

/-! Creations one after another on a store that is empty at first, whatever their comparisons come
to and whichever of their calls are lost. Main statement: what holds before any creation and is kept
by each holds of every history. -/

namespace NearDup

/-- A creation as it is asked for, with what it meets: the outcomes of its comparisons, and which of
its calls are lost. -/
structure Creation where
  content : String
  matcher : Matcher
  faults : Faults

/-- What came of a creation, and the calls that it made. -/
structure Record where
  result : Except Error Article
  calls : List Exchange

/-- Creates an article in a store. -/
def Creation.run (c : Creation) (limit : Nat) (s : Store) : Record × Store :=
  let (result, t) := (Service.create c.matcher c.content).run (c.faults.handle limit) ⟨s, []⟩
  (⟨result, t.calls⟩, t.store)

theorem Creation.runs (c : Creation) (limit : Nat) (s : Store) :
    (Service.create c.matcher c.content).Runs c.faults.Lossy limit s (c.run limit s).1.calls
      (c.run limit s).1.result (c.run limit s).2 := by
  obtain ⟨calls, hcalls, hruns⟩ :=
    Program.runs_of_run c.faults limit (Service.create c.matcher c.content) ⟨s, []⟩
  rw [List.nil_append] at hcalls
  simp only [run, hcalls]
  exact hruns

theorem Creation.run_creates (c : Creation) (limit : Nat) {s : Store} (hs : s.Numbered) :
    Service.Creates c.faults.Lossy limit c.matcher c.content s (c.run limit s).1.calls
      (c.run limit s).1.result (c.run limit s).2 :=
  Service.create_runs hs (c.runs limit s)

/-- What has come of creations so far. -/
structure History where
  records : List Record
  store : Store

namespace History

/-- Nothing created, and nothing stored. -/
def empty : History := ⟨[], .empty⟩

/-- The history with one more creation. -/
def extend (h : History) (limit : Nat) (c : Creation) : History :=
  ⟨h.records ++ [(c.run limit h.store).1], (c.run limit h.store).2⟩

/-- The history of creations one after another. -/
def of (limit : Nat) (creations : List Creation) : History :=
  creations.foldl (fun h c => h.extend limit c) empty

@[simp] theorem of_nil (limit : Nat) : of limit [] = empty := rfl

theorem of_concat (limit : Nat) (creations : List Creation) (c : Creation) :
    of limit (creations ++ [c]) = (of limit creations).extend limit c := by
  simp [of]

/-- The history of creations on a store in which something may be stored before. -/
def resume (limit : Nat) (s : Store) (creations : List Creation) : History :=
  creations.foldl (fun h c => h.extend limit c) ⟨[], s⟩

@[simp] theorem resume_nil (limit : Nat) (s : Store) : resume limit s [] = ⟨[], s⟩ := rfl

theorem resume_concat (limit : Nat) (s : Store) (creations : List Creation) (c : Creation) :
    resume limit s (creations ++ [c]) = (resume limit s creations).extend limit c := by
  simp [resume]

/-- Later creations go on from the store of the earlier ones. -/
theorem resume_append (limit : Nat) (s : Store) (earlier creations : List Creation) :
    resume limit s (earlier ++ creations) =
      let resumed := resume limit (resume limit s earlier).store creations
      ⟨(resume limit s earlier).records ++ resumed.records, resumed.store⟩ := by
  induction creations using List.reverseRecOn with
  | nil => simp
  | append_singleton creations c ih =>
    rw [← List.append_assoc, resume_concat, ih, resume_concat]
    simp [extend]

theorem resume_cons (limit : Nat) (s : Store) (c : Creation) (creations : List Creation) :
    resume limit s (c :: creations) =
      let resumed := resume limit (c.run limit s).2 creations
      ⟨(c.run limit s).1 :: resumed.records, resumed.store⟩ :=
  resume_append limit s [c] creations

theorem of_append (limit : Nat) (earlier creations : List Creation) :
    of limit (earlier ++ creations) =
      let resumed := resume limit (of limit earlier).store creations
      ⟨(of limit earlier).records ++ resumed.records, resumed.store⟩ :=
  resume_append limit .empty earlier creations

theorem numbered_empty : empty.store.Numbered := by
  refine ⟨?_, ?_, ?_⟩ <;> simp [empty, Store.empty, Store.Keyed]

theorem numbered_of (limit : Nat) (creations : List Creation) :
    (of limit creations).store.Numbered := by
  induction creations using List.reverseRecOn with
  | nil => exact numbered_empty
  | append_singleton creations c ih =>
    rw [of_concat]
    exact (c.run_creates limit ih).numbered ih

/-- What holds before any creation and is kept by each holds of every history. -/
theorem induction {limit : Nat} {P : List Creation → History → Prop} (hempty : P [] empty)
    (hextend : ∀ creations c record s', P creations (of limit creations) →
      Service.Creates c.faults.Lossy limit c.matcher c.content (of limit creations).store
        record.calls record.result s' →
      P (creations ++ [c]) ⟨(of limit creations).records ++ [record], s'⟩)
    (creations : List Creation) : P creations (of limit creations) := by
  induction creations using List.reverseRecOn with
  | nil => exact hempty
  | append_singleton creations c ih =>
    rw [of_concat]
    exact hextend creations c _ _ ih (c.run_creates limit (numbered_of limit creations))

end History

end NearDup
