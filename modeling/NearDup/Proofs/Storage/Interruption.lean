import NearDup.Proofs.Storage.Semantics

/-! Programs that have made some of their calls. Main statement: the store that a program has come
to by then is the one that it would leave if all its further calls were lost. -/

namespace NearDup

/-- The same calls are lost among the first `n`, and all after them. -/
def Faults.cut (faults : Faults) (n : Nat) : Faults := fun k =>
  if k < n then faults k else some (.storage (.other "interrupted"))

/-- The answer to a call that is made at its turn, and the transcript with it. -/
theorem Faults.handle_eq (faults : Faults) (limit : Nat) {m : Method} (c : Call m)
    (t : Transcript) : faults.handle limit c t =
      ((t.store.attempt limit (faults t.calls.length) c).1,
        ⟨(t.store.attempt limit (faults t.calls.length) c).2,
          t.calls ++ [⟨c, (t.store.attempt limit (faults t.calls.length) c).1⟩]⟩) := rfl

theorem Faults.handle_cut {faults : Faults} {n : Nat} {t : Transcript} (limit : Nat) {m : Method}
    (c : Call m) (h : t.calls.length < n) :
    (faults.cut n).handle limit c t = faults.handle limit c t := by
  simp only [handle_eq, cut, if_pos h]

namespace Program

variable {α : Type} {faults : Faults} {limit : Nat} {p p' : Program α} {t t' : Transcript}

/-- A program comes to the rest of it by making calls. -/
inductive Leads (faults : Faults) (limit : Nat) (p : Program α) (t : Transcript) :
    Program α → Transcript → Prop where
  | refl : Leads faults limit p t p t
  | call {m : Method} {c : Call m} {next t'} (h : Leads faults limit p t (.call c next) t') :
      Leads faults limit p t (next (faults.handle limit c t').1) (faults.handle limit c t').2

theorem Leads.run_eq (h : p.Leads faults limit t p' t') :
    p.run (faults.handle limit) t = p'.run (faults.handle limit) t' := by
  induction h with
  | refl => rfl
  | call _ ih => exact ih

/-- Calls that come after the last one made do not matter. -/
theorem Leads.cut {n : Nat} (h : p.Leads faults limit t p' t') (hn : t'.calls.length ≤ n) :
    p.Leads (faults.cut n) limit t p' t' := by
  induction h with
  | refl => exact .refl
  | @call m c next t' _ ih =>
    have hlt : t'.calls.length < n := Nat.lt_of_succ_le (by simpa [Faults.handle_eq] using hn)
    rw [← Faults.handle_cut limit c hlt]
    exact .call (ih (Nat.le_of_lt hlt))

/-- Where all calls are lost, a program leaves the store as it is. -/
theorem store_run_cut {n : Nat} (p : Program α) (t : Transcript) (h : n ≤ t.calls.length) :
    (p.run ((faults.cut n).handle limit) t).2.store = t.store := by
  induction p generalizing t with
  | done a => rfl
  | call c next ih =>
    have hlost : faults.cut n t.calls.length = some (.storage (.other "interrupted")) :=
      if_neg (Nat.not_lt.mpr h)
    rw [run, ih _ _ (by simpa [Faults.handle_eq] using Nat.le_succ_of_le h)]
    simp only [Faults.handle_eq, hlost]
    rfl

theorem Leads.store_eq (h : p.Leads faults limit t p' t') :
    (p.run ((faults.cut t'.calls.length).handle limit) t).2.store = t'.store := by
  rw [(h.cut (Nat.le_refl _)).run_eq]
  exact p'.store_run_cut t' (Nat.le_refl _)

end Program

end NearDup
