import NearDup.Proofs.Storage.Semantics

/-! Programs whose calls a store performs wherever it can be reached. Main statement: the calls of
such a program that fail are those that are lost. -/

namespace NearDup

/-- The error of a call that failed. -/
def Exchange.error? (x : Exchange) : Option Error :=
  match x.reply with
  | .ok _ => none
  | .error e => some e

namespace Program

variable {α β : Type} {limit : Nat}

/-- Whether a store performs each call of a program that is not lost, whichever are lost. -/
def Performable (limit : Nat) : Program α → Store → Prop
  | .done _, _ => True
  | .call c next, s => ∃ reply s', s.perform limit c = .ok (reply, s') ∧
      (next (.ok reply)).Performable limit s' ∧ ∀ e, (next (.error e)).Performable limit s

theorem Performable.ask_bind {m : Method} {c : Call m} {f : Except Error m.Reply → Program β}
    {s s' : Store} {reply : m.Reply} (hperform : s.perform limit c = .ok (reply, s'))
    (hok : (f (.ok reply)).Performable limit s') (herror : ∀ e, (f (.error e)).Performable limit s) :
    ((ask c).bind f).Performable limit s :=
  ⟨reply, s', hperform, hok, herror⟩

theorem Performable.bind {p : Program α} {f : α → Program β} {s : Store}
    (hp : p.Performable limit s)
    (hf : ∀ calls a s', p.Runs True limit s calls a s' → (f a).Performable limit s') :
    (p.bind f).Performable limit s := by
  induction p generalizing s with
  | done a => exact hf [] a s (.done a s)
  | call c next ih =>
    obtain ⟨reply, s', hperform, hok, herror⟩ := hp
    refine ⟨reply, s', hperform, ih _ hok fun calls a s'' hruns => ?_,
      fun e => ih _ (herror e) fun calls a s'' hruns => ?_⟩
    · exact hf _ a s'' (.call (.answered hperform) hruns)
    · exact hf _ a s'' (.call (.lost trivial e) hruns)

/-- The first of the calls that are still made stands after those that were made before. -/
theorem getElem?_calls_run (faults : Faults) {m : Method} {c : Call m}
    {next : Except Error m.Reply → Program α} {t : Transcript} {n : Nat} {x : Exchange}
    (hx : ((call c next).run (faults.handle limit) t).2.calls[n]? = some x)
    (hn : t.calls.length ≤ n) :
    (n = t.calls.length ∧ x = ⟨c, (faults.handle limit c t).1⟩) ∨
      (faults.handle limit c t).2.calls.length ≤ n := by
  obtain ⟨rest, hcalls, -⟩ := runs_of_run faults limit (next (faults.handle limit c t).1)
    (faults.handle limit c t).2
  rcases Nat.eq_or_lt_of_le hn with rfl | hn
  · rw [run, hcalls] at hx
    simp only [Faults.handle, List.append_assoc, List.getElem?_append_right (Nat.le_refl _),
      Nat.sub_self] at hx
    exact .inl ⟨rfl, (Option.some.inj hx).symm⟩
  · have hlength : (faults.handle limit c t).2.calls.length = t.calls.length + 1 := by
      simp [Faults.handle]
    exact .inr (hlength ▸ hn)

/-- The calls that fail are those that are lost. -/
theorem Performable.error?_eq (faults : Faults) {p : Program α} {t : Transcript}
    (hp : p.Performable limit t.store) {n : Nat} {x : Exchange}
    (hx : (p.run (faults.handle limit) t).2.calls[n]? = some x) (hn : t.calls.length ≤ n) :
    x.error? = faults n := by
  induction p generalizing t with
  | done a => simp [List.getElem?_eq_none hn] at hx
  | @call m c next ih =>
    obtain ⟨reply, s', hperform, hok, herror⟩ := hp
    have hfirst := getElem?_calls_run faults hx hn
    rw [run] at hx
    cases hfault : faults t.calls.length with
    | some e =>
      have hhandle : faults.handle limit c t = (.error e, ⟨t.store, t.calls ++ [⟨c, .error e⟩]⟩) := by
        simp only [Faults.handle, Store.attempt, hfault]
      rw [hhandle] at hx hfirst
      rcases hfirst with ⟨rfl, rfl⟩ | hn
      · exact hfault.symm
      · exact ih _ (t := ⟨t.store, t.calls ++ [⟨c, .error e⟩]⟩) (herror e) hx hn
    | none =>
      have hhandle : faults.handle limit c t = (.ok reply, ⟨s', t.calls ++ [⟨c, .ok reply⟩]⟩) := by
        simp only [Faults.handle, Store.attempt, hfault, hperform]
      rw [hhandle] at hx hfirst
      rcases hfirst with ⟨rfl, rfl⟩ | hn
      · exact hfault.symm
      · exact ih _ hok hx hn

end Program

end NearDup
