import NearDup.Storage.Call

/-! Programs over a storage, as the trees of what they do after each answer. Whoever runs a program
decides how its calls are answered and when. -/

namespace NearDup

/-- A program that ends with a value: at once, or after a call, depending on the answer. -/
inductive Program (α : Type) : Type
  | done (a : α)
  | call {m : Method} (c : Call m) (next : Except Error m.Reply → Program α)

namespace Program

variable {α β σ : Type}

def bind : Program α → (α → Program β) → Program β
  | .done a, f => f a
  | .call c next, f => .call c fun reply => (next reply).bind f

instance : Monad Program where
  pure := .done
  bind := bind

/-- The program that makes one call and ends with the answer. -/
def ask {m : Method} (c : Call m) : Program (Except Error m.Reply) :=
  .call c .done

/-- A way of answering calls: the answer, and the state after it. -/
abbrev Handler (σ : Type) := {m : Method} → Call m → σ → Except Error m.Reply × σ

/-- Runs a program to its end. -/
def run (handle : Handler σ) : Program α → σ → α × σ
  | .done a, s => (a, s)
  | .call c next, s => (next (handle c s).1).run handle (handle c s).2

@[simp] theorem run_done (handle : Handler σ) (a : α) (s : σ) :
    (done a).run handle s = (a, s) := rfl

theorem run_bind (handle : Handler σ) (p : Program α) (f : α → Program β) (s : σ) :
    (p.bind f).run handle s = (f (p.run handle s).1).run handle (p.run handle s).2 := by
  induction p generalizing s with
  | done a => rfl
  | call c next ih => exact ih _ _

end Program

end NearDup
