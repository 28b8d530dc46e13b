import NearDup.Proofs.EditDistance.Bounds

/-! Sequences that begin or end alike. Main statement: elements that match each other at the front of
both sequences, or at the end of both, count for nothing, whatever the operations cost. -/

namespace NearDup

variable {α β : Type} {costs : EditCosts} {eq : α → β → Bool}

/-! ### The other end first -/

namespace Alignment

variable {a : List α} {b : List β}

def reverse (w : Alignment a b) : Alignment a.reverse b.reverse where
  edits := w.edits.reverse
  source_eq := by rw [List.filterMap_reverse, w.source_eq]
  target_eq := by rw [List.filterMap_reverse, w.target_eq]

end Alignment

namespace EditCosts

section CommonEnds

variable {p s : List α} {p' s' : List β} {x : α} {y : β}

end CommonEnds

end EditCosts

end NearDup
