import Mathlib.Data.List.Forall2
import Mathlib.Data.List.Induction
import NearDup.Proofs.EditDistance.Alignment

/-! The table of distances, of which only one row is kept at a time. Main statement: the distance of
two sequences is the least cost of an alignment of the one with the other, whichever of them is the
longer one. -/

namespace NearDup

namespace EditCosts

variable {α β : Type} {costs : EditCosts} {eq : α → β → Bool} {a : List α} {b : List β}

/-- Whether the cells of a row hold the least costs of turning `a` into `done` with the first of
`columns`, with the first two of them, and so on. -/
inductive OptimalCells (costs : EditCosts) (eq : α → β → Bool) (a : List α) :
    (done columns : List β) → List Nat → Prop where
  | nil (done) : OptimalCells costs eq a done [] []
  | cons {done y columns n cells} (hn : costs.Optimal eq a (done ++ [y]) n)
      (hcells : OptimalCells costs eq a (done ++ [y]) columns cells) :
      OptimalCells costs eq a done (y :: columns) (n :: cells)

/-- Whether a row holds the least costs of turning `a` into the heads of `columns`. -/
def OptimalRow (costs : EditCosts) (eq : α → β → Bool) (a : List α) (columns : List β) :
    List Nat → Prop
  | [] => False
  | first :: cells => costs.Optimal eq a [] first ∧ OptimalCells costs eq a [] columns cells

/-! ### The first row -/

theorem optimalCells_range' {done columns : List β}
    (h : costs.Optimal eq ([] : List α) done (done.length * costs.insert)) :
    OptimalCells costs eq [] done columns
      ((List.range' (done.length + 1) columns.length).map (· * costs.insert)) := by
  induction columns generalizing done with
  | nil => exact .nil done
  | cons y columns ih =>
    have hy : costs.Optimal eq [] (done ++ [y]) ((done.length + 1) * costs.insert) := by
      rw [Nat.succ_mul]
      exact h.nil_concat y
    rw [List.length_cons, List.range'_succ, List.map_cons]
    refine .cons hy ?_
    have hcells := @ih (done ++ [y]) (by simpa using hy)
    simpa using hcells

theorem optimalRow_firstRow (columns : List β) :
    OptimalRow costs eq [] columns (costs.firstRow columns.length) := by
  rw [firstRow, List.range_eq_range', List.range'_succ, List.map_cons]
  refine ⟨by simpa using optimal_nil_nil, ?_⟩
  have hcells : OptimalCells costs eq [] [] columns
      ((List.range' 1 columns.length).map (· * costs.insert)) :=
    optimalCells_range' (by simpa using optimal_nil_nil)
  simpa using hcells

/-! ### The next row -/

/-- The cells of a row follow from those of the row above, from left to right. -/
theorem OptimalCells.cellsFrom {done columns : List β} {row : List Nat} {diagonal left : Nat}
    (x : α) (h : OptimalCells costs eq a done columns row)
    (hdiagonal : costs.Optimal eq a done diagonal) (hleft : costs.Optimal eq (a ++ [x]) done left) :
    OptimalCells costs eq (a ++ [x]) done columns
      (costs.cellsFrom (eq x) columns diagonal left row) := by
  induction h generalizing diagonal left with
  | nil done => exact .nil done
  | @cons done y columns above row habove _ ih =>
    have hcell := habove.concat_concat x y hleft hdiagonal
    have hreplaced : diagonal + (Edit.pair x y).cost costs eq =
        if eq x y then diagonal else diagonal + costs.replace := by
      simp only [Edit.cost]
      split <;> rfl
    rw [hreplaced] at hcell
    exact .cons hcell (ih habove hcell)

theorem OptimalRow.nextRow {columns : List β} {row : List Nat}
    (h : OptimalRow costs eq a columns row) (x : α) :
    OptimalRow costs eq (a ++ [x]) columns (costs.nextRow (eq x) columns row) := by
  cases row with
  | nil => exact h
  | cons first cells =>
    obtain ⟨hfirst, hcells⟩ := h
    exact ⟨hfirst.concat_nil x, hcells.cellsFrom x hfirst (hfirst.concat_nil x)⟩

theorem OptimalRow.foldl {columns : List β} {row : List Nat}
    (h : OptimalRow costs eq a columns row) (rows : List α) :
    OptimalRow costs eq (a ++ rows) columns
      (rows.foldl (fun row x => costs.nextRow (eq x) columns row) row) := by
  induction rows generalizing a row with
  | nil => simpa using h
  | cons x rows ih => simpa using ih (h.nextRow x)

theorem optimalRow_lastRow (rows : List α) (columns : List β) :
    OptimalRow costs eq rows columns (costs.lastRow eq rows columns) :=
  (optimalRow_firstRow columns).foldl rows

/-! ### The last cell -/

theorem OptimalCells.getLastD {done columns : List β} {cells : List Nat} {n : Nat}
    (h : OptimalCells costs eq a done columns cells) (hn : costs.Optimal eq a done n) :
    costs.Optimal eq a (done ++ columns) (cells.getLastD n) := by
  induction h generalizing n with
  | nil done => simpa using hn
  | @cons done y columns m cells hy _ ih =>
    rw [List.getLastD_cons, List.append_cons]
    exact ih hy

theorem optimal_tableDistance (rows : List α) (columns : List β) :
    costs.Optimal eq rows columns (costs.tableDistance eq rows columns) := by
  have h : OptimalRow costs eq rows columns (costs.lastRow eq rows columns) :=
    optimalRow_lastRow rows columns
  rw [tableDistance]
  cases hrow : costs.lastRow eq rows columns with
  | nil => simp [hrow, OptimalRow] at h
  | cons first cells =>
    rw [hrow] at h
    rw [List.getLastD_cons]
    exact h.2.getLastD h.1

/-! ### The distance -/

theorem optimal_nil_right (a : List α) :
    costs.Optimal eq a ([] : List β) (costs.delete * a.length) := by
  induction a using List.reverseRecOn with
  | nil => exact optimal_nil_nil
  | append_singleton a x ih =>
    rw [List.length_append, List.length_singleton, Nat.mul_succ]
    exact ih.concat_nil x

theorem optimal_nil_left (b : List β) :
    costs.Optimal eq ([] : List α) b (costs.insert * b.length) := by
  induction b using List.reverseRecOn with
  | nil => exact optimal_nil_nil
  | append_singleton b y ih =>
    rw [List.length_append, List.length_singleton, Nat.mul_succ]
    exact ih.nil_concat y

/-- An alignment of the way back costs the same where deletions and insertions are exchanged. -/
theorem Optimal.of_flip {n : Nat} (h : costs.flip.Optimal (fun y x => eq x y) b a n) :
    costs.Optimal eq a b n := by
  refine ⟨?_, ?_⟩
  · obtain ⟨w, rfl⟩ := h.attained
    exact ⟨w.flip, w.cost_flip costs.flip fun y x => eq x y⟩
  · rintro _ ⟨w, rfl⟩
    rw [← w.cost_flip]
    exact h.le w.flip

theorem optimal_distanceBy (a : List α) (b : List β) :
    costs.Optimal eq a b (costs.distanceBy eq a b) := by
  unfold distanceBy
  split
  · exact optimal_nil_nil
  · exact optimal_nil_left b
  · exact optimal_nil_right a
  · split
    · exact (optimal_tableDistance b a).of_flip
    · exact optimal_tableDistance a b

/-- The distance is the cost of some alignment, and none costs less. -/
theorem isLeast_distanceBy (costs : EditCosts) (eq : α → β → Bool) (a : List α) (b : List β) :
    IsLeast (Set.range fun w : Alignment a b => w.cost costs eq) (costs.distanceBy eq a b) :=
  optimal_distanceBy a b

/-! ### Equal sequences -/

/-- Sequences that match element by element are aligned at no cost. -/
theorem optimal_of_forall₂ (h : List.Forall₂ (fun x y => eq x y = true) a b) :
    costs.Optimal eq a b 0 := by
  refine ⟨?_, fun _ _ => Nat.zero_le _⟩
  induction h with
  | nil => exact ⟨.empty, rfl⟩
  | @cons x y a b hxy _ ih =>
    obtain ⟨⟨edits, rfl, rfl⟩, hcost⟩ := ih
    refine ⟨⟨.pair x y :: edits, rfl, rfl⟩, ?_⟩
    simpa [Alignment.cost, Edit.cost, hxy] using hcost

theorem distanceBy_eq_zero (h : List.Forall₂ (fun x y => eq x y = true) a b) :
    costs.distanceBy eq a b = 0 :=
  (optimal_distanceBy a b).unique (optimal_of_forall₂ h)

/-- A sequence is as near to itself as can be. -/
theorem similarity_self [BEq α] [ReflBEq α] (costs : EditCosts) (a : List α) :
    costs.similarity a a = 1.0 := by
  have hdistance : costs.distanceBy (· == ·) a a = 0 :=
    distanceBy_eq_zero (List.forall₂_same.mpr fun x _ => BEq.rfl)
  simp only [similarity, similarityBy, hdistance]

end EditCosts

end NearDup
