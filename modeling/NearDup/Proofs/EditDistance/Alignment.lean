import Mathlib.Algebra.GroupWithZero.Nat
import Mathlib.Order.Bounds.Basic
import Mathlib.Order.MinMax
import NearDup.EditDistance

/-! Alignments of two sequences and what they cost. An alignment is written as its columns, each
with an element of the first sequence, of the second one, or of both. Main statement: the least
cost for two sequences follows from the least costs for those without their last elements. -/

namespace NearDup

/-- A column of an alignment. -/
inductive Edit (α β : Type)
  | delete (x : α)
  | insert (y : β)
  | pair (x : α) (y : β)

namespace Edit

variable {α β : Type}

def source? : Edit α β → Option α
  | .delete x => some x
  | .insert _ => none
  | .pair x _ => some x

def target? : Edit α β → Option β
  | .delete _ => none
  | .insert y => some y
  | .pair _ y => some y

/-- A pair costs nothing if its elements match. -/
def cost (costs : EditCosts) (eq : α → β → Bool) : Edit α β → Nat
  | .delete _ => costs.delete
  | .insert _ => costs.insert
  | .pair x y => if eq x y then 0 else costs.replace

/-- The column of the way back. -/
def flip : Edit α β → Edit β α
  | .delete x => .insert x
  | .insert y => .delete y
  | .pair x y => .pair y x

@[simp] theorem source?_flip (e : Edit α β) : e.flip.source? = e.target? := by
  cases e <;> rfl

@[simp] theorem target?_flip (e : Edit α β) : e.flip.target? = e.source? := by
  cases e <;> rfl

@[simp] theorem cost_flip (costs : EditCosts) (eq : α → β → Bool) (e : Edit α β) :
    e.flip.cost costs.flip (fun y x => eq x y) = e.cost costs eq := by
  cases e <;> rfl

end Edit

/-- An alignment of two sequences: columns that spell the one and the other, in order. -/
structure Alignment {α β : Type} (a : List α) (b : List β) where
  edits : List (Edit α β)
  source_eq : edits.filterMap Edit.source? = a
  target_eq : edits.filterMap Edit.target? = b

namespace Alignment

variable {α β : Type} {a : List α} {b : List β}

def cost (costs : EditCosts) (eq : α → β → Bool) (w : Alignment a b) : Nat :=
  (w.edits.map (Edit.cost costs eq)).sum

def empty : Alignment ([] : List α) ([] : List β) := ⟨[], rfl, rfl⟩

/-- The alignment of the way back. -/
def flip (w : Alignment a b) : Alignment b a where
  edits := w.edits.map Edit.flip
  source_eq := by simpa [List.filterMap_map, Function.comp_def] using w.target_eq
  target_eq := by simpa [List.filterMap_map, Function.comp_def] using w.source_eq

variable (costs : EditCosts) (eq : α → β → Bool)

/-- An alignment with one more column. -/
theorem exists_concat {a' : List α} {b' : List β} (w : Alignment a b) (e : Edit α β)
    (ha : a ++ e.source?.toList = a') (hb : b ++ e.target?.toList = b') :
    ∃ w' : Alignment a' b', w'.cost costs eq = w.cost costs eq + e.cost costs eq := by
  refine ⟨⟨w.edits ++ [e], ?_, ?_⟩, by simp [cost]⟩
  · rw [List.filterMap_append, w.source_eq, ← ha]
    cases e <;> rfl
  · rw [List.filterMap_append, w.target_eq, ← hb]
    cases e <;> rfl

@[simp] theorem cost_flip (w : Alignment a b) :
    w.flip.cost costs.flip (fun y x => eq x y) = w.cost costs eq := by
  simp [cost, flip, Function.comp_def]

/-- An alignment has no column, or a last one. -/
theorem eq_nil_or_concat (w : Alignment a b) :
    (a = [] ∧ b = []) ∨ ∃ (a' : List α) (b' : List β) (w' : Alignment a' b') (e : Edit α β),
      a = a' ++ e.source?.toList ∧ b = b' ++ e.target?.toList ∧
        w.cost costs eq = w'.cost costs eq + e.cost costs eq := by
  obtain ⟨edits, rfl, rfl⟩ := w
  rcases List.eq_nil_or_concat edits with rfl | ⟨init, e, rfl⟩
  · exact .inl ⟨rfl, rfl⟩
  · refine .inr ⟨_, _, ⟨init, rfl, rfl⟩, e, ?_, ?_, ?_⟩
    · cases e <;> simp [Edit.source?]
    · cases e <;> simp [Edit.target?]
    · simp [cost]

end Alignment

namespace EditCosts

variable {α β : Type} (costs : EditCosts) (eq : α → β → Bool)

/-- Whether `n` is the least cost of an alignment of `a` with `b`. -/
def Optimal (a : List α) (b : List β) (n : Nat) : Prop :=
  IsLeast (Set.range (Alignment.cost costs eq : Alignment a b → Nat)) n

variable {costs eq} {a : List α} {b : List β} {x : α} {y : β} {m n : Nat}

theorem Optimal.attained (h : costs.Optimal eq a b n) :
    ∃ w : Alignment a b, w.cost costs eq = n :=
  h.1

theorem Optimal.le (h : costs.Optimal eq a b n) (w : Alignment a b) : n ≤ w.cost costs eq :=
  h.2 ⟨w, rfl⟩

/-- The least cost for sequences that are not both empty, by what the last column may be. -/
theorem optimal_of_last (hne : ¬ (a = [] ∧ b = [])) (hmem : ∃ w : Alignment a b, w.cost costs eq = n)
    (hle : ∀ (a' : List α) (b' : List β) (w' : Alignment a' b') (e : Edit α β),
      a = a' ++ e.source?.toList → b = b' ++ e.target?.toList →
        n ≤ w'.cost costs eq + e.cost costs eq) : costs.Optimal eq a b n := by
  refine ⟨hmem, ?_⟩
  rintro _ ⟨w, rfl⟩
  rcases w.eq_nil_or_concat costs eq with hnil | ⟨a', b', w', e, ha, hb, hcost⟩
  · exact absurd hnil hne
  · rw [hcost]
    exact hle a' b' w' e ha hb

theorem optimal_nil_nil : costs.Optimal eq ([] : List α) ([] : List β) 0 :=
  ⟨⟨.empty, rfl⟩, fun _ _ => Nat.zero_le _⟩

theorem Optimal.concat_nil (h : costs.Optimal eq a [] n) (x : α) :
    costs.Optimal eq (a ++ [x]) [] (n + costs.delete) := by
  obtain ⟨w, hw⟩ := h.attained
  refine optimal_of_last (by simp) (hw ▸ w.exists_concat costs eq (.delete x) rfl rfl) ?_
  intro a' b' w' e ha hb
  cases e with
  | delete x' =>
    obtain ⟨rfl, rfl⟩ := List.append_singleton_inj.mp ha
    obtain rfl : b' = [] := by simpa [Edit.target?] using hb.symm
    exact Nat.add_le_add_right (h.le w') _
  | insert y => simp [Edit.target?] at hb
  | pair x' y => simp [Edit.target?] at hb

theorem Optimal.nil_concat (h : costs.Optimal eq [] b n) (y : β) :
    costs.Optimal eq [] (b ++ [y]) (n + costs.insert) := by
  obtain ⟨w, hw⟩ := h.attained
  refine optimal_of_last (by simp) (hw ▸ w.exists_concat costs eq (.insert y) rfl rfl) ?_
  intro a' b' w' e ha hb
  cases e with
  | delete x => simp [Edit.source?] at ha
  | insert y' =>
    obtain ⟨rfl, rfl⟩ := List.append_singleton_inj.mp hb
    obtain rfl : a' = [] := by simpa [Edit.source?] using ha.symm
    exact Nat.add_le_add_right (h.le w') _
  | pair x y' => simp [Edit.source?] at ha

/-- The last elements are deleted, inserted or paired, after an alignment of what is before them. -/
theorem Optimal.concat_concat {above left diagonal : Nat} (x : α) (y : β)
    (habove : costs.Optimal eq a (b ++ [y]) above) (hleft : costs.Optimal eq (a ++ [x]) b left)
    (hdiagonal : costs.Optimal eq a b diagonal) :
    costs.Optimal eq (a ++ [x]) (b ++ [y]) (min (min (above + costs.delete) (left + costs.insert))
      (diagonal + (Edit.pair x y).cost costs eq)) := by
  refine optimal_of_last (by simp) ?_ ?_
  · obtain ⟨wa, ha⟩ := habove.attained
    obtain ⟨wl, hl⟩ := hleft.attained
    obtain ⟨wd, hd⟩ := hdiagonal.attained
    rcases min_choice (min (above + costs.delete) (left + costs.insert))
      (diagonal + (Edit.pair x y).cost costs eq) with h | h
    · rw [h]
      rcases min_choice (above + costs.delete) (left + costs.insert) with h' | h'
      · rw [h', ← ha]
        exact wa.exists_concat costs eq (.delete x) rfl (List.append_nil _)
      · rw [h', ← hl]
        exact wl.exists_concat costs eq (.insert y) (List.append_nil _) rfl
    · rw [h, ← hd]
      exact wd.exists_concat costs eq (.pair x y) rfl rfl
  · intro a' b' w' e ha hb
    cases e with
    | delete x' =>
      obtain ⟨rfl, rfl⟩ := List.append_singleton_inj.mp ha
      obtain rfl : b ++ [y] = b' := by simpa [Edit.target?] using hb
      have := habove.le w'
      simp only [Edit.cost]
      omega
    | insert y' =>
      obtain ⟨rfl, rfl⟩ := List.append_singleton_inj.mp hb
      obtain rfl : a ++ [x] = a' := by simpa [Edit.source?] using ha
      have := hleft.le w'
      simp only [Edit.cost]
      omega
    | pair x' y' =>
      obtain ⟨rfl, rfl⟩ := List.append_singleton_inj.mp ha
      obtain ⟨rfl, rfl⟩ := List.append_singleton_inj.mp hb
      have := hdiagonal.le w'
      omega

end EditCosts

end NearDup
