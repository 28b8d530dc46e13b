import Mathlib.Data.List.Basic
import Mathlib.Data.List.Forall2
import NearDup.Proofs.Creation.ClosedForm

/-! The same contents judged twice, once more strictly. Main statement: by the stricter judgement no
article loses its uniqueness, no fewer groups are founded, and every article lists a part of what it
lists by the other. -/

namespace NearDup

/-- An article that was judged more strictly than another one of the same number and content. -/
structure Article.Refines (a b : Article) : Prop where
  id_eq : a.id = b.id
  content_eq : a.content = b.content
  isUnique : b.isUnique = true → a.isUnique = true
  duplicateIds : a.duplicateIds.Sublist b.duplicateIds

/-- A store of the same articles as another one, each judged more strictly. -/
structure Store.Refines (s t : Store) : Prop where
  articles : List.Forall₂ Article.Refines s.articles.values t.articles.values
  groupCounter_le : t.groupCounter ≤ s.groupCounter

namespace Feed

/-- Whether two feeds differ only in that what matches by the first also matches by the second. -/
structure Stricter (f g : Feed) : Prop where
  limit_eq : f.limit = g.limit
  content_eq : f.content = g.content
  similar : ∀ a c b d, f.similar a c b d = true → g.similar a c b d = true

namespace Stricter

variable {f g : Feed} {n id other : Nat}

theorem isMatch (h : f.Stricter g) (hmatch : f.isMatch id other = true) :
    g.isMatch id other = true := by
  rw [Feed.isMatch, ← h.content_eq]
  exact h.similar _ _ _ _ hmatch

theorem earlier (h : f.Stricter g) (id : ArticleId) : (f.earlier id).Sublist (g.earlier id) := by
  refine List.monotone_filter_right _ fun other hother => ?_
  rw [Bool.and_eq_true] at hother ⊢
  exact ⟨h.isMatch hother.1, h.limit_eq ▸ hother.2⟩

theorem later (h : f.Stricter g) (n : Nat) (id : ArticleId) :
    (f.later n id).Sublist (g.later n id) :=
  List.monotone_filter_right _ fun _ hother => h.isMatch hother

theorem isFounder (h : f.Stricter g) (hfounder : g.isFounder id = true) : f.isFounder id = true := by
  rw [Feed.isFounder, List.isEmpty_iff] at hfounder ⊢
  exact List.sublist_nil.mp (hfounder ▸ h.earlier id)

theorem founders_le (h : f.Stricter g) (n : Nat) : g.founders n ≤ f.founders n :=
  (List.monotone_filter_right _ fun _ hfounder => h.isFounder hfounder).length_le

/-- A founder by the stricter judgement lists nothing by it; any other article founds a group by
neither, and is linked back by both. -/
theorem duplicateIds (h : f.Stricter g) (n : Nat) (id : ArticleId) :
    (f.duplicateIds n id).Sublist (g.duplicateIds n id) := by
  have hearlier : (f.earlier id).Sublist (g.duplicateIds n id) := by
    rw [Feed.duplicateIds]
    split
    · exact h.earlier id
    · exact (h.earlier id).trans (List.sublist_append_left _ _)
  rw [Feed.duplicateIds]
  split <;> rename_i hlinked
  · exact hearlier
  · have hlinked' : ¬ (g.isFounder id = true ∨ g.limit < id) := fun hnot =>
      hlinked (hnot.imp h.isFounder fun hlimit => h.limit_eq ▸ hlimit)
    rw [Feed.duplicateIds, if_neg hlinked']
    exact (h.earlier id).append (h.later n id)

theorem article (h : f.Stricter g) (n : Nat) (id : ArticleId) :
    (f.article n id).Refines (g.article n id) where
  id_eq := rfl
  content_eq := congrFun h.content_eq id
  isUnique := h.isFounder
  duplicateIds := h.duplicateIds n id

theorem refines (h : f.Stricter g) (n : Nat) : (f.store n).Refines (g.store n) where
  articles := by
    rw [values_store, values_store, List.forall₂_map_left_iff, List.forall₂_map_right_iff]
    exact List.forall₂_same.mpr fun id _ => h.article n id
  groupCounter_le := h.founders_le n

end Stricter

/-- Contents that are created in order over an empty store without failures, once by a judgement
that is stricter than the other: every article that is unique by the other is unique by it, no fewer
groups are founded, and what is stored as the duplicates of an article is a part of what the other
leaves. -/
theorem refines_ofContents (limit : Nat) (strict loose : ArticleId → String → ArticleId → String → Bool)
    (contents : List String) (h : ∀ a c b d, strict a c b d = true → loose a c b d = true) :
    let run (similar : ArticleId → String → ArticleId → String → Bool) :=
      History.of limit (contents.map fun content =>
        ⟨content, fun a c b d => some (similar a c b d), Faults.none⟩)
    (run strict).store.Refines (run loose).store := by
  intro run
  have hstore : ∀ similar,
      (run similar).store = (ofContents limit similar contents).store contents.length :=
    fun similar => (history_ofContents limit similar contents).2
  have hstricter : (ofContents limit strict contents).Stricter (ofContents limit loose contents) :=
    ⟨rfl, rfl, h⟩
  rw [hstore, hstore]
  exact hstricter.refines contents.length

/-- Contents that match if they are equal, or else if they have the same length. The third article
founds a group by the first judgement alone, and so is not linked to the fifth. -/
theorem refines_ofContents_length :
    let equal (_ : ArticleId) (c : String) (_ : ArticleId) (d : String) := c == d
    let long (_ : ArticleId) (c : String) (_ : ArticleId) (d : String) := c.length == d.length
    let run (similar : ArticleId → String → ArticleId → String → Bool) :=
      History.of 4 (["a", "bc", "b", "a", "b"].map fun content =>
        ⟨content, fun a c b d => some (similar a c b d), Faults.none⟩)
    (run equal).store.articles.values.map (·.duplicateIds) = [[], [], [], [1], [3]] ∧
      (run long).store.articles.values.map (·.duplicateIds) =
        [[], [], [1, 4, 5], [1, 3, 5], [1, 3, 4]] ∧
      (run equal).store.groupCounter = 3 ∧ (run long).store.groupCounter = 2 ∧
      (run equal).store.Refines (run long).store := by
  refine ⟨by decide, by decide, by decide, by decide, refines_ofContents 4 _ _ _ ?_⟩
  intro _ c _ d hequal
  rw [eq_of_beq hequal]
  exact BEq.rfl

end Feed

end NearDup
