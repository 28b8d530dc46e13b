import NearDup.Proofs.Creation.History

/-! The lists of duplicates after any history. Main statements: a list is ascending and names other
stored articles, it is empty exactly if the article is unique, and a link back to an earlier article
always answers a link from it. Unless a call failed after the article was stored, every link to an
earlier article that is not unique is also answered. -/

namespace NearDup

namespace Store

/-- The lists of duplicates in a store are sound. An article that lists a later one is listed by
it. -/
structure Linked (s : Store) : Prop where
  unique_iff : ∀ a ∈ s.articles.values, a.isUnique = true ↔ a.duplicateIds = []
  ascending : ∀ a ∈ s.articles.values, a.duplicateIds.Pairwise (· < ·)
  not_self : ∀ a ∈ s.articles.values, a.id ∉ a.duplicateIds
  stored : ∀ a ∈ s.articles.values, ∀ id ∈ a.duplicateIds, ∃ b ∈ s.articles.values, b.id = id
  listed : ∀ a ∈ s.articles.values, ∀ b ∈ s.articles.values,
    a.id < b.id → b.id ∈ a.duplicateIds → a.id ∈ b.duplicateIds

/-- Every article that lists an earlier one is listed by it, unless that is unique. -/
def LinkedBack (s : Store) : Prop :=
  ∀ a ∈ s.articles.values, ∀ b ∈ s.articles.values,
    a.id < b.id → a.id ∈ b.duplicateIds → a.isUnique = true ∨ b.id ∈ a.duplicateIds

theorem linked_empty : Store.empty.Linked := by
  refine ⟨?_, ?_, ?_, ?_, ?_⟩ <;> simp [Store.empty]

end Store

theorem Article.mem_link_duplicateIds {a : Article} {peers : List ArticleId}
    {id other : ArticleId} : other ∈ (a.link peers id).duplicateIds ↔
      other ∈ a.duplicateIds ∨ a.id ∈ peers ∧ a.isUnique = false ∧ other = id := by
  rw [link_duplicateIds]
  split
  · rename_i h
    simp [h]
  · rename_i h
    simp only [iff_self_or]
    rintro ⟨hmem, hu, -⟩
    exact absurd ⟨hmem, hu⟩ h

theorem Article.mem_link_duplicateIds_of_ne {a : Article} {peers : List ArticleId}
    {id other : ArticleId} (h : other ≠ id) :
    other ∈ (a.link peers id).duplicateIds ↔ other ∈ a.duplicateIds := by
  simp [mem_link_duplicateIds, h]

namespace Service

variable {lossy : Prop} {limit : Nat} {matcher : Matcher} {content : String}
variable {s s₁ s' : Store} {first calls : List Exchange} {a : Article}
variable {result : Except Error Article}

theorem Draft.unique_iff (h : Draft lossy limit matcher content s calls a s₁) :
    a.isUnique = true ↔ a.duplicateIds = [] := by
  obtain ⟨peers, -, hids, ⟨rfl, hu, -⟩ | ⟨last, hlast, hu, -⟩⟩ := h.peers
  · simp [hu, hids]
  · have hne : peers ≠ [] := by
      rintro rfl
      simp at hlast
    simp [hu, hids, hne]

theorem Draft.pairwise_duplicateIds (h : Draft lossy limit matcher content s calls a s₁)
    (hk : s.Keyed) : a.duplicateIds.Pairwise (· < ·) := by
  obtain ⟨peers, hsub, hids, -⟩ := h.peers
  rw [hids]
  exact List.pairwise_map.mpr (hk.pairwise_values.sublist hsub)

theorem Draft.stored (h : Draft lossy limit matcher content s calls a s₁) {id : ArticleId}
    (hid : id ∈ a.duplicateIds) : ∃ b ∈ s.articles.values, b.id = id := by
  obtain ⟨peers, hsub, hids, -⟩ := h.peers
  rw [hids] at hid
  obtain ⟨b, hb, rfl⟩ := List.mem_map.mp hid
  exact ⟨b, hsub.subset hb, rfl⟩

theorem Draft.lt_id_of_listed (hd : Draft lossy limit matcher content s first a s₁)
    (hs : s.Numbered) (h : s.Linked) {b : Article} (hb : b ∈ s.articles.values) {id : ArticleId}
    (hid : id ∈ b.duplicateIds) : id < a.id := by
  obtain ⟨c, hc, rfl⟩ := h.stored b hb id hid
  exact hd.lt_id hs hc

theorem Draft.stored_after (hd : Draft lossy limit matcher content s first a s₁) (h : s.Linked)
    {linked : List ArticleId}
    (hvalues : s'.articles.values = s.articles.values.map (Article.link linked a.id) ++ [a]) :
    ∀ b ∈ s'.articles.values, ∀ id ∈ b.duplicateIds, ∃ c ∈ s'.articles.values, c.id = id := by
  have hkept : ∀ b ∈ s.articles.values, ∃ c ∈ s'.articles.values, c.id = b.id := by
    intro b hb
    refine ⟨b.link linked a.id, ?_, b.link_id linked a.id⟩
    rw [hvalues]
    exact List.mem_append_left _ (List.mem_map_of_mem hb)
  intro b hb id hid
  rw [hvalues] at hb
  rcases List.mem_append.mp hb with hb | hb
  · obtain ⟨c, hc, rfl⟩ := List.mem_map.mp hb
    rcases Article.mem_link_duplicateIds.mp hid with hid | ⟨-, -, rfl⟩
    · obtain ⟨d, hd, rfl⟩ := h.stored c hc id hid
      exact hkept d hd
    · exact ⟨a, by simp [hvalues], rfl⟩
  · obtain rfl := List.mem_singleton.mp hb
    obtain ⟨c, hc, rfl⟩ := hd.stored hid
    exact hkept c hc

theorem Draft.listed_after (hd : Draft lossy limit matcher content s first a s₁) (hs : s.Numbered)
    (h : s.Linked) {linked : List ArticleId} (hlinked : linked ⊆ a.duplicateIds)
    (hvalues : s'.articles.values = s.articles.values.map (Article.link linked a.id) ++ [a]) :
    ∀ b ∈ s'.articles.values, ∀ c ∈ s'.articles.values,
      b.id < c.id → c.id ∈ b.duplicateIds → b.id ∈ c.duplicateIds := by
  simp only [hvalues, List.forall_mem_append, List.forall_mem_map, List.forall_mem_singleton,
    Article.link_id]
  refine ⟨fun b hb => ⟨fun c hc hlt hmem => ?_, fun _ hmem => ?_⟩, fun c hc hlt => ?_, ?_⟩
  · rw [Article.mem_link_duplicateIds_of_ne (Nat.ne_of_lt (hd.lt_id hs hc))] at hmem
    exact Article.mem_link_duplicateIds.mpr (.inl (h.listed b hb c hc hlt hmem))
  · rcases Article.mem_link_duplicateIds.mp hmem with hmem | ⟨hmem, -, -⟩
    · exact absurd (hd.lt_id_of_listed hs h hb hmem) (Nat.lt_irrefl _)
    · exact hlinked hmem
  · exact absurd hlt (Nat.lt_asymm (hd.lt_id hs hc))
  · exact fun hlt => absurd hlt (Nat.lt_irrefl _)

/-- Sound lists stay sound when an article is stored and some of its peers are linked to it. -/
theorem Draft.linked_after (hd : Draft lossy limit matcher content s first a s₁) (hs : s.Numbered)
    (h : s.Linked) {linked : List ArticleId} (hlinked : linked ⊆ a.duplicateIds)
    (hvalues : s'.articles.values = s.articles.values.map (Article.link linked a.id) ++ [a]) :
    s'.Linked := by
  refine ⟨?_, ?_, ?_, hd.stored_after h hvalues, hd.listed_after hs h hlinked hvalues⟩ <;>
    simp only [hvalues, List.forall_mem_append, List.forall_mem_map, List.forall_mem_singleton]
  · refine ⟨fun b hb => ?_, hd.unique_iff⟩
    rw [Article.link_isUnique, Article.link_duplicateIds]
    split
    · rename_i hmem
      simp [hmem.2]
    · exact h.unique_iff b hb
  · refine ⟨fun b hb => ?_, hd.pairwise_duplicateIds hs.keyed⟩
    rw [Article.link_duplicateIds]
    split
    · refine List.pairwise_append.mpr ⟨h.ascending b hb, List.pairwise_singleton _ _, ?_⟩
      simpa using fun id hid => hd.lt_id_of_listed hs h hb hid
    · exact h.ascending b hb
  · refine ⟨fun b hb hmem => ?_, fun hmem => ?_⟩
    · rw [Article.link_id] at hmem
      rcases Article.mem_link_duplicateIds.mp hmem with hmem | ⟨-, -, hid⟩
      · exact h.not_self b hb hmem
      · exact absurd (hd.lt_id hs hb) (hid ▸ Nat.lt_irrefl _)
    · exact absurd (hd.lt_id_of_mem_duplicateIds hs hmem) (Nat.lt_irrefl _)

/-- If all peers are linked, every link of the new article to one that is not unique is answered. -/
theorem Draft.linkedBack_after (hd : Draft lossy limit matcher content s first a s₁)
    (hs : s.Numbered) (h : s.LinkedBack) {linked : List ArticleId} (hlinked : a.duplicateIds ⊆ linked)
    (hvalues : s'.articles.values = s.articles.values.map (Article.link linked a.id) ++ [a]) :
    s'.LinkedBack := by
  unfold Store.LinkedBack
  simp only [hvalues, List.forall_mem_append, List.forall_mem_map, List.forall_mem_singleton,
    Article.link_id, Article.link_isUnique]
  refine ⟨fun b hb => ⟨fun c hc hlt hmem => ?_, fun _ hmem => ?_⟩, fun c hc hlt => ?_, ?_⟩
  · rw [Article.mem_link_duplicateIds_of_ne (Nat.ne_of_lt (hd.lt_id hs hb))] at hmem
    exact (h b hb c hc hlt hmem).imp_right fun hmem => Article.mem_link_duplicateIds.mpr (.inl hmem)
  · cases hu : b.isUnique with
    | true => exact .inl rfl
    | false => exact .inr (Article.mem_link_duplicateIds.mpr (.inr ⟨hlinked hmem, hu, rfl⟩))
  · exact absurd hlt (Nat.lt_asymm (hd.lt_id hs hc))
  · exact fun hlt => absurd hlt (Nat.lt_irrefl _)

theorem Creates.linked_after (hs : s.Numbered) (h : s.Linked)
    (hc : Creates lossy limit matcher content s calls result s') : s'.Linked := by
  rcases hc.values hs with ⟨hvalues, -⟩ | ⟨first, a, s₁, linked, hd, -, -, -, hlinked, hvalues, -⟩
  · refine ⟨?_, ?_, ?_, ?_, ?_⟩ <;> rw [hvalues]
    exacts [h.unique_iff, h.ascending, h.not_self, h.stored, h.listed]
  · exact hd.linked_after hs h hlinked hvalues

theorem Creates.linkedBack_after (hs : s.Numbered) (h : s.LinkedBack)
    (hc : Creates lossy limit matcher content s calls result s')
    (hcalls : ∀ x ∈ calls, x.method ∈ Method.announcing → x.failed = false) : s'.LinkedBack := by
  rcases hc.values hs with
    ⟨hvalues, -⟩ | ⟨first, a, s₁, linked, hd, -, -, -, -, hvalues, hunlinked⟩
  · unfold Store.LinkedBack
    rwa [hvalues]
  · refine hd.linkedBack_after hs h (fun peer hpeer => ?_) hvalues
    by_contra hnot
    obtain ⟨x, hx, hmethod, hfailed⟩ := hunlinked peer hpeer hnot
    simp [hcalls x hx hmethod] at hfailed

end Service

namespace History

theorem linked_of (limit : Nat) (creations : List Creation) : (of limit creations).store.Linked :=
  induction (P := fun _ h => h.store.Linked) Store.linked_empty
    (fun creations _ _ _ h hc => hc.linked_after (numbered_of limit creations) h) creations

/-- Whether no call failed by which a stored article is made known to its group and its peers. -/
def Announced (h : History) : Prop :=
  ∀ record ∈ h.records, ∀ x ∈ record.calls, x.method ∈ Method.announcing → x.failed = false

theorem linkedBack_of (limit : Nat) (creations : List Creation) :
    (of limit creations).Announced → (of limit creations).store.LinkedBack := by
  refine induction (P := fun _ h => h.Announced → h.store.LinkedBack) ?_ ?_ creations
  · intro _
    simp [empty, Store.empty, Store.LinkedBack]
  · intro creations c record s' ih hc hall
    refine hc.linkedBack_after (numbered_of limit creations)
      (ih fun r hr => hall r (List.mem_append_left _ hr)) ?_
    exact hall record (by simp)

/-- In every store that creations can lead to, the lists of duplicates are sound; and if no call
failed after an article was stored, every article is listed by the earlier ones that it lists,
except by those that are unique. -/
theorem linked_and_linkedBack (limit : Nat) (creations : List Creation) :
    (of limit creations).store.Linked ∧
      ((of limit creations).Announced → (of limit creations).store.LinkedBack) :=
  ⟨linked_of limit creations, linkedBack_of limit creations⟩

/-- Three articles that all match: the second lists the third back, the first is unique. -/
theorem linked_and_linkedBack_alike :
    let h := of 10 (List.replicate 3 ⟨"a", fun _ _ _ _ => some true, Faults.none⟩)
    h.store.articles.values.map (·.duplicateIds) = [[], [1, 3], [1, 2]] ∧
      h.Announced ∧ h.store.LinkedBack := by
  have h : (of 10 (List.replicate 3 ⟨"a", fun _ _ _ _ => some true, Faults.none⟩)).Announced := by
    unfold Announced
    decide
  exact ⟨by decide, h, (linked_and_linkedBack 10 _).2 h⟩

end History

end NearDup
