import Mathlib.Data.Set.Function
import Mathlib.Order.Bounds.Basic
import NearDup.Proofs.Creation.Duplicates

/-! The groups after any history. Each group is a tree: an article that is not unique is in the
group of the last earlier article that it lists, and at the root stands the one unique article,
which founded the group. Main statement: founders and groups correspond one to one, and no number is
given out twice. -/

namespace NearDup

/-- The last number of an ascending list is its greatest one. -/
theorem le_of_getLast? {ids : List Nat} {last : Nat} (h : ids.Pairwise (· < ·))
    (hlast : ids.getLast? = some last) : ∀ id ∈ ids, id ≤ last := by
  obtain ⟨init, rfl⟩ := List.getLast?_eq_some_iff.mp hlast
  intro id hid
  rcases List.mem_append.mp hid with hid | hid
  · exact Nat.le_of_lt ((List.pairwise_append.mp h).2.2 id hid last (List.mem_singleton_self _))
  · exact Nat.le_of_eq (List.mem_singleton.mp hid)

namespace Store

/-- An article that is not unique is in the group of the last earlier one that it lists, and no two
unique articles are in one group. -/
structure Grouped (s : Store) : Prop where
  parent : ∀ a ∈ s.articles.values, a.isUnique = false → ∃ p ∈ s.articles.values,
    p.group = a.group ∧ IsGreatest {id | id ∈ a.duplicateIds ∧ id < a.id} p.id
  founder_eq : ∀ a ∈ s.articles.values, ∀ b ∈ s.articles.values,
    a.isUnique = true → b.isUnique = true → a.group = b.group → a = b

theorem grouped_empty : Store.empty.Grouped := by
  constructor <;> simp [Store.empty]

/-- Following the last earlier articles leads to a unique one. -/
theorem Grouped.exists_founder {s : Store} (h : s.Grouped) (a : Article)
    (ha : a ∈ s.articles.values) : ∃ f ∈ s.articles.values,
      f.isUnique = true ∧ f.group = a.group ∧ f.id ≤ a.id := by
  induction hn : a.id using Nat.strong_induction_on generalizing a with
  | _ n ih =>
    subst hn
    cases hu : a.isUnique with
    | true => exact ⟨a, ha, hu, rfl, Nat.le_refl _⟩
    | false =>
      obtain ⟨p, hp, hgroup, hgreatest⟩ := h.parent a ha hu
      have hlt : p.id < a.id := hgreatest.1.2
      obtain ⟨f, hf, hunique, hfgroup, hle⟩ := ih p.id hlt p hp rfl
      exact ⟨f, hf, hunique, hfgroup.trans hgroup, Nat.le_trans hle (Nat.le_of_lt hlt)⟩

/-- The founder of a group is its one unique article, and the first of all. -/
theorem Grouped.founder {s : Store} (h : s.Grouped) {a : Article} (ha : a ∈ s.articles.values) :
    ∃ f ∈ s.articles.values, f.group = a.group ∧ f.isUnique = true ∧
      ∀ b ∈ s.articles.values, b.group = a.group →
        f.id ≤ b.id ∧ (b.isUnique = true → b = f) := by
  obtain ⟨f, hf, hunique, hgroup, -⟩ := h.exists_founder a ha
  refine ⟨f, hf, hgroup, hunique, fun b hb hbgroup => ⟨?_, fun hbunique => ?_⟩⟩
  · obtain ⟨g, hg, hgunique, hggroup, hle⟩ := h.exists_founder b hb
    obtain rfl := h.founder_eq g hg f hf hgunique hunique (by rw [hggroup, hbgroup, hgroup])
    exact hle
  · exact h.founder_eq b hb f hf hbunique hunique (by rw [hbgroup, hgroup])

theorem Grouped.bijOn {s : Store} (h : s.Grouped) :
    Set.BijOn Article.group {a | a ∈ s.articles.values ∧ a.isUnique = true}
      {group | ∃ a ∈ s.articles.values, a.group = group} := by
  refine ⟨?_, ?_, ?_⟩
  · rintro a ⟨ha, -⟩
    exact ⟨a, ha, rfl⟩
  · rintro a ⟨ha, hua⟩ b ⟨hb, hub⟩ hgroup
    exact h.founder_eq a ha b hb hua hub hgroup
  · rintro group ⟨a, ha, rfl⟩
    obtain ⟨f, hf, hunique, hgroup, -⟩ := h.exists_founder a ha
    exact ⟨f, ⟨hf, hunique⟩, hgroup⟩

end Store

namespace Service

variable {lossy : Prop} {limit : Nat} {matcher : Matcher} {content : String}
variable {s s₁ s' : Store} {first calls : List Exchange} {a : Article}
variable {result : Except Error Article}

/-- The last peer of a draft has the greatest number that it lists. -/
theorem Draft.isGreatest_last (hd : Draft lossy limit matcher content s first a s₁)
    (hs : s.Numbered) {peers : List Article} {last : Article}
    (hids : a.duplicateIds = peers.map (·.id)) (hlast : peers.getLast? = some last) :
    IsGreatest {id | id ∈ a.duplicateIds ∧ id < a.id} last.id := by
  have hmax : a.duplicateIds.getLast? = some last.id := by
    rw [hids, List.getLast?_map, hlast]
    rfl
  have hmem : last.id ∈ a.duplicateIds := List.mem_of_getLast? hmax
  refine ⟨⟨hmem, hd.lt_id_of_mem_duplicateIds hs hmem⟩, ?_⟩
  rintro id ⟨hid, -⟩
  exact le_of_getLast? (hd.pairwise_duplicateIds hs.keyed) hmax id hid

theorem Draft.parent_after (hd : Draft lossy limit matcher content s first a s₁)
    (hs : s.Numbered) (h : s.Grouped) {linked : List ArticleId}
    (hvalues : s'.articles.values = s.articles.values.map (Article.link linked a.id) ++ [a]) :
    ∀ b ∈ s'.articles.values, b.isUnique = false → ∃ p ∈ s'.articles.values,
      p.group = b.group ∧ IsGreatest {id | id ∈ b.duplicateIds ∧ id < b.id} p.id := by
  have hkept : ∀ b ∈ s.articles.values, b.link linked a.id ∈ s'.articles.values := by
    intro b hb
    rw [hvalues]
    exact List.mem_append_left _ (List.mem_map_of_mem hb)
  intro b hb hu
  rw [hvalues] at hb
  rcases List.mem_append.mp hb with hb | hb
  · obtain ⟨c, hc, rfl⟩ := List.mem_map.mp hb
    rw [Article.link_isUnique] at hu
    obtain ⟨p, hp, hpgroup, hgreatest⟩ := h.parent c hc hu
    refine ⟨_, hkept p hp, by simpa using hpgroup, ?_⟩
    -- A link only adds a number that is greater than that of the linked article.
    have hsame : {id | id ∈ (c.link linked a.id).duplicateIds ∧ id < (c.link linked a.id).id} =
        {id | id ∈ c.duplicateIds ∧ id < c.id} := by
      ext id
      rw [Article.link_id]
      refine and_congr_left fun hlt => Article.mem_link_duplicateIds_of_ne ?_
      exact Nat.ne_of_lt (Nat.lt_trans hlt (hd.lt_id hs hc))
    rwa [hsame, Article.link_id]
  · obtain rfl := List.mem_singleton.mp hb
    obtain ⟨peers, hsub, hids, ⟨-, hunique, -⟩ | ⟨last, hlast, -, hgroup, -⟩⟩ := hd.peers
    · simp [hunique] at hu
    · refine ⟨_, hkept last (hsub.subset (List.mem_of_getLast? hlast)), ?_, ?_⟩
      · rw [Article.link_group, hgroup]
      · rw [Article.link_id]
        exact hd.isGreatest_last hs hids hlast

/-- A unique draft has a group that no stored article has. -/
theorem Draft.group_ne (hd : Draft lossy limit matcher content s first a s₁) (hs : s.Numbered)
    (hu : a.isUnique = true) {b : Article} (hb : b ∈ s.articles.values) : b.group ≠ a.group := by
  intro hgroup
  obtain ⟨peers, -, -, ⟨-, -, hnew, -⟩ | ⟨last, -, hunique, -⟩⟩ := hd.peers
  · have hle := (hs.group_mem b hb).2
    rw [hgroup, hnew] at hle
    exact absurd hle (Nat.not_succ_le_self _)
  · simp [hunique] at hu

theorem Draft.grouped_after (hd : Draft lossy limit matcher content s first a s₁)
    (hs : s.Numbered) (h : s.Grouped) {linked : List ArticleId}
    (hvalues : s'.articles.values = s.articles.values.map (Article.link linked a.id) ++ [a]) :
    s'.Grouped := by
  refine ⟨hd.parent_after hs h hvalues, ?_⟩
  simp only [hvalues, List.forall_mem_append, List.forall_mem_map, List.forall_mem_singleton,
    Article.link_isUnique, Article.link_group]
  refine ⟨fun b hb => ⟨fun c hc hub huc hbc => ?_, fun _ hu hba => ?_⟩,
    fun c hc hu _ hac => ?_, fun _ _ _ => trivial⟩
  · rw [h.founder_eq b hb c hc hub huc hbc]
  · exact absurd hba (hd.group_ne hs hu hb)
  · exact absurd hac.symm (hd.group_ne hs hu hc)

theorem Creates.grouped_after (hs : s.Numbered) (h : s.Grouped)
    (hc : Creates lossy limit matcher content s calls result s') : s'.Grouped := by
  rcases hc.values hs with ⟨hvalues, -⟩ | ⟨first, a, s₁, linked, hd, -, -, -, -, hvalues, -⟩
  · constructor <;> rw [hvalues]
    exacts [h.parent, h.founder_eq]
  · exact hd.grouped_after hs h hvalues

end Service

/-! ### The numbers that are given out -/

/-- The number of an article that a call gave out. -/
def Exchange.articleId? : Exchange → Option ArticleId
  | ⟨.nextArticleId, .ok id⟩ => some id
  | _ => none

/-- The number of a group that a call gave out. -/
def Exchange.groupId? : Exchange → Option GroupId
  | ⟨.nextGroupId, .ok id⟩ => some id
  | _ => none

namespace Record

/-- The numbers of articles that were given out in a creation. -/
def articleIds (r : Record) : List ArticleId := r.calls.filterMap Exchange.articleId?

/-- The numbers of groups that were given out in a creation. -/
def groupIds (r : Record) : List GroupId := r.calls.filterMap Exchange.groupId?

end Record

/-- Calls for links give out no numbers. -/
theorem Exchange.articleId?_of_peer? (x : Exchange) (h : x.peer? ≠ none) : x.articleId? = none := by
  rcases cases_of_peer? h with ⟨_, _, rfl⟩ | ⟨_, _, _, rfl⟩ <;> rfl

theorem Exchange.groupId?_of_peer? (x : Exchange) (h : x.peer? ≠ none) : x.groupId? = none := by
  rcases cases_of_peer? h with ⟨_, _, rfl⟩ | ⟨_, _, _, rfl⟩ <;> rfl

theorem range'_one_succ (n : Nat) : List.range' 1 (n + 1) = List.range' 1 n ++ [n + 1] := by
  rw [List.range'_1_concat, Nat.add_comm 1 n]

namespace Service

variable {lossy : Prop} {limit : Nat} {matcher : Matcher} {content : String}
variable {s s₁ s' : Store} {first calls : List Exchange} {a : Article}
variable {result : Except Error Article}

theorem Draft.articleIds (h : Draft lossy limit matcher content s calls a s₁) :
    calls.filterMap Exchange.articleId? = [a.id] := by
  cases h <;> rfl

theorem Draft.groupIds (h : Draft lossy limit matcher content s calls a s₁) :
    List.range' 1 s.groupCounter ++ calls.filterMap Exchange.groupId? =
      List.range' 1 s₁.groupCounter := by
  cases h with
  | joined => exact List.append_nil _
  | founded => exact (range'_one_succ _).symm

theorem Draft.group_mem_groupIds (h : Draft lossy limit matcher content s calls a s₁)
    (hu : a.isUnique = true) : a.group ∈ calls.filterMap Exchange.groupId? := by
  cases h with
  | @joined listing peers last hs hlast =>
    cases peers with
    | nil => simp at hlast
    | cons peer peers => simp [Article.new] at hu
  | founded => exact List.mem_singleton_self _

theorem Draft.numbers (h : Draft lossy limit matcher content s first a s₁) {rest : List Exchange}
    (harticles : rest.filterMap Exchange.articleId? = [])
    (hgroups : rest.filterMap Exchange.groupId? = []) :
    List.range' 1 s.articleCounter ++ (first ++ rest).filterMap Exchange.articleId? =
        List.range' 1 s₁.articleCounter ∧
      List.range' 1 s.groupCounter ++ (first ++ rest).filterMap Exchange.groupId? =
        List.range' 1 s₁.groupCounter := by
  rw [List.filterMap_append, List.filterMap_append, harticles, hgroups, List.append_nil,
    List.append_nil]
  refine ⟨?_, h.groupIds⟩
  rw [h.articleIds, h.articleCounter_eq, h.id_eq, range'_one_succ]

/-- The numbers that a creation gives out continue those that were given out before. -/
theorem Creates.numbers (hc : Creates lossy limit matcher content s calls result s') :
    List.range' 1 s.articleCounter ++ calls.filterMap Exchange.articleId? =
        List.range' 1 s'.articleCounter ∧
      List.range' 1 s.groupCounter ++ calls.filterMap Exchange.groupId? =
        List.range' 1 s'.groupCounter := by
  cases hc with
  | unnumbered => exact ⟨List.append_nil _, List.append_nil _⟩
  | ungrouped => exact ⟨(range'_one_succ _).symm, List.append_nil _⟩
  | unstored _ e hd => exact hd.numbers rfl rfl
  | unlisted _ e hd => exact hd.numbers rfl rfl
  | @linked first a s₁ links hd habout _ =>
    have harticles : links.filterMap Exchange.articleId? = [] :=
      Exchange.filterMap_eq_nil Exchange.articleId?_of_peer? habout
    have hgroups : links.filterMap Exchange.groupId? = [] :=
      Exchange.filterMap_eq_nil Exchange.groupId?_of_peer? habout
    rw [List.append_assoc]
    exact hd.numbers harticles hgroups

/-- A stored article has the number, and if it is unique the group, that was given out for it. -/
theorem Creates.given (hs : s.Numbered)
    (hc : Creates lossy limit matcher content s calls result s') {b : Article}
    (hb : b ∈ s'.articles.values) :
    (∃ c ∈ s.articles.values, b.id = c.id ∧ b.isUnique = c.isUnique ∧ b.group = c.group) ∨
      b.id ∈ calls.filterMap Exchange.articleId? ∧
        (b.isUnique = true → b.group ∈ calls.filterMap Exchange.groupId?) := by
  rcases hc.values hs with
    ⟨hvalues, -⟩ | ⟨first, a, s₁, linked, hd, ⟨rest, rfl⟩, -, -, -, hvalues, -⟩
  · exact .inl ⟨b, hvalues ▸ hb, rfl, rfl, rfl⟩
  · rw [hvalues] at hb
    rcases List.mem_append.mp hb with hb | hb
    · obtain ⟨c, hc, rfl⟩ := List.mem_map.mp hb
      exact .inl
        ⟨c, hc, Article.link_id _ _ c, Article.link_isUnique _ _ c, Article.link_group _ _ c⟩
    · obtain rfl := List.mem_singleton.mp hb
      rw [List.filterMap_append, List.filterMap_append, hd.articleIds]
      refine .inr ⟨by simp, fun hu => List.mem_append_left _ (hd.group_mem_groupIds hu)⟩

end Service

namespace History

/-- How the articles of a history are grouped. In each group one article is unique, and is the
first; every other one has its group from the last earlier article that it lists. Numbers are given
out in order, each once, whether or not the creation succeeds, and what is stored bears the numbers
that were given out for it. -/
structure Grouping (h : History) : Prop where
  numbered : h.store.Numbered
  founder : ∀ a ∈ h.store.articles.values, ∃ f ∈ h.store.articles.values,
    f.group = a.group ∧ f.isUnique = true ∧ ∀ b ∈ h.store.articles.values, b.group = a.group →
      f.id ≤ b.id ∧ (b.isUnique = true → b = f)
  parent : ∀ a ∈ h.store.articles.values, a.isUnique = false → ∃ p ∈ h.store.articles.values,
    p.group = a.group ∧ IsGreatest {id | id ∈ a.duplicateIds ∧ id < a.id} p.id
  bijOn : Set.BijOn Article.group {a | a ∈ h.store.articles.values ∧ a.isUnique = true}
    {group | ∃ a ∈ h.store.articles.values, a.group = group}
  articleIds : h.records.flatMap Record.articleIds = List.range' 1 h.store.articleCounter
  groupIds : h.records.flatMap Record.groupIds = List.range' 1 h.store.groupCounter
  given : ∀ a ∈ h.store.articles.values, ∃ record ∈ h.records, a.id ∈ record.articleIds ∧
    (a.isUnique = true → a.group ∈ record.groupIds)

theorem grouped_of (limit : Nat) (creations : List Creation) : (of limit creations).store.Grouped :=
  induction (P := fun _ h => h.store.Grouped) Store.grouped_empty
    (fun creations _ _ _ h hc => hc.grouped_after (numbered_of limit creations) h) creations

theorem numbers_of (limit : Nat) (creations : List Creation) :
    (of limit creations).records.flatMap Record.articleIds =
        List.range' 1 (of limit creations).store.articleCounter ∧
      (of limit creations).records.flatMap Record.groupIds =
        List.range' 1 (of limit creations).store.groupCounter := by
  refine induction (P := fun _ h =>
    h.records.flatMap Record.articleIds = List.range' 1 h.store.articleCounter ∧
      h.records.flatMap Record.groupIds = List.range' 1 h.store.groupCounter)
    ⟨rfl, rfl⟩ ?_ creations
  rintro creations c record s' ⟨harticles, hgroups⟩ hc
  rw [List.flatMap_append, List.flatMap_append, harticles, hgroups, List.flatMap_singleton,
    List.flatMap_singleton]
  exact hc.numbers

/-- A number that was given out is not beyond the counter. -/
theorem articleIds_le (limit : Nat) (creations : List Creation) {record : Record}
    (hrecord : record ∈ (of limit creations).records) {id : ArticleId}
    (hid : id ∈ record.articleIds) : id ≤ (of limit creations).store.articleCounter := by
  have hmem := List.mem_flatMap.mpr ⟨record, hrecord, hid⟩
  rw [(numbers_of limit creations).1, List.mem_range'_1, Nat.add_comm] at hmem
  exact Nat.le_of_lt_succ hmem.2

theorem given_of (limit : Nat) (creations : List Creation) :
    ∀ a ∈ (of limit creations).store.articles.values, ∃ record ∈ (of limit creations).records,
      a.id ∈ record.articleIds ∧ (a.isUnique = true → a.group ∈ record.groupIds) := by
  refine induction (P := fun _ h => ∀ a ∈ h.store.articles.values, ∃ record ∈ h.records,
    a.id ∈ record.articleIds ∧ (a.isUnique = true → a.group ∈ record.groupIds)) ?_ ?_ creations
  · simp [empty, Store.empty]
  · intro creations c record s' ih hc a ha
    rcases hc.given (numbered_of limit creations) ha with ⟨b, hb, hid, hunique, hgroup⟩ | hgiven
    · obtain ⟨old, hold, hgiven⟩ := ih b hb
      rw [hid, hunique, hgroup]
      exact ⟨old, List.mem_append_left _ hold, hgiven⟩
    · exact ⟨record, by simp, hgiven⟩

/-- Every history groups its articles in this way. -/
theorem grouping_of (limit : Nat) (creations : List Creation) :
    (of limit creations).Grouping where
  numbered := numbered_of limit creations
  founder := fun _ ha => (grouped_of limit creations).founder ha
  parent := (grouped_of limit creations).parent
  bijOn := (grouped_of limit creations).bijOn
  articleIds := (numbers_of limit creations).1
  groupIds := (numbers_of limit creations).2
  given := given_of limit creations

end History

end NearDup
