import NearDup.Proofs.Creation.Memberships

/-! What the listings of groups and of unique articles show, each cut off at the same limit. Main
statement: as long as no membership is lost, the listed groups are those of the first articles, and of
each such group just the first member is listed among the unique articles. -/

namespace NearDup

/-- What is left of the first elements by a filter comes among the first that it leaves of all. -/
theorem filter_take_isPrefix {α : Type} (p : α → Bool) (n : Nat) (xs : List α) :
    (xs.take n).filter p <+: (xs.filter p).take n := by
  have hsplit : xs.filter p = (xs.take n).filter p ++ (xs.drop n).filter p := by
    rw [← List.filter_append, List.take_append_drop]
  have hlength : ((xs.take n).filter p).length ≤ n :=
    (List.length_filter_le _ _).trans (List.length_take_le n xs)
  rw [hsplit]
  exact List.prefix_take_iff.mpr ⟨List.prefix_append _ _, hlength⟩

namespace Service

theorem mem_membersIn {memberships : List Membership} {group : GroupId} {id : ArticleId} :
    id ∈ membersIn memberships group ↔ ⟨group, id⟩ ∈ memberships := by
  simp only [membersIn, List.mem_map, List.mem_filter, beq_iff_eq]
  constructor
  · rintro ⟨m, ⟨hm, rfl⟩, rfl⟩
    exact hm
  · exact fun hm => ⟨⟨group, id⟩, ⟨hm, rfl⟩, rfl⟩

/-- The groups of memberships are those that have members, by ascending number. -/
theorem values_groupMembers {memberships : List Membership} {n : Nat}
    (h : ∀ m ∈ memberships, 1 ≤ m.group ∧ m.group ≤ n) :
    (groupMembers memberships).values =
      ((List.range' 1 n).map (membersIn memberships)).filter (· ≠ []) := by
  let groups : IdMap (List ArticleId) :=
    ⟨((List.range' 1 n).filter fun group => membersIn memberships group ≠ []).map
        fun group => (group, membersIn memberships group),
      List.pairwise_map.mpr (List.Pairwise.sublist List.filter_sublist List.pairwise_lt_range')⟩
  have hgroup : ∀ group, membersIn memberships group ≠ [] → 1 ≤ group ∧ group < 1 + n := by
    intro group hne
    obtain ⟨id, hid⟩ := List.exists_mem_of_ne_nil _ hne
    obtain ⟨hpos, hle⟩ := h _ (mem_membersIn.mp hid)
    exact ⟨hpos, Nat.lt_one_add_iff.mpr hle⟩
  have heq : groupMembers memberships = groups := by
    refine IdMap.ext_find? fun group => Option.ext fun ids => ?_
    rw [find?_groupMembers, ← IdMap.mem_entries_iff]
    simp only [groups, List.mem_map, List.mem_filter, List.mem_range'_1, decide_eq_true_eq,
      Prod.mk.injEq]
    constructor
    · split <;> rename_i hnil
      · nofun
      · rintro ⟨⟩
        exact ⟨group, ⟨hgroup group hnil, hnil⟩, rfl, rfl⟩
    · rintro ⟨_, ⟨-, hne⟩, rfl, rfl⟩
      exact if_neg hne
  rw [heq, IdMap.values, List.map_map, List.filter_map]
  rfl

end Service

namespace Store

/-- The groups with at least two members among the first articles, by ascending number, each as the
list of these members. -/
def shownGroups (s : Store) (limit : Nat) : List (List ArticleId) :=
  ((List.range' 1 s.groupCounter).map fun group =>
    ((s.allArticles limit).filter (·.group == group)).map (·.id)).filter fun ids => 2 ≤ ids.length

/-- How the shown groups stand to the listing of unique articles. All groups of the first articles
are looked at. What is shown of them is disjoint, and each list ascends. Its first member is listed
among the unique articles, and no other member is. -/
structure ShowsFounders (s : Store) (limit : Nat) : Prop where
  group_mem : ∀ a ∈ s.allArticles limit, a.group ∈ List.range' 1 s.groupCounter
  ascending : ∀ ids ∈ s.shownGroups limit, ids.Pairwise (· < ·)
  disjoint : (s.shownGroups limit).Pairwise List.Disjoint
  founder : ∀ first rest, first :: rest ∈ s.shownGroups limit →
    first ∈ (s.uniqueArticles limit).map (·.id) ∧
      ∀ id ∈ rest, id ∉ (s.uniqueArticles limit).map (·.id)

variable {s : Store} {limit : Nat}

theorem exists_group_of_mem_shownGroups {ids : List ArticleId} (h : ids ∈ s.shownGroups limit) :
    ∃ group, ((s.allArticles limit).filter (·.group == group)).map (·.id) = ids := by
  obtain ⟨group, -, hids⟩ := List.mem_map.mp (List.mem_of_mem_filter h)
  exact ⟨group, hids⟩

theorem mem_values_of_mem_allArticles {a : Article} (h : a ∈ s.allArticles limit) :
    a ∈ s.articles.values :=
  List.mem_of_mem_take h

theorem Keyed.pairwise_allArticles (h : s.Keyed) (limit : Nat) :
    (s.allArticles limit).Pairwise fun a b => a.id < b.id :=
  h.pairwise_values.sublist (List.take_sublist _ _)

/-- What comes before one of the first articles is itself one of them. -/
theorem Keyed.mem_allArticles_of_le (h : s.Keyed) {a b : Article} (ha : a ∈ s.articles.values)
    (hb : b ∈ s.allArticles limit) (hle : a.id ≤ b.id) : a ∈ s.allArticles limit := by
  have hsorted := h.pairwise_values
  rw [← List.take_append_drop limit s.articles.values] at ha hsorted
  refine (List.mem_append.mp ha).resolve_right fun hlater => ?_
  exact Nat.not_lt.mpr hle ((List.pairwise_append.mp hsorted).2.2 b hb a hlater)

theorem Keyed.disjoint_of_group_ne (h : s.Keyed) {group group' : GroupId} (hne : group ≠ group') :
    (((s.allArticles limit).filter (·.group == group)).map (·.id)).Disjoint
      (((s.allArticles limit).filter (·.group == group')).map (·.id)) := by
  intro id hid hid'
  obtain ⟨a, ha, rfl⟩ := List.mem_map.mp hid
  obtain ⟨b, hb, hsame⟩ := List.mem_map.mp hid'
  obtain ⟨ha, hgroup⟩ := List.mem_filter.mp ha
  obtain ⟨hb, hgroup'⟩ := List.mem_filter.mp hb
  obtain rfl := h.eq_of_id (mem_values_of_mem_allArticles hb) (mem_values_of_mem_allArticles ha) hsame
  exact hne ((beq_iff_eq.mp hgroup).symm.trans (beq_iff_eq.mp hgroup'))

/-- Of the members that a group has among the first articles, the first is the founder. -/
theorem Grouped.founder_of_members (hg : s.Grouped) (hk : s.Keyed) {group : GroupId} {f : Article}
    {others : List Article} (h : (s.allArticles limit).filter (·.group == group) = f :: others) :
    f.isUnique = true ∧ ∀ b ∈ others, b.isUnique = false := by
  have hmember : ∀ b ∈ f :: others, b ∈ s.allArticles limit ∧ b.group = group := by
    intro b hb
    rw [← h, List.mem_filter, beq_iff_eq] at hb
    exact hb
  have hsorted := (hk.pairwise_allArticles limit).sublist
    (List.filter_sublist (p := fun a => a.group == group))
  rw [h, List.pairwise_cons] at hsorted
  obtain ⟨hf, hfgroup⟩ := hmember f List.mem_cons_self
  obtain ⟨founder, hfounder, hgroup, hunique, hfirst⟩ :=
    hg.founder (mem_values_of_mem_allArticles hf)
  -- The founder is not after `f`, and so among the members; `f` is the first of these.
  have hmem : founder ∈ f :: others := by
    rw [← h, List.mem_filter, beq_iff_eq, hgroup]
    exact ⟨hk.mem_allArticles_of_le hfounder hf
      (hfirst f (mem_values_of_mem_allArticles hf) rfl).1, hfgroup⟩
  obtain rfl : founder = f := by
    refine (List.mem_cons.mp hmem).resolve_right fun hlater => ?_
    exact Nat.not_lt.mpr (hfirst f (mem_values_of_mem_allArticles hf) rfl).1
      (hsorted.1 founder hlater)
  refine ⟨hunique, fun b hb => Bool.eq_false_iff.mpr fun hbunique => ?_⟩
  obtain ⟨hlisted, hbgroup⟩ := hmember b (List.mem_cons_of_mem _ hb)
  obtain rfl := (hfirst b (mem_values_of_mem_allArticles hlisted)
    (hbgroup.trans hfgroup.symm)).2 hbunique
  exact Nat.lt_irrefl _ (hsorted.1 b hb)

theorem mem_uniqueArticles_of_mem_allArticles {a : Article} (ha : a ∈ s.allArticles limit)
    (hunique : a.isUnique = true) : a ∈ s.uniqueArticles limit :=
  (filter_take_isPrefix Article.isUnique limit s.articles.values).mem
    (List.mem_filter.mpr ⟨ha, hunique⟩)

theorem Keyed.notMem_uniqueArticles (h : s.Keyed) {a : Article} (ha : a ∈ s.articles.values)
    (hunique : a.isUnique = false) : a.id ∉ (s.uniqueArticles limit).map (·.id) := by
  intro hmem
  obtain ⟨b, hb, hsame⟩ := List.mem_map.mp hmem
  obtain ⟨hb, hbunique⟩ := List.mem_filter.mp (List.mem_of_mem_take hb)
  obtain rfl := h.eq_of_id hb ha hsame
  exact Bool.false_ne_true (hunique.symm.trans hbunique)

theorem Grouped.showsFounders (hg : s.Grouped) (hs : s.Numbered) (limit : Nat) :
    s.ShowsFounders limit where
  group_mem := by
    intro a ha
    obtain ⟨hpos, hle⟩ := hs.group_mem a (mem_values_of_mem_allArticles ha)
    exact List.mem_range'_1.mpr ⟨hpos, Nat.lt_one_add_iff.mpr hle⟩
  ascending := by
    intro ids hids
    obtain ⟨group, rfl⟩ := exists_group_of_mem_shownGroups hids
    exact List.pairwise_map.mpr
      ((hs.keyed.pairwise_allArticles limit).sublist List.filter_sublist)
  disjoint := by
    refine List.Pairwise.sublist List.filter_sublist (List.pairwise_map.mpr ?_)
    exact List.Pairwise.imp hs.keyed.disjoint_of_group_ne List.nodup_range'
  founder := by
    intro first rest hids
    obtain ⟨group, hmembers⟩ := exists_group_of_mem_shownGroups hids
    obtain ⟨f, others, hfilter, rfl, rfl⟩ := List.map_eq_cons_iff.mp hmembers
    obtain ⟨hunique, hothers⟩ := hg.founder_of_members hs.keyed hfilter
    have hlisted : ∀ b ∈ f :: others, b ∈ s.allArticles limit := by
      intro b hb
      rw [← hfilter] at hb
      exact List.mem_of_mem_filter hb
    refine ⟨List.mem_map_of_mem
      (mem_uniqueArticles_of_mem_allArticles (hlisted f List.mem_cons_self) hunique), ?_⟩
    rintro id hid
    obtain ⟨b, hb, rfl⟩ := List.mem_map.mp hid
    exact hs.keyed.notMem_uniqueArticles
      (mem_values_of_mem_allArticles (hlisted b (List.mem_cons_of_mem _ hb))) (hothers b hb)

end Store

namespace History

/-- Where no membership is lost, the memberships are those of the articles, in the same order. -/
theorem memberships_eq {limit : Nat} {creations : List Creation}
    (h : ∀ record ∈ (of limit creations).records, record.lostMemberships = []) :
    (of limit creations).store.memberships =
      (of limit creations).store.articles.values.map Article.membership := by
  refine (sublist_of limit creations).eq_of_length_le (List.Nodup.length_le_of_subset ?_ ?_)
  · refine List.pairwise_map.mpr ((numbered_of limit creations).keyed.pairwise_values.imp ?_)
    exact fun hlt hsame => Nat.ne_of_lt hlt (congrArg Membership.article hsame)
  · intro m hm
    obtain ⟨a, ha, rfl⟩ := List.mem_map.mp hm
    exact membership_mem_of_not_lost h ha

/-- What is listed of the groups is what the first articles show of them. -/
theorem shownGroups_of {limit : Nat} {creations : List Creation}
    (h : ∀ record ∈ (of limit creations).records, record.lostMemberships = []) :
    ((Service.groupMembers ((of limit creations).store.firstMemberships limit)).values.filter
        fun members => 2 ≤ members.length) =
      (of limit creations).store.shownGroups limit := by
  have hrows : (of limit creations).store.firstMemberships limit =
      ((of limit creations).store.allArticles limit).map Article.membership := by
    rw [Store.firstMemberships, memberships_eq h, Store.allArticles, List.map_take]
  have hgroups : ∀ m ∈ ((of limit creations).store.allArticles limit).map Article.membership,
      1 ≤ m.group ∧ m.group ≤ (of limit creations).store.groupCounter := by
    intro m hm
    obtain ⟨a, ha, rfl⟩ := List.mem_map.mp hm
    exact (numbered_of limit creations).group_mem a (Store.mem_values_of_mem_allArticles ha)
  have hmembers : Service.membersIn
      (((of limit creations).store.allArticles limit).map Article.membership) = fun group =>
        (((of limit creations).store.allArticles limit).filter (·.group == group)).map (·.id) :=
    funext (Service.membersIn_map_membership _)
  rw [hrows, Service.values_groupMembers hgroups, List.filter_filter, hmembers, Store.shownGroups]
  -- A group with two members is not empty.
  refine List.filter_congr fun members _ => ?_
  cases members <;> simp

end History

end NearDup
