import Mathlib.Data.List.Nodup
import NearDup.Proofs.Creation.Groups

/-! The memberships after any history. Without failures they stand in the order of the articles, so
that listings of both, cut off at the same limit, part the same articles into groups. With failures
an article lacks its membership exactly if that could not be stored in its creation. -/

namespace NearDup

/-- The membership of an article in its group. -/
def Article.membership (a : Article) : Membership := ⟨a.group, a.id⟩

@[simp] theorem Article.membership_link (peers : List ArticleId) (id : ArticleId) (a : Article) :
    (a.link peers id).membership = a.membership := by
  simp [membership]

@[simp] theorem Article.membership_comp_link (peers : List ArticleId) (id : ArticleId) :
    Article.membership ∘ Article.link peers id = Article.membership :=
  funext (membership_link peers id)

namespace Service

/-! ### Members by group -/

/-- The articles of the memberships in a group, in their order. -/
def membersIn (memberships : List Membership) (group : GroupId) : List ArticleId :=
  (memberships.filter fun m => m.group == group).map (·.article)

theorem groupMembers_concat (memberships : List Membership) (m : Membership) :
    groupMembers (memberships ++ [m]) = (groupMembers memberships).insert m.group
      (((groupMembers memberships).find? m.group).getD [] ++ [m.article]) := by
  simp [groupMembers]

theorem find?_groupMembers (memberships : List Membership) (group : GroupId) :
    (groupMembers memberships).find? group =
      if membersIn memberships group = [] then none else some (membersIn memberships group) := by
  induction memberships using List.reverseRecOn with
  | nil => rfl
  | append_singleton memberships m ih =>
    rw [groupMembers_concat]
    by_cases hgroup : group = m.group
    · subst hgroup
      have hgetD : ((groupMembers memberships).find? m.group).getD [] =
          membersIn memberships m.group := by
        rw [ih]
        split
        · rename_i hnil
          exact hnil.symm
        · rfl
      have hmembers : membersIn (memberships ++ [m]) m.group =
          membersIn memberships m.group ++ [m.article] := by
        simp [membersIn]
      rw [IdMap.find?_insert_self, hgetD, hmembers, if_neg (by simp)]
    · have hmembers : membersIn (memberships ++ [m]) group = membersIn memberships group := by
        simp [membersIn, Ne.symm hgroup]
      rw [IdMap.find?_insert_of_ne _ _ hgroup, ih, hmembers]

/-- Groups part a list of articles: none is empty, each article is in its own group once and in no
other, and nothing else is in a group. -/
structure Partitions (groups : IdMap (List ArticleId)) (articles : List Article) : Prop where
  nonempty : ∀ group ids, groups.find? group = some ids → ids ≠ []
  own : ∀ a ∈ articles, ∃ ids, groups.find? a.group = some ids ∧ ids.count a.id = 1
  no_other : ∀ a ∈ articles, ∀ group ids, groups.find? group = some ids → a.id ∈ ids →
    group = a.group
  listed : ∀ group ids, groups.find? group = some ids → ∀ id ∈ ids, ∃ a ∈ articles, a.id = id

theorem membersIn_map_membership (articles : List Article) (group : GroupId) :
    membersIn (articles.map Article.membership) group =
      (articles.filter fun a => a.group == group).map (·.id) := by
  rw [membersIn, List.filter_map, List.map_map]
  rfl

/-- The memberships of articles with ascending numbers part them. -/
theorem partitions_groupMembers {articles : List Article}
    (h : articles.Pairwise fun a b => a.id < b.id) :
    Partitions (groupMembers (articles.map Article.membership)) articles := by
  have hinj : ∀ a ∈ articles, ∀ b ∈ articles, b.id = a.id → b = a := by
    have hids : (articles.map (·.id)).Nodup := List.pairwise_map.mpr (h.imp Nat.ne_of_lt)
    exact fun a ha b hb hid => List.inj_on_of_nodup_map hids hb ha hid
  have hfind : ∀ group ids,
      (groupMembers (articles.map Article.membership)).find? group = some ids ↔
        ids ≠ [] ∧ ids = (articles.filter fun a => a.group == group).map (·.id) := by
    intro group ids
    rw [find?_groupMembers, membersIn_map_membership]
    split
    · rename_i hnil
      simp [hnil]
    · rename_i hne
      rw [Option.some_inj, eq_comm]
      exact ⟨fun hids => ⟨hids ▸ hne, hids⟩, And.right⟩
  refine ⟨fun group ids hf => ((hfind group ids).mp hf).1, fun a ha => ?_, ?_, ?_⟩
  · have hmem : a.id ∈ (articles.filter fun b => b.group == a.group).map (·.id) :=
      List.mem_map_of_mem (List.mem_filter.mpr ⟨ha, by simp⟩)
    have hnodup : ((articles.filter fun b => b.group == a.group).map (·.id)).Nodup :=
      List.pairwise_map.mpr ((h.sublist List.filter_sublist).imp Nat.ne_of_lt)
    exact ⟨_, (hfind a.group _).mpr ⟨List.ne_nil_of_mem hmem, rfl⟩,
      List.count_eq_one_of_mem hnodup hmem⟩
  · rintro a ha group ids hf hmem
    obtain ⟨-, rfl⟩ := (hfind group ids).mp hf
    obtain ⟨b, hb, hid⟩ := List.mem_map.mp hmem
    obtain ⟨hb, hgroup⟩ := List.mem_filter.mp hb
    obtain rfl := hinj a ha b hb hid
    exact (beq_iff_eq.mp hgroup).symm
  · rintro group ids hf id hid
    obtain ⟨-, rfl⟩ := (hfind group ids).mp hf
    obtain ⟨a, ha, rfl⟩ := List.mem_map.mp hid
    exact ⟨a, (List.mem_filter.mp ha).1, rfl⟩

end Service

/-! ### What a creation lists -/

/-- The membership that a failed call was to store. -/
def Exchange.lostMembership? : Exchange → Option Membership
  | ⟨.createMembership m, .error _⟩ => some m
  | _ => none

/-- The memberships that could not be stored in a creation. -/
def Record.lostMemberships (r : Record) : List Membership :=
  r.calls.filterMap Exchange.lostMembership?

/-- Whether the article was numbered in a creation that could not store its membership. -/
def Record.Unlisted (r : Record) (a : Article) : Prop :=
  a.id ∈ r.articleIds ∧ a.membership ∈ r.lostMemberships

@[simp] theorem Record.unlisted_link {r : Record} {a : Article} (peers : List ArticleId)
    (id : ArticleId) : r.Unlisted (a.link peers id) ↔ r.Unlisted a := by
  simp [Unlisted]

theorem Record.not_unlisted {r : Record} (h : r.lostMemberships = []) (a : Article) :
    ¬ r.Unlisted a := by
  simp [Unlisted, h]

theorem Exchange.lostMembership?_of_peer? (x : Exchange) (h : x.peer? ≠ none) :
    x.lostMembership? = none := by
  rcases cases_of_peer? h with ⟨_, _, rfl⟩ | ⟨_, _, _, rfl⟩ <;> rfl

theorem Exchange.failed_of_lostMembership? {x : Exchange} {m : Membership}
    (h : x.lostMembership? = some m) : x.method = .createMembership ∧ x.failed = true := by
  unfold lostMembership? at h
  split at h
  · exact ⟨rfl, rfl⟩
  · cases h

/-- Where no call for a membership failed, none was lost. -/
theorem Record.lostMemberships_eq_nil {r : Record}
    (h : ∀ x ∈ r.calls, x.method = .createMembership → x.failed = false) :
    r.lostMemberships = [] := by
  refine List.filterMap_eq_nil_iff.mpr fun x hx => Option.eq_none_iff_forall_ne_some.mpr ?_
  intro m hlost
  obtain ⟨hmethod, hfailed⟩ := Exchange.failed_of_lostMembership? hlost
  simp [h x hx hmethod] at hfailed

namespace Service

variable {lossy : Prop} {limit : Nat} {matcher : Matcher} {content : String}
variable {s s₁ s' : Store} {calls : List Exchange} {a : Article}
variable {result : Except Error Article}

theorem Draft.lostMemberships (h : Draft lossy limit matcher content s calls a s₁) :
    calls.filterMap Exchange.lostMembership? = [] := by
  cases h <;> rfl

/-- A creation stores no article, or one after all others. In the second case it also adds the
membership after all others, or loses it. -/
theorem Creates.memberships (hs : s.Numbered)
    (h : Creates lossy limit matcher content s calls result s') :
    (lossy ∧ s'.articles.values = s.articles.values ∧ s'.memberships = s.memberships ∧
        calls.filterMap Exchange.lostMembership? = []) ∨
      ∃ a linked, a.id = s.articleCounter + 1 ∧ a.id ∈ calls.filterMap Exchange.articleId? ∧
        s'.articles.values = s.articles.values.map (Article.link linked a.id) ++ [a] ∧
        ((lossy ∧ s'.memberships = s.memberships ∧
            calls.filterMap Exchange.lostMembership? = [a.membership]) ∨
          s'.memberships = s.memberships ++ [a.membership] ∧
            calls.filterMap Exchange.lostMembership? = []) := by
  cases h with
  | unnumbered hlossy => exact .inl ⟨hlossy, rfl, rfl, rfl⟩
  | ungrouped hlossy => exact .inl ⟨hlossy, rfl, rfl, rfl⟩
  | unstored hlossy e hd =>
    refine .inl ⟨hlossy, by rw [hd.articles_eq], hd.memberships_eq, ?_⟩
    rw [List.filterMap_append, hd.lostMemberships]
    rfl
  | @unlisted first a s₁ hlossy e hd =>
    refine .inr ⟨a, [], hd.id_eq, ?_, ?_, .inl ⟨hlossy, hd.memberships_eq, ?_⟩⟩
    · rw [List.filterMap_append, hd.articleIds]
      exact List.mem_append_left _ (List.mem_singleton_self _)
    · rw [hd.values_withArticle hs, Article.map_link_nil]
    · rw [List.filterMap_append, hd.lostMemberships]
      rfl
  | @linked first a s₁ links hd habout _ =>
    have hlinks : links.filterMap Exchange.lostMembership? = [] :=
      Exchange.filterMap_eq_nil Exchange.lostMembership?_of_peer? habout
    refine .inr ⟨a, reached links a.duplicateIds, hd.id_eq, ?_,
      hd.values_link hs (reached_subset _ _) _, .inr ⟨?_, ?_⟩⟩
    · rw [List.append_assoc, List.filterMap_append, hd.articleIds]
      exact List.mem_append_left _ (List.mem_singleton_self _)
    · change s₁.memberships ++ [a.membership] = _
      rw [hd.memberships_eq]
    · rw [List.filterMap_append, List.filterMap_append, hd.lostMemberships, hlinks]
      rfl

end Service

namespace History

theorem sublist_of (limit : Nat) (creations : List Creation) :
    (of limit creations).store.memberships.Sublist
      ((of limit creations).store.articles.values.map Article.membership) := by
  refine induction (P := fun _ h =>
    h.store.memberships.Sublist (h.store.articles.values.map Article.membership)) ?_ ?_ creations
  · exact List.Sublist.refl []
  · intro creations c record s' ih hc
    rcases hc.memberships (numbered_of limit creations) with
      ⟨-, hvalues, hrows, -⟩ | ⟨a, linked, -, -, hvalues, ⟨-, hrows, -⟩ | ⟨hrows, -⟩⟩
    · rwa [hvalues, hrows]
    · simpa [hvalues, hrows] using ih.trans (List.sublist_append_left _ _)
    · simpa [hvalues, hrows] using ih

/-- Where no call is lost, the memberships are those of the articles, in the same order. -/
theorem memberships_of (limit : Nat) {creations : List Creation}
    (h : ∀ c ∈ creations, c.faults = Faults.none) :
    (of limit creations).store.memberships =
      (of limit creations).store.articles.values.map Article.membership := by
  revert h
  refine induction (P := fun creations h => (∀ c ∈ creations, c.faults = Faults.none) →
    h.store.memberships = h.store.articles.values.map Article.membership) ?_ ?_ creations
  · exact fun _ => rfl
  · intro creations c record s' ih hc h
    have hlossy : ¬ c.faults.Lossy := by
      rw [h c (by simp)]
      exact Faults.not_lossy_none
    have hrows := ih fun c hc => h c (List.mem_append_left _ hc)
    rcases hc.memberships (numbered_of limit creations) with
      ⟨hlost, -⟩ | ⟨a, linked, -, -, hvalues, ⟨hlost, -⟩ | ⟨hafter, -⟩⟩
    · exact absurd hlost hlossy
    · exact absurd hlost hlossy
    · simp [hvalues, hafter, hrows]

/-- The rows of memberships and the listed articles are cut off at the same place. -/
theorem partitions_of (limit : Nat) {creations : List Creation}
    (h : ∀ c ∈ creations, c.faults = Faults.none) :
    Service.Partitions
      (Service.groupMembers ((of limit creations).store.firstMemberships limit))
      ((of limit creations).store.allArticles limit) := by
  have hrows : (of limit creations).store.firstMemberships limit =
      ((of limit creations).store.allArticles limit).map Article.membership := by
    rw [Store.firstMemberships, memberships_of limit h, Store.allArticles, List.map_take]
  rw [hrows]
  exact Service.partitions_groupMembers
    ((numbered_of limit creations).keyed.pairwise_values.sublist (List.take_sublist _ _))

/-- How the memberships of a history stand to its articles. They come by ascending article, each
with the group of a stored one. An article is without membership exactly if that was lost in the
creation that numbered the article. -/
structure Registered (h : History) : Prop where
  ascending : h.store.memberships.Pairwise fun m n => m.article < n.article
  stored : ∀ m ∈ h.store.memberships, ∃ a ∈ h.store.articles.values, a.membership = m
  missing_iff : ∀ a ∈ h.store.articles.values,
    (∀ m ∈ h.store.memberships, m.article ≠ a.id) ↔ ∃ record ∈ h.records, record.Unlisted a

theorem exists_unlisted_concat (records : List Record) (record : Record) (a : Article) :
    (∃ r ∈ records ++ [record], r.Unlisted a) ↔
      (∃ r ∈ records, r.Unlisted a) ∨ record.Unlisted a := by
  simp [or_and_right, exists_or]

/-- One more article, that no row and no record has been about: it is without a row exactly if its
membership was lost. -/
theorem missing_iff_concat {articles : List Article} {rows rows' : List Membership}
    {records : List Record} {record : Record} {a : Article} (linked : List ArticleId)
    (hother : ∀ b ∈ articles, b.id ≠ a.id) (hrow : ∀ m ∈ rows, m.article ≠ a.id)
    (hfresh : ¬ ∃ r ∈ records, r.Unlisted a) (hgiven : a.id ∈ record.articleIds)
    (hlisted : (rows' = rows ∧ record.lostMemberships = [a.membership]) ∨
      (rows' = rows ++ [a.membership] ∧ record.lostMemberships = []))
    (h : ∀ b ∈ articles,
      (∀ m ∈ rows, m.article ≠ b.id) ↔ ∃ r ∈ records, r.Unlisted b) :
    ∀ b ∈ articles.map (Article.link linked a.id) ++ [a],
      (∀ m ∈ rows', m.article ≠ b.id) ↔ ∃ r ∈ records ++ [record], r.Unlisted b := by
  simp only [List.forall_mem_append, List.forall_mem_map, List.forall_mem_singleton,
    Article.link_id, Record.unlisted_link, exists_unlisted_concat]
  rcases hlisted with ⟨rfl, hlost⟩ | ⟨rfl, hlost⟩
  · refine ⟨fun b hb => ?_, ?_⟩
    · have hnot : ¬ record.Unlisted b := by
        rintro ⟨-, hmem⟩
        rw [hlost, List.mem_singleton] at hmem
        exact hother b hb (congrArg Membership.article hmem)
      simpa [hnot] using h b hb
    · refine iff_of_true hrow (.inr ⟨hgiven, ?_⟩)
      simp [hlost]
  · simp only [List.forall_mem_append, List.forall_mem_singleton]
    refine ⟨fun b hb => ?_, ?_⟩
    · have hnot : a.membership.article ≠ b.id := (hother b hb).symm
      simpa [Record.not_unlisted hlost, hnot] using h b hb
    · refine iff_of_false (fun hall => hall.2 rfl) ?_
      simpa [Record.not_unlisted hlost] using hfresh

theorem missing_iff_of (limit : Nat) (creations : List Creation) :
    ∀ a ∈ (of limit creations).store.articles.values,
      (∀ m ∈ (of limit creations).store.memberships, m.article ≠ a.id) ↔
        ∃ record ∈ (of limit creations).records, record.Unlisted a := by
  refine induction (P := fun _ h => ∀ a ∈ h.store.articles.values,
    (∀ m ∈ h.store.memberships, m.article ≠ a.id) ↔ ∃ record ∈ h.records, record.Unlisted a)
    ?_ ?_ creations
  · simp [empty, Store.empty]
  · intro creations c record s' ih hc
    rcases hc.memberships (numbered_of limit creations) with
      ⟨-, hvalues, hrows, hlost⟩ | ⟨a, linked, hid, hgiven, hvalues, hlisted⟩
    · simpa only [hvalues, hrows, exists_unlisted_concat, Record.not_unlisted hlost, or_false]
        using ih
    · have hother : ∀ b ∈ (of limit creations).store.articles.values, b.id ≠ a.id := by
        intro b hb
        rw [hid]
        exact Nat.ne_of_lt (Nat.lt_succ_of_le ((numbered_of limit creations).id_mem b hb).2)
      have hrow : ∀ m ∈ (of limit creations).store.memberships, m.article ≠ a.id := by
        intro m hm
        obtain ⟨b, hb, rfl⟩ := List.mem_map.mp ((sublist_of limit creations).subset hm)
        exact hother b hb
      have hfresh : ¬ ∃ r ∈ (of limit creations).records, r.Unlisted a := by
        rintro ⟨r, hr, hmem, -⟩
        have hle := articleIds_le limit creations hr hmem
        rw [hid] at hle
        exact absurd hle (Nat.not_succ_le_self _)
      rw [hvalues]
      exact missing_iff_concat linked hother hrow hfresh hgiven (hlisted.imp_left And.right) ih

/-- A creation can only lose the membership of the article that it has stored. -/
theorem exists_lostMembership (limit : Nat) (creations : List Creation) :
    ∀ record ∈ (of limit creations).records, ∃ lost : Option Membership,
      record.lostMemberships = lost.toList := by
  refine induction (P := fun _ h => ∀ record ∈ h.records, ∃ lost : Option Membership,
    record.lostMemberships = lost.toList) (by simp [empty]) ?_ creations
  intro creations c record s' ih hc
  rw [List.forall_mem_append, List.forall_mem_singleton]
  refine ⟨ih, ?_⟩
  rcases hc.memberships (numbered_of limit creations) with
    ⟨-, -, -, hlost⟩ | ⟨a, linked, -, -, -, ⟨-, -, hlost⟩ | ⟨-, hlost⟩⟩
  · exact ⟨none, hlost⟩
  · exact ⟨some a.membership, hlost⟩
  · exact ⟨none, hlost⟩

/-- Where one creation alone can have lost a membership, one article at most is without. -/
theorem eq_of_missing {limit : Nat} {creations : List Creation} {kept : List Record}
    {last : Option Record} (hrecords : (of limit creations).records = kept ++ last.toList)
    (hkept : ∀ record ∈ kept, record.lostMemberships = []) {a b : Article}
    (ha : a ∈ (of limit creations).store.articles.values)
    (hb : b ∈ (of limit creations).store.articles.values)
    (hmissing : ∀ m ∈ (of limit creations).store.memberships, m.article ≠ a.id)
    (hmissing' : ∀ m ∈ (of limit creations).store.memberships, m.article ≠ b.id) : a = b := by
  have hlost : ∀ {a : Article}, a ∈ (of limit creations).store.articles.values →
      (∀ m ∈ (of limit creations).store.memberships, m.article ≠ a.id) →
        ∃ record, last = some record ∧ a.membership ∈ record.lostMemberships := by
    intro a ha hmissing
    obtain ⟨record, hrecord, -, hmem⟩ := (missing_iff_of limit creations a ha).mp hmissing
    rw [hrecords] at hrecord
    rcases List.mem_append.mp hrecord with hrecord | hrecord
    · simp [hkept record hrecord] at hmem
    · exact ⟨record, Option.mem_toList.mp hrecord, hmem⟩
  obtain ⟨record, rfl, hmem⟩ := hlost ha hmissing
  obtain ⟨_, hsame, hmem'⟩ := hlost hb hmissing'
  obtain rfl := Option.some.inj hsame
  obtain ⟨lost, hlosts⟩ := exists_lostMembership limit creations record (by simp [hrecords])
  rw [hlosts, Option.mem_toList] at hmem hmem'
  have hid : a.id = b.id := congrArg Membership.article (Option.mem_unique hmem hmem')
  exact (numbered_of limit creations).keyed.eq_of_id ha hb hid

theorem registered_of (limit : Nat) (creations : List Creation) :
    (of limit creations).Registered where
  ascending := by
    refine List.Pairwise.sublist (sublist_of limit creations) (List.pairwise_map.mpr ?_)
    exact (numbered_of limit creations).keyed.pairwise_values
  stored := fun _ hm => List.mem_map.mp ((sublist_of limit creations).subset hm)
  missing_iff := missing_iff_of limit creations

/-- Where no membership was lost, every article has its own. -/
theorem membership_mem_of_not_lost {limit : Nat} {creations : List Creation}
    (h : ∀ record ∈ (of limit creations).records, record.lostMemberships = []) {a : Article}
    (ha : a ∈ (of limit creations).store.articles.values) :
    a.membership ∈ (of limit creations).store.memberships := by
  have hlisted : ∃ m ∈ (of limit creations).store.memberships, m.article = a.id := by
    by_contra hnot
    push Not at hnot
    obtain ⟨record, hrecord, hunlisted⟩ := (missing_iff_of limit creations a ha).mp hnot
    exact Record.not_unlisted (h record hrecord) a hunlisted
  obtain ⟨m, hm, hid⟩ := hlisted
  obtain ⟨b, hb, rfl⟩ := (registered_of limit creations).stored m hm
  rwa [(numbered_of limit creations).keyed.eq_of_id ha hb hid.symm]

/-- Every history registers its articles. Where no call is lost, the listed memberships part the
listed articles into groups, wherever the listings are cut off. -/
theorem registered_and_partitions (limit : Nat) (creations : List Creation) :
    (of limit creations).Registered ∧
      ((∀ c ∈ creations, c.faults = Faults.none) →
        Service.Partitions
          (Service.groupMembers ((of limit creations).store.firstMemberships limit))
          ((of limit creations).store.allArticles limit)) :=
  ⟨registered_of limit creations, partitions_of limit⟩

/-- Of three articles that all match, two are listed, in one group. -/
theorem registered_and_partitions_alike :
    let h := of 2 (List.replicate 3 ⟨"a", fun _ _ _ _ => some true, Faults.none⟩)
    h.store.articles.values.map (·.id) = [1, 2, 3] ∧
      (Service.groupMembers (h.store.firstMemberships 2)).entries = [(1, [1, 2])] ∧
      Service.Partitions (Service.groupMembers (h.store.firstMemberships 2))
        (h.store.allArticles 2) :=
  ⟨by decide, by decide, (registered_and_partitions 2 _).2 (by simp)⟩

end History

end NearDup
