import NearDup.Proofs.Creation.Linking

/-! What one creation can do to a store. A creation drafts an article, stores it, stores its
membership and links its peers, and can break off before each of these. Main statement: every run of
a creation ends in one of these ways. -/

namespace NearDup

/-- Articles are stored under their own numbers, and no number is beyond its counter. -/
structure Store.Numbered (s : Store) : Prop where
  keyed : s.Keyed
  id_mem : ∀ a ∈ s.articles.values, 1 ≤ a.id ∧ a.id ≤ s.articleCounter
  group_mem : ∀ a ∈ s.articles.values, 1 ≤ a.group ∧ a.group ≤ s.groupCounter

namespace Store.Numbered

variable {s : Store}

theorem find?_eq_none (h : s.Numbered) {id : ArticleId} (hid : s.articleCounter < id) :
    s.articles.find? id = none := by
  cases hfind : s.articles.find? id with
  | none => rfl
  | some a =>
    have hle := (h.id_mem a (IdMap.mem_values_of_find? hfind)).2
    rw [h.keyed.id_of_find? hfind] at hle
    exact absurd hid (Nat.not_lt.mpr hle)

theorem key_le (h : s.Numbered) {entry : ArticleId × Article} (he : entry ∈ s.articles.entries) :
    entry.1 ≤ s.articleCounter := by
  rw [h.keyed entry he]
  exact (h.id_mem _ (List.mem_map_of_mem he)).2

end Store.Numbered

/-- The store with an article under its number. -/
def Store.withArticle (s : Store) (a : Article) : Store :=
  { s with articles := s.articles.insert a.id a }

namespace Service

/-- The articles that a search comes to, given the answer to its listing. -/
def matchesIn (matcher : Matcher) (id : ArticleId) (content : String) :
    Except Error (List Article) → List Article
  | .error _ => []
  | .ok stored => (matching? matcher id content stored).getD []

/-- A search for the duplicates of an article in a store: the answer to its listing, and the peers
that it comes to. -/
structure Search (lossy : Prop) (limit : Nat) (matcher : Matcher) (id : ArticleId)
    (content : String) (s : Store) (listing : Except Error (List Article))
    (peers : List Article) : Prop where
  listed : listing = .ok (s.allArticles limit) ∨ lossy ∧ ∃ e, listing = .error e
  found : matchesIn matcher id content listing = peers

/-- The article that a creation is going to store, after these calls and with this store: it joins
the group of its last peer, or founds one. -/
inductive Draft (lossy : Prop) (limit : Nat) (matcher : Matcher) (content : String) (s : Store) :
    List Exchange → Article → Store → Prop where
  | joined {listing peers last}
      (hs : Search lossy limit matcher (s.articleCounter + 1) content s listing peers)
      (hlast : peers.getLast? = some last) :
      Draft lossy limit matcher content s
        [⟨.nextArticleId, .ok (s.articleCounter + 1)⟩, ⟨.allArticles, listing⟩]
        (.new (s.articleCounter + 1) content (peers.map (·.id)) last.group) s.nextArticleId.2
  | founded {listing}
      (hs : Search lossy limit matcher (s.articleCounter + 1) content s listing []) :
      Draft lossy limit matcher content s
        [⟨.nextArticleId, .ok (s.articleCounter + 1)⟩, ⟨.allArticles, listing⟩,
          ⟨.nextGroupId, .ok (s.groupCounter + 1)⟩]
        (.new (s.articleCounter + 1) content [] (s.groupCounter + 1))
        s.nextArticleId.2.nextGroupId.2

/-- What a creation can do: its calls, what comes of it, and the store after it. -/
inductive Creates (lossy : Prop) (limit : Nat) (matcher : Matcher) (content : String) (s : Store) :
    List Exchange → Except Error Article → Store → Prop where
  | unnumbered (h : lossy) (e) :
      Creates lossy limit matcher content s [⟨.nextArticleId, .error e⟩] (.error e) s
  | ungrouped {listing} (h : lossy) (e)
      (hs : Search lossy limit matcher (s.articleCounter + 1) content s listing []) :
      Creates lossy limit matcher content s
        [⟨.nextArticleId, .ok (s.articleCounter + 1)⟩, ⟨.allArticles, listing⟩,
          ⟨.nextGroupId, .error e⟩]
        (.error e) s.nextArticleId.2
  | unstored {calls a s₁} (h : lossy) (e) (hd : Draft lossy limit matcher content s calls a s₁) :
      Creates lossy limit matcher content s (calls ++ [⟨.createArticle a, .error e⟩]) (.error e) s₁
  | unlisted {calls a s₁} (h : lossy) (e) (hd : Draft lossy limit matcher content s calls a s₁) :
      Creates lossy limit matcher content s
        (calls ++ [⟨.createArticle a, .ok ()⟩, ⟨.createMembership ⟨a.group, a.id⟩, .error e⟩])
        (.error e) (s₁.withArticle a)
  | linked {calls a s₁ links} (hd : Draft lossy limit matcher content s calls a s₁)
      (habout : ∀ x ∈ links, ∃ peer ∈ a.duplicateIds, x.peer? = some peer)
      (hlinks : ¬ lossy → ∀ x ∈ links, x.failed = false) :
      Creates lossy limit matcher content s
        (calls ++ [⟨.createArticle a, .ok ()⟩, ⟨.createMembership ⟨a.group, a.id⟩, .ok ()⟩] ++
          links)
        (.ok a)
        (((s₁.withArticle a).addMembership ⟨a.group, a.id⟩).link
          (reached links a.duplicateIds) a.id)

variable {lossy : Prop} {limit : Nat} {matcher : Matcher} {content : String}

/-! ### The search -/

theorem matching?_sublist {id : ArticleId} {stored found : List Article}
    (h : matching? matcher id content stored = some found) : found.Sublist stored := by
  induction stored generalizing found with
  | nil => simp_all [matching?]
  | cons a stored ih =>
    simp only [matching?, Option.bind_eq_bind, Option.bind_eq_some_iff] at h
    obtain ⟨isMatch, -, rest, hrest, hfound⟩ := h
    obtain rfl := Option.some.inj hfound
    cases isMatch with
    | true => exact (ih hrest).cons_cons a
    | false => exact (ih hrest).cons a

theorem Search.sublist {s : Store} {id : ArticleId} {listing : Except Error (List Article)}
    {peers : List Article} (h : Search lossy limit matcher id content s listing peers) :
    peers.Sublist s.articles.values := by
  obtain ⟨hlisted, rfl⟩ := h
  rcases hlisted with rfl | ⟨-, e, rfl⟩
  · change ((matching? matcher id content (s.allArticles limit)).getD []).Sublist _
    cases hm : matching? matcher id content (s.allArticles limit) with
    | none => exact List.nil_sublist _
    | some found => exact (matching?_sublist hm).trans (s.allArticles_isPrefix limit).sublist
  · simp [matchesIn]

theorem getD_duplicatesAmong? (id : ArticleId) (stored : List Article) :
    (duplicatesAmong? matcher id content stored).getD .none =
      let peers := (matching? matcher id content stored).getD []
      ⟨peers.map (·.id), peers.getLast?.map (·.group)⟩ := by
  unfold duplicatesAmong?
  cases matching? matcher id content stored <;> rfl

theorem findDuplicates_runs {s s' : Store} {id : ArticleId} {calls : List Exchange}
    {found : Duplicates}
    (h : (findDuplicates matcher id content).Runs lossy limit s calls found s') :
    ∃ listing peers, Search lossy limit matcher id content s listing peers ∧
      calls = [⟨.allArticles, listing⟩] ∧
      found = ⟨peers.map (·.id), peers.getLast?.map (·.group)⟩ ∧ s' = s := by
  obtain ⟨listing, s₁, rest, hlist, rfl, hrest⟩ := Program.Runs.ask_bind h
  rcases hlist.of_perform rfl with ⟨rfl, rfl⟩ | ⟨hlossy, rfl, e, rfl⟩
  · obtain ⟨rfl, rfl, rfl⟩ := Program.runs_done_iff.mp hrest
    exact ⟨_, _, ⟨.inl rfl, rfl⟩, rfl, getD_duplicatesAmong? _ _, rfl⟩
  · obtain ⟨rfl, rfl, rfl⟩ := Program.runs_done_iff.mp hrest
    exact ⟨_, [], ⟨.inr ⟨hlossy, e, rfl⟩, rfl⟩, rfl, rfl, rfl⟩

/-! ### The draft -/

namespace Draft

variable {s s₁ : Store} {calls : List Exchange} {a : Article}

theorem id_eq (h : Draft lossy limit matcher content s calls a s₁) :
    a.id = s.articleCounter + 1 := by
  cases h <;> rfl

theorem articles_eq (h : Draft lossy limit matcher content s calls a s₁) :
    s₁.articles = s.articles := by
  cases h <;> rfl

theorem memberships_eq (h : Draft lossy limit matcher content s calls a s₁) :
    s₁.memberships = s.memberships := by
  cases h <;> rfl

theorem articleCounter_eq (h : Draft lossy limit matcher content s calls a s₁) :
    s₁.articleCounter = a.id := by
  cases h <;> rfl

/-- A draft lists stored articles as its duplicates, by ascending number. It is unique if there are
none, and then it has a new group; else it is in the group of the last one. -/
theorem peers (h : Draft lossy limit matcher content s calls a s₁) :
    ∃ peers, peers.Sublist s.articles.values ∧ a.duplicateIds = peers.map (·.id) ∧
      ((peers = [] ∧ a.isUnique = true ∧ a.group = s.groupCounter + 1 ∧
          s₁.groupCounter = s.groupCounter + 1) ∨
        ∃ last, peers.getLast? = some last ∧ a.isUnique = false ∧ a.group = last.group ∧
          s₁.groupCounter = s.groupCounter) := by
  cases h with
  | @joined listing peers last hs hlast =>
    refine ⟨peers, hs.sublist, rfl, .inr ⟨last, hlast, ?_, rfl, rfl⟩⟩
    cases peers with
    | nil => simp at hlast
    | cons peer peers => rfl
  | founded hs => exact ⟨[], List.nil_sublist _, rfl, .inl ⟨rfl, rfl, rfl, rfl⟩⟩

theorem groupCounter_le (h : Draft lossy limit matcher content s calls a s₁) :
    s.groupCounter ≤ s₁.groupCounter := by
  cases h with
  | joined => exact Nat.le_refl _
  | founded => exact Nat.le_succ _

/-- The duplicates of a draft are stored articles, each listed once. -/
theorem duplicateIds_nodup (h : Draft lossy limit matcher content s calls a s₁) (hk : s.Keyed) :
    a.duplicateIds.Nodup := by
  obtain ⟨peers, hsub, hids, -⟩ := h.peers
  rw [hids]
  exact List.pairwise_map.mpr ((hk.pairwise_values.sublist hsub).imp Nat.ne_of_lt)

theorem find?_ne_none (h : Draft lossy limit matcher content s calls a s₁) (hk : s.Keyed)
    {peer : ArticleId} (hpeer : peer ∈ a.duplicateIds) : s.articles.find? peer ≠ none := by
  obtain ⟨peers, hsub, hids, -⟩ := h.peers
  rw [hids] at hpeer
  obtain ⟨b, hb, rfl⟩ := List.mem_map.mp hpeer
  simp [hk.find?_of_mem (hsub.subset hb)]

theorem find?_id (h : Draft lossy limit matcher content s calls a s₁) (hs : s.Numbered) :
    s₁.articles.find? a.id = none := by
  rw [h.articles_eq]
  exact hs.find?_eq_none (h.id_eq ▸ Nat.lt_succ_self _)

theorem keyed_addMembership (h : Draft lossy limit matcher content s calls a s₁)
    (hs : s.Numbered) (m : Membership) : ((s₁.withArticle a).addMembership m).Keyed := by
  intro entry he
  change entry ∈ (s₁.articles.insert a.id a).entries at he
  rw [h.articles_eq] at he
  rcases IdMap.mem_insertEntry he with rfl | he
  · rfl
  · exact hs.keyed entry he

theorem find?_insert_ne_none (h : Draft lossy limit matcher content s calls a s₁)
    (hs : s.Numbered) {peer : ArticleId} (hpeer : peer ∈ a.duplicateIds) :
    (s₁.articles.insert a.id a).find? peer ≠ none := by
  have hstored : s₁.articles.find? peer ≠ none := h.articles_eq ▸ h.find?_ne_none hs.keyed hpeer
  have hne : peer ≠ a.id := by
    rintro rfl
    exact hstored (h.find?_id hs)
  rwa [IdMap.find?_insert_of_ne _ _ hne]

theorem lt_id (h : Draft lossy limit matcher content s calls a s₁) (hs : s.Numbered) {b : Article}
    (hb : b ∈ s.articles.values) : b.id < a.id := by
  rw [h.id_eq]
  exact Nat.lt_succ_of_le (hs.id_mem b hb).2

theorem lt_id_of_mem_duplicateIds (h : Draft lossy limit matcher content s calls a s₁)
    (hs : s.Numbered) {peer : ArticleId} (hpeer : peer ∈ a.duplicateIds) : peer < a.id := by
  obtain ⟨peers, hsub, hids, -⟩ := h.peers
  rw [hids] at hpeer
  obtain ⟨b, hb, rfl⟩ := List.mem_map.mp hpeer
  exact h.lt_id hs (hsub.subset hb)

theorem group_mem (h : Draft lossy limit matcher content s calls a s₁) (hs : s.Numbered) :
    1 ≤ a.group ∧ a.group ≤ s₁.groupCounter := by
  obtain ⟨peers, hsub, -, ⟨-, -, hgroup, hcounter⟩ | ⟨last, hlast, -, hgroup, hcounter⟩⟩ := h.peers
  · rw [hgroup, hcounter]
    exact ⟨Nat.succ_pos _, Nat.le_refl _⟩
  · rw [hgroup, hcounter]
    exact hs.group_mem last (hsub.subset (List.mem_of_getLast? hlast))

theorem values_withArticle (h : Draft lossy limit matcher content s calls a s₁)
    (hs : s.Numbered) : (s₁.withArticle a).articles.values = s.articles.values ++ [a] := by
  rw [Store.withArticle, h.articles_eq]
  apply IdMap.values_insert_of_lt
  intro entry he
  rw [h.id_eq]
  exact Nat.lt_succ_of_le (hs.key_le he)

/-- Links with peers leave the new article as it is. -/
theorem values_link (h : Draft lossy limit matcher content s calls a s₁) (hs : s.Numbered)
    {peers : List ArticleId} (hpeers : peers ⊆ a.duplicateIds) (m : Membership) :
    (((s₁.withArticle a).addMembership m).link peers a.id).articles.values =
      s.articles.values.map (Article.link peers a.id) ++ [a] := by
  have hself : a.id ∉ peers := fun hmem =>
    absurd (h.lt_id_of_mem_duplicateIds hs (hpeers hmem)) (Nat.lt_irrefl _)
  change ((s₁.withArticle a).articles.map _).values = _
  simp [h.values_withArticle hs, Article.link_of_notMem _ hself]

end Draft

/-! ### The creation -/

theorem store_runs {s s₁ s' : Store} {calls rest : List Exchange} {a : Article}
    {result : Except Error Article} (hs : s.Numbered)
    (hd : Draft lossy limit matcher content s calls a s₁)
    (h : (store a).Runs lossy limit s₁ rest result s') :
    Creates lossy limit matcher content s (calls ++ rest) result s' := by
  obtain ⟨_, _, rest, hcreate, rfl, hrest⟩ := Program.Runs.ask_bind h
  rcases hcreate.of_perform (Store.perform_createArticle limit (hd.find?_id hs)) with
    ⟨rfl, rfl⟩ | ⟨hlossy, rfl, e, rfl⟩
  · obtain ⟨_, _, rest, hlist, rfl, hrest⟩ := Program.Runs.ask_bind hrest
    rcases hlist.of_perform rfl with ⟨rfl, rfl⟩ | ⟨hlossy, rfl, e, rfl⟩
    · obtain ⟨_, _, links, last, hlinks, hdone, rfl⟩ := Program.Runs.bind hrest
      obtain ⟨rfl, rfl, rfl⟩ := Program.runs_done_iff.mp hdone
      have hk := hd.keyed_addMembership hs ⟨a.group, a.id⟩
      obtain ⟨habout, rfl⟩ := linkToAll_runs hk (hd.duplicateIds_nodup hs.keyed) hlinks
      simpa using Creates.linked hd habout fun hlossy =>
        linkToAll_succeeds hlossy hk (fun _ hpeer => hd.find?_insert_ne_none hs hpeer) hlinks
    · obtain ⟨rfl, rfl, rfl⟩ := Program.runs_done_iff.mp hrest
      exact .unlisted hlossy e hd
  · obtain ⟨rfl, rfl, rfl⟩ := Program.runs_done_iff.mp hrest
    exact .unstored hlossy e hd

/-- A creation breaks off, or drafts an article and stores it. -/
theorem create_drafts {s s' : Store} {calls : List Exchange} {result : Except Error Article}
    (h : (create matcher content).Runs lossy limit s calls result s') :
    (∃ e, result = .error e ∧ Creates lossy limit matcher content s calls (.error e) s') ∨
      ∃ first rest a s₁, Draft lossy limit matcher content s first a s₁ ∧ calls = first ++ rest ∧
        (store a).Runs lossy limit s₁ rest result s' := by
  obtain ⟨_, _, rest, hnumber, rfl, hrest⟩ := Program.Runs.ask_bind h
  rcases hnumber.of_perform rfl with ⟨rfl, rfl⟩ | ⟨hlossy, rfl, e, rfl⟩
  · obtain ⟨_, _, first, rest, hfind, hrest, rfl⟩ := Program.Runs.bind hrest
    obtain ⟨listing, peers, hsearch, rfl, rfl, rfl⟩ := findDuplicates_runs hfind
    obtain ⟨_, _, first, rest, hgroup, hrest, rfl⟩ := Program.Runs.bind hrest
    cases hlast : peers.getLast? with
    | some last =>
      simp only [groupFor, hlast] at hgroup
      obtain ⟨rfl, rfl, rfl⟩ := Program.runs_done_iff.mp hgroup
      exact .inr ⟨_, rest, _, _, .joined ⟨hsearch.listed, hsearch.found⟩ hlast, rfl, hrest⟩
    | none =>
      obtain rfl := List.getLast?_eq_none_iff.mp hlast
      obtain ⟨_, _, none, hnumber, rfl, hdone⟩ := Program.Runs.ask_bind (f := .done) hgroup
      obtain ⟨rfl, rfl, rfl⟩ := Program.runs_done_iff.mp hdone
      rcases hnumber.of_perform rfl with ⟨rfl, rfl⟩ | ⟨hlossy, rfl, e, rfl⟩
      · exact .inr ⟨_, rest, _, _, .founded ⟨hsearch.listed, hsearch.found⟩, rfl, hrest⟩
      · obtain ⟨rfl, rfl, rfl⟩ := Program.runs_done_iff.mp hrest
        exact .inl ⟨e, rfl, .ungrouped hlossy e ⟨hsearch.listed, hsearch.found⟩⟩
  · obtain ⟨rfl, rfl, rfl⟩ := Program.runs_done_iff.mp hrest
    exact .inl ⟨e, rfl, .unnumbered hlossy e⟩

/-- A run of a creation on a store with sound numbers is one of those that are described. -/
theorem create_runs {s s' : Store} {calls : List Exchange} {result : Except Error Article}
    (hs : s.Numbered) (h : (create matcher content).Runs lossy limit s calls result s') :
    Creates lossy limit matcher content s calls result s' := by
  rcases create_drafts h with ⟨e, rfl, hcreates⟩ | ⟨first, rest, a, s₁, hd, rfl, hstore⟩
  · exact hcreates
  · exact store_runs hs hd hstore

/-! ### What a creation leaves -/

namespace Creates

variable {s s' : Store} {calls : List Exchange} {result : Except Error Article}

/-- The articles after a creation: those before it, or these with the drafted article linked to its
peers and stored at the end. A peer is left out only after a failure. -/
theorem values (hs : s.Numbered)
    (h : Creates lossy limit matcher content s calls result s') :
    (s'.articles.values = s.articles.values ∧ s.articleCounter ≤ s'.articleCounter ∧
        s.groupCounter ≤ s'.groupCounter) ∨
      ∃ first a s₁ linked, Draft lossy limit matcher content s first a s₁ ∧ first <+: calls ∧
        s'.articleCounter = a.id ∧ s'.groupCounter = s₁.groupCounter ∧
        linked ⊆ a.duplicateIds ∧
        s'.articles.values = s.articles.values.map (Article.link linked a.id) ++ [a] ∧
        ∀ peer ∈ a.duplicateIds, peer ∉ linked →
          ∃ x ∈ calls, x.method ∈ Method.announcing ∧ x.failed = true := by
  cases h with
  | unnumbered => exact .inl ⟨rfl, Nat.le_refl _, Nat.le_refl _⟩
  | ungrouped => exact .inl ⟨rfl, Nat.le_succ _, Nat.le_refl _⟩
  | unstored _ e hd =>
    refine .inl ⟨by rw [hd.articles_eq], ?_, hd.groupCounter_le⟩
    rw [hd.articleCounter_eq, hd.id_eq]
    exact Nat.le_succ _
  | @unlisted first a s₁ _ e hd =>
    refine .inr ⟨first, a, s₁, [], hd, List.prefix_append _ _, hd.articleCounter_eq, rfl,
      List.nil_subset _, ?_, ?_⟩
    · rw [hd.values_withArticle hs, Article.map_link_nil]
    · exact fun _ _ _ => ⟨⟨.createMembership ⟨a.group, a.id⟩, .error e⟩, by simp,
        by simp [Method.announcing], rfl⟩
  | @linked first a s₁ links hd =>
    refine .inr ⟨first, a, s₁, reached links a.duplicateIds, hd, ?_, hd.articleCounter_eq, rfl,
      reached_subset _ _, hd.values_link hs (reached_subset _ _) _, fun peer hpeer hnot => ?_⟩
    · rw [List.append_assoc]
      exact List.prefix_append _ _
    · obtain ⟨x, hx, hmethod, hfailed⟩ := exists_failed_of_notMem_reached hpeer hnot
      exact ⟨x, List.mem_append_right _ hx, hmethod, hfailed⟩

theorem keyed (hs : s.Numbered) (h : Creates lossy limit matcher content s calls result s') :
    s'.Keyed := by
  cases h with
  | unnumbered | ungrouped => exact hs.keyed
  | unstored _ e hd =>
    intro entry he
    exact hs.keyed entry (hd.articles_eq ▸ he)
  | @unlisted _ a _ _ e hd => exact hd.keyed_addMembership hs ⟨a.group, a.id⟩
  | @linked _ a _ links hd => exact (hd.keyed_addMembership hs ⟨a.group, a.id⟩).link _ _

theorem numbered (hs : s.Numbered) (h : Creates lossy limit matcher content s calls result s') :
    s'.Numbered := by
  rcases h.values hs with
    ⟨hvalues, hid, hgroup⟩ | ⟨first, a, s₁, linked, hd, -, hid, hgroup, -, hvalues, -⟩
  · refine ⟨h.keyed hs, ?_, ?_⟩ <;> rw [hvalues]
    · exact fun b hb => ⟨(hs.id_mem b hb).1, Nat.le_trans (hs.id_mem b hb).2 hid⟩
    · exact fun b hb => ⟨(hs.group_mem b hb).1, Nat.le_trans (hs.group_mem b hb).2 hgroup⟩
  · refine ⟨h.keyed hs, ?_, ?_⟩ <;> rw [hvalues]
    · intro b hb
      rcases List.mem_append.mp hb with hb | hb
      · obtain ⟨c, hc, rfl⟩ := List.mem_map.mp hb
        rw [hid, Article.link_id]
        exact ⟨(hs.id_mem c hc).1, Nat.le_of_lt (hd.lt_id hs hc)⟩
      · obtain rfl := List.mem_singleton.mp hb
        rw [hid]
        exact ⟨hd.id_eq ▸ Nat.succ_pos _, Nat.le_refl _⟩
    · intro b hb
      rcases List.mem_append.mp hb with hb | hb
      · obtain ⟨c, hc, rfl⟩ := List.mem_map.mp hb
        rw [hgroup, Article.link_group]
        exact ⟨(hs.group_mem c hc).1, Nat.le_trans (hs.group_mem c hc).2 hd.groupCounter_le⟩
      · obtain rfl := List.mem_singleton.mp hb
        rw [hgroup]
        exact hd.group_mem hs

end Creates

end Service

end NearDup
