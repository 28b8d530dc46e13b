import NearDup.Proofs.Creation.Groups

/-! Creations of given contents by a judgement that never breaks down, where no call is lost. Main
statement: each succeeds, and the store after any number of them is a function of the contents, the
judgement and the limit of listings. -/

namespace NearDup

/-- Contents by the numbers of their articles, which of them match, and how many articles a new one
is compared with. -/
structure Feed where
  limit : Nat
  content : ArticleId → String
  similar : ArticleId → String → ArticleId → String → Bool

namespace Feed

variable (f : Feed)

/-- Whether an article matches an earlier one. -/
def isMatch (id other : ArticleId) : Bool :=
  f.similar id (f.content id) other (f.content other)

/-- The earlier articles that an article matches, among those within the limit. -/
def earlier (id : ArticleId) : List ArticleId :=
  (List.range' 1 (id - 1)).filter fun other => f.isMatch id other && decide (other ≤ f.limit)

/-- The later articles that match an article, among the first `n`. -/
def later (n : Nat) (id : ArticleId) : List ArticleId :=
  (List.range' (id + 1) (n - id)).filter fun other => f.isMatch other id

def isFounder (id : ArticleId) : Bool := (f.earlier id).isEmpty

/-- How many of the first `n` articles found a group. -/
def founders (n : Nat) : Nat := ((List.range' 1 n).filter f.isFounder).length

theorem mem_earlier {id other : ArticleId} : other ∈ f.earlier id ↔
    1 ≤ other ∧ other < id ∧ f.isMatch id other = true ∧ other ≤ f.limit := by
  simp only [earlier, List.mem_filter, List.mem_range'_1, Bool.and_eq_true, decide_eq_true_eq]
  grind

/-- The group of an article: a new one if it founds one, or else that of the last earlier article
that it matches. -/
def group (id : ArticleId) : GroupId :=
  match h : (f.earlier id).max? with
  | none => f.founders (id - 1) + 1
  | some last => group last
termination_by id
decreasing_by exact (f.mem_earlier.mp (List.max?_mem h)).2.1

/-- The duplicates that are stored for an article once there are `n` articles. Later ones are only
added to an article that is not a founder, and that is within the limit. -/
def duplicateIds (n : Nat) (id : ArticleId) : List ArticleId :=
  if f.isFounder id = true ∨ f.limit < id then f.earlier id else f.earlier id ++ f.later n id

/-- An article as it is stored once there are `n` articles. -/
def article (n : Nat) (id : ArticleId) : Article :=
  ⟨id, f.content id, f.duplicateIds n id, f.isFounder id, f.group id⟩

/-- An article as it is created. -/
def created (id : ArticleId) : Article :=
  .new id (f.content id) (f.earlier id) (f.group id)

/-- The store with the first `n` articles. -/
def store (n : Nat) : Store where
  articleCounter := n
  groupCounter := f.founders n
  articles := ⟨(List.range' 1 n).map fun id => (id, f.article n id),
    List.pairwise_map.mpr List.pairwise_lt_range'⟩
  memberships := (List.range' 1 n).map fun id => ⟨f.group id, id⟩

theorem entries_store (n : Nat) : (f.store n).articles.entries =
    (List.range' 1 n).map fun id => (id, f.article n id) := rfl

theorem values_store (n : Nat) : (f.store n).articles.values =
    (List.range' 1 n).map (f.article n) := by
  simp [IdMap.values, entries_store]

theorem memberships_store (n : Nat) : (f.store n).memberships =
    (List.range' 1 n).map fun id => ⟨f.group id, id⟩ := rfl

def creation (id : ArticleId) : Creation :=
  ⟨f.content id, fun a c b d => some (f.similar a c b d), Faults.none⟩

/-! ### The lists of duplicates -/

theorem later_succ {n : Nat} {id : ArticleId} (h : id ≤ n) : f.later (n + 1) id =
    f.later n id ++ if f.isMatch (n + 1) id then [n + 1] else [] := by
  have hcount : n + 1 - id = n - id + 1 := Nat.succ_sub h
  have hlast : id + 1 + (n - id) = n + 1 := by grind
  rw [later, hcount, List.range'_1_concat, hlast, List.filter_append, later]
  cases hm : f.isMatch (n + 1) id <;> simp [hm]

theorem later_self (n : Nat) : f.later n n = [] := by
  simp [later]

theorem founders_succ (n : Nat) : f.founders (n + 1) =
    f.founders n + if f.isFounder (n + 1) then 1 else 0 := by
  rw [founders, range'_one_succ, List.filter_append, List.length_append, founders]
  cases hu : f.isFounder (n + 1) <;> simp [hu]

theorem take_range' (limit n : Nat) :
    (List.range' 1 n).take limit = (List.range' 1 n).filter fun id => decide (id ≤ limit) := by
  induction n with
  | zero => simp
  | succ n ih =>
    rw [range'_one_succ, List.take_append, List.filter_append, ← ih, List.length_range']
    by_cases h : n + 1 ≤ limit
    · have hroom : 1 ≤ limit - n := Nat.le_sub_of_add_le (Nat.add_comm n 1 ▸ h)
      rw [List.take_of_length_le (l := [n + 1]) hroom]
      simp [h]
    · have hfull : limit - n = 0 := Nat.sub_eq_zero_of_le (Nat.not_lt.mp h)
      simp [hfull, h]

theorem pairwise_earlier (id : ArticleId) : (f.earlier id).Pairwise (· < ·) :=
  List.Pairwise.sublist List.filter_sublist List.pairwise_lt_range'

/-- A listing of the first articles holds those that the next one is compared with. -/
theorem filter_allArticles (n : Nat) :
    ((f.store n).allArticles f.limit).filter
        (fun a => f.similar (n + 1) (f.content (n + 1)) a.id a.content) =
      (f.earlier (n + 1)).map (f.article n) := by
  rw [Store.allArticles, values_store, ← List.map_take, take_range', List.filter_map, List.filter_filter]
  rfl

/-- What a new article adds to the duplicates of one before it. -/
theorem duplicateIds_succ {n : Nat} {id : ArticleId} (hid : id ∈ List.range' 1 n) :
    f.duplicateIds (n + 1) id =
      if id ∈ f.earlier (n + 1) ∧ f.isFounder id = false then f.duplicateIds n id ++ [n + 1]
      else f.duplicateIds n id := by
  obtain ⟨hpos, hlt⟩ := List.mem_range'_1.mp hid
  have hle : id ≤ n := by grind
  have hmem : id ∈ f.earlier (n + 1) ↔ f.isMatch (n + 1) id = true ∧ id ≤ f.limit := by
    rw [mem_earlier]
    exact ⟨fun h => h.2.2, fun h => ⟨hpos, Nat.lt_succ_of_le hle, h⟩⟩
  simp only [duplicateIds, f.later_succ hle, hmem]
  by_cases hfounder : f.isFounder id = true
  · simp [hfounder]
  · by_cases hlimit : f.limit < id
    · simp [hfounder, hlimit, Nat.not_le.mpr hlimit]
    · cases hmatch : f.isMatch (n + 1) id <;> simp [hfounder, hlimit, Nat.not_lt.mp hlimit]

/-- One more article is linked to those before it. -/
theorem link_article {n : Nat} {id : ArticleId} (hid : id ∈ List.range' 1 n) :
    (f.article n id).link (f.earlier (n + 1)) (n + 1) = f.article (n + 1) id := by
  rw [Article.link_eq, article, article, f.duplicateIds_succ hid]

/-- An article is stored as it is created, since it has no later ones. -/
theorem article_self (n : Nat) : f.article n n = f.created n := by
  have hids : f.duplicateIds n n = f.earlier n := by
    simp [duplicateIds, later_self]
  rw [article, hids]
  rfl

/-! ### The groups -/

theorem group_of_isFounder {id : ArticleId} (h : f.isFounder id = true) :
    f.group id = f.founders (id - 1) + 1 := by
  have hnone : (f.earlier id).max? = none := List.max?_eq_none_iff.mpr (List.isEmpty_iff.mp h)
  rw [group]
  split
  · rfl
  · simp_all

theorem group_of_getLast? {id last : ArticleId} (h : (f.earlier id).getLast? = some last) :
    f.group id = f.group last := by
  have hmax : (f.earlier id).max? = some last :=
    List.max?_eq_some_iff.mpr ⟨List.mem_of_getLast? h, le_of_getLast? (f.pairwise_earlier id) h⟩
  rw [group]
  split
  · simp_all
  · simp_all

/-! ### One more creation -/

variable {lossy : Prop} {n : Nat}

theorem peers_of_search (hlossy : ¬ lossy) {listing : Except Error (List Article)}
    {peers : List Article} (h : Service.Search lossy f.limit (f.creation (n + 1)).matcher (n + 1)
      (f.content (n + 1)) (f.store n) listing peers) :
    peers = (f.earlier (n + 1)).map (f.article n) := by
  obtain ⟨hlisted, rfl⟩ := h
  rcases hlisted with rfl | ⟨hlost, -⟩
  · rw [← f.filter_allArticles, Service.matchesIn, creation, matching?_total]
    rfl
  · exact absurd hlost hlossy

theorem draft_eq (hlossy : ¬ lossy) {calls : List Exchange} {a : Article} {s₁ : Store}
    (h : Service.Draft lossy f.limit (f.creation (n + 1)).matcher (f.content (n + 1)) (f.store n)
      calls a s₁) :
    a = f.created (n + 1) ∧
      s₁ = { f.store n with articleCounter := n + 1, groupCounter := f.founders (n + 1) } := by
  cases h with
  | @joined listing peers last hs hlast =>
    have hpeers := f.peers_of_search hlossy hs
    have hids : peers.map (·.id) = f.earlier (n + 1) := by
      rw [hpeers, List.map_map]
      exact List.map_id _
    rw [hpeers, List.getLast?_map] at hlast
    obtain ⟨id, hid, rfl⟩ := Option.map_eq_some_iff.mp hlast
    have hne : f.earlier (n + 1) ≠ [] := List.ne_nil_of_mem (List.mem_of_getLast? hid)
    have hfounder : f.isFounder (n + 1) = false := by
      simp [isFounder, hne]
    refine ⟨?_, ?_⟩
    · rw [hids, created, f.group_of_getLast? hid]
      rfl
    · rw [founders_succ, hfounder]
      rfl
  | founded hs =>
    have hnil : f.earlier (n + 1) = [] := by
      simpa using (f.peers_of_search hlossy hs).symm
    have hfounder : f.isFounder (n + 1) = true := by
      simp [isFounder, hnil]
    refine ⟨?_, ?_⟩
    · rw [created, f.group_of_isFounder hfounder, hnil]
      rfl
    · rw [founders_succ, hfounder]
      rfl

theorem store_succ (n : Nat) :
    ((({ f.store n with articleCounter := n + 1, groupCounter := f.founders (n + 1) } :
      Store).withArticle (f.created (n + 1))).addMembership ⟨f.group (n + 1), n + 1⟩).link
        (f.earlier (n + 1)) (n + 1) = f.store (n + 1) := by
  have hentries : ((f.store n).articles.insert (n + 1) (f.created (n + 1))).entries =
      (f.store n).articles.entries ++ [(n + 1, f.created (n + 1))] := by
    apply IdMap.entries_insert_of_lt
    intro entry he
    obtain ⟨id, hid, rfl⟩ := List.mem_map.mp he
    exact Nat.add_comm 1 n ▸ (List.mem_range'_1.mp hid).2
  have hself : n + 1 ∉ f.earlier (n + 1) := fun h =>
    absurd (f.mem_earlier.mp h).2.1 (Nat.lt_irrefl _)
  have harticles : ((f.store n).articles.insert (n + 1) (f.created (n + 1))).map
      (Article.link (f.earlier (n + 1)) (n + 1)) = (f.store (n + 1)).articles := by
    apply IdMap.ext
    rw [IdMap.entries_map, hentries, entries_store, entries_store, range'_one_succ]
    simp only [List.map_append, List.map_map]
    refine congr (congrArg HAppend.hAppend (List.map_congr_left fun id hid => ?_)) ?_
    · simp [f.link_article hid]
    · have hlink : (f.created (n + 1)).link (f.earlier (n + 1)) (n + 1) = f.created (n + 1) :=
        Article.link_of_notMem (n + 1) hself
      simp [hlink, article_self]
  have hrows : (f.store n).memberships ++ [⟨f.group (n + 1), n + 1⟩] =
      (f.store (n + 1)).memberships := by
    rw [memberships_store, memberships_store, range'_one_succ, List.map_append]
    rfl
  simp only [Store.link, Store.addMembership, Store.withArticle]
  exact congr (congrArg _ harticles) hrows

theorem creates_eq (hlossy : ¬ lossy) {calls : List Exchange} {result : Except Error Article}
    {s' : Store} (h : Service.Creates lossy f.limit (f.creation (n + 1)).matcher
      (f.content (n + 1)) (f.store n) calls result s') :
    result = .ok (f.created (n + 1)) ∧ s' = f.store (n + 1) := by
  cases h with
  | unnumbered hlost => exact absurd hlost hlossy
  | ungrouped hlost => exact absurd hlost hlossy
  | unstored hlost => exact absurd hlost hlossy
  | unlisted hlost => exact absurd hlost hlossy
  | @linked first a s₁ links hd habout hlinks =>
    obtain ⟨rfl, rfl⟩ := f.draft_eq hlossy hd
    rw [reached_eq_self _ (hlinks hlossy)]
    exact ⟨rfl, f.store_succ n⟩

/-! ### Any number of creations -/

theorem history_eq (n : Nat) :
    (History.of f.limit ((List.range' 1 n).map f.creation)).store = f.store n ∧
      (History.of f.limit ((List.range' 1 n).map f.creation)).records.map (·.result) =
        (List.range' 1 n).map fun id => .ok (f.created id) := by
  induction n with
  | zero => exact ⟨rfl, rfl⟩
  | succ n ih =>
    obtain ⟨hstore, hresults⟩ := ih
    have hs := History.numbered_of f.limit ((List.range' 1 n).map f.creation)
    rw [hstore] at hs
    have hc := f.creates_eq Faults.not_lossy_none ((f.creation (n + 1)).run_creates f.limit hs)
    rw [range'_one_succ, List.map_append, List.map_singleton, History.of_concat]
    simp only [History.extend, hstore]
    refine ⟨hc.2, ?_⟩
    rw [List.map_append, hresults, List.map_singleton, hc.1, List.map_append]
    rfl

/-- The feed of a list of contents. -/
def ofContents (limit : Nat) (similar : ArticleId → String → ArticleId → String → Bool)
    (contents : List String) : Feed :=
  ⟨limit, fun id => contents.getD (id - 1) "", similar⟩

theorem map_creation_ofContents (limit : Nat)
    (similar : ArticleId → String → ArticleId → String → Bool) (contents : List String) :
    (List.range' 1 contents.length).map (ofContents limit similar contents).creation =
      contents.map fun content =>
        ⟨content, fun a c b d => some (similar a c b d), Faults.none⟩ := by
  apply List.ext_getElem
  · simp
  · intro i hi hi'
    have hlt : i < contents.length := by simpa using hi'
    simp [creation, ofContents, hlt]

/-- Creations of any contents over an empty store succeed where no call is lost and no comparison
breaks down, and leave the store that the contents, the judgement and the limit determine. -/
theorem history_ofContents (limit : Nat)
    (similar : ArticleId → String → ArticleId → String → Bool) (contents : List String) :
    let f := ofContents limit similar contents
    let h := History.of limit (contents.map fun content =>
      ⟨content, fun a c b d => some (similar a c b d), Faults.none⟩)
    h.records.map (·.result) = (List.range' 1 contents.length).map (fun id => .ok (f.created id)) ∧
      h.store = f.store contents.length := by
  intro f h
  obtain ⟨hstore, hresults⟩ := f.history_eq contents.length
  rw [map_creation_ofContents] at hstore hresults
  exact ⟨hresults, hstore⟩

/-- The fourth article is beyond the limit, so that the sixth does not find it. -/
example : ((ofContents 3 (fun a _ b _ => (a + b) % 2 == 0) (List.replicate 6 "a")).store
      6).articles.values.map (fun a => (a.duplicateIds, a.group)) =
    [([], 1), ([], 2), ([1, 5], 1), ([2], 2), ([1, 3], 1), ([2], 2)] := by
  cbv

end Feed

end NearDup
