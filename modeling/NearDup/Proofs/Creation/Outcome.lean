import NearDup.Proofs.Creation.Growth
import NearDup.Proofs.Creation.Memberships
import NearDup.Proofs.Storage.Performable

/-! What a creation leaves, whichever of its calls fail. Main statement: it fails with the error of
the first call that it cannot do without, and then nothing that was stored before has changed; else
each peer is linked or left as it was by its own two calls, whatever becomes of the others. -/

namespace NearDup

/-! ### Calls and their failures -/

/-- The kinds of calls without which there is no creation. -/
def Method.essential : List Method :=
  [.nextArticleId, .nextGroupId, .createArticle, .createMembership]

namespace Exchange

/-- What a search for duplicates was answered with. -/
def listing? : Exchange → Option (Except Error (List Article))
  | ⟨.allArticles, reply⟩ => some reply
  | _ => none

theorem not_essential_of_peer? {x : Exchange} (h : x.peer? ≠ none) :
    x.method ∉ Method.essential := by
  rcases cases_of_peer? h with ⟨_, _, rfl⟩ | ⟨_, _, _, rfl⟩ <;> simp [Method.essential]

theorem listing?_of_peer? (x : Exchange) (h : x.peer? ≠ none) : x.listing? = none := by
  rcases cases_of_peer? h with ⟨_, _, rfl⟩ | ⟨_, _, _, rfl⟩ <;> rfl

end Exchange

/-- What the searches for duplicates in a creation were answered with. -/
def Record.listings (r : Record) : List (Except Error (List Article)) :=
  r.calls.filterMap Exchange.listing?

/-- Whether one of the calls that a creation cannot do without failed with an error. -/
def FailsWith (e : Error) (calls : List Exchange) : Prop :=
  ∃ x ∈ calls, x.method ∈ Method.essential ∧ x.error? = some e

theorem failsWith_append (e : Error) (calls calls' : List Exchange) :
    FailsWith e (calls ++ calls') ↔ FailsWith e calls ∨ FailsWith e calls' := by
  simp only [FailsWith, List.mem_append, or_and_right, exists_or]

/-- The calls for a link of the article `id` with a peer: this is read, and if it is not unique it
is changed. -/
inductive LinkCalls (id peer : ArticleId) (old : Article) : List Exchange → Prop where
  | unread (e) : LinkCalls id peer old [⟨.articleById peer, .error e⟩]
  | unique (h : old.isUnique = true) : LinkCalls id peer old [⟨.articleById peer, .ok old⟩]
  | tried (h : old.isUnique = false) (reply) : LinkCalls id peer old
      [⟨.articleById peer, .ok old⟩, ⟨.updateDuplicateIds peer (old.duplicateIds ++ [id]), reply⟩]

/-- Whether a peer was read and changed. -/
def Relinked (calls : List Exchange) (peer : ArticleId) : Prop :=
  (∃ old, ⟨.articleById peer, .ok old⟩ ∈ calls) ∧
    ∃ duplicateIds, ⟨.updateDuplicateIds peer duplicateIds, .ok ()⟩ ∈ calls

theorem any_failsFor (calls : List Exchange) (peer : ArticleId) :
    calls.any (·.failsFor peer) = (calls.filter (·.peer? = some peer)).any (·.failed) := by
  rw [List.any_filter]
  congr 1
  funext x
  simp [Exchange.failsFor, Bool.and_comm, beq_eq_decide]

theorem relinked_filter (calls : List Exchange) (peer : ArticleId) :
    Relinked (calls.filter (·.peer? = some peer)) peer ↔ Relinked calls peer := by
  simp [Relinked, Exchange.peer?]

namespace Service

variable {lossy : Prop} {limit : Nat} {matcher : Matcher} {content : String}
variable {s s₁ s' : Store} {calls links : List Exchange} {a old : Article}
variable {id peer : ArticleId} {peers : List ArticleId} {result : Except Error Article} {e : Error}

/-! ### The calls for links -/

theorem linkTo_calls (hold : s.articles.find? peer = some old)
    (h : (linkTo id peer).Runs lossy limit s calls () s') : LinkCalls id peer old calls := by
  obtain ⟨reply, s₁, rest, hread, rfl, hrest⟩ := Program.Runs.ask_bind h
  cases reply with
  | error e =>
    obtain ⟨rfl, -, -⟩ := Program.runs_done_iff.mp hrest
    exact .unread e
  | ok b =>
    obtain ⟨hfind, -⟩ := hread.articleById
    obtain rfl := Option.some.inj (hold.symm.trans hfind)
    cases hunique : old.isUnique with
    | true =>
      simp only [hunique, if_true] at hrest
      obtain ⟨rfl, -, -⟩ := Program.runs_done_iff.mp hrest
      exact .unique hunique
    | false =>
      simp only [hunique] at hrest
      obtain ⟨reply, s₂, rest, -, rfl, hdone⟩ := Program.Runs.ask_bind hrest
      obtain ⟨rfl, -, -⟩ := Program.runs_done_iff.mp hdone
      exact .tried hunique reply

/-- The links with others make no calls about a peer, and leave it to be found as it was. -/
theorem linkToAll_calls (hk : s.Keyed) (hnd : peers.Nodup)
    (h : (linkToAll id peers).Runs lossy limit s calls () s') (hpeer : peer ∈ peers)
    (hold : s.articles.find? peer = some old) :
    LinkCalls id peer old (calls.filter (·.peer? = some peer)) := by
  induction peers generalizing s calls with
  | nil => cases hpeer
  | cons first peers ih =>
    obtain ⟨hfirst, hnd⟩ := List.nodup_cons.mp hnd
    obtain ⟨_, s₁, calls, rest, hrun, hrest, rfl⟩ := Program.Runs.bind h
    obtain ⟨habout, rfl⟩ := linkTo_runs hk hrun
    obtain ⟨habouts, -⟩ := linkToAll_runs (hk.link _ _) hnd hrest
    rw [List.filter_append]
    by_cases hsame : peer = first
    · subst hsame
      have hnone : rest.filter (·.peer? = some peer) = [] := by
        refine List.filter_eq_nil_iff.mpr fun x hx hp => ?_
        obtain ⟨other, hother, hx⟩ := habouts x hx
        obtain rfl : other = peer := by simpa [hx] using hp
        exact hfirst hother
      rw [hnone, List.append_nil, List.filter_eq_self.mpr fun x hx => by simp [habout x hx]]
      exact linkTo_calls hold hrun
    · have hnone : calls.filter (·.peer? = some peer) = [] := by
        refine List.filter_eq_nil_iff.mpr fun x hx hp => hsame ?_
        simpa [habout x hx, eq_comm] using hp
      have hnot : old.id ∉ reached calls [first] := by
        rw [hk.id_of_find? hold]
        exact fun hmem => hsame (List.mem_singleton.mp (reached_subset _ _ hmem))
      rw [hnone, List.nil_append]
      refine ih (hk.link _ _) hnd hrest (List.mem_of_ne_of_mem hsame hpeer) ?_
      rw [Store.link, IdMap.find?_map, hold, Option.map_some, Article.link_of_notMem _ hnot]

/-- A peer that is not unique is reached by its own two calls. -/
theorem relinked_iff_mem_reached
    (h : LinkCalls id peer old (calls.filter (·.peer? = some peer)))
    (hunique : old.isUnique = false) (hpeer : peer ∈ peers) :
    Relinked calls peer ↔ peer ∈ reached calls peers := by
  simp only [reached, List.mem_filter, hpeer, true_and, any_failsFor]
  rw [← relinked_filter]
  generalize calls.filter (·.peer? = some peer) = attempts at h
  cases h with
  | unread e => simp [Relinked, Exchange.failed]
  | unique h => simp [h] at hunique
  | tried _ reply =>
    cases reply with
    | error e => simp [Relinked, Exchange.failed]
    | ok _ =>
      refine iff_of_true ⟨⟨old, List.mem_cons_self⟩, old.duplicateIds ++ [id], ?_⟩
        (by simp [Exchange.failed])
      exact List.mem_cons_of_mem _ List.mem_cons_self

/-- No call for a draft is about a peer. -/
theorem Draft.peer?_eq_none (h : Draft lossy limit matcher content s calls a s₁) :
    ∀ x ∈ calls, x.peer? = none := by
  cases h <;> simp [Exchange.peer?]

/-- Which peers are reached depends only on the calls for links, the last ones. -/
theorem Draft.reached_links (h : Draft lossy limit matcher content s calls a s₁)
    (links : List Exchange) (peers : List ArticleId) :
    reached (calls ++ [⟨.createArticle a, .ok ()⟩, ⟨.createMembership ⟨a.group, a.id⟩, .ok ()⟩] ++
      links) peers = reached links peers := by
  have hnone : ∀ x ∈ calls ++ [⟨.createArticle a, .ok ()⟩,
      ⟨.createMembership ⟨a.group, a.id⟩, .ok ()⟩], x.peer? = none := by
    rw [List.forall_mem_append]
    exact ⟨h.peer?_eq_none, by simp [Exchange.peer?]⟩
  apply reached_append_of_about
  intro peer _ x hx
  simp [hnone x hx]

theorem create_linkCalls (hs : s.Numbered)
    (h : (create matcher content).Runs lossy limit s calls (.ok a) s') (hpeer : peer ∈ a.duplicateIds)
    (hold : s.articles.find? peer = some old) :
    LinkCalls a.id peer old (calls.filter (·.peer? = some peer)) := by
  rcases create_drafts h with ⟨e, he, -⟩ | ⟨first, rest, b, s₁, hd, rfl, hstore⟩
  · cases he
  obtain ⟨_, _, rest, hcreate, rfl, hrest⟩ := Program.Runs.ask_bind hstore
  rcases hcreate.of_perform (Store.perform_createArticle limit (hd.find?_id hs)) with
    ⟨rfl, rfl⟩ | ⟨-, rfl, e, rfl⟩
  · obtain ⟨_, _, rest, hlist, rfl, hrest⟩ := Program.Runs.ask_bind hrest
    rcases hlist.of_perform rfl with ⟨rfl, rfl⟩ | ⟨-, rfl, e, rfl⟩
    · obtain ⟨_, _, links, last, hlinks, hdone, rfl⟩ := Program.Runs.bind hrest
      obtain ⟨rfl, hsame, rfl⟩ := Program.runs_done_iff.mp hdone
      obtain rfl := Except.ok.inj hsame
      have hbefore : first.filter (·.peer? = some peer) = [] :=
        List.filter_eq_nil_iff.mpr fun x hx => by simp [hd.peer?_eq_none x hx]
      have hlinked := linkToAll_calls (hd.keyed_addMembership hs _)
        (hd.duplicateIds_nodup hs.keyed) hlinks hpeer (hd.find?_insert hs hold)
      rwa [List.append_nil, List.filter_append, hbefore, List.nil_append,
        List.filter_cons_of_neg (by simp [Exchange.peer?]),
        List.filter_cons_of_neg (by simp [Exchange.peer?])]
    · obtain ⟨-, hsame, -⟩ := Program.runs_done_iff.mp hrest
      cases hsame
  · obtain ⟨-, hsame, -⟩ := Program.runs_done_iff.mp hrest
    cases hsame

/-! ### Calls that are performed -/

theorem linkTo_performable {id peer : ArticleId} (hpeer : s.articles.find? peer ≠ none) :
    (linkTo id peer).Performable limit s := by
  obtain ⟨old, hold⟩ := Option.ne_none_iff_exists'.mp hpeer
  refine .ask_bind (Store.perform_articleById limit hold) ?_ fun _ => trivial
  cases hunique : old.isUnique with
  | true =>
    simp only [hunique, if_true]
    trivial
  | false =>
    simp only [hunique]
    exact .ask_bind (Store.perform_updateDuplicateIds limit _ hold) trivial fun _ => trivial

theorem linkToAll_performable {id : ArticleId} {peers : List ArticleId} (hk : s.Keyed)
    (hpeers : ∀ peer ∈ peers, s.articles.find? peer ≠ none) :
    (linkToAll id peers).Performable limit s := by
  induction peers generalizing s with
  | nil => trivial
  | cons peer peers ih =>
    obtain ⟨hpeer, hpeers⟩ := List.forall_mem_cons.mp hpeers
    refine (linkTo_performable hpeer).bind fun calls _ s' hruns => ?_
    obtain ⟨-, rfl⟩ := linkTo_runs hk hruns
    refine ih (hk.link _ _) fun other hother => ?_
    simpa [Store.link, IdMap.find?_map] using hpeers other hother

theorem store_performable (hs : s.Numbered) (hd : Draft True limit matcher content s calls a s₁) :
    (store a).Performable limit s₁ := by
  refine .ask_bind (Store.perform_createArticle limit (hd.find?_id hs)) ?_ fun _ => trivial
  refine .ask_bind rfl ?_ fun _ => trivial
  have hlinks : (linkToAll a.id a.duplicateIds).Performable limit
      ((s₁.withArticle a).addMembership ⟨a.group, a.id⟩) :=
    linkToAll_performable (hd.keyed_addMembership hs _) fun _ hpeer =>
      hd.find?_insert_ne_none hs hpeer
  exact hlinks.bind fun _ _ _ _ => trivial

/-- No call of a creation is refused. -/
theorem create_performable (hs : s.Numbered) : (create matcher content).Performable limit s := by
  have hnumber : s.perform limit .nextArticleId = .ok (s.articleCounter + 1, s.nextArticleId.2) := rfl
  refine .ask_bind hnumber ?_ fun _ => trivial
  have hfind : (findDuplicates matcher (s.articleCounter + 1) content).Performable limit
      s.nextArticleId.2 :=
    .ask_bind rfl trivial fun _ => trivial
  refine hfind.bind fun _ found s' hfind => ?_
  obtain ⟨listing, peers, hsearch, rfl, rfl, rfl⟩ := findDuplicates_runs hfind
  cases hlast : peers.getLast? with
  | some last =>
    simp only [groupFor, Option.map_some]
    exact store_performable hs (.joined ⟨hsearch.listed, hsearch.found⟩ hlast)
  | none =>
    obtain rfl := List.getLast?_eq_none_iff.mp hlast
    exact .ask_bind rfl (store_performable hs (.founded ⟨hsearch.listed, hsearch.found⟩))
      fun _ => trivial

/-! ### What fails a creation -/

theorem Draft.not_failsWith (h : Draft lossy limit matcher content s calls a s₁) (e : Error) :
    ¬ FailsWith e calls := by
  cases h with
  | joined => simp [FailsWith, Method.essential, Exchange.error?]
  | founded => simp [FailsWith, Method.essential, Exchange.error?]

theorem notMem_methods_links {m : Method} (hm : m ∈ Method.essential)
    (habout : ∀ x ∈ links, ∃ peer ∈ peers, x.peer? = some peer) :
    m ∉ links.map Exchange.method := by
  intro hmem
  obtain ⟨x, hx, rfl⟩ := List.mem_map.mp hmem
  obtain ⟨peer, -, hpeer⟩ := habout x hx
  exact Exchange.not_essential_of_peer? (by simp [hpeer]) hm

theorem not_failsWith_links (habout : ∀ x ∈ links, ∃ peer ∈ peers, x.peer? = some peer)
    (e : Error) : ¬ FailsWith e links := by
  rintro ⟨x, hx, hessential, -⟩
  exact notMem_methods_links hessential habout (List.mem_map_of_mem hx)

theorem Creates.error_iff (h : Creates lossy limit matcher content s calls result s') (e : Error) :
    result = .error e ↔ FailsWith e calls := by
  cases h with
  | unnumbered => simp [FailsWith, Method.essential, Exchange.error?]
  | ungrouped => simp [FailsWith, Method.essential, Exchange.error?]
  | unstored _ e' hd | unlisted _ e' hd =>
    simp only [failsWith_append, hd.not_failsWith, false_or]
    simp [FailsWith, Method.essential, Exchange.error?]
  | linked hd habout =>
    simp only [failsWith_append, hd.not_failsWith, not_failsWith_links habout, or_false, false_or]
    simp [FailsWith, Exchange.error?]

/-- The article that is drafted lists what the search comes to. -/
theorem Draft.search (h : Draft lossy limit matcher content s calls a s₁) :
    ∃ listing peers, Search lossy limit matcher (s.articleCounter + 1) content s listing peers ∧
      calls.filterMap Exchange.listing? = [listing] ∧
      (.nextGroupId ∈ calls.map Exchange.method ↔ peers = []) ∧
      a.duplicateIds = peers.map (·.id) ∧
      (peers = [] → a.group = s.groupCounter + 1 ∧ s₁.groupCounter = a.group) := by
  cases h with
  | @joined listing peers last hs hlast =>
    have hne : peers ≠ [] := by
      rintro rfl
      cases hlast
    exact ⟨listing, peers, hs, rfl, by simp [hne], rfl, fun h => absurd h hne⟩
  | @founded listing hs => exact ⟨listing, [], hs, rfl, by simp, rfl, fun _ => ⟨rfl, rfl⟩⟩

/-- A creation whose article is numbered searches, asks for a group if it finds nothing, and ends
with an article that lists what it finds. -/
theorem Creates.search (h : Creates lossy limit matcher content s calls result s') :
    (∃ e, result = .error e ∧ calls = [⟨.nextArticleId, .error e⟩]) ∨
      ∃ listing peers, Search lossy limit matcher (s.articleCounter + 1) content s listing peers ∧
        calls.filterMap Exchange.listing? = [listing] ∧
        (.nextGroupId ∈ calls.map Exchange.method ↔ peers = []) ∧
        ∀ a, result = .ok a → a.duplicateIds = peers.map (·.id) ∧
          (peers = [] → a.group = s.groupCounter + 1 ∧ s'.groupCounter = a.group) := by
  cases h with
  | unnumbered _ e => exact .inl ⟨e, rfl, rfl⟩
  | @ungrouped listing _ e hs => exact .inr ⟨listing, [], hs, rfl, by simp, by simp⟩
  | unstored _ e hd | unlisted _ e hd =>
    obtain ⟨listing, peers, hs, hlisting, hgroup, -⟩ := hd.search
    exact .inr
      ⟨listing, peers, hs, by simp [hlisting, Exchange.listing?], by simp [← hgroup], by simp⟩
  | @linked first a _ links hd habout =>
    obtain ⟨listing, peers, hs, hlisting, hgroup, hids, hfounds⟩ := hd.search
    have hnone := Exchange.filterMap_eq_nil Exchange.listing?_of_peer? habout
    have hlinks := notMem_methods_links (m := .nextGroupId) (by decide) habout
    refine .inr ⟨listing, peers, hs, ?_, ?_, ?_⟩
    · rw [List.filterMap_append, List.filterMap_append, hlisting, hnone]
      rfl
    · rw [List.map_append, List.mem_append, or_iff_left hlinks]
      simp [← hgroup]
    · intro b hb
      obtain rfl := Except.ok.inj hb
      exact ⟨hids, hfounds⟩

/-- The counters count what is given out. -/
theorem Creates.counters (h : Creates lossy limit matcher content s calls result s') :
    s'.articleCounter = s.articleCounter + (calls.filterMap Exchange.articleId?).length ∧
      s'.groupCounter = s.groupCounter + (calls.filterMap Exchange.groupId?).length := by
  obtain ⟨harticles, hgroups⟩ := h.numbers
  have hlengths := And.intro (congrArg List.length harticles) (congrArg List.length hgroups)
  simpa [eq_comm] using hlengths

end Service

/-! ### What a creation leaves -/

/-- What a creation leaves that broke off. The new article is stored exactly if it is its membership
that was lost; nothing else has changed but the counters. -/
structure BrokenOff (content : String) (s : Store) (record : Record) (s' : Store) : Prop where
  free : s.articles.find? (s.articleCounter + 1) = none
  memberships_eq : s'.memberships = s.memberships
  articles_eq : (record.lostMemberships = [] ∧ s'.articles = s.articles) ∨
    ∃ a, a = .new (s.articleCounter + 1) content a.duplicateIds a.group ∧
      record.lostMemberships = [a.membership] ∧ s'.articles = s.articles.insert a.id a

/-- What a creation leaves that came to the end with the article `a`. This has the duplicates that
were found, and a new group if there are none. Its number stands at the end of the duplicates of
those of them that were read and changed and are not unique; nothing else has changed but the
counters. -/
structure Completed (limit : Nat) (c : Creation) (s : Store) (record : Record) (a : Article)
    (s' : Store) : Prop where
  eq_new : a = .new (s.articleCounter + 1) c.content a.duplicateIds a.group
  duplicateIds_eq : ∃ listing, record.listings = [listing] ∧
    (listing = .ok (s.allArticles limit) ∨ ∃ e, listing = .error e) ∧
    a.duplicateIds = (Service.matchesIn c.matcher a.id c.content listing).map (·.id)
  unsearched : (∃ e, .error e ∈ record.listings) ∨
    matching? c.matcher a.id c.content (s.allArticles limit) = none → a.duplicateIds = []
  founds : a.duplicateIds = [] → a.group = s.groupCounter + 1 ∧ s'.groupCounter = a.group
  stored : s'.articles.find? a.id = some a
  memberships_eq : s'.memberships = s.memberships ++ [a.membership]
  linkCalls : ∀ peer ∈ a.duplicateIds, ∃ old, s.articles.find? peer = some old ∧
    LinkCalls a.id peer old (record.calls.filter (·.peer? = some peer))
  linked : ∀ id old, s.articles.find? id = some old → id ∈ a.duplicateIds →
    old.isUnique = false → Relinked record.calls id →
      s'.articles.find? id = some { old with duplicateIds := old.duplicateIds ++ [a.id] }
  kept : ∀ id old, s.articles.find? id = some old →
    ¬ (id ∈ a.duplicateIds ∧ old.isUnique = false ∧ Relinked record.calls id) →
      s'.articles.find? id = some old
  absent : ∀ id, s.articles.find? id = none → id ≠ a.id → s'.articles.find? id = none

/-- What comes of a creation. Its calls fail exactly where they are lost. It fails exactly if a call
fails that it cannot do without, among these one for a new group if its search finds nothing. The
counters have gone on by the numbers that were given out. -/
structure Creation.Outcome (limit : Nat) (c : Creation) (s : Store) (record : Record)
    (s' : Store) : Prop where
  error?_eq : ∀ (n : Nat) (x : Exchange), record.calls[n]? = some x → x.error? = c.faults n
  error_iff : ∀ e, record.result = .error e ↔ FailsWith e record.calls
  asks_iff : .nextGroupId ∈ record.calls.map Exchange.method ↔ ∃ listing ∈ record.listings,
    Service.matchesIn c.matcher (s.articleCounter + 1) c.content listing = []
  articleCounter_eq : s'.articleCounter = s.articleCounter + record.articleIds.length
  groupCounter_eq : s'.groupCounter = s.groupCounter + record.groupIds.length
  of_error : ∀ e, record.result = .error e → BrokenOff c.content s record s'
  of_ok : ∀ a, record.result = .ok a → Completed limit c s record a s'

namespace Service

variable {lossy : Prop} {limit : Nat} {s s₁ s' : Store} {calls made : List Exchange}
variable {a old : Article} {peers : List ArticleId}
variable {content : String} {matcher : Matcher}

theorem Draft.eq_new (h : Draft lossy limit matcher content s calls a s₁) :
    a = .new (s.articleCounter + 1) content a.duplicateIds a.group := by
  cases h <;> rfl

theorem Creates.eq_new (h : Creates lossy limit matcher content s calls (.ok a) s') :
    a = .new (s.articleCounter + 1) content a.duplicateIds a.group := by
  cases h with
  | linked hd => exact hd.eq_new

theorem Creates.brokenOff (hs : s.Numbered) {e : Error}
    (h : Creates lossy limit matcher content s calls (.error e) s') :
    BrokenOff content s ⟨.error e, calls⟩ s' := by
  have hfree := hs.find?_eq_none (Nat.lt_succ_self s.articleCounter)
  cases h with
  | unnumbered => exact ⟨hfree, rfl, .inl ⟨rfl, rfl⟩⟩
  | ungrouped => exact ⟨hfree, rfl, .inl ⟨rfl, rfl⟩⟩
  | unstored _ _ hd =>
    refine ⟨hfree, hd.memberships_eq, .inl ⟨?_, hd.articles_eq⟩⟩
    rw [Record.lostMemberships, List.filterMap_append, hd.lostMemberships]
    rfl
  | @unlisted _ a s₁ _ _ hd =>
    refine ⟨hfree, hd.memberships_eq, .inr ⟨a, hd.eq_new, ?_, ?_⟩⟩
    · rw [Record.lostMemberships, List.filterMap_append, hd.lostMemberships]
      rfl
    · rw [Store.withArticle, hd.articles_eq]

theorem Draft.find?_link (h : Draft lossy limit matcher content s calls a s₁)
    (peers : List ArticleId) (m : Membership) {id : ArticleId} (hid : id ≠ a.id) :
    (((s₁.withArticle a).addMembership m).link peers a.id).articles.find? id =
      (s.articles.find? id).map (Article.link peers a.id) := by
  change ((s₁.articles.insert a.id a).map _).find? id = _
  rw [IdMap.find?_map, IdMap.find?_insert_of_ne _ _ hid, h.articles_eq]

theorem Draft.ne_id (h : Draft lossy limit matcher content s calls a s₁) (hs : s.Numbered)
    {id : ArticleId} (hold : s.articles.find? id = some old) : id ≠ a.id := by
  rintro rfl
  rw [← h.articles_eq, h.find?_id hs] at hold
  cases hold

theorem link_of_relinked (hs : s.Numbered) {id peer : ArticleId}
    (hlinks : LinkCalls id peer old (made.filter (·.peer? = some peer)))
    (hold : s.articles.find? peer = some old) (hpeer : peer ∈ peers) (hunique : old.isUnique = false)
    (hrelinked : Relinked made peer) :
    old.link (reached made peers) id = { old with duplicateIds := old.duplicateIds ++ [id] } := by
  have hreached := (relinked_iff_mem_reached hlinks hunique hpeer).mp hrelinked
  rw [Article.link, if_pos ⟨hs.keyed.id_of_find? hold ▸ hreached, hunique⟩]

theorem link_of_not_relinked (hs : s.Numbered) {id peer : ArticleId}
    (hlinks : peer ∈ peers → LinkCalls id peer old (made.filter (·.peer? = some peer)))
    (hold : s.articles.find? peer = some old)
    (h : ¬ (peer ∈ peers ∧ old.isUnique = false ∧ Relinked made peer)) :
    old.link (reached made peers) id = old := by
  rw [Article.link, if_neg]
  rintro ⟨hreached, hunique⟩
  rw [hs.keyed.id_of_find? hold] at hreached
  have hpeer := reached_subset _ _ hreached
  exact h ⟨hpeer, hunique, (relinked_iff_mem_reached (hlinks hpeer) hunique hpeer).mpr hreached⟩

theorem Creates.search_of_ok (h : Creates lossy limit matcher content s calls (.ok a) s') :
    ∃ listing found, Search lossy limit matcher (s.articleCounter + 1) content s listing found ∧
      calls.filterMap Exchange.listing? = [listing] ∧
      (.nextGroupId ∈ calls.map Exchange.method ↔ found = []) ∧
      a.duplicateIds = found.map (·.id) ∧
      (found = [] → a.group = s.groupCounter + 1 ∧ s'.groupCounter = a.group) := by
  rcases h.search with ⟨e, he, -⟩ | ⟨listing, found, hsearch, hlistings, hasks, hok⟩
  · cases he
  · exact ⟨listing, found, hsearch, hlistings, hasks, hok a rfl⟩

/-- A search that fails or breaks down finds nothing. -/
theorem Search.eq_nil {id : ArticleId} {listing : Except Error (List Article)} {found : List Article}
    (h : Search lossy limit matcher id content s listing found)
    (hnone : (∃ e, .error e ∈ [listing]) ∨ matching? matcher id content (s.allArticles limit) = none) :
    found = [] := by
  obtain ⟨hlisted, rfl⟩ := h
  rcases hlisted with rfl | ⟨-, e, rfl⟩
  · rcases hnone with ⟨e, he⟩ | hnone
    · simp at he
    · simp [matchesIn, hnone]
  · rfl

theorem Creates.completed {c : Creation} (hs : s.Numbered)
    (h : Creates lossy limit c.matcher c.content s calls (.ok a) s')
    (hlinks : ∀ peer ∈ a.duplicateIds, ∀ old, s.articles.find? peer = some old →
      LinkCalls a.id peer old (calls.filter (·.peer? = some peer))) :
    Completed limit c s ⟨.ok a, calls⟩ a s' := by
  obtain ⟨listing, found, hsearch, hlistings, -, hids, hfounds⟩ := h.search_of_ok
  have hnew := h.eq_new
  have hlisted : Record.listings ⟨.ok a, calls⟩ = [listing] := hlistings
  have hstored := h.find?_result hs
  cases h with
  | @linked first _ s₁ links hd habout =>
    rw [← hd.reached_links links] at hstored ⊢
    rw [← hd.id_eq] at hsearch
    refine ⟨hnew, ?_, ?_, ?_, hstored, ?_, ?_, ?_, ?_, ?_⟩
    · refine ⟨listing, hlisted, hsearch.listed.imp_right And.right, ?_⟩
      rw [hsearch.found, hids]
    · rw [hlisted]
      intro h
      rw [hids, hsearch.eq_nil h, List.map_nil]
    · intro hnone
      rw [hids, List.map_eq_nil_iff] at hnone
      exact hfounds hnone
    · change s₁.memberships ++ [a.membership] = _
      rw [hd.memberships_eq]
    · intro peer hpeer
      obtain ⟨old, hold⟩ := Option.ne_none_iff_exists'.mp (hd.find?_ne_none hs.keyed hpeer)
      exact ⟨old, hold, hlinks peer hpeer old hold⟩
    · intro id old hold hlisted hunique hrelinked
      rw [hd.find?_link _ _ (hd.ne_id hs hold), hold, Option.map_some,
        link_of_relinked hs (hlinks id hlisted old hold) hold hlisted hunique hrelinked]
    · intro id old hold hnot
      rw [hd.find?_link _ _ (hd.ne_id hs hold), hold, Option.map_some,
        link_of_not_relinked hs (fun hlisted => hlinks id hlisted old hold) hold hnot]
    · intro id hnone hid
      rw [hd.find?_link _ _ hid, hnone, Option.map_none]

end Service

/-- Whatever was created before, and whichever calls are lost, this is what comes of a creation. -/
theorem Creation.outcome_run (limit : Nat) (earlier : List Creation) (c : Creation) :
    let s := (History.of limit earlier).store
    c.Outcome limit s (c.run limit s).1 (c.run limit s).2 := by
  intro s
  have hs : s.Numbered := History.numbered_of limit earlier
  have hcreates := c.run_creates limit hs
  obtain ⟨harticles, hgroups⟩ := hcreates.counters
  refine ⟨?_, hcreates.error_iff, ?_, harticles, hgroups, ?_, ?_⟩
  · intro n x hx
    exact (Service.create_performable hs).error?_eq c.faults (t := ⟨s, []⟩) hx (Nat.zero_le n)
  · rcases hcreates.search with ⟨e, -, hcalls⟩ | ⟨listing, peers, hsearch, hlistings, hasks, -⟩
    · simp [Record.listings, hcalls, Exchange.listing?]
    · rw [Record.listings, hlistings, hasks, ← hsearch.found]
      simp
  · intro e he
    rw [he] at hcreates
    have hbroken := hcreates.brokenOff hs
    rwa [← he] at hbroken
  · intro a ha
    have hruns := c.runs limit s
    rw [ha] at hcreates hruns
    have hcompleted := hcreates.completed hs fun peer hpeer old hold =>
      Service.create_linkCalls hs hruns hpeer hold
    rwa [← ha] at hcompleted

end NearDup
