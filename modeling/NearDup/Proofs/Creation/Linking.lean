import NearDup.Proofs.IdMap
import NearDup.Proofs.Storage.Semantics
import NearDup.Service

/-! Adding a new article to the duplicates of its peers. Main statement: what the linking of a list
of peers does to a store depends only on about which of them a call failed; all others that are not
unique get the new number at the end of their duplicates. -/

namespace NearDup

/-- The article with `id` added to its duplicates if it is one of the peers and not unique. -/
def Article.link (peers : List ArticleId) (id : ArticleId) (a : Article) : Article :=
  if a.id ∈ peers ∧ a.isUnique = false then { a with duplicateIds := a.duplicateIds ++ [id] } else a

namespace Article

variable (peers : List ArticleId) (id : ArticleId) (a : Article)

/-- A link changes nothing but the duplicates. -/
theorem link_eq : a.link peers id =
    { a with duplicateIds := if a.id ∈ peers ∧ a.isUnique = false then a.duplicateIds ++ [id]
      else a.duplicateIds } := by
  unfold link
  split <;> rfl

@[simp] theorem link_id : (a.link peers id).id = a.id := by
  rw [link_eq]

@[simp] theorem link_content : (a.link peers id).content = a.content := by
  rw [link_eq]

@[simp] theorem link_isUnique : (a.link peers id).isUnique = a.isUnique := by
  rw [link_eq]

@[simp] theorem link_group : (a.link peers id).group = a.group := by
  rw [link_eq]

theorem link_duplicateIds : (a.link peers id).duplicateIds =
    if a.id ∈ peers ∧ a.isUnique = false then a.duplicateIds ++ [id] else a.duplicateIds := by
  rw [link_eq]

@[simp] theorem link_nil : a.link [] id = a := by
  simp [link]

theorem map_link_nil (articles : List Article) : articles.map (Article.link [] id) = articles := by
  refine (List.map_congr_left fun a _ => ?_).trans (List.map_id articles)
  exact a.link_nil id

variable {a} in
theorem link_of_isUnique (h : a.isUnique = true) : a.link peers id = a := by
  simp [link, h]

variable {a peers} in
theorem link_of_notMem (h : a.id ∉ peers) : a.link peers id = a := by
  simp [link, h]

/-- Peers that are linked one after another are linked together. -/
theorem link_link (peer : ArticleId) (h : peer ∉ peers) :
    (a.link [peer] id).link peers id = a.link (peer :: peers) id := by
  by_cases ha : a.id = peer
  · subst ha
    by_cases hu : a.isUnique = false <;> simp [link, h, hu]
  · simp [link, ha]

end Article

namespace Store

/-- Whether articles are stored under their own numbers. -/
def Keyed (s : Store) : Prop := ∀ entry ∈ s.articles.entries, entry.1 = entry.2.id

/-- The store with `id` added to the duplicates of the peers that are not unique. -/
def link (s : Store) (peers : List ArticleId) (id : ArticleId) : Store :=
  { s with articles := s.articles.map (Article.link peers id) }

section

variable (s : Store) (peers : List ArticleId) (id : ArticleId)

@[simp] theorem link_articleCounter : (s.link peers id).articleCounter = s.articleCounter := rfl

@[simp] theorem link_groupCounter : (s.link peers id).groupCounter = s.groupCounter := rfl

@[simp] theorem link_memberships : (s.link peers id).memberships = s.memberships := rfl

@[simp] theorem values_link : (s.link peers id).articles.values =
    s.articles.values.map (Article.link peers id) := by
  simp [link]

@[simp] theorem link_nil : s.link [] id = s := by
  have h : s.articles.map (Article.link [] id) = s.articles := by
    apply IdMap.ext
    simp
  simp [link, h]

theorem link_link (peer : ArticleId) (h : peer ∉ peers) :
    (s.link [peer] id).link peers id = s.link (peer :: peers) id := by
  have hmap : (s.articles.map (Article.link [peer] id)).map (Article.link peers id) =
      s.articles.map (Article.link (peer :: peers) id) := by
    apply IdMap.ext
    simp [Article.link_link, h]
  simp [link, hmap]

end

theorem Keyed.link {s : Store} (h : s.Keyed) (peers : List ArticleId) (id : ArticleId) :
    (s.link peers id).Keyed := by
  intro entry he
  obtain ⟨old, hold, rfl⟩ := List.mem_map.mp he
  simpa using h old hold

theorem Keyed.id_of_find? {s : Store} (h : s.Keyed) {id : ArticleId} {a : Article}
    (ha : s.articles.find? id = some a) : a.id = id :=
  (h _ (IdMap.mem_entries_iff.mpr ha)).symm

theorem Keyed.find?_of_mem {s : Store} (h : s.Keyed) {a : Article} (ha : a ∈ s.articles.values) :
    s.articles.find? a.id = some a := by
  obtain ⟨entry, he, rfl⟩ := List.mem_map.mp ha
  rw [← h entry he]
  exact IdMap.mem_entries_iff.mp he

theorem Keyed.eq_of_id {s : Store} (h : s.Keyed) {a b : Article} (ha : a ∈ s.articles.values)
    (hb : b ∈ s.articles.values) (hid : a.id = b.id) : a = b := by
  have hfind := h.find?_of_mem ha
  rw [hid, h.find?_of_mem hb] at hfind
  exact (Option.some.inj hfind).symm

theorem Keyed.link_singleton {s : Store} (h : s.Keyed) {peer : ArticleId} {a : Article}
    (ha : s.articles.find? peer = some a) (id : ArticleId) : s.link [peer] id =
      { s with articles := s.articles.insert peer (a.link [peer] id) } := by
  rw [IdMap.insert_eq_map (Article.link [peer] id) Article.id h ha]
  have hlink : Article.link [peer] id =
      fun b => if b.id = peer then b.link [peer] id else b := by
    funext b
    by_cases hb : b.id = peer <;> simp [Article.link, hb]
  rw [← hlink]
  rfl

/-- The listed articles come in the order of their numbers. -/
theorem Keyed.pairwise_values {s : Store} (h : s.Keyed) :
    s.articles.values.Pairwise fun a b => a.id < b.id := by
  refine List.pairwise_map.mpr (s.articles.ascending.imp_of_mem fun ha hb hlt => ?_)
  rwa [h _ ha, h _ hb] at hlt

end Store

/-- The kinds of calls by which a stored article is made known to its group and its peers. -/
def Method.announcing : List Method := [.createMembership, .articleById, .updateDuplicateIds]

/-- The article that a call reads or extends for a link. -/
def Exchange.peer? : Exchange → Option ArticleId
  | ⟨.articleById id, _⟩ => some id
  | ⟨.updateDuplicateIds id _, _⟩ => some id
  | _ => none

theorem Exchange.cases_of_peer? {x : Exchange} (h : x.peer? ≠ none) :
    (∃ id reply, x = ⟨.articleById id, reply⟩) ∨
      ∃ id duplicateIds reply, x = ⟨.updateDuplicateIds id duplicateIds, reply⟩ := by
  unfold peer? at h
  split at h
  · exact .inl ⟨_, _, rfl⟩
  · exact .inr ⟨_, _, _, rfl⟩
  · exact absurd rfl h

theorem Exchange.announcing_of_peer? {x : Exchange} (h : x.peer? ≠ none) :
    x.method ∈ Method.announcing := by
  rcases cases_of_peer? h with ⟨_, _, rfl⟩ | ⟨_, _, _, rfl⟩ <;> simp [Method.announcing]

/-- What no call for a link shows is not found among the calls for links. -/
theorem Exchange.filterMap_eq_nil {β : Type} {f : Exchange → Option β} {links : List Exchange}
    {peers : List ArticleId} (hf : ∀ x : Exchange, x.peer? ≠ none → f x = none)
    (habout : ∀ x ∈ links, ∃ peer ∈ peers, x.peer? = some peer) : links.filterMap f = [] := by
  refine List.filterMap_eq_nil_iff.mpr fun x hx => hf x ?_
  obtain ⟨peer, -, hpeer⟩ := habout x hx
  simp [hpeer]

/-- Whether a call for a link with `peer` failed. -/
def Exchange.failsFor (peer : ArticleId) (x : Exchange) : Bool :=
  x.failed && x.peer? == some peer

/-- The peers for which no call failed. -/
def reached (calls : List Exchange) (peers : List ArticleId) : List ArticleId :=
  peers.filter fun peer => !calls.any (·.failsFor peer)

theorem reached_subset (calls : List Exchange) (peers : List ArticleId) :
    reached calls peers ⊆ peers :=
  List.filter_sublist.subset

theorem exists_failed_of_notMem_reached {calls : List Exchange} {peers : List ArticleId}
    {peer : ArticleId} (hpeer : peer ∈ peers) (h : peer ∉ reached calls peers) :
    ∃ x ∈ calls, x.method ∈ Method.announcing ∧ x.failed = true := by
  simp only [reached, List.mem_filter, hpeer, true_and, Bool.not_eq_true', Bool.not_eq_false,
    List.any_eq_true, Exchange.failsFor, Bool.and_eq_true, beq_iff_eq] at h
  obtain ⟨x, hx, hfailed, hp⟩ := h
  exact ⟨x, hx, Exchange.announcing_of_peer? (by simp [hp]), hfailed⟩

theorem any_failsFor_eq_false {calls : List Exchange} {peer : ArticleId}
    (h : ∀ x ∈ calls, x.peer? ≠ some peer) : calls.any (·.failsFor peer) = false := by
  simp only [List.any_eq_false, Exchange.failsFor]
  intro x hx
  simp [h x hx]

theorem reached_cons (calls : List Exchange) (peer : ArticleId) (peers : List ArticleId) :
    reached calls (peer :: peers) =
      if calls.any (·.failsFor peer) then reached calls peers else peer :: reached calls peers := by
  rw [reached, List.filter_cons]
  cases calls.any (·.failsFor peer) <;> rfl

theorem reached_eq_self {calls : List Exchange} (peers : List ArticleId)
    (h : ∀ x ∈ calls, x.failed = false) : reached calls peers = peers := by
  apply List.filter_eq_self.mpr
  intro peer _
  simp only [Bool.not_eq_true', List.any_eq_false, Exchange.failsFor]
  intro x hx
  simp [h x hx]

theorem reached_append_of_about {first rest : List Exchange} {peers : List ArticleId}
    (h : ∀ peer ∈ peers, ∀ x ∈ first, x.peer? ≠ some peer) :
    reached (first ++ rest) peers = reached rest peers := by
  apply List.filter_congr
  intro peer hp
  simp [any_failsFor_eq_false (h peer hp)]

namespace Service

variable {lossy : Prop} {limit : Nat}

/-- A link changes its peer if its calls succeed, and else nothing. -/
theorem linkTo_runs {s s' : Store} {id peer : ArticleId} {calls : List Exchange} (hk : s.Keyed)
    (h : (linkTo id peer).Runs lossy limit s calls () s') :
    (∀ x ∈ calls, x.peer? = some peer) ∧ s' = s.link (reached calls [peer]) id := by
  obtain ⟨reply, s₁, rest, hread, rfl, hrest⟩ := Program.Runs.ask_bind h
  cases reply with
  | error e =>
    obtain ⟨rfl, -, rfl⟩ := Program.runs_done_iff.mp hrest
    simp [hread.eq_of_error, Exchange.peer?, reached, Exchange.failsFor, Exchange.failed]
  | ok a =>
    obtain ⟨hfind, rfl⟩ := hread.articleById
    by_cases hu : a.isUnique = true
    · -- A unique peer is read, and left as it is.
      simp only [hu, if_true] at hrest
      obtain ⟨rfl, -, rfl⟩ := Program.runs_done_iff.mp hrest
      have hlink : a.link [peer] id = a := Article.link_of_isUnique _ _ hu
      have hsame : s'.link [peer] id = s' := by
        rw [hk.link_singleton hfind, hlink, IdMap.insert_of_find? hfind]
      simp [Exchange.peer?, reached, Exchange.failsFor, Exchange.failed, hsame]
    · simp only [hu] at hrest
      obtain ⟨reply, s₂, rest, hupdate, rfl, hdone⟩ := Program.Runs.ask_bind hrest
      obtain ⟨rfl, -, rfl⟩ := Program.runs_done_iff.mp hdone
      cases reply with
      | error e =>
        simp [hupdate.eq_of_error, Exchange.peer?, reached, Exchange.failsFor, Exchange.failed]
      | ok _ =>
        obtain ⟨b, hb, rfl⟩ := hupdate.updateDuplicateIds
        obtain rfl := Option.some.inj (hfind.symm.trans hb)
        have hlink : a.link [peer] id = { a with duplicateIds := a.duplicateIds ++ [id] } := by
          simp [Article.link, hk.id_of_find? hfind, hu]
        simp [Exchange.peer?, reached, Exchange.failsFor, Exchange.failed,
          hk.link_singleton hfind, hlink]

theorem linkToAll_runs {s s' : Store} {id : ArticleId} {peers : List ArticleId}
    {calls : List Exchange} (hk : s.Keyed) (hnd : peers.Nodup)
    (h : (linkToAll id peers).Runs lossy limit s calls () s') :
    (∀ x ∈ calls, ∃ peer ∈ peers, x.peer? = some peer) ∧ s' = s.link (reached calls peers) id := by
  induction peers generalizing s calls with
  | nil =>
    obtain ⟨rfl, -, rfl⟩ := Program.runs_done_iff.mp h
    simp [reached]
  | cons peer peers ih =>
    obtain ⟨hpeer, hnd⟩ := List.nodup_cons.mp hnd
    obtain ⟨_, s₁, first, rest, hfirst, hrest, rfl⟩ := Program.Runs.bind h
    obtain ⟨habout, rfl⟩ := linkTo_runs hk hfirst
    obtain ⟨habouts, rfl⟩ := ih (hk.link _ _) hnd hrest
    have hfails : rest.any (·.failsFor peer) = false := by
      apply any_failsFor_eq_false
      rintro x hx hp
      obtain ⟨other, ho, hother⟩ := habouts x hx
      exact hpeer (Option.some.inj (hp.symm.trans hother) ▸ ho)
    have hothers : reached (first ++ rest) peers = reached rest peers := by
      apply reached_append_of_about
      rintro other ho x hx hp
      exact hpeer (Option.some.inj ((habout x hx).symm.trans hp) ▸ ho)
    constructor
    · intro x hx
      rcases List.mem_append.mp hx with hx | hx
      · exact ⟨peer, List.mem_cons_self, habout x hx⟩
      · obtain ⟨other, ho, hother⟩ := habouts x hx
        exact ⟨other, List.mem_cons_of_mem _ ho, hother⟩
    · rw [reached_cons (first ++ rest), hothers, List.any_append, hfails, Bool.or_false,
        reached_cons]
      cases first.any (·.failsFor peer) with
      | true => simp [reached]
      | false =>
        have hnotin : peer ∉ reached rest peers := fun hmem => hpeer (reached_subset _ _ hmem)
        exact Store.link_link s _ id peer hnotin

/-- Where no call is lost, links with stored peers succeed. -/
theorem linkTo_succeeds {s s' : Store} {id peer : ArticleId} {calls : List Exchange}
    (hlossy : ¬ lossy) (hpeer : s.articles.find? peer ≠ none)
    (h : (linkTo id peer).Runs lossy limit s calls () s') : ∀ x ∈ calls, x.failed = false := by
  obtain ⟨a, hfind⟩ := Option.ne_none_iff_exists'.mp hpeer
  obtain ⟨reply, s₁, rest, hread, rfl, hrest⟩ := Program.Runs.ask_bind h
  cases reply with
  | error e => exact absurd (hread.lossy_of_error (Store.perform_articleById limit hfind)) hlossy
  | ok b =>
    obtain ⟨-, rfl⟩ := hread.articleById
    by_cases hu : b.isUnique = true
    · simp only [hu, if_true] at hrest
      obtain ⟨rfl, -, rfl⟩ := Program.runs_done_iff.mp hrest
      simp [Exchange.failed]
    · simp only [hu] at hrest
      obtain ⟨reply, s₂, rest, hupdate, rfl, hdone⟩ := Program.Runs.ask_bind hrest
      obtain ⟨rfl, -, rfl⟩ := Program.runs_done_iff.mp hdone
      cases reply with
      | error e =>
        exact absurd
          (hupdate.lossy_of_error (Store.perform_updateDuplicateIds limit _ hfind)) hlossy
      | ok _ => simp [Exchange.failed]

theorem linkToAll_succeeds {s s' : Store} {id : ArticleId} {peers : List ArticleId}
    {calls : List Exchange} (hlossy : ¬ lossy) (hk : s.Keyed)
    (hpeers : ∀ peer ∈ peers, s.articles.find? peer ≠ none)
    (h : (linkToAll id peers).Runs lossy limit s calls () s') : ∀ x ∈ calls, x.failed = false := by
  induction peers generalizing s calls with
  | nil =>
    obtain ⟨rfl, -, rfl⟩ := Program.runs_done_iff.mp h
    simp
  | cons peer peers ih =>
    obtain ⟨_, s₁, first, rest, hfirst, hrest, rfl⟩ := Program.Runs.bind h
    obtain ⟨-, rfl⟩ := linkTo_runs hk hfirst
    have hstored : ∀ other ∈ peers,
        (s.link (reached first [peer]) id).articles.find? other ≠ none := by
      intro other ho
      simpa [Store.link, IdMap.find?_map] using hpeers other (List.mem_cons_of_mem _ ho)
    intro x hx
    rcases List.mem_append.mp hx with hx | hx
    · exact linkTo_succeeds hlossy (hpeers peer List.mem_cons_self) hfirst x hx
    · exact ih (hk.link _ _) hstored hrest x hx

end Service

end NearDup
