import Mathlib
import NearDup.Proofs.Creation.Duplicates

/-! What creations and reads leave of what was stored before them. Main statement: nothing that is
stored is lost or changed, except that articles which are created later are added at the end of the
duplicates, each once. An article that was returned can be read again from then on. -/

namespace NearDup

/-! ### Articles and stores that grow -/

/-- An article has become another one while those with the numbers `created` were created. Some of
these were added to its duplicates, in order; they are greater than its own number and than those
that it listed before. -/
def Article.GrowsTo (a : Article) (created : List ArticleId) (b : Article) : Prop :=
  ∃ added, b = { a with duplicateIds := a.duplicateIds ++ added } ∧ added.Sublist created ∧
    added.Pairwise (· < ·) ∧ ∀ id ∈ added, a.id < id ∧ ∀ other ∈ a.duplicateIds, other < id

/-- A store has become another one while articles with the numbers `created` were created. -/
structure Store.GrowsTo (s : Store) (created : List ArticleId) (s' : Store) : Prop where
  articles : ∀ id a, s.articles.find? id = some a →
    ∃ b, s'.articles.find? id = some b ∧ a.GrowsTo created b
  memberships : s.memberships <+: s'.memberships
  articleCounter_le : s.articleCounter ≤ s'.articleCounter
  groupCounter_le : s.groupCounter ≤ s'.groupCounter

namespace Article.GrowsTo

variable {a b c : Article} {created created' : List ArticleId}

theorem refl (a : Article) : a.GrowsTo [] a :=
  ⟨[], by simp, List.Sublist.refl [], List.Pairwise.nil, by simp⟩

theorem trans (h : a.GrowsTo created b) (h' : b.GrowsTo created' c) :
    a.GrowsTo (created ++ created') c := by
  obtain ⟨added, rfl, hsub, hasc, hgreater⟩ := h
  obtain ⟨added', rfl, hsub', hasc', hgreater'⟩ := h'
  refine ⟨added ++ added', by simp, hsub.append hsub', ?_, fun id hid => ?_⟩
  · refine List.pairwise_append.mpr ⟨hasc, hasc', fun first hfirst id hid => ?_⟩
    exact (hgreater' id hid).2 first (List.mem_append_right _ hfirst)
  · rcases List.mem_append.mp hid with hid | hid
    · exact hgreater id hid
    · obtain ⟨hlt, hothers⟩ := hgreater' id hid
      exact ⟨hlt, fun other hother => hothers other (List.mem_append_left _ hother)⟩

theorem link (peers : List ArticleId) {id : ArticleId} (hid : a.id < id)
    (hothers : ∀ other ∈ a.duplicateIds, other < id) : a.GrowsTo [id] (a.link peers id) := by
  rw [Article.link_eq]
  by_cases h : a.id ∈ peers ∧ a.isUnique = false
  · exact ⟨[id], by rw [if_pos h], List.Sublist.refl _, List.pairwise_singleton _ _,
      List.forall_mem_singleton.mpr ⟨hid, hothers⟩⟩
  · exact ⟨[], by simp [h], List.nil_sublist _, List.Pairwise.nil, by simp⟩

end Article.GrowsTo

namespace Store.GrowsTo

variable {s s₁ s' : Store} {created created' : List ArticleId}

theorem refl (s : Store) : s.GrowsTo [] s :=
  ⟨fun _ a ha => ⟨a, ha, .refl a⟩, List.prefix_refl _, Nat.le_refl _, Nat.le_refl _⟩

theorem trans (h : s.GrowsTo created s₁) (h' : s₁.GrowsTo created' s') :
    s.GrowsTo (created ++ created') s' := by
  refine ⟨fun id a ha => ?_, h.memberships.trans h'.memberships,
    Nat.le_trans h.articleCounter_le h'.articleCounter_le,
    Nat.le_trans h.groupCounter_le h'.groupCounter_le⟩
  obtain ⟨b, hb, hgrows⟩ := h.articles id a ha
  obtain ⟨c, hc, hgrows'⟩ := h'.articles id b hb
  exact ⟨c, hc, hgrows.trans hgrows'⟩

end Store.GrowsTo

/-! ### One creation -/

/-- The numbers of the articles that a creation returned: one, or none. -/
def Record.created (r : Record) : List ArticleId :=
  match r.result with
  | .ok a => [a.id]
  | .error _ => []

namespace Service

variable {lossy : Prop} {limit : Nat} {matcher : Matcher} {content : String}
variable {s s₁ s' : Store} {calls : List Exchange} {a b : Article}
variable {result : Except Error Article}

theorem Draft.articleCounter_le (h : Draft lossy limit matcher content s calls a s₁) :
    s.articleCounter ≤ s₁.articleCounter := by
  rw [h.articleCounter_eq, h.id_eq]
  exact Nat.le_succ _

theorem Draft.memberships_prefix (h : Draft lossy limit matcher content s calls a s₁) :
    s.memberships <+: s₁.memberships :=
  h.memberships_eq ▸ List.prefix_refl s.memberships

theorem Draft.find?_insert (h : Draft lossy limit matcher content s calls a s₁) (hs : s.Numbered)
    {id : ArticleId} (hb : s.articles.find? id = some b) :
    (s₁.articles.insert a.id a).find? id = some b := by
  have hid : id ≠ a.id := by
    rintro rfl
    rw [← h.articles_eq, h.find?_id hs] at hb
    cases hb
  rw [IdMap.find?_insert_of_ne _ _ hid, h.articles_eq, hb]

theorem Draft.id_notMem_reached (h : Draft lossy limit matcher content s calls a s₁)
    (hs : s.Numbered) (links : List Exchange) : a.id ∉ reached links a.duplicateIds := fun hmem =>
  Nat.lt_irrefl _ (h.lt_id_of_mem_duplicateIds hs (reached_subset _ _ hmem))

/-- An article that a creation returns is stored. -/
theorem Creates.find?_result (hs : s.Numbered)
    (h : Creates lossy limit matcher content s calls (.ok a) s') :
    s'.articles.find? a.id = some a := by
  cases h with
  | @linked _ _ s₁ links hd =>
    change ((s₁.articles.insert a.id a).map _).find? a.id = some a
    rw [IdMap.find?_map, IdMap.find?_insert_self, Option.map_some,
      Article.link_of_notMem _ (hd.id_notMem_reached hs links)]

theorem Creates.growsTo (hs : s.Numbered) (hl : s.Linked)
    (h : Creates lossy limit matcher content s calls result s') :
    s.GrowsTo (Record.created ⟨result, calls⟩) s' := by
  cases h with
  | unnumbered => exact .refl s
  | ungrouped =>
    exact ⟨(Store.GrowsTo.refl s).articles, List.prefix_refl _, Nat.le_succ _, Nat.le_refl _⟩
  | unstored _ e hd =>
    exact ⟨fun id b hb => ⟨b, hd.articles_eq ▸ hb, .refl b⟩, hd.memberships_prefix,
      hd.articleCounter_le, hd.groupCounter_le⟩
  | unlisted _ e hd =>
    exact ⟨fun id b hb => ⟨b, hd.find?_insert hs hb, .refl b⟩, hd.memberships_prefix,
      hd.articleCounter_le, hd.groupCounter_le⟩
  | @linked _ a s₁ links hd =>
    refine ⟨fun id b hb => ⟨b.link (reached links a.duplicateIds) a.id, ?_, ?_⟩, ?_,
      hd.articleCounter_le, hd.groupCounter_le⟩
    · change ((s₁.articles.insert a.id a).map _).find? id = _
      rw [IdMap.find?_map, hd.find?_insert hs hb]
      rfl
    · have hmem := IdMap.mem_values_of_find? hb
      exact .link _ (hd.lt_id hs hmem) fun other hother => hd.lt_id_of_listed hs hl hmem hother
    · exact hd.memberships_prefix.trans (List.prefix_append _ _)

end Service

/-! ### Creations and reads -/

/-- What a service is asked for: to create an article, or to make a call that reads, which may be
lost. -/
inductive Demand
  | create (c : Creation)
  | read {m : Method} (call : Call m) (reads : m.writes = false) (fault : Option Error)

/-- What came of a demand. -/
inductive Event
  | creation (record : Record)
  | reading (exchange : Exchange)

/-- The numbers of the articles that were returned when they were created. -/
def Event.created : Event → List ArticleId
  | .creation record => record.created
  | .reading _ => []

namespace Service

/-- Meets one demand. -/
def meet (limit : Nat) (s : Store) : Demand → Event × Store
  | .create c => (.creation (c.run limit s).1, (c.run limit s).2)
  | .read call _ fault =>
    (.reading ⟨call, (s.attempt limit fault call).1⟩, (s.attempt limit fault call).2)

/-- Meets demands one after another: what came of each, and the store after them. -/
def serve (limit : Nat) (s : Store) : List Demand → List Event × Store
  | [] => ([], s)
  | demand :: demands =>
    let (event, s) := meet limit s demand
    let (events, s) := serve limit s demands
    (event :: events, s)

variable {limit : Nat} {s : Store}

theorem meet_sound (limit : Nat) (hs : s.Numbered) (hl : s.Linked) (demand : Demand) :
    (meet limit s demand).2.Numbered ∧ (meet limit s demand).2.Linked := by
  cases demand with
  | create c =>
    have hcreates := c.run_creates limit hs
    exact ⟨hcreates.numbered hs, hcreates.linked_after hs hl⟩
  | read call hreads fault =>
    rw [meet, s.attempt_of_reads limit fault call hreads]
    exact ⟨hs, hl⟩

theorem growsTo_meet (hs : s.Numbered) (hl : s.Linked) (demand : Demand) :
    s.GrowsTo (meet limit s demand).1.created (meet limit s demand).2 := by
  cases demand with
  | create c => exact (c.run_creates limit hs).growsTo hs hl
  | read call hreads fault =>
    rw [meet, s.attempt_of_reads limit fault call hreads]
    exact .refl s

/-- The first event comes of the first demand. -/
theorem exists_demand {demands : List Demand} {event : Event} {later : List Event}
    (h : (serve limit s demands).1 = event :: later) :
    ∃ demand rest, demands = demand :: rest ∧ (meet limit s demand).1 = event ∧
      (serve limit (meet limit s demand).2 rest).1 = later := by
  cases demands with
  | nil => cases h
  | cons demand rest =>
    obtain ⟨hevent, hlater⟩ := List.cons.inj h
    exact ⟨demand, rest, rfl, hevent, hlater⟩

/-- The first events come of the first demands, and the later ones of those that follow. -/
theorem exists_demands {demands : List Demand} {first later : List Event}
    (h : (serve limit s demands).1 = first ++ later) :
    ∃ earlier rest, demands = earlier ++ rest ∧ (serve limit s earlier).1 = first ∧
      (serve limit (serve limit s earlier).2 rest).1 = later := by
  induction first generalizing s demands with
  | nil => exact ⟨[], demands, rfl, rfl, h⟩
  | cons event first ih =>
    obtain ⟨demand, demands, rfl, hevent, hevents⟩ := exists_demand h
    obtain ⟨earlier, rest, rfl, hfirst, hlater⟩ := ih hevents
    refine ⟨demand :: earlier, rest, rfl, ?_, hlater⟩
    rw [← hevent, ← hfirst]
    rfl

theorem serve_sound (limit : Nat) (hs : s.Numbered) (hl : s.Linked) (demands : List Demand) :
    (serve limit s demands).2.Numbered ∧ (serve limit s demands).2.Linked := by
  induction demands generalizing s with
  | nil => exact ⟨hs, hl⟩
  | cons demand demands ih =>
    obtain ⟨hs', hl'⟩ := meet_sound limit hs hl demand
    exact ih hs' hl'

theorem growsTo_serve (limit : Nat) (hs : s.Numbered) (hl : s.Linked) (demands : List Demand) :
    s.GrowsTo ((serve limit s demands).1.flatMap Event.created) (serve limit s demands).2 := by
  induction demands generalizing s with
  | nil => exact .refl s
  | cons demand demands ih =>
    obtain ⟨hs', hl'⟩ := meet_sound limit hs hl demand
    exact (growsTo_meet hs hl demand).trans (ih hs' hl')

/-- An article that is returned by its creation is stored from then on. -/
theorem find?_of_creation (hs : s.Numbered) {demand : Demand} {record : Record} {a : Article}
    (h : (meet limit s demand).1 = .creation record) (hresult : record.result = .ok a) :
    (meet limit s demand).2.articles.find? a.id = some a := by
  cases demand with
  | read => cases h
  | create c =>
    obtain rfl : (c.run limit s).1 = record := Event.creation.inj h
    have hcreates := c.run_creates limit hs
    rw [hresult] at hcreates
    exact hcreates.find?_result hs

/-- An article that is read is stored. -/
theorem find?_of_reading {demand : Demand} {id : ArticleId} {b : Article}
    (h : (meet limit s demand).1 = .reading ⟨.articleById id, .ok b⟩) :
    s.articles.find? id = some b := by
  cases demand with
  | create => cases h
  | read call hreads fault =>
    have hexchange := Event.reading.inj h
    have hanswers : ∀ x : Exchange, ⟨call, (s.attempt limit fault call).1⟩ = x →
        s.Answers True limit x.call x.reply (s.attempt limit fault call).2 := by
      rintro x rfl
      exact s.attempt_answers limit fault call fun _ => trivial
    exact (hanswers _ hexchange).articleById.1

/-- Whatever is asked of a service after any time, and whichever calls are lost, nothing is lost
that was stored by then, and articles are only changed by those that are created after them. An
article that was returned by its creation is what is read under its number from then on, with those
that were created since added to its duplicates. -/
theorem growsTo_and_read (limit : Nat) (earlier later : List Demand) :
    let s := (serve limit .empty earlier).2
    s.GrowsTo ((serve limit s later).1.flatMap Event.created) (serve limit s later).2 ∧
      ∀ (first between last : List Event) (record : Record) (a b : Article),
        (serve limit s later).1 =
          first ++ .creation record :: (between ++ .reading ⟨.articleById a.id, .ok b⟩ :: last) →
        record.result = .ok a → a.GrowsTo (between.flatMap Event.created) b := by
  intro s
  obtain ⟨hs, hl⟩ : s.Numbered ∧ s.Linked :=
    serve_sound limit History.numbered_empty Store.linked_empty earlier
  refine ⟨growsTo_serve limit hs hl later, fun first between last record a b hevents hresult => ?_⟩
  -- The store before the creation, after it, and before the reading.
  obtain ⟨before, rest, rfl, -, hrest⟩ := exists_demands hevents
  obtain ⟨hs₁, hl₁⟩ := serve_sound limit hs hl before
  obtain ⟨creation, rest, rfl, hcreation, hrest⟩ := exists_demand hrest
  obtain ⟨hs₂, hl₂⟩ := meet_sound limit hs₁ hl₁ creation
  obtain ⟨since, rest, rfl, hbetween, hrest⟩ := exists_demands hrest
  obtain ⟨reading, rest, rfl, hreading, -⟩ := exists_demand hrest
  have hgrows := growsTo_serve limit hs₂ hl₂ since
  obtain ⟨c, hc, hac⟩ := hgrows.articles a.id a (find?_of_creation hs₁ hcreation hresult)
  obtain rfl : c = b := Option.some.inj (hc.symm.trans (find?_of_reading hreading))
  exact hbetween ▸ hac

/-- Four articles that all match: the link of the last one back to the second is lost. -/
theorem growsTo_and_read_lost :
    let similar : Matcher := fun _ _ _ _ => some true
    let kept : Demand := .create ⟨"a", similar, Faults.none⟩
    let lost : Demand := .create ⟨"a", similar, fun n => if n = 6 then some (.notFound 2) else none⟩
    let a : Article := ⟨2, "a", [1], false, 1⟩
    let b : Article := ⟨2, "a", [1, 3], false, 1⟩
    let s := (serve 10 .empty [kept]).2
    ∃ record between, record.result = .ok a ∧
      (serve 10 s [kept, kept, lost, .read (.articleById 2) rfl none]).1 =
        .creation record :: (between ++ [.reading ⟨.articleById 2, .ok b⟩]) ∧
      between.flatMap Event.created = [3, 4] ∧ a.GrowsTo [3, 4] b := by
  intro similar kept lost a b s
  let third := meet 10 (meet 10 s kept).2 kept
  have hevents : (serve 10 s [kept, kept, lost, .read (.articleById 2) rfl none]).1 =
      [] ++ .creation ((Creation.mk "a" similar Faults.none).run 10 s).1 ::
        ([third.1, (meet 10 third.2 lost).1] ++ .reading ⟨.articleById a.id, .ok b⟩ :: []) := by
    cbv
  have hresult : ((Creation.mk "a" similar Faults.none).run 10 s).1.result = .ok a := by
    cbv
  have hcreated : [third.1, (meet 10 third.2 lost).1].flatMap Event.created = [3, 4] := by
    cbv
  have hgrows := (growsTo_and_read 10 [kept] _).2 _ _ _ _ _ _ hevents hresult
  exact ⟨_, _, hresult, hevents, hcreated, hcreated ▸ hgrows⟩

end Service

end NearDup
