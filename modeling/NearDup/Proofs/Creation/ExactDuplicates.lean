import NearDup.Proofs.Creation.Outcome
import NearDup.Proofs.EditDistance.Optimality

/-! Contents with the same normal form. They score one, which every threshold of a detector admits.
Main statement: a creation whose calls succeed lists each such article that is within the limit,
whatever else matches. -/

namespace NearDup

/-! ### The score of equal normal forms -/

namespace Detector

variable {threshold : Float} {normalizer : Normalizer} {d : Detector} {a b : String}

theorem compare_of_normalize_eq (h : d.normalizer.normalize a = d.normalizer.normalize b) :
    d.compare a b = 1.0 := by
  rw [compare, h, EditCosts.similarity_self]

theorem of_ofThreshold? (h : ofThreshold? threshold normalizer = .ok d) :
    d.normalizer = normalizer ∧ d.threshold ≤ 1.0 := by
  unfold ofThreshold? at h
  split at h
  · rename_i hthreshold
    obtain rfl := Except.ok.inj h
    simp only [isThreshold, Bool.and_eq_true, decide_eq_true_eq] at hthreshold
    exact ⟨rfl, hthreshold.2⟩
  · cases h

theorem isSimilar_of_normalize_eq (h : ofThreshold? threshold normalizer = .ok d)
    (hsame : normalizer.normalize a = normalizer.normalize b) : d.isSimilar a b = true := by
  obtain ⟨rfl, hle⟩ := of_ofThreshold? h
  rw [isSimilar, compare_of_normalize_eq hsame]
  exact decide_eq_true hle

end Detector

/-- The judgement of a detector never breaks down. -/
theorem Similarity.matcher_ofDetector (d : Detector) : (ofDetector d).matcher =
    fun _ content _ content' => some (d.isSimilar content content') := rfl

/-! ### The search -/

namespace Exchange

variable {x : Exchange} {e : Error}

theorem failed_of_error? (h : x.error? = some e) : x.failed = true := by
  unfold error? at h
  split at h
  · cases h
  · rename_i he
    simp only [failed, he]

theorem failed_of_listing? (h : x.listing? = some (.error e)) :
    x.peer? = none ∧ x.failed = true := by
  unfold listing? at h
  split at h
  · obtain rfl := Option.some.inj h
    exact ⟨rfl, rfl⟩
  · cases h

theorem method_of_groupId? {id : GroupId} (h : x.groupId? = some id) : x.method = .nextGroupId := by
  unfold groupId? at h
  split at h
  · rfl
  · cases h

end Exchange

namespace Service

variable {lossy : Prop} {limit : Nat} {matcher : Matcher} {content : String}
variable {s s' : Store} {calls : List Exchange} {a : Article} {result : Except Error Article}

theorem Creates.exists_ok (h : Creates lossy limit matcher content s calls result s')
    (hcalls : ∀ x ∈ calls, x.peer? = none → x.failed = false) : ∃ a, result = .ok a := by
  cases result with
  | ok a => exact ⟨a, rfl⟩
  | error e =>
    obtain ⟨x, hx, hessential, herror⟩ := (h.error_iff e).mp rfl
    have hpeer : x.peer? = none := by
      by_contra hpeer
      exact Exchange.not_essential_of_peer? hpeer hessential
    have hfailed := Exchange.failed_of_error? herror
    rw [hcalls x hx hpeer] at hfailed
    cases hfailed

/-- Where only calls for links fail, the new article lists all that match, and takes a new group
only if there are none. -/
theorem Creates.lists_matching (h : Creates lossy limit matcher content s calls (.ok a) s')
    (hcalls : ∀ x ∈ calls, x.peer? = none → x.failed = false) :
    ∃ found, found = (matching? matcher (s.articleCounter + 1) content
        (s.allArticles limit)).getD [] ∧
      a.duplicateIds = found.map (·.id) ∧
      (found ≠ [] → calls.filterMap Exchange.groupId? = []) := by
  obtain ⟨listing, found, hsearch, hlistings, hasks, hids, -⟩ := h.search_of_ok
  refine ⟨found, ?_, hids, ?_⟩
  · rcases hsearch.listed with rfl | ⟨-, e, rfl⟩
    · exact hsearch.found.symm
    · have hmem : .error e ∈ calls.filterMap Exchange.listing? := by simp [hlistings]
      obtain ⟨x, hx, hlisting⟩ := List.mem_filterMap.mp hmem
      obtain ⟨hpeer, hfailed⟩ := Exchange.failed_of_listing? hlisting
      simp [hcalls x hx hpeer] at hfailed
  · intro hne
    apply List.filterMap_eq_nil_iff.mpr
    intro x hx
    by_contra hgroup
    obtain ⟨id, hid⟩ := Option.ne_none_iff_exists'.mp hgroup
    exact hne (hasks.mp (List.mem_map.mpr ⟨x, hx, Exchange.method_of_groupId? hid⟩))

end Service

/-- No exact duplicate within the limit is missed: where only calls for links fail, the new article
lists it and takes no new group, whatever was created before by whatever judgement. -/
theorem Detector.lists_exactDuplicate {threshold : Float} {normalizer : Normalizer} {d : Detector}
    (hd : ofThreshold? threshold normalizer = .ok d) (limit : Nat) (earlier : List Creation)
    (content : String) (faults : Faults) (old : Article) :
    let s := (History.of limit earlier).store
    let c : Creation := ⟨content, (Similarity.ofDetector d).matcher, faults⟩
    let record := (c.run limit s).1
    let s' := (c.run limit s).2
    old ∈ s.allArticles limit → normalizer.normalize content = normalizer.normalize old.content →
      (∀ x ∈ record.calls, x.peer? = none → x.failed = false) →
      ∃ a, record.result = .ok a ∧ a.isUnique = false ∧ old.id ∈ a.duplicateIds ∧
        s'.articles.find? a.id = some a ∧ record.groupIds = [] ∧
        s'.groupCounter = s.groupCounter := by
  intro s c record s' hold hsame hcalls
  have hs : s.Numbered := History.numbered_of limit earlier
  have hcreates := c.run_creates limit hs
  obtain ⟨a, ha⟩ := hcreates.exists_ok hcalls
  have hcounter : s'.groupCounter = s.groupCounter + record.groupIds.length := hcreates.counters.2
  rw [ha] at hcreates
  obtain ⟨found, hfound, hids, hgroups⟩ := hcreates.lists_matching hcalls
  -- The comparisons do not break down, so that what is found is what is similar.
  have hfilter : found = (s.allArticles limit).filter fun b => d.isSimilar content b.content := by
    change found = (matching? (Similarity.ofDetector d).matcher _ _ _).getD [] at hfound
    rw [hfound, Similarity.matcher_ofDetector, matching?_total]
    rfl
  have hmem : old ∈ found := by
    rw [hfilter]
    exact List.mem_filter.mpr ⟨hold, isSimilar_of_normalize_eq hd hsame⟩
  have hlisted : old.id ∈ a.duplicateIds := by
    rw [hids]
    exact List.mem_map_of_mem hmem
  have hnone : record.groupIds = [] := hgroups (List.ne_nil_of_mem hmem)
  refine ⟨a, ha, ?_, hlisted, hcreates.find?_result hs, hnone, ?_⟩
  · have hunique : a.isUnique = a.duplicateIds.isEmpty := congrArg Article.isUnique hcreates.eq_new
    rw [hunique, List.isEmpty_eq_false_iff]
    exact List.ne_nil_of_mem hlisted
  · rw [hcounter, hnone]
    rfl

/-- A call for a link is lost. -/
theorem Detector.lists_exactDuplicate_lost :
    let normalizer := Normalizer.ofWords Normalizer.defaultStopwords .empty
    let d : Detector := ⟨1.0, normalizer⟩
    let matcher := (Similarity.ofDetector d).matcher
    let old : Article := ⟨1, "The cat!", [], true, 1⟩
    let lost : Faults := fun n => if n = 4 then some (.notFound 1) else none
    let s := (History.of 10 [⟨"The cat!", matcher, Faults.none⟩]).store
    let record := ((Creation.mk "a CAT" matcher lost).run 10 s).1
    ofThreshold? 1.0 normalizer = .ok d ∧ old ∈ s.allArticles 10 ∧
      normalizer.normalize "a CAT" = normalizer.normalize old.content ∧
      (∀ x ∈ record.calls, x.peer? = none → x.failed = false) ∧
      ∃ a, record.result = .ok a ∧ a.isUnique = false ∧ old.id ∈ a.duplicateIds := by
  intro normalizer d matcher old lost s record
  have hd : ofThreshold? 1.0 normalizer = .ok d := if_pos (by decide +kernel)
  have hold : old ∈ s.allArticles 10 := by decide +kernel
  have hsame : normalizer.normalize "a CAT" = normalizer.normalize old.content := by decide +kernel
  have hcalls : ∀ x ∈ record.calls, x.peer? = none → x.failed = false := by decide +kernel
  obtain ⟨a, hresult, hunique, hlisted, -⟩ :=
    lists_exactDuplicate hd 10 [⟨"The cat!", matcher, Faults.none⟩] "a CAT" lost old hold hsame hcalls
  exact ⟨hd, hold, hsame, hcalls, a, hresult, hunique, hlisted⟩

end NearDup
