import NearDup.Proofs.Creation.ClosedForm

/-! Creations by a judgement that is an equivalence of contents. Main statement: as long as all
articles are within the limit, the groups are the classes of contents. The first article of a class
founds its group, and every other one lists all others of its class. -/

namespace NearDup

/-- The articles of a store are grouped by the classes of their contents. The first of each class is
its only unique one and lists nothing; the others list all members of the class beside themselves.
-/
structure Store.Classified (alike : String → String → Bool) (s : Store) : Prop where
  group_eq_iff : ∀ a ∈ s.articles.values, ∀ b ∈ s.articles.values,
    a.group = b.group ↔ alike a.content b.content = true
  unique_iff : ∀ a ∈ s.articles.values, a.isUnique = true ↔
    ∀ b ∈ s.articles.values, alike a.content b.content = true → a.id ≤ b.id
  duplicateIds_of_unique : ∀ a ∈ s.articles.values, a.isUnique = true → a.duplicateIds = []
  duplicateIds_of_not_unique : ∀ a ∈ s.articles.values, a.isUnique = false →
    a.duplicateIds =
      (s.articles.values.filter fun b => alike a.content b.content && b.id != a.id).map (·.id)

/-- The numbers up to `n`, parted at one of them. -/
theorem range'_one_eq_append_cons {n id : Nat} (hpos : 1 ≤ id) (hle : id ≤ n) :
    List.range' 1 n = List.range' 1 (id - 1) ++ id :: List.range' (id + 1) (n - id) := by
  have hcount : id - 1 + (n - id + 1) = n := by omega
  have hsplit := List.range'_append_1 (s := 1) (m := id - 1) (n := n - id + 1)
  rw [hcount, Nat.add_sub_cancel' hpos, List.range'_succ] at hsplit
  exact hsplit.symm

namespace Feed

/-- No two founders have the same group. -/
theorem founder_eq_of_group (f : Feed) {n id other : Nat} (hid : 1 ≤ id ∧ id ≤ n)
    (hother : 1 ≤ other ∧ other ≤ n) (hfounder : f.isFounder id = true)
    (hfounder' : f.isFounder other = true) (hgroup : f.group id = f.group other) : id = other := by
  have hgrouped : (f.store n).Grouped := (f.history_eq n).1 ▸ History.grouped_of _ _
  have hmem : ∀ {id}, 1 ≤ id ∧ id ≤ n → f.article n id ∈ (f.store n).articles.values := by
    intro id hid
    rw [values_store]
    exact List.mem_map_of_mem (List.mem_range'_1.mpr (by omega))
  exact congrArg Article.id
    (hgrouped.founder_eq _ (hmem hid) _ (hmem hother) hfounder hfounder' hgroup)

/-- Whether articles match exactly if their contents are alike, and that is an equivalence. -/
structure Classes (f : Feed) (alike : String → String → Bool) : Prop where
  isMatch_eq : ∀ id other, f.isMatch id other = alike (f.content id) (f.content other)
  equivalence : Equivalence fun c d => alike c d = true

namespace Classes

variable {f : Feed} {alike : String → String → Bool} {n id other : Nat}

theorem comm (h : f.Classes alike) (c d : String) : alike c d = alike d c :=
  Bool.eq_iff_iff.mpr ⟨h.equivalence.symm, h.equivalence.symm⟩

/-- Within the limit, an article matches all earlier ones of its class. -/
theorem mem_earlier (h : f.Classes alike) (hlimit : id ≤ f.limit) : other ∈ f.earlier id ↔
    1 ≤ other ∧ other < id ∧ alike (f.content id) (f.content other) = true := by
  rw [Feed.mem_earlier, h.isMatch_eq]
  exact ⟨fun ⟨hpos, hlt, hmatch, _⟩ => ⟨hpos, hlt, hmatch⟩, fun ⟨hpos, hlt, hmatch⟩ =>
    ⟨hpos, hlt, hmatch, Nat.le_trans (Nat.le_of_lt hlt) hlimit⟩⟩

theorem isFounder_iff (h : f.Classes alike) (hlimit : id ≤ f.limit) : f.isFounder id = true ↔
    ∀ other, 1 ≤ other → other < id → alike (f.content id) (f.content other) = false := by
  rw [isFounder, List.isEmpty_iff, List.eq_nil_iff_forall_not_mem]
  refine forall_congr' fun other => ?_
  rw [h.mem_earlier hlimit]
  simp

/-- Every article has its group from a founder of its class. -/
theorem exists_founder (h : f.Classes alike) (hpos : 1 ≤ id) :
    ∃ founder, 1 ≤ founder ∧ founder ≤ id ∧ f.isFounder founder = true ∧
      f.group founder = f.group id ∧ alike (f.content founder) (f.content id) = true := by
  -- The group comes from the last match, which is an earlier article of the same class.
  induction id using Nat.strong_induction_on with
  | _ id ih =>
    cases hlast : (f.earlier id).getLast? with
    | none =>
      have hfounder : f.isFounder id = true := by
        rw [isFounder, List.getLast?_eq_none_iff.mp hlast]
        rfl
      exact ⟨id, hpos, Nat.le_refl id, hfounder, rfl, h.equivalence.refl _⟩
    | some last =>
      obtain ⟨hlastpos, hlt, hmatch, -⟩ := f.mem_earlier.mp (List.mem_of_getLast? hlast)
      rw [h.isMatch_eq] at hmatch
      obtain ⟨founder, hfpos, hle, hfounder, hgroup, halike⟩ := ih last hlt hlastpos
      refine ⟨founder, hfpos, Nat.le_trans hle (Nat.le_of_lt hlt), hfounder, ?_, ?_⟩
      · rw [hgroup, f.group_of_getLast? hlast]
      · exact h.equivalence.trans halike (h.equivalence.symm hmatch)

/-- A class has one founder. -/
theorem founder_eq (h : f.Classes alike) (hid : 1 ≤ id ∧ id ≤ f.limit)
    (hother : 1 ≤ other ∧ other ≤ f.limit) (hfounder : f.isFounder id = true)
    (hfounder' : f.isFounder other = true)
    (halike : alike (f.content id) (f.content other) = true) : id = other := by
  rcases Nat.lt_trichotomy id other with hlt | heq | hgt
  · have hnot := (h.isFounder_iff hother.2).mp hfounder' id hid.1 hlt
    rw [h.comm, halike] at hnot
    cases hnot
  · exact heq
  · have hnot := (h.isFounder_iff hid.2).mp hfounder other hother.1 hgt
    rw [halike] at hnot
    cases hnot

/-- Two articles are in one group exactly if they are of one class. -/
theorem group_eq_iff (h : f.Classes alike) (hn : n ≤ f.limit) (hid : 1 ≤ id ∧ id ≤ n)
    (hother : 1 ≤ other ∧ other ≤ n) :
    f.group id = f.group other ↔ alike (f.content id) (f.content other) = true := by
  obtain ⟨founder, hpos, hle, hfounder, hgroup, halike⟩ := h.exists_founder hid.1
  obtain ⟨founder', hpos', hle', hfounder', hgroup', halike'⟩ := h.exists_founder hother.1
  have hbelow : founder ≤ n := Nat.le_trans hle hid.2
  have hbelow' : founder' ≤ n := Nat.le_trans hle' hother.2
  constructor
  · intro heq
    have hsame : founder = founder' := f.founder_eq_of_group ⟨hpos, hbelow⟩ ⟨hpos', hbelow'⟩
      hfounder hfounder' (by rw [hgroup, hgroup', heq])
    subst hsame
    exact h.equivalence.trans (h.equivalence.symm halike) halike'
  · intro heq
    have hfounders : alike (f.content founder) (f.content founder') = true :=
      h.equivalence.trans (h.equivalence.trans halike heq) (h.equivalence.symm halike')
    have hsame : founder = founder' := h.founder_eq ⟨hpos, Nat.le_trans hbelow hn⟩
      ⟨hpos', Nat.le_trans hbelow' hn⟩ hfounder hfounder' hfounders
    rw [← hgroup, ← hgroup', hsame]

/-- An article that founds no group lists all others of its class. -/
theorem duplicateIds_eq (h : f.Classes alike) (hn : n ≤ f.limit) (hid : 1 ≤ id ∧ id ≤ n)
    (hfounder : f.isFounder id = false) :
    f.duplicateIds n id = (List.range' 1 n).filter fun other =>
      alike (f.content id) (f.content other) && other != id := by
  have hearlier : f.earlier id = (List.range' 1 (id - 1)).filter fun other =>
      alike (f.content id) (f.content other) && other != id := by
    refine List.filter_congr fun other hmem => ?_
    have hlt : other < id :=
      Nat.lt_of_lt_of_eq (List.mem_range'_1.mp hmem).2 (Nat.add_sub_cancel' hid.1)
    have hle : other ≤ f.limit := Nat.le_trans (Nat.le_of_lt hlt) (Nat.le_trans hid.2 hn)
    simp [h.isMatch_eq, hle, Nat.ne_of_lt hlt]
  have hlater : f.later n id = (List.range' (id + 1) (n - id)).filter fun other =>
      alike (f.content id) (f.content other) && other != id := by
    refine List.filter_congr fun other hmem => ?_
    have hlt : id < other := (List.mem_range'_1.mp hmem).1
    simp [h.isMatch_eq, h.comm (f.content other), Nat.ne_of_gt hlt]
  have hnot : ¬ (f.isFounder id = true ∨ f.limit < id) := by
    simp [hfounder, Nat.not_lt.mpr (Nat.le_trans hid.2 hn)]
  rw [duplicateIds, if_neg hnot, hearlier, hlater, range'_one_eq_append_cons hid.1 hid.2,
    List.filter_append, List.filter_cons]
  simp

theorem classified (h : f.Classes alike) (hn : n ≤ f.limit) : (f.store n).Classified alike := by
  have hlimit : ∀ {id}, 1 ≤ id ∧ id ≤ n → id ≤ f.limit := fun hid => Nat.le_trans hid.2 hn
  have hmem : ∀ {a}, a ∈ (f.store n).articles.values ↔
      ∃ id, (1 ≤ id ∧ id ≤ n) ∧ f.article n id = a := by
    intro a
    simp only [values_store, List.mem_map, List.mem_range'_1, Nat.add_comm 1 n, Nat.lt_succ_iff]
  refine ⟨?_, ?_, ?_, ?_⟩
  · intro a ha b hb
    obtain ⟨id, hid, rfl⟩ := hmem.mp ha
    obtain ⟨other, hother, rfl⟩ := hmem.mp hb
    exact h.group_eq_iff hn hid hother
  · intro a ha
    obtain ⟨id, hid, rfl⟩ := hmem.mp ha
    refine (h.isFounder_iff (hlimit hid)).trans ⟨fun hfirst b hb halike => ?_, fun hfirst => ?_⟩
    · obtain ⟨other, hother, rfl⟩ := hmem.mp hb
      refine Nat.le_of_not_lt fun hlt => ?_
      exact Bool.false_ne_true ((hfirst other hother.1 hlt).symm.trans halike)
    · intro other hpos hlt
      have hother : 1 ≤ other ∧ other ≤ n := ⟨hpos, Nat.le_trans (Nat.le_of_lt hlt) hid.2⟩
      refine Bool.eq_false_iff.mpr fun halike => ?_
      exact Nat.not_le.mpr hlt (hfirst _ (hmem.mpr ⟨other, hother, rfl⟩) halike)
  · intro a ha hunique
    obtain ⟨id, hid, rfl⟩ := hmem.mp ha
    have hfounder : f.isFounder id = true := hunique
    change f.duplicateIds n id = []
    rw [duplicateIds, if_pos (.inl hfounder)]
    exact List.isEmpty_iff.mp hfounder
  · intro a ha hunique
    obtain ⟨id, hid, rfl⟩ := hmem.mp ha
    rw [values_store, List.filter_map, List.map_map]
    exact (h.duplicateIds_eq hn hid hunique).trans (List.map_id _).symm

end Classes

/-- Contents that are created in order over an empty store, within the limit and without failures,
by a judgement that is an equivalence of contents, are grouped by their classes. -/
theorem classified_ofContents (limit : Nat) (alike : String → String → Bool)
    (contents : List String) (hequivalence : Equivalence fun c d => alike c d = true)
    (hlimit : contents.length ≤ limit) :
    let h := History.of limit (contents.map fun content =>
      ⟨content, fun _ c _ d => some (alike c d), Faults.none⟩)
    h.store.articles.values.map (fun a => (a.content, a.id)) = contents.zipIdx 1 ∧
      h.records.map (fun record => record.result.map fun a => (a.id, a.group)) =
        h.store.articles.values.map (fun a => .ok (a.id, a.group)) ∧
      h.store.Classified alike := by
  intro h
  let f := ofContents limit (fun _ c _ d => alike c d) contents
  have hclasses : f.Classes alike := ⟨fun _ _ => rfl, hequivalence⟩
  obtain ⟨hstore, hresults⟩ : h.store = f.store contents.length ∧
      h.records.map (·.result) =
        (List.range' 1 contents.length).map fun id => .ok (f.created id) := by
    have heq := f.history_eq contents.length
    rwa [map_creation_ofContents] at heq
  refine ⟨?_, ?_, hstore ▸ hclasses.classified hlimit⟩
  · rw [hstore, values_store, List.map_map]
    apply List.ext_getElem
    · simp
    · intro i hi _
      have hlt : i < contents.length := by simpa using hi
      simp [article, f, ofContents, hlt, Nat.add_comm 1 i]
  · have hmap : h.records.map (fun record => record.result.map fun a => (a.id, a.group)) =
        (h.records.map (·.result)).map fun result => result.map fun a => (a.id, a.group) := by
      rw [List.map_map]
      rfl
    rw [hmap, hresults, hstore, values_store, List.map_map, List.map_map]
    rfl

/-- Contents that are alike if they have the same length. -/
theorem classified_ofContents_length :
    let alike := fun c d : String => c.length == d.length
    let h := History.of 6 (["a", "bc", "d", "", "ef", "g"].map fun content =>
      ⟨content, fun _ c _ d => some (alike c d), Faults.none⟩)
    h.store.articles.values.map (fun a => (a.duplicateIds, a.isUnique, a.group)) =
        [([], true, 1), ([], true, 2), ([1, 6], false, 1), ([], true, 3), ([2], false, 2),
          ([1, 3], false, 1)] ∧
      h.store.Classified alike := by
  refine ⟨by decide, (classified_ofContents 6 (fun c d => c.length == d.length) _ ?_ ?_).2.2⟩
  · exact ⟨fun _ => BEq.rfl, BEq.symm, BEq.trans⟩
  · decide

end Feed

end NearDup
