import Mathlib.Data.List.Induction
import NearDup.Proofs.Files.Tree

/-! Directories that are made on the way to a file. Main statements: it makes no difference that
some of them have been made before; and making them changes nothing that is read at the end of the
way, if the way goes up only after what was there. -/

namespace NearDup.Tree

variable {t t₁ t' : Tree} {p : Path} {place q : Location} {name : String} {names way : List String}

/-! ### Trees that gain directories -/

/-- Whether a tree is another one with directories added at some places where nothing was. -/
def Gains (t : Tree) (places : List Location) (t' : Tree) : Prop :=
  ∀ q, t'.find? q = t.find? q ∨ q ∈ places ∧ t.find? q = none ∧ t'.find? q = some .dir

namespace Gains

variable {places : List Location}

theorem refl (t : Tree) (places : List Location) : t.Gains places t := fun _ => .inl rfl

theorem trans (h : t.Gains places t₁) (h' : t₁.Gains places t') : t.Gains places t' := by
  intro q
  rcases h q, h' q with ⟨hq | ⟨hmem, hnone, hdir⟩, hq' | ⟨hmem', hnone', hdir'⟩⟩
  · exact .inl (hq'.trans hq)
  · exact .inr ⟨hmem', hq ▸ hnone', hdir'⟩
  · exact .inr ⟨hmem, hnone, hq'.trans hdir⟩
  · exact .inr ⟨hmem, hnone, hdir'⟩

theorem mono {places' : List Location} (h : t.Gains places t') (hsub : places ⊆ places') :
    t.Gains places' t' :=
  fun q => (h q).imp_right fun ⟨hmem, hq⟩ => ⟨hsub hmem, hq⟩

/-- What stands somewhere stays there. -/
theorem find?_eq (h : t.Gains places t') {entry : Entry} (hq : t.find? q = some entry) :
    t'.find? q = some entry := by
  rcases h q with hsame | ⟨-, hnone, -⟩
  · exact hsame.trans hq
  · cases hq.symm.trans hnone

/-- Where there are directories already, nothing is added. -/
theorem find?_of_dirs (h : t.Gains places t') (hdirs : ∀ q ∈ places, t.find? q = some .dir)
    (q : Location) : t'.find? q = t.find? q := by
  rcases h q with hsame | ⟨hmem, hnone, -⟩
  · exact hsame
  · cases (hdirs q hmem).symm.trans hnone

end Gains

/-! ### Making directories -/

theorem makeDirsFrom_of_dir (h : t.find? (place.next name) = some .dir) :
    t.makeDirsFrom place (name :: names) = t.makeDirsFrom (place.next name) names := by
  simp only [makeDirsFrom, h]

theorem makeDirsFrom_of_none (h : t.find? (place.next name) = none) :
    t.makeDirsFrom place (name :: names) =
      (t.set (place.next name) .dir).makeDirsFrom (place.next name) names := by
  simp only [makeDirsFrom, h]

theorem find?_set_dir (h : t.find? place = none) : (t.set place .dir).find? place = some .dir :=
  find?_set t place .dir (ne_nil_of_find? (t := t) (by simp [h]))

theorem gains_makeDirsFrom (t : Tree) (place : Location) (names : List String) :
    t.Gains (place.along names) (t.makeDirsFrom place names).2 := by
  induction names generalizing t place with
  | nil => exact .refl t _
  | cons name names ih =>
    have hrest (t : Tree) : t.Gains (place.along (name :: names))
        (t.makeDirsFrom (place.next name) names).2 :=
      (ih t (place.next name)).mono (List.subset_cons_self _ _)
    cases hfind : t.find? (place.next name) with
    | none =>
      rw [makeDirsFrom_of_none hfind]
      refine Gains.trans (fun q => ?_) (hrest _)
      by_cases hq : q = place.next name
      · subst hq
        exact .inr ⟨List.mem_cons_self, hfind, find?_set_dir hfind⟩
      · exact .inl (find?_set_of_ne t _ q .dir hq)
    | some entry =>
      cases entry with
      | file bytes =>
        simp only [makeDirsFrom, hfind]
        exact .refl t _
      | dir =>
        rw [makeDirsFrom_of_dir hfind]
        exact hrest t

/-- Directories that are there need not be made. -/
theorem makeDirsFrom_of_dirs (h : ∀ q ∈ place.along names, t.find? q = some .dir) :
    t.makeDirsFrom place names = (none, t) := by
  induction names generalizing place with
  | nil => rfl
  | cons name names ih =>
    obtain ⟨hnext, hrest⟩ := List.forall_mem_cons.mp h
    rw [makeDirsFrom_of_dir hnext, ih hrest]

theorem dirs_of_makeDirsFrom (h : t.makeDirsFrom place names = (none, t')) :
    ∀ q ∈ place.along names, t'.find? q = some .dir := by
  induction names generalizing t place with
  | nil => exact fun q hq => nomatch hq
  | cons name names ih =>
    have hrest {t : Tree} (hdir : t.find? (place.next name) = some .dir)
        (h : t.makeDirsFrom (place.next name) names = (none, t')) :
        ∀ q ∈ place.along (name :: names), t'.find? q = some .dir := by
      have hgains := gains_makeDirsFrom t (place.next name) names
      rw [h] at hgains
      exact List.forall_mem_cons.mpr ⟨hgains.find?_eq hdir, ih h⟩
    cases hfind : t.find? (place.next name) with
    | none =>
      rw [makeDirsFrom_of_none hfind] at h
      exact hrest (find?_set_dir hfind) h
    | some entry =>
      cases entry with
      | file bytes => simp [makeDirsFrom, hfind] at h
      | dir =>
        rw [makeDirsFrom_of_dir hfind] at h
        exact hrest hfind h

/-- It makes no difference that the first directories on the way have been made before. -/
theorem makeDirsFrom_take (t : Tree) (place : Location) (names : List String) (k : Nat) :
    (t.makeDirsFrom place (names.take k)).2.makeDirsFrom place names =
      t.makeDirsFrom place names := by
  induction names generalizing t place k with
  | nil => rw [List.take_nil]; rfl
  | cons name names ih =>
    cases k with
    | zero => rfl
    | succ k =>
      have hrest {t : Tree} (hdir : t.find? (place.next name) = some .dir) :
          (t.makeDirsFrom (place.next name) (names.take k)).2.makeDirsFrom place (name :: names) =
            t.makeDirsFrom (place.next name) names := by
        rw [makeDirsFrom_of_dir ((gains_makeDirsFrom t _ _).find?_eq hdir), ih]
      rw [List.take_succ_cons]
      cases hfind : t.find? (place.next name) with
      | none =>
        rw [makeDirsFrom_of_none hfind, makeDirsFrom_of_none hfind]
        exact hrest (find?_set_dir hfind)
      | some entry =>
        cases entry with
        | file bytes => simp only [makeDirsFrom, hfind]
        | dir =>
          rw [makeDirsFrom_of_dir hfind, makeDirsFrom_of_dir hfind]
          exact hrest hfind

/-! ### Reading where directories are made -/

/-- Whether everything in a tree stands in a directory. -/
def Closed (t : Tree) : Prop :=
  ∀ place name, t.find? (place ++ [name]) ≠ none → t.find? place = some .dir

theorem closed_of_entries (h : ∀ entry ∈ t.entries, t.find? entry.1.dropLast = some .dir) :
    t.Closed := by
  intro place name hfind
  obtain ⟨entry, hentry⟩ := Option.ne_none_iff_exists'.mp hfind
  rw [find?, if_neg (List.append_ne_nil_of_right_ne_nil _ (List.cons_ne_nil name [])),
    List.lookup_eq_some_iff] at hentry
  obtain ⟨before, after, hentries, -⟩ := hentry
  have hparent := h (place ++ [name], entry) (by simp [hentries])
  rwa [List.dropLast_concat] at hparent

/-- Nothing stands below a place where nothing stands. -/
theorem Closed.find?_append (h : t.Closed) (hnone : t.find? place = none) (names : List String) :
    t.find? (place ++ names) = none := by
  induction names using List.reverseRecOn with
  | nil => rwa [List.append_nil]
  | append_singleton names name ih =>
    by_contra hsome
    rw [← List.append_assoc] at hsome
    cases ih.symm.trans (h _ _ hsome)

/-- Whether the same is read at a path when directories are made on a way. -/
def Steady (t : Tree) (p : Path) (way : List String) : Prop :=
  ∀ t', t.Gains (Location.along [] way) t' → t'.readOptional p = t.readOptional p

theorem Steady.of_gains (h : t.Steady p way) (hgains : t.Gains (Location.along [] way) t') :
    t'.Steady p way := fun t'' h' =>
  (h t'' (hgains.trans h')).trans (h t' hgains).symm

/-- There is nothing to be made on a way that is there. -/
theorem steady_of_dirs (hdirs : ∀ q ∈ Location.along [] way, t.find? q = some .dir) :
    t.Steady p way := fun _ hgains =>
  readOptional_of_find?_eq (hgains.find?_of_dirs hdirs)

/-- Below a place where nothing is, directories that were made are all that can be met. -/
theorem walk_of_free (hup : ".." ∉ names)
    (hfree : ∀ rest, t.find? (place ++ rest) = none ∨ t.find? (place ++ rest) = some .dir) :
    t.walk place names = .error .missing ∨ t.walk place names = .ok (place.follow names) := by
  induction names generalizing place with
  | nil => exact .inr rfl
  | cons name names ih =>
    rw [List.mem_cons, not_or] at hup
    rcases hfree [] with hnone | hdir
    · rw [List.append_nil] at hnone
      exact .inl (by rw [walk, hnone])
    · rw [List.append_nil] at hdir
      rw [walk_cons hdir]
      obtain ⟨more, hmore⟩ := Location.isPrefix_next place (Ne.symm hup.1)
      refine ih hup.2 fun rest => ?_
      rw [← hmore, List.append_assoc]
      exact hfree (more ++ rest)

/-! ### Ways that go up -/

/-- Whether everything that names pass before they lead up is there. -/
def UpAfter (t : Tree) (place : Location) (names : List String) : Prop :=
  ∀ before after, names = before ++ ".." :: after →
    ∀ q ∈ place :: place.along before, t.find? q ≠ none

namespace UpAfter

theorem of_cons (h : t.UpAfter place (name :: names)) : t.UpAfter (place.next name) names :=
  fun before after hnames q hq =>
    h (name :: before) after (by simp [hnames]) q (List.mem_cons_of_mem _ hq)

theorem notMem (h : t.UpAfter place names) (hnone : t.find? place = none) : ".." ∉ names := by
  intro hmem
  obtain ⟨before, after, hnames⟩ := List.append_of_mem hmem
  exact h before after hnames place List.mem_cons_self hnone

theorem append {rest : List String} (h : t.UpAfter place names) (hrest : ".." ∉ rest) :
    t.UpAfter place (names ++ rest) := by
  intro before after heq
  rcases List.append_eq_append_iff.mp heq with ⟨more, rfl, hmore⟩ | ⟨more, hnames, hmore⟩
  · exact absurd (hmore ▸ List.mem_append_right more List.mem_cons_self) hrest
  · cases more with
    | nil =>
      rw [List.nil_append] at hmore
      exact absurd (hmore ▸ List.mem_cons_self) hrest
    | cons up more =>
      obtain rfl := (List.cons.inj hmore).1
      exact h before more hnames

end UpAfter

/-- A way that ended where nothing was meets no file when directories have been made. -/
theorem walk_of_gains {places : List Location} (hclosed : t.Closed) (hup : t.UpAfter place names)
    (hgains : t.Gains places t') (hwalk : t.walk place names = .error .missing) :
    t.find? (place.follow names) = none ∧
      (t'.walk place names = .error .missing ∨ t'.walk place names = .ok (place.follow names)) := by
  induction names generalizing place with
  | nil => cases hwalk
  | cons name names ih =>
    cases hfind : t.find? place with
    | none =>
      have hbelow (rest : List String) : t.find? (place ++ rest) = none :=
        hclosed.find?_append hfind rest
      have hnever := hup.notMem hfind
      refine ⟨?_, walk_of_free hnever fun rest => ?_⟩
      · obtain ⟨rest, hrest⟩ := Location.isPrefix_follow place hnever
        exact hrest ▸ hbelow rest
      · exact (hgains (place ++ rest)).imp (·.trans (hbelow rest)) (·.2.2)
    | some entry =>
      cases entry with
      | file bytes => simp [walk, hfind] at hwalk
      | dir =>
        rw [walk_cons hfind] at hwalk
        rw [walk_cons (hgains.find?_eq hfind)]
        exact ih hup.of_cons hwalk

/-- A way that is closed by a file stays so when directories are made. -/
theorem walk_error_of_gains {places : List Location} {e : IoError} (hgains : t.Gains places t')
    (hwalk : t.walk place names = .error e) (he : e ≠ .missing) :
    t'.walk place names = .error e := by
  induction names generalizing place with
  | nil => cases hwalk
  | cons name names ih =>
    cases hfind : t.find? place with
    | none =>
      rw [walk, hfind] at hwalk
      exact absurd (Except.error.inj hwalk).symm he
    | some entry =>
      rw [walk, hfind] at hwalk
      rw [walk, hgains.find?_eq hfind]
      cases entry with
      | file bytes => exact hwalk
      | dir => exact ih hwalk

/-- Where a way ends, something is if the way comes by. -/
theorem UpAfter.ne_none_of_mem (hup : t.UpAfter [] way) (hname : Path.IsName name)
    (hmem : (Location.follow [] way).next name ∈ Location.along [] way) :
    t.find? ((Location.follow [] way).next name) ≠ none := by
  rcases Location.isPrefix_or_up_of_mem_along hmem with hprefix | ⟨before, after, hway, hbefore⟩
  · -- It is longer than what leads to it.
    have hlength := hprefix.length_le
    rw [Location.next_of_isName hname, List.length_append] at hlength
    exact absurd hlength (Nat.not_succ_le_self _)
  · exact hup before after hway _ (List.mem_cons_of_mem _ hbefore)

/-- Directories on a way that goes up only after what was there make nothing appear at its end. -/
theorem steady_of_upAfter (hclosed : t.Closed) (hp : EndsAt p way name)
    (hname : Path.IsName name) (hup : t.UpAfter [] way) : t.Steady p way := by
  intro t' hgains
  cases hplace : t.locate p with
  | ok place => exact steady_of_dirs (place_of_locate hp hplace).1 t' hgains
  | error e =>
    obtain ⟨dots, hdots, hlocate⟩ := hp
    have hwalk : t.walk [] (way ++ name :: dots) = .error e := hlocate t ▸ hplace
    by_cases he : e = .missing
    · subst he
      have hrest : ".." ∉ name :: dots := by
        rw [List.mem_cons, not_or]
        exact ⟨hname.ne_dots.symm, fun hmem => absurd (hdots _ hmem) (by decide)⟩
      obtain ⟨hnone, hwalk'⟩ := walk_of_gains hclosed (hup.append hrest) hgains hwalk
      have hend :
          Location.follow [] (way ++ name :: dots) = (Location.follow [] way).next name := by
        rw [Location.follow_append]
        exact Location.follow_dots hdots _
      rw [hend] at hnone hwalk'
      rw [readOptional_of_none (.inl hplace)]
      refine readOptional_of_none (hlocate t' ▸ hwalk'.imp_right fun hwalk' => ⟨_, hwalk', ?_⟩)
      rcases hgains ((Location.follow [] way).next name) with hkept | ⟨hmem, -, -⟩
      · exact hkept.trans hnone
      · exact absurd hnone (hup.ne_none_of_mem hname hmem)
    · have herror := walk_error_of_gains hgains hwalk he
      simp only [readOptional, read, hplace, hlocate t', herror, bind, Except.bind]

/-- Whether a way goes up only after directories that are there: no name on it that leads up comes
after one that leads to nothing. -/
def UpWithin (t : Tree) (way : List String) : Prop :=
  ∃ there rest, way = there ++ rest ∧ (∀ q ∈ Location.along [] there, t.find? q = some .dir) ∧
    ".." ∉ rest

theorem UpWithin.upAfter (h : t.UpWithin way) : t.UpAfter [] way := by
  obtain ⟨there, rest, rfl, hdirs, hup⟩ := h
  refine UpAfter.append (fun before after hthere q hq => ?_) hup
  subst hthere
  rcases List.mem_cons.mp hq with rfl | hq
  · exact Option.some_ne_none Entry.dir
  · rw [hdirs q (Location.along_append [] before _ ▸ List.mem_append_left _ hq)]
    exact Option.some_ne_none Entry.dir

end NearDup.Tree
