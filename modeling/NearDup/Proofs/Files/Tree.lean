import NearDup.Files.Tree
import NearDup.Proofs.Files.Path

/-! Ways through a tree, and what operations that succeed do at their ends. Main statements: a path
that leads somewhere leads along directories to the place of its last name; an operation on a file
changes one place, a renaming two. -/

namespace NearDup

namespace Location

/-- The place that names lead to from another one. -/
def follow (place : Location) (names : List String) : Location :=
  names.foldl next place

/-- The places that names lead to one after another. -/
def along (place : Location) : List String → List Location
  | [] => []
  | name :: names => place.next name :: along (place.next name) names

variable {place q : Location} {name : String} {names : List String}

theorem next_of_isName (h : Path.IsName name) : place.next name = place ++ [name] := by
  rw [next, if_neg h.ne_dot, if_neg h.ne_dots]

theorem follow_append (place : Location) (names names' : List String) :
    place.follow (names ++ names') = (place.follow names).follow names' :=
  List.foldl_append

theorem along_take (k : Nat) : place.along (names.take k) = (place.along names).take k := by
  induction names generalizing place k with
  | nil => simp [along]
  | cons name names ih => cases k <;> simp [along, ih]

theorem along_append (place : Location) (names names' : List String) :
    place.along (names ++ names') = place.along names ++ (place.follow names).along names' := by
  induction names generalizing place with
  | nil => rfl
  | cons name names ih => exact congrArg (place.next name :: ·) (ih (place.next name))

theorem mem_along_filter :
    q = place ∨ q ∈ place.along (names.filter (· ≠ ".")) ↔ q = place ∨ q ∈ place.along names := by
  induction names generalizing place with
  | nil => rfl
  | cons name names ih =>
    by_cases hdot : name = "."
    · have hstay : place.next name = place := if_pos hdot
      rw [List.filter_cons_of_neg (by simpa using hdot), ih, along, hstay, List.mem_cons,
        or_self_left]
    · rw [List.filter_cons_of_pos (by simpa using hdot), along, along, List.mem_cons, List.mem_cons,
        ih]

/-- Dots that lead nowhere lead to no other places. -/
theorem mem_along_withoutDots :
    q ∈ place.along (Path.withoutDots names) ↔ q ∈ place.along names := by
  cases names with
  | nil => rfl
  | cons first names =>
    rw [Path.withoutDots, along, along, List.mem_cons, List.mem_cons]
    exact mem_along_filter

/-- A way that never goes up stays below every place on it. -/
theorem isPrefix_next (place : Location) (h : name ≠ "..") : place <+: place.next name := by
  rw [next, if_neg h]
  split
  · exact List.prefix_refl _
  · exact List.prefix_append _ _

theorem isPrefix_follow (place : Location) (h : ".." ∉ names) : place <+: place.follow names := by
  induction names generalizing place with
  | nil => exact List.prefix_refl _
  | cons name names ih =>
    rw [List.mem_cons, not_or] at h
    exact (isPrefix_next place (Ne.symm h.1)).trans (ih (place.next name) h.2)

/-- A place on a way stands above its end, unless the way goes up after it. -/
theorem isPrefix_or_up_of_mem_along (hq : q ∈ place.along names) :
    q <+: place.follow names ∨
      ∃ before after, names = before ++ ".." :: after ∧ q ∈ place.along before := by
  induction names generalizing place with
  | nil => cases hq
  | cons name names ih =>
    rcases List.mem_cons.mp hq with rfl | hq
    · by_cases hup : ".." ∈ names
      · obtain ⟨before, after, rfl⟩ := List.append_of_mem hup
        exact .inr ⟨name :: before, after, rfl, List.mem_cons_self⟩
      · exact .inl (isPrefix_follow _ hup)
    · refine (ih hq).imp_right fun ⟨before, after, hnames, hbefore⟩ => ?_
      exact ⟨name :: before, after, by rw [hnames]; rfl, List.mem_cons_of_mem _ hbefore⟩

theorem follow_dots {dots : List String} (hdots : ∀ dot ∈ dots, dot = ".") (place : Location) :
    place.follow dots = place := by
  induction dots with
  | nil => rfl
  | cons dot dots ih =>
    obtain ⟨rfl, hrest⟩ := List.forall_mem_cons.mp hdots
    exact ih hrest

end Location

namespace Tree

variable {t t₁ t' : Tree} {p : Path} {bytes : Bytes} {place q : Location} {name : String}
  {names way : List String}

/-! ### Places -/

theorem walk_cons (h : t.find? place = some .dir) :
    t.walk place (name :: names) = t.walk (place.next name) names := by
  rw [walk, h]

/-- Along directories a way goes on from where they lead to. -/
theorem walk_append (hplace : t.find? place = some .dir)
    (hdirs : ∀ q ∈ place.along names, t.find? q = some .dir) (rest : List String) :
    t.walk place (names ++ rest) = t.walk (place.follow names) rest := by
  induction names generalizing place with
  | nil => rfl
  | cons name names ih =>
    obtain ⟨hnext, hdirs⟩ := List.forall_mem_cons.mp hdirs
    rw [List.cons_append, walk_cons hplace]
    exact ih hnext hdirs

/-- Where directories stay, every way stays. -/
theorem walk_of_dirs (h : ∀ q, t.find? q = some .dir → t'.find? q = some .dir)
    (hwalk : t.walk place names = .ok q) : t'.walk place names = .ok q := by
  induction names generalizing place with
  | nil => exact hwalk
  | cons name names ih =>
    rw [walk] at hwalk ⊢
    split at hwalk
    · cases hwalk
    · cases hwalk
    · rename_i hdir
      rw [h place hdir]
      exact ih hwalk

/-- What can be walked past a way has directories all along it. -/
theorem walk_append_eq_ok {rest : List String}
    (h : t.walk place (names ++ name :: rest) = .ok q) :
    t.find? place = some .dir ∧ (∀ s ∈ place.along names, t.find? s = some .dir) ∧
      t.walk ((place.follow names).next name) rest = .ok q := by
  induction names generalizing place with
  | nil =>
    rw [List.nil_append, walk] at h
    split at h
    · cases h
    · cases h
    · exact ⟨‹_›, by simp [Location.along], h⟩
  | cons first names ih =>
    rw [List.cons_append, walk] at h
    split at h
    · cases h
    · cases h
    · obtain ⟨hnext, hdirs, hwalk⟩ := ih h
      exact ⟨‹_›, List.forall_mem_cons.mpr ⟨hnext, hdirs⟩, hwalk⟩

theorem eq_follow_of_walk (h : t.walk place names = .ok q) : q = place.follow names := by
  induction names generalizing place with
  | nil => exact (Except.ok.inj h).symm
  | cons name names ih =>
    rw [walk] at h
    split at h
    · cases h
    · cases h
    · exact ih h

theorem find?_follow (hplace : t.find? place = some .dir)
    (hdirs : ∀ q ∈ place.along names, t.find? q = some .dir) :
    t.find? (place.follow names) = some .dir := by
  induction names generalizing place with
  | nil => exact hplace
  | cons name names ih =>
    obtain ⟨hnext, hdirs⟩ := List.forall_mem_cons.mp hdirs
    exact ih hnext hdirs

theorem walk_of_find?_eq (h : ∀ q, t'.find? q = t.find? q) :
    t'.walk place names = t.walk place names := by
  induction names generalizing place with
  | nil => rfl
  | cons name names ih => rw [walk, walk, h, ih]

theorem locate_of_dirs (h : ∀ place, t.find? place = some .dir → t'.find? place = some .dir)
    {place : Location} (hlocate : t.locate p = .ok place) : t'.locate p = .ok place := by
  unfold locate at hlocate ⊢
  by_cases hempty : p.text.isEmpty = true
  · rw [if_pos hempty] at hlocate
    cases hlocate
  · rw [if_neg hempty] at hlocate ⊢
    exact walk_of_dirs h hlocate

theorem locate_of_leadsTo (h : p.LeadsTo way name) : t.locate p = t.walk [] (way ++ [name]) := by
  rw [locate, h.text_ne, if_neg (by decide), h.route_eq]

/-! ### Dots on the way -/

theorem walk_dot (names : List String) :
    t.walk place ("." :: name :: names) = t.walk place (name :: names) := by
  rw [walk, Location.next, if_pos rfl]
  cases h : t.find? place with
  | none => rw [walk, h]
  | some entry => cases entry <;> simp [walk, h]

/-- Dots before a name can be left out. -/
theorem walk_filter (names rest : List String) :
    t.walk place (names.filter (· ≠ ".") ++ name :: rest) =
      t.walk place (names ++ name :: rest) := by
  induction names generalizing place with
  | nil => rfl
  | cons first names ih =>
    by_cases hdot : first = "."
    · subst hdot
      rw [List.filter_cons_of_neg (by simp), ih]
      cases names with
      | nil => exact (walk_dot rest).symm
      | cons => exact (walk_dot _).symm
    · rw [List.filter_cons_of_pos (by simpa using hdot), List.cons_append, List.cons_append, walk,
        walk]
      simp only [ih]

theorem walk_withoutDots (names rest : List String) :
    t.walk place (Path.withoutDots names ++ name :: rest) =
      t.walk place (names ++ name :: rest) := by
  cases names with
  | nil => rfl
  | cons first names =>
    rw [Path.withoutDots, List.cons_append, List.cons_append, walk, walk]
    simp only [walk_filter]

/-- Dots behind a place lead there again if it is a directory. -/
theorem walk_dots_congr {dots : List String} (hdots : ∀ dot ∈ dots, dot = ".")
    (h : t'.find? place = t.find? place) : t'.walk place dots = t.walk place dots := by
  induction dots with
  | nil => rfl
  | cons dot dots ih =>
    obtain ⟨rfl, hrest⟩ := List.forall_mem_cons.mp hdots
    have hstay : place.next "." = place := if_pos rfl
    rw [walk, walk, h, hstay, ih hrest]

/-- Whether in every tree a path is followed along a way to a name, with only dots behind this. -/
def EndsAt (p : Path) (way : List String) (name : String) : Prop :=
  ∃ dots, (∀ dot ∈ dots, dot = ".") ∧ ∀ t : Tree, t.locate p = t.walk [] (way ++ name :: dots)

theorem endsAt_of_leadsTo (h : p.LeadsTo way name) : EndsAt p way name :=
  ⟨[], by simp, fun _ => locate_of_leadsTo h⟩

/-- A path to a file is followed along the names on the way to it. -/
theorem endsAt_of_components (hname : name ≠ ".") (h : p.components = way ++ [name]) :
    EndsAt p way name := by
  have hne : p.text.isEmpty = false := by
    rw [Bool.eq_false_iff]
    intro hempty
    obtain ⟨text⟩ := p
    obtain rfl : text = "" := String.isEmpty_iff.mp hempty
    simp [Path.components, Path.withoutDots] at h
  obtain ⟨before, dots, hparts, hdots, rfl⟩ := Path.exists_of_withoutDots_eq hname h
  have hlocate (dots : List String) (hroute : p.route = before ++ name :: dots) (t : Tree) :
      t.locate p = t.walk [] (Path.withoutDots before ++ name :: dots) := by
    rw [locate, hne, if_neg (by decide), hroute, walk_withoutDots]
  by_cases hends : p.text.endsWith "/" = true
  · refine ⟨dots ++ ["."], ?_, hlocate _ ?_⟩
    · exact List.forall_mem_append.mpr ⟨hdots, List.forall_mem_singleton.mpr rfl⟩
    · rw [Path.route, if_pos hends, hparts, List.append_assoc, List.cons_append]
  · refine ⟨dots, hdots, hlocate _ ?_⟩
    rw [Path.route, if_neg hends, hparts]

/-- A path that leads somewhere leads to the place of its last name, with directories all along. -/
theorem place_of_locate (hp : EndsAt p way name) (h : t.locate p = .ok place) :
    (∀ q ∈ Location.along [] way, t.find? q = some .dir) ∧
      place = (Location.follow [] way).next name := by
  obtain ⟨dots, hdots, hlocate⟩ := hp
  rw [hlocate] at h
  obtain ⟨-, hdirs, hwalk⟩ := walk_append_eq_ok h
  exact ⟨hdirs, (eq_follow_of_walk hwalk).trans (Location.follow_dots hdots _)⟩

/-- A name is led to when there are directories all along the way to it. -/
theorem locate_iff_of_leadsTo (h : p.LeadsTo way name) : t.locate p = .ok place ↔
    (∀ q ∈ Location.along [] way, t.find? q = some .dir) ∧
      place = (Location.follow [] way).next name := by
  refine ⟨place_of_locate (endsAt_of_leadsTo h), ?_⟩
  rintro ⟨hdirs, rfl⟩
  rw [locate_of_leadsTo h, walk_append rfl hdirs, walk_cons (find?_follow rfl hdirs), walk]

/-- A path with a stroke at its end leads to nothing but directories. -/
theorem dir_of_locate (hends : p.text.endsWith "/" = true) (h : t.locate p = .ok place) :
    t.find? place = some .dir := by
  unfold locate at h
  split at h
  · cases h
  · rw [Path.route, if_pos hends] at h
    obtain ⟨hroot, hdirs, hwalk⟩ := walk_append_eq_ok h
    have hstay : (Location.follow [] p.parts).next "." = Location.follow [] p.parts := if_pos rfl
    rw [walk, hstay] at hwalk
    obtain rfl := Except.ok.inj hwalk
    exact find?_follow hroot hdirs

/-! ### Changes at one place -/

theorem ne_nil_of_find? (h : t.find? place ≠ some .dir) : place ≠ [] := by
  rintro rfl
  exact h rfl

theorem find?_erase (h : place ≠ []) : (t.erase place).find? place = none := by
  rw [find?, if_neg h, erase, List.lookup_eq_none_iff]
  intro entry hentry
  have hne : entry.1 ≠ place := of_decide_eq_true (List.mem_filter.mp hentry).2
  exact bne_iff_ne.mpr (Ne.symm hne)

/-- A file makes no directory come or go where there was none. -/
theorem dir_set_iff (h : t.find? place ≠ some .dir) (bytes : Bytes) :
    (t.set place (.file bytes)).find? q = some .dir ↔ t.find? q = some .dir := by
  by_cases hq : q = place
  · subst hq
    simp [find?_set t q _ (ne_nil_of_find? h), h]
  · rw [find?_set_of_ne t place q _ hq]

theorem dir_erase_iff (h : t.find? place ≠ some .dir) :
    (t.erase place).find? q = some .dir ↔ t.find? q = some .dir := by
  by_cases hq : q = place
  · subst hq
    simp [find?_erase (ne_nil_of_find? h), h]
  · rw [find?_erase_of_ne t place q hq]

/-- Where the same places are directories, paths lead to the same places. -/
theorem locate_congr (h : ∀ q, t'.find? q = some .dir ↔ t.find? q = some .dir) :
    t'.locate p = .ok place ↔ t.locate p = .ok place :=
  ⟨locate_of_dirs fun q => (h q).mp, locate_of_dirs fun q => (h q).mpr⟩

theorem locate_set_iff (h : t.find? place ≠ some .dir) (bytes : Bytes) :
    (t.set place (.file bytes)).locate p = .ok q ↔ t.locate p = .ok q :=
  locate_congr fun _ => dir_set_iff h bytes

theorem locate_erase_iff (h : t.find? place ≠ some .dir) :
    (t.erase place).locate p = .ok q ↔ t.locate p = .ok q :=
  locate_congr fun _ => dir_erase_iff h

theorem set_erase (t : Tree) (place : Location) (entry : Entry) :
    (t.erase place).set place entry = t.set place entry := by
  simp [set, erase]

theorem erase_set (t : Tree) (place : Location) (entry : Entry) :
    (t.set place entry).erase place = t.erase place := by
  simp [set, erase]

theorem erase_erase (t : Tree) (place : Location) :
    (t.erase place).erase place = t.erase place := by
  simp [erase]

theorem set_set (t : Tree) (place : Location) (entry entry' : Entry) :
    (t.set place entry).set place entry' = t.set place entry' := by
  rw [← set_erase, erase_set, set_erase]

/-! ### Trees that agree but for one place -/

section

variable (herase : t'.erase place = t.erase place)

include herase

theorem set_of_erase_eq (entry : Entry) : t'.set place entry = t.set place entry := by
  rw [← set_erase, herase, set_erase]

theorem find?_of_erase_eq (h : q ≠ place) : t'.find? q = t.find? q := by
  rw [← find?_erase_of_ne t' place q h, herase, find?_erase_of_ne t place q h]

theorem dir_iff_of_erase_eq (h : t.find? place ≠ some .dir) (h' : t'.find? place ≠ some .dir) :
    t'.find? q = some .dir ↔ t.find? q = some .dir := by
  rw [← dir_erase_iff h', herase, dir_erase_iff h]

end

/-! ### Operations that succeed -/

theorem create_eq_ok_iff : t.create p = .ok t' ↔
    ∃ place, t.locate p = .ok place ∧ t.find? place ≠ some .dir ∧
      t' = t.set place (.file []) := by
  unfold create
  cases t.locate p with
  | error e => simp [bind, Except.bind]
  | ok place =>
    by_cases h : t.find? place = some .dir <;> simp [bind, Except.bind, h, eq_comm (a := t')]

theorem append_eq_ok_iff : t.append p bytes = .ok t' ↔
    ∃ place old, t.locate p = .ok place ∧ t.find? place = some (.file old) ∧
      t' = t.set place (.file (old ++ bytes)) := by
  unfold append
  cases t.locate p with
  | error e => simp [bind, Except.bind]
  | ok place =>
    cases hfind : t.find? place with
    | none => simp [bind, Except.bind, hfind]
    | some entry => cases entry <;> simp [bind, Except.bind, hfind, eq_comm]

theorem rename_eq_ok_iff {source target : Path} : t.rename source target = .ok t' ↔
    ∃ origin bytes place, t.locate source = .ok origin ∧ t.find? origin = some (.file bytes) ∧
      t.locate target = .ok place ∧ t.find? place ≠ some .dir ∧
      t' = (t.erase origin).set place (.file bytes) := by
  constructor
  · intro h
    unfold rename at h
    cases hsource : t.locate source with
    | error e => simp [hsource, bind, Except.bind] at h
    | ok origin =>
      simp only [hsource, bind, Except.bind] at h
      split at h
      · cases h
      · cases h
      · rename_i bytes hbytes
        split at h
        · cases h
        · cases htarget : t.locate target with
          | error e => simp [htarget] at h
          | ok place =>
            simp only [htarget] at h
            split at h
            · cases h
            · exact ⟨origin, bytes, place, rfl, hbytes, rfl, ‹_›, (Except.ok.inj h).symm⟩
  · rintro ⟨origin, bytes, place, hsource, hbytes, htarget, hplace, rfl⟩
    have hends : target.text.endsWith "/" = false := by
      rw [Bool.eq_false_iff]
      exact fun hends => hplace (dir_of_locate hends htarget)
    simp [rename, hsource, hbytes, hends, htarget, hplace, bind, Except.bind]

theorem removeFile_eq_ok_iff : t.removeFile p = .ok t' ↔
    ∃ place bytes, t.locate p = .ok place ∧ t.find? place = some (.file bytes) ∧
      t' = t.erase place := by
  unfold removeFile
  cases t.locate p with
  | error e => simp [bind, Except.bind]
  | ok place =>
    cases hfind : t.find? place with
    | none => simp [bind, Except.bind, hfind]
    | some entry => cases entry <;> simp [bind, Except.bind, hfind, eq_comm]

theorem outcome_eq_none_iff {x : Except IoError Tree} : t.outcome x = (none, t') ↔ x = .ok t' := by
  cases x <;> simp [outcome]

/-! ### Reading -/

theorem read_eq_ok_iff : t.read p = .ok bytes ↔
    ∃ place, t.locate p = .ok place ∧ t.find? place = some (.file bytes) := by
  unfold read
  cases t.locate p with
  | error e => simp [bind, Except.bind]
  | ok place =>
    cases hfind : t.find? place with
    | none => simp [bind, Except.bind, hfind]
    | some entry => cases entry <;> simp [bind, Except.bind, hfind]

/-- Where the same place is led to and nothing has changed there, the same is read. -/
theorem readOptional_congr (h : t.locate p = .ok place) (h' : t'.locate p = .ok place)
    (hfind : t'.find? place = t.find? place) : t'.readOptional p = t.readOptional p := by
  simp only [readOptional, read, h, h', hfind, bind, Except.bind]

theorem readOptional_of_find?_eq (h : ∀ q, t'.find? q = t.find? q) :
    t'.readOptional p = t.readOptional p := by
  simp only [readOptional, read, locate, walk_of_find?_eq h, h]

/-- Where a path leads along directories, only the place at its end matters to a reader. -/
theorem readOptional_endsAt_congr (hp : EndsAt p way name)
    (hdirs : ∀ q ∈ Location.along [] way, t.find? q = some .dir)
    (hdirs' : ∀ q ∈ Location.along [] way, t'.find? q = some .dir)
    (hsame : t'.find? ((Location.follow [] way).next name) =
      t.find? ((Location.follow [] way).next name)) : t'.readOptional p = t.readOptional p := by
  have hlocate : t'.locate p = t.locate p := by
    obtain ⟨dots, hdots, hlocate⟩ := hp
    rw [hlocate, hlocate, walk_append rfl hdirs, walk_append rfl hdirs',
      walk_cons (find?_follow rfl hdirs), walk_cons (find?_follow rfl hdirs'),
      walk_dots_congr hdots hsame]
  cases hplace : t.locate p with
  | error e => simp only [readOptional, read, hlocate, hplace, bind, Except.bind]
  | ok place =>
    obtain rfl := (place_of_locate hp hplace).2
    exact readOptional_congr hplace (hlocate.trans hplace) hsame

theorem readOptional_of_none (h : t.locate p = .error .missing ∨
    ∃ place, t.locate p = .ok place ∧ t.find? place = none) : t.readOptional p = .ok none := by
  rcases h with h | ⟨place, h, hfind⟩
  · simp only [readOptional, read, h, bind, Except.bind]
  · simp only [readOptional, read, h, hfind, bind, Except.bind]

end Tree

end NearDup
