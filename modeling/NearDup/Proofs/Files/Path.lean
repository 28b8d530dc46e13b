import Mathlib.Data.List.Induction
import NearDup.Files.Path
import NearDup.Proofs.Text.Words

/-! Paths and the names in them. Main statements: a path that is put together from names has these
names, and a name that is joined to a path is its last one. -/

namespace NearDup

namespace Path

/-! ### Names -/

/-- Whether a text can be the name of an entry of a directory. -/
structure IsName (name : String) : Prop where
  ne_empty : name ≠ ""
  no_stroke : '/' ∉ name.toList
  ne_dot : name ≠ "."
  ne_dots : name ≠ ".."

instance (name : String) : Decidable (IsName name) :=
  decidable_of_iff (name ≠ "" ∧ '/' ∉ name.toList ∧ name ≠ "." ∧ name ≠ "..")
    ⟨fun h => ⟨h.1, h.2.1, h.2.2.1, h.2.2.2⟩, fun h => ⟨h.1, h.2, h.3, h.4⟩⟩

variable {name : String} {names way : List String} {p dir : Path}

theorem mem_parts (h : name ∈ p.parts) : name ≠ "" ∧ '/' ∉ name.toList := by
  obtain ⟨hmem, hne⟩ := List.mem_filter.mp h
  obtain ⟨piece, hpiece, rfl⟩ := List.mem_map.mp hmem
  refine ⟨by simpa using hne, fun hstroke => ?_⟩
  rw [String.toList_ofList] at hstroke
  simpa using Text.not_cut_of_mem_pieces _ _ piece hpiece '/' hstroke

@[simp] theorem parts_empty : parts ⟨""⟩ = [] := by
  simp [parts, Text.splitAt, Text.pieces]

theorem parts_of_no_stroke (hne : name ≠ "") (h : '/' ∉ name.toList) : parts ⟨name⟩ = [name] := by
  have hpieces : Text.pieces (· == '/') name.toList = [name.toList] := by
    rw [Text.pieces_eq_splitOnP]
    refine List.splitOnP_eq_singleton fun c hc => ?_
    simpa using ne_of_mem_of_not_mem hc h
  simp [parts, Text.splitAt, hpieces, hne]

theorem parts_stroke (before after : String) :
    parts ⟨before ++ "/" ++ after⟩ = parts ⟨before⟩ ++ parts ⟨after⟩ := by
  have htext : (before ++ "/" ++ after).toList = before.toList ++ '/' :: after.toList := by simp
  have hsplit := List.splitOnP_append_cons (p := (· == '/')) before.toList after.toList
    (beq_self_eq_true '/')
  simp only [parts, Text.splitAt, Text.pieces_eq_splitOnP, htext,
    hsplit, List.map_append, List.filter_append]

/-- A path that is put together from names has these names. -/
theorem parts_ofNames (h : ∀ name ∈ names, name ≠ "" ∧ '/' ∉ name.toList) :
    (ofNames names).parts = names := by
  induction names with
  | nil => exact parts_empty
  | cons name names ih =>
    obtain ⟨⟨hne, hstroke⟩, hrest⟩ := List.forall_mem_cons.mp h
    have hname := parts_of_no_stroke hne hstroke
    cases names with
    | nil => simpa [ofNames] using hname
    | cons next names =>
      rw [ofNames, String.intercalate_cons_cons, parts_stroke, hname]
      exact congrArg (name :: ·) (ih hrest)

theorem endsWith_stroke (h : p.text.endsWith "/" = true) : ∃ before, p.text = before ++ "/" := by
  rw [String.endsWith_eq_endsWith_toSlice, String.Slice.endsWith_string_iff,
    String.copy_toSlice] at h
  obtain ⟨before, hbefore⟩ := h
  refine ⟨String.ofList before, ?_⟩
  rw [← String.ofList_toList (s := p.text), ← hbefore, String.ofList_append, String.ofList_toList]

theorem not_endsWith_stroke {before : String} (hne : name ≠ "") (h : '/' ∉ name.toList) :
    (before ++ name).endsWith "/" = false := by
  rw [Bool.eq_false_iff]
  intro hends
  obtain ⟨rest, hrest⟩ := endsWith_stroke (p := ⟨before ++ name⟩) hends
  have hlast := congrArg (·.toList.getLast?) hrest
  cases hname : name.toList.getLast? with
  | none => exact hne (by simpa using hname)
  | some c =>
    obtain rfl : c = '/' := by simpa [hname] using hlast
    exact h (List.mem_of_getLast? hname)

/-! ### A name joined to a path -/

theorem parts_join (h : IsName name) : (dir.join name).parts = dir.parts ++ [name] := by
  have hname := parts_of_no_stroke h.ne_empty h.no_stroke
  unfold join
  split
  · rename_i hend
    by_cases hempty : dir.text = ""
    · obtain ⟨text⟩ := dir
      obtain rfl : text = "" := hempty
      simpa using hname
    · obtain ⟨before, hbefore⟩ := endsWith_stroke (p := dir) (by simpa [hempty] using hend)
      have hdir : dir.parts = parts ⟨before⟩ := by
        have hparts := parts_stroke before ""
        rw [String.append_empty, parts_empty, List.append_nil, ← hbefore] at hparts
        exact hparts
      rw [hbefore, parts_stroke, hname, hdir]
  · rw [parts_stroke, hname]

theorem exists_text_join (dir : Path) (name : String) :
    ∃ before, (dir.join name).text = before ++ name := by
  unfold join
  split
  · exact ⟨_, rfl⟩
  · exact ⟨_, rfl⟩

/-- The way along the names of a directory to a name in it. -/
structure LeadsTo (p : Path) (way : List String) (name : String) : Prop where
  text_ne : p.text.isEmpty = false
  ends : p.text.endsWith "/" = false
  parts_eq : p.parts = way ++ [name]

theorem LeadsTo.route_eq {way : List String} (h : p.LeadsTo way name) :
    p.route = way ++ [name] := by
  rw [route, h.ends, if_neg (by decide), h.parts_eq]

theorem leadsTo_join (dir : Path) (h : IsName name) : (dir.join name).LeadsTo dir.parts name := by
  obtain ⟨before, hbefore⟩ := exists_text_join dir name
  refine ⟨?_, ?_, parts_join h⟩
  · simp [hbefore, h.ne_empty]
  · rw [hbefore]
    exact not_endsWith_stroke h.ne_empty h.no_stroke

theorem leadsTo_ofNames (hnames : ∀ name ∈ names, name ≠ "" ∧ '/' ∉ name.toList) (h : IsName name) :
    (ofNames (names ++ [name])).LeadsTo names name := by
  have hparts : (ofNames (names ++ [name])).parts = names ++ [name] :=
    parts_ofNames (List.forall_mem_append.mpr
      ⟨hnames, List.forall_mem_singleton.mpr ⟨h.ne_empty, h.no_stroke⟩⟩)
  obtain ⟨before, hbefore⟩ : ∃ before, (ofNames (names ++ [name])).text = before ++ name := by
    by_cases hempty : names = []
    · exact ⟨"", by simp [ofNames, hempty]⟩
    · refine ⟨"/".intercalate names ++ "/", ?_⟩
      rw [ofNames, String.intercalate_append_of_ne_nil hempty (List.cons_ne_nil name []),
        String.intercalate_singleton]
  refine ⟨?_, ?_, hparts⟩
  · simp [hbefore, h.ne_empty]
  · rw [hbefore]
    exact not_endsWith_stroke h.ne_empty h.no_stroke

/-! ### Dots -/

theorem mem_withoutDots (h : name ∈ withoutDots names) : name ∈ names := by
  cases names with
  | nil => exact h
  | cons first names =>
    exact List.mem_cons.mpr ((List.mem_cons.mp h).imp_right fun h => (List.mem_filter.mp h).1)

theorem withoutDots_concat (h : name ≠ ".") :
    withoutDots (names ++ [name]) = withoutDots names ++ [name] := by
  cases names with
  | nil => rfl
  | cons first names => simp [withoutDots, h]

theorem withoutDots_withoutDots (names : List String) :
    withoutDots (withoutDots names) = withoutDots names := by
  cases names with
  | nil => rfl
  | cons first names => simp [withoutDots]

/-- Names that end in one that is no dot are those before it and dots after it. -/
theorem exists_of_withoutDots_eq (hname : name ≠ ".") (h : withoutDots names = way ++ [name]) :
    ∃ before dots, names = before ++ name :: dots ∧ (∀ dot ∈ dots, dot = ".") ∧
      withoutDots before = way := by
  induction names using List.reverseRecOn with
  | nil => simp [withoutDots] at h
  | append_singleton names last ih =>
    by_cases hlast : last = "."
    · subst hlast
      cases names with
      | nil =>
        have hsingle : [] ++ ["."] = way ++ [name] := h
        exact absurd (List.append_inj_right' hsingle rfl) (by simpa using Ne.symm hname)
      | cons first names =>
        have hsame : withoutDots (first :: names) = way ++ [name] := by
          rw [← h]
          simp [withoutDots]
        obtain ⟨before, dots, heq, hdots, hbefore⟩ := ih hsame
        refine ⟨before, dots ++ ["."], by simp [heq], ?_, hbefore⟩
        exact List.forall_mem_append.mpr ⟨hdots, List.forall_mem_singleton.mpr rfl⟩
    · rw [withoutDots_concat hlast] at h
      obtain ⟨hway, hsame⟩ := List.append_inj' h rfl
      obtain rfl := List.singleton_inj.mp hsame
      exact ⟨names, [], rfl, by simp, hway⟩

/-! ### Paths to files -/

theorem LeadsTo.components_eq (h : p.LeadsTo way name) (hname : name ≠ ".") :
    p.components = withoutDots way ++ [name] := by
  rw [components, h.parts_eq, withoutDots_concat hname]

theorem withoutDots_components (p : Path) : withoutDots p.components = p.components :=
  withoutDots_withoutDots p.parts

/-- The names on the way to a file have no dots among them that lead nowhere. -/
theorem withoutDots_way (hname : name ≠ ".") (h : p.components = way ++ [name]) :
    withoutDots way = way := by
  have hsame := p.withoutDots_components
  rw [h, withoutDots_concat hname] at hsame
  exact List.append_cancel_right hsame

theorem mem_components (h : name ∈ p.components) : name ≠ "" ∧ '/' ∉ name.toList :=
  mem_parts (mem_withoutDots h)

/-- The directory of a file is reached by the way to the file. -/
theorem components_parent_of_eq (hname : name ≠ ".") (h : p.components = way ++ [name]) :
    (p.parent?.map components).getD [] = way := by
  have hparent : p.parent? = some (ofNames way) := by simp [parent?, h]
  have hway : ∀ name ∈ way, name ≠ "" ∧ '/' ∉ name.toList := fun _ hmem =>
    mem_components (h ▸ List.mem_append_left _ hmem)
  rw [hparent, Option.map_some, Option.getD_some, components, parts_ofNames hway,
    withoutDots_way hname h]

theorem no_stroke_stem (h : '/' ∉ name.toList) : '/' ∉ (stem name).toList := by
  unfold stem
  split
  · exact h
  · intro hmem
    rw [String.toList_ofList, List.mem_reverse] at hmem
    have hrest := (List.dropWhile_sublist _).subset (List.drop_subset _ _ hmem)
    exact h (List.mem_reverse.mp hrest)

/-- A name with the extension of a sibling is a name. -/
theorem isName_tmp (h : '/' ∉ name.toList) : IsName (stem name ++ "." ++ "tmp") := by
  have hlast : (stem name ++ "." ++ "tmp").toList.getLast? = some 'p' := by simp
  refine ⟨?_, ?_, ?_, ?_⟩
  · intro hempty
    simp [hempty] at hlast
  · simp [no_stroke_stem h]
  · intro hdot
    simp [hdot] at hlast
  · intro hdots
    simp [hdots] at hlast

end Path

end NearDup
