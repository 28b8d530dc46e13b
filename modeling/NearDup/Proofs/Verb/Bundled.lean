import NearDup.Normalizer
import NearDup.Proofs.Csv
import NearDup.Proofs.Verb.Table
import NearDup.Verb.Bundled

/-! The bundled verb table. Main statement: its text is a table, and the infinitives of that are small
words that are no stopwords of English. -/

namespace NearDup

theorem Csv.isPlain_of_isLower_or_isDigit {c : Char} (h : c.isLower = true ∨ c.isDigit = true) :
    isPlain c = true := by
  have hrange := Text.isLower_or_isDigit_iff.mp h
  have hblank : Text.isBlank c = false :=
    Text.isBlank_of_isAlphanum (Text.isAlphanum_of_isLower_or_isDigit h)
  have hne : ∀ d : Char, d.toNat < 48 → (c != d) = true := by
    intro d hd
    rw [bne_iff_ne]
    rintro rfl
    omega
  rw [isPlain, hblank, hne ',' (by decide), hne '"' (by decide), hne '#' (by decide)]
  rfl

theorem Text.IsSmallWord.isPlainCell {word : String} (h : IsSmallWord word) :
    Csv.IsPlainCell word :=
  ⟨h.ne_empty, fun c hc => Csv.isPlain_of_isLower_or_isDigit (h.isLower_or_isDigit c hc)⟩

namespace VerbTable

/-- Whether a row holds an infinitive that normal forms keep as it is, and two plain cells. -/
def IsRegularRow : List String → Prop
  | [infinitive, past, participle] =>
    Text.IsSmallWord infinitive ∧ infinitive ∉ Normalizer.defaultStopwords ∧
      Csv.IsPlainCell past ∧ Csv.IsPlainCell participle
  | _ => False

instance : DecidablePred IsRegularRow := fun row =>
  match row with
  | [] | [_] | [_, _] | _ :: _ :: _ :: _ :: _ => inferInstanceAs (Decidable False)
  | [infinitive, past, participle] =>
    inferInstanceAs (Decidable (Text.IsSmallWord infinitive ∧
      infinitive ∉ Normalizer.defaultStopwords ∧ Csv.IsPlainCell past ∧ Csv.IsPlainCell participle))

variable {text : String} {rows : List (List String)} {row : List String}

theorem IsRegularRow.exists_cells (h : IsRegularRow row) :
    ∃ infinitive past participle, row = [infinitive, past, participle] ∧
      Text.IsSmallWord infinitive ∧ infinitive ∉ Normalizer.defaultStopwords ∧
      Csv.IsPlainCell past ∧ Csv.IsPlainCell participle := by
  match row, h with
  | [infinitive, past, participle], hcells => exact ⟨infinitive, past, participle, rfl, hcells⟩

theorem IsRegularRow.plain (h : IsRegularRow row) :
    row ≠ [] ∧ ∀ cell ∈ row, Csv.IsPlainCell cell := by
  obtain ⟨infinitive, past, participle, rfl, hinfinitive, -, hpast, hparticiple⟩ := h.exists_cells
  exact ⟨List.cons_ne_nil _ _, by simp [hinfinitive.isPlainCell, hpast, hparticiple]⟩

/-- A text of regular rows is a table of regular verbs. -/
theorem exists_table_of_rows (hcells : (Csv.records text).map (·.cells) = rows)
    (h : ∀ row ∈ rows, IsRegularRow row) : ∃ table, ofCsv? text = .ok table ∧
      ∀ verb ∈ table.verbs,
        Text.IsSmallWord verb.infinitive ∧ verb.infinitive ∉ Normalizer.defaultStopwords := by
  have hregular : ∀ record ∈ Csv.records text, IsRegularRow record.cells := by
    intro record hrecord
    apply h
    rw [← hcells]
    exact List.mem_map_of_mem hrecord
  have hwell : ∀ record ∈ Csv.records text, record.isMalformed = false := by
    intro record hrecord
    obtain ⟨infinitive, past, participle, hrow, hinfinitive, -, hpast, hparticiple⟩ :=
      (hregular record hrecord).exists_cells
    simp [Csv.Record.isMalformed, hrow, hinfinitive.ne_empty.symm, hpast.ne_empty.symm,
      hparticiple.ne_empty.symm]
  refine ⟨_, ofCsv?_of_not_isMalformed hwell, fun verb hverb => ?_⟩
  obtain ⟨record, hrecord, rfl⟩ := List.mem_map.mp hverb
  obtain ⟨infinitive, past, participle, hrow, hinfinitive, hstopword, -, -⟩ :=
    (hregular record hrecord).exists_cells
  have hlowercase : (Verb.ofRow record).infinitive = infinitive := by
    rw [Verb.ofRow, Csv.Record.infinitive, hrow, List.headD_cons, hinfinitive.lowercase_eq]
  rw [hlowercase]
  exact ⟨hinfinitive, hstopword⟩

theorem all_isRegularRow : bundledRows.all (fun row => decide (IsRegularRow row)) = true := by
  decide +kernel

/-- The first line of the bundled table is a comment, whatever follows it. -/
theorem exists_comment : ∃ comment : List Char, '\n' ∉ comment ∧ ∀ rest : String,
    ("# infinitive,simple past,past participle\n" ++ rest).toList =
      '#' :: (comment ++ '\n' :: rest.toList) := by
  have hheader : "# infinitive,simple past,past participle\n".toList =
      '#' :: (" infinitive,simple past,past participle".toList ++ ['\n']) := by decide +kernel
  refine ⟨" infinitive,simple past,past participle".toList, by decide +kernel, fun rest => ?_⟩
  rw [String.toList_append, hheader, List.cons_append, List.append_assoc, List.singleton_append]

theorem cells_records_bundledText : (Csv.records bundledText).map (·.cells) = bundledRows := by
  obtain ⟨comment, hcomment, htext⟩ := exists_comment
  refine Csv.cells_records_of_comment (htext (Csv.ofRows bundledRows)) hcomment fun row hrow => ?_
  exact (of_decide_eq_true (List.all_eq_true.mp all_isRegularRow row hrow)).plain

theorem bundled?_eq_ok : ∃ table, bundled? = .ok table ∧ ∀ verb ∈ table.verbs,
    Text.IsSmallWord verb.infinitive ∧ verb.infinitive ∉ Normalizer.defaultStopwords :=
  exists_table_of_rows cells_records_bundledText fun row hrow =>
    of_decide_eq_true (List.all_eq_true.mp all_isRegularRow row hrow)

end VerbTable

end NearDup
