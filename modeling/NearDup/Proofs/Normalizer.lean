import NearDup.Detector
import NearDup.Proofs.Text.Lowercase
import NearDup.Proofs.Text.Words

/-! What the normal form of a text does not look at: punctuation, the case of ASCII letters, the
lengths of the gaps between words, and stopwords. Main statement: normal forms are put together at
gaps that hold a blank, so that texts which differ in nothing but this compare alike. -/

namespace NearDup

namespace Normalizer

open Text

variable {n : Normalizer} {s t w w' word a b : String}

theorem isKept_toLower (c : Char) : isKept c.toLower = isKept c := by
  rw [isKept, isKept, isAlphanum_toLower, isBlank_toLower]

/-! ### Cleaning -/

/-- Cleaning keeps the same characters of a text whether it is in small letters already or not. -/
theorem toList_clean (text : String) :
    (clean text).toList = (asciiLowercase text).toList.filter isKept := by
  rw [clean, asciiLowercase, String.toList_ofList, String.toList_ofList, List.filter_map]
  congr 2
  exact funext fun c => (isKept_toLower c).symm

theorem clean_congr (h : asciiLowercase s = asciiLowercase t) : clean s = clean t := by
  rw [← String.toList_inj, toList_clean, toList_clean, h]

theorem toList_clean_append (s t : String) :
    (clean (s ++ t)).toList = (clean s).toList ++ (clean t).toList := by
  simp only [clean, String.toList_ofList, String.toList_append, List.filter_append,
    List.map_append]

theorem clean_of_dropped (hw : ∀ c ∈ w.toList, isKept c = false) : (clean w).toList = [] := by
  have hfilter : w.toList.filter isKept = [] := by simpa using hw
  rw [clean, String.toList_ofList, hfilter, List.map_nil]

theorem mem_clean {c : Char} (h : c ∈ (clean w).toList) :
    ∃ d ∈ w.toList, isKept d = true ∧ d.toLower = c := by
  rw [clean, String.toList_ofList] at h
  obtain ⟨d, hd, hc⟩ := List.mem_map.mp h
  obtain ⟨hmem, hkept⟩ := List.mem_filter.mp hd
  exact ⟨d, hmem, hkept, hc⟩

/-! ### Gaps -/

/-- Whether a text holds nothing but blanks and characters that cleaning drops. -/
def IsGap (w : String) : Prop :=
  ∀ c ∈ w.toList, isBlank c = true ∨ isKept c = false

instance (w : String) : Decidable (IsGap w) :=
  decidable_of_iff (w.toList.all (fun c => isBlank c || !isKept c) = true) (by simp [IsGap])

theorem IsGap.isBlank_clean (hw : IsGap w) : ∀ c ∈ (clean w).toList, isBlank c = true := by
  intro c hc
  obtain ⟨d, hd, hkept, rfl⟩ := mem_clean hc
  rw [isBlank_toLower]
  rcases hw d hd with hblank | hdropped
  · exact hblank
  · rw [hkept] at hdropped
    cases hdropped

theorem clean_ne_nil (h : ∃ c ∈ w.toList, isBlank c = true) : (clean w).toList ≠ [] := by
  obtain ⟨c, hc, hblank⟩ := h
  rw [clean, String.toList_ofList, ne_eq, List.map_eq_nil_iff, List.filter_eq_nil_iff]
  intro hall
  exact hall c hc (by rw [isKept, hblank, Bool.or_true])

/-- A run of blanks. -/
structure IsBlankRun (w : String) : Prop where
  ne_empty : w ≠ ""
  isBlank : ∀ c ∈ w.toList, Text.isBlank c = true

instance (w : String) : Decidable (IsBlankRun w) :=
  decidable_of_iff (w ≠ "" ∧ w.toList.all Text.isBlank = true)
    ⟨fun h => ⟨h.1, List.all_eq_true.mp h.2⟩, fun h => ⟨h.1, List.all_eq_true.mpr h.2⟩⟩

theorem IsBlankRun.isGap (hw : IsBlankRun w) : IsGap w :=
  fun c hc => .inl (hw.isBlank c hc)

theorem IsBlankRun.exists_blank (hw : IsBlankRun w) : ∃ c ∈ w.toList, Text.isBlank c = true := by
  obtain ⟨c, hc⟩ := List.exists_mem_of_ne_nil w.toList (by simpa using hw.ne_empty)
  exact ⟨c, hc, hw.isBlank c hc⟩

/-! ### Normal forms -/

/-- What stands for some words in a normal form. -/
def ofTokens (n : Normalizer) (tokens : List (List Char)) : List String :=
  ((tokens.map String.ofList).filter (! n.isStopword ·)).map n.verbs.toInfinitive

theorem ofTokens_append (tokens tokens' : List (List Char)) :
    n.ofTokens (tokens ++ tokens') = n.ofTokens tokens ++ n.ofTokens tokens' := by
  simp only [ofTokens, List.map_append, List.filter_append]

theorem normalize_eq (n : Normalizer) (text : String) :
    n.normalize text = n.ofTokens (wordsOf (clean text).toList) := rfl

theorem normalize_congr (h : asciiLowercase s = asciiLowercase t) :
    n.normalize s = n.normalize t := by
  rw [normalize, normalize, clean_congr h]

/-- A gap that holds a blank parts the words before it from those behind it. -/
theorem normalize_append_gap (hw : IsGap w) (hblank : ∃ c ∈ w.toList, isBlank c = true)
    (s t : String) : n.normalize (s ++ w ++ t) = n.normalize s ++ n.normalize t := by
  simp only [normalize_eq, toList_clean_append]
  rw [wordsOf_append_blanks_append hw.isBlank_clean (clean_ne_nil hblank), ofTokens_append]

/-- What cleaning drops parts nothing: the words beside it become one. -/
theorem normalize_append_dropped (hw : ∀ c ∈ w.toList, isKept c = false) (s t : String) :
    n.normalize (s ++ w ++ t) = n.normalize (s ++ t) := by
  simp only [normalize_eq, toList_clean_append, clean_of_dropped hw, List.append_nil]

theorem normalize_gap_append (hw : IsGap w) (t : String) :
    n.normalize (w ++ t) = n.normalize t := by
  simp only [normalize_eq, toList_clean_append, wordsOf_blanks_append hw.isBlank_clean]

theorem normalize_append_gap_end (hw : IsGap w) (s : String) :
    n.normalize (s ++ w) = n.normalize s := by
  simp only [normalize_eq, toList_clean_append, wordsOf_append_blanks hw.isBlank_clean]

theorem clean_of_small (h : ∀ c ∈ word.toList, c.isLower = true ∨ c.isDigit = true) :
    clean word = word := by
  have hupper : ∀ c ∈ word.toList, c.isUpper = false := fun c hc =>
    isUpper_of_isLower_or_isDigit (h c hc)
  have hkept : ∀ c ∈ word.toList, isKept c = true := by
    intro c hc
    rw [isKept, isAlphanum_of_isLower_or_isDigit (h c hc), Bool.true_or]
  rw [← String.toList_inj, toList_clean, asciiLowercase_of_forall hupper,
    List.filter_eq_self.mpr hkept]

theorem normalize_of_isSmallWord (h : IsSmallWord word) :
    n.normalize word = n.ofTokens [word.toList] := by
  have hne : word.toList ≠ [] := by simpa using h.ne_empty
  have hblank : ∀ c ∈ word.toList, isBlank c = false := fun c hc =>
    isBlank_of_isAlphanum (isAlphanum_of_isLower_or_isDigit (h.isLower_or_isDigit c hc))
  rw [normalize_eq, clean_of_small h.isLower_or_isDigit, wordsOf_of_forall hne hblank]

theorem normalize_of_isStopword (hword : n.isStopword word = true)
    (h : ∀ c ∈ word.toList, c.isLower = true ∨ c.isDigit = true) : n.normalize word = [] := by
  by_cases hempty : word = ""
  · subst hempty
    rfl
  · rw [normalize_of_isSmallWord ⟨hempty, h⟩]
    simp [ofTokens, hword]

/-! ### Rewordings -/

/-- Changes of a text that leave its normal form as it is. -/
inductive Rewords (n : Normalizer) : String → String → Prop where
  /-- Characters that cleaning drops are put in, within a word or beside it. -/
  | punctuation {w : String} (s t : String) (hw : ∀ c ∈ w.toList, isKept c = false) :
      Rewords n (s ++ t) (s ++ w ++ t)
  /-- ASCII letters change their case. -/
  | letterCase {s t : String} (h : asciiLowercase s = asciiLowercase t) : Rewords n s t
  /-- A run of blanks is replaced by another one. -/
  | blanks {w w' : String} (s t : String) (hw : IsBlankRun w) (hw' : IsBlankRun w') :
      Rewords n (s ++ w ++ t) (s ++ w' ++ t)
  /-- Blanks are put in front of the text. -/
  | leading {w : String} (t : String) (hw : IsBlankRun w) : Rewords n t (w ++ t)
  /-- Blanks are put behind the text. -/
  | trailing {w : String} (s : String) (hw : IsBlankRun w) : Rewords n s (s ++ w)
  /-- A stopword is put in behind blanks, with blanks behind it. -/
  | stopword {w word w' : String} (s t : String) (hw : IsBlankRun w)
      (hword : n.isStopword word = true)
      (hsmall : ∀ c ∈ word.toList, c.isLower = true ∨ c.isDigit = true) (hw' : IsBlankRun w') :
      Rewords n (s ++ w ++ t) (s ++ w ++ word ++ w' ++ t)

theorem IsBlankRun.normalize_append (hw : IsBlankRun w) (s t : String) :
    n.normalize (s ++ w ++ t) = n.normalize s ++ n.normalize t :=
  normalize_append_gap hw.isGap hw.exists_blank s t

theorem Rewords.normalize_eq (h : Rewords n a b) : n.normalize a = n.normalize b := by
  cases h with
  | punctuation s t hw => exact (normalize_append_dropped hw s t).symm
  | letterCase h => exact normalize_congr h
  | blanks s t hw hw' => rw [hw.normalize_append, hw'.normalize_append]
  | leading _ hw => exact (normalize_gap_append hw.isGap _).symm
  | trailing _ hw => exact (normalize_append_gap_end hw.isGap _).symm
  | stopword s t hw hword hsmall hw' =>
    rw [hw'.normalize_append, hw.normalize_append, hw.normalize_append,
      normalize_of_isStopword hword hsmall, List.append_nil]

/-- Texts that any number of rewordings, made or taken back, lead from the one to the other. -/
theorem normalize_of_eqvGen (h : Relation.EqvGen (Rewords n) a b) :
    n.normalize a = n.normalize b := by
  induction h with
  | rel a b h => exact h.normalize_eq
  | refl a => rfl
  | symm a b _ ih => exact ih.symm
  | trans a b c _ _ ihab ihbc => exact ihab.trans ihbc

/-- Normal forms are put together at gaps that hold a blank and run on at other ones, do not depend on
the case of ASCII letters, and hold no stopword; so rewordings of its texts leave a comparison as it
is. -/
theorem normalize_laws (n : Normalizer) :
    (∀ s w t, IsGap w →
      ((∃ c ∈ w.toList, isBlank c = true) →
        n.normalize (s ++ w ++ t) = n.normalize s ++ n.normalize t) ∧
      ((∀ c ∈ w.toList, isBlank c = false) →
        n.normalize (s ++ w ++ t) = n.normalize (s ++ t))) ∧
    (∀ s t, asciiLowercase s = asciiLowercase t → n.normalize s = n.normalize t) ∧
    (∀ word, n.isStopword word = true →
      (∀ c ∈ word.toList, c.isLower = true ∨ c.isDigit = true) → n.normalize word = []) ∧
    ∀ threshold a a' b b', Relation.EqvGen (Rewords n) a a' → Relation.EqvGen (Rewords n) b b' →
      (Detector.mk threshold n).compare a b = (Detector.mk threshold n).compare a' b' := by
  refine ⟨fun s w t hw => ⟨fun hblank => normalize_append_gap hw hblank s t, fun hnone => ?_⟩,
    fun s t => normalize_congr, fun word => normalize_of_isStopword, ?_⟩
  · apply normalize_append_dropped
    intro c hc
    rcases hw c hc with hblank | hdropped
    · rw [hnone c hc] at hblank
      cases hblank
    · exact hdropped
  · intro threshold a a' b b' ha hb
    simp only [Detector.compare, normalize_of_eqvGen ha, normalize_of_eqvGen hb]

theorem normalize_laws_articles :
    let n := ofWords defaultStopwords .empty
    let d : Detector := ⟨0.5, n⟩
    IsGap " -\n" ∧ (∃ c ∈ " -\n".toList, isBlank c = true) ∧
      n.normalize ("Cats" ++ " -\n" ++ "sat") = n.normalize "Cats" ++ n.normalize "sat" ∧
      IsGap "’-" ∧ (∀ c ∈ "’-".toList, isBlank c = false) ∧
      n.normalize ("cat" ++ "’-" ++ "s") = n.normalize ("cat" ++ "s") ∧
      asciiLowercase "CaTs" = asciiLowercase "cAtS" ∧ n.normalize "CaTs" = n.normalize "cAtS" ∧
      n.isStopword "the" = true ∧ n.normalize "the" = [] ∧
      d.compare "On mats" "cats sat" = d.compare "ON mats" "cats the\tsat" := by
  intro n d
  have hgap : IsGap " -\n" := by decide +kernel
  have hblank : ∃ c ∈ " -\n".toList, isBlank c = true := List.any_eq_true.mp (by decide +kernel)
  have hdropped : IsGap "’-" := by decide +kernel
  have hnone : ∀ c ∈ "’-".toList, isBlank c = false := by simp [isBlank]
  have hsame : asciiLowercase "CaTs" = asciiLowercase "cAtS" := by decide +kernel
  have hword : n.isStopword "the" = true := by decide +kernel
  have hsmall : ∀ c ∈ "the".toList, c.isLower = true ∨ c.isDigit = true := by simp
  have hspace : IsBlankRun " " := by decide +kernel
  have htab : IsBlankRun "\t" := by decide +kernel
  obtain ⟨hgaps, hcase, hstop, hcompare⟩ := normalize_laws n
  refine ⟨hgap, hblank, (hgaps "Cats" _ "sat" hgap).1 hblank, hdropped, hnone,
    (hgaps "cat" _ "s" hdropped).2 hnone, hsame, hcase _ _ hsame, hword, hstop _ hword hsmall, ?_⟩
  exact hcompare 0.5 _ _ _ _ (.rel _ _ (.letterCase (by decide +kernel)))
    (.rel _ _ (.stopword "cats" "sat" hspace hword hsmall htab))

end Normalizer

end NearDup
