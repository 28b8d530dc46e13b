import NearDup.Proofs.Normalizer
import NearDup.Proofs.Verb.Bundled

/-! The tokens of normal forms. Main statement: each is an infinitive of the verb table, or a small word
that is no stopword and that the table does not know; and where the infinitives are such words as well,
the tokens of a normal form are their own normal form. -/

namespace NearDup

namespace Normalizer

open Text

variable {n : Normalizer} {text token : String} {tokens : List String}

/-! ### Tokens -/

theorem isSmallWord_of_mem_words (h : token ∈ words (clean text)) : IsSmallWord token := by
  obtain ⟨cs, hcs, rfl⟩ := List.mem_map.mp h
  obtain ⟨hne, hmem⟩ := mem_wordsOf hcs
  refine ⟨by simpa using hne, fun c hc => ?_⟩
  rw [String.toList_ofList] at hc
  obtain ⟨hblank, hclean⟩ := hmem c hc
  obtain ⟨d, -, hkept, rfl⟩ := mem_clean hclean
  rw [isBlank_toLower] at hblank
  rw [isKept, hblank, Bool.or_false] at hkept
  exact isLower_or_isDigit_toLower hkept

theorem token_of_mem_normalize (h : token ∈ n.normalize text) :
    (∃ verb ∈ n.verbs.verbs, verb.infinitive = token) ∨
      (IsSmallWord token ∧ n.isStopword token = false ∧ n.verbs.infinitive? token = none) := by
  obtain ⟨word, hword, rfl⟩ := List.mem_map.mp h
  obtain ⟨hmem, hstopword⟩ := List.mem_filter.mp hword
  cases hinfinitive : n.verbs.infinitive? word with
  | some infinitive =>
    rw [VerbTable.toInfinitive, hinfinitive, Option.getD_some]
    exact .inl (VerbTable.mem_of_infinitive? hinfinitive)
  | none =>
    rw [VerbTable.toInfinitive, hinfinitive, Option.getD_none]
    exact .inr ⟨isSmallWord_of_mem_words hmem, by simpa using hstopword, hinfinitive⟩

/-! ### Normal forms of normal forms -/

theorem normalize_token (hsmall : IsSmallWord token) (hstopword : n.isStopword token = false)
    (hself : n.verbs.toInfinitive token = token) : n.normalize token = [token] := by
  rw [normalize_of_isSmallWord hsmall]
  simp [ofTokens, hstopword, hself]

theorem normalize_intercalate (h : ∀ token ∈ tokens, n.normalize token = [token]) :
    n.normalize (" ".intercalate tokens) = tokens := by
  have hspace : IsBlankRun " " := by decide +kernel
  induction tokens with
  | nil => rfl
  | cons token tokens ih =>
    obtain ⟨htoken, htokens⟩ := List.forall_mem_cons.mp h
    cases tokens with
    | nil => rw [String.intercalate_singleton, htoken]
    | cons next tokens =>
      rw [String.intercalate_cons_cons, hspace.normalize_append, htoken, ih htokens,
        List.singleton_append]

/-- Whether the infinitives of the table are tokens that normal forms keep as they are. -/
def KeepsInfinitives (n : Normalizer) : Prop :=
  ∀ verb ∈ n.verbs.verbs, IsSmallWord verb.infinitive ∧ n.isStopword verb.infinitive = false

instance (n : Normalizer) : Decidable n.KeepsInfinitives :=
  inferInstanceAs (Decidable (∀ verb ∈ n.verbs.verbs, IsSmallWord verb.infinitive ∧
    n.isStopword verb.infinitive = false))

theorem normalize_of_mem_normalize (hn : n.KeepsInfinitives) (h : token ∈ n.normalize text) :
    n.normalize token = [token] := by
  rcases token_of_mem_normalize h with ⟨verb, hverb, rfl⟩ | ⟨hsmall, hstopword, hunknown⟩
  · obtain ⟨hsmall, hstopword⟩ := hn verb hverb
    apply normalize_token hsmall hstopword
    rw [VerbTable.toInfinitive, VerbTable.infinitive?_of_mem hverb, Option.getD_some]
  · apply normalize_token hsmall hstopword
    rw [VerbTable.toInfinitive, hunknown, Option.getD_none]

theorem normalize_intercalate_normalize (hn : n.KeepsInfinitives) (text : String) :
    n.normalize (" ".intercalate (n.normalize text)) = n.normalize text :=
  normalize_intercalate fun _ h => normalize_of_mem_normalize hn h

theorem exists_bundled_keepsInfinitives : ∃ table, VerbTable.bundled? = .ok table ∧
    (ofWords defaultStopwords table).KeepsInfinitives := by
  obtain ⟨table, htable, hverbs⟩ := VerbTable.bundled?_eq_ok
  refine ⟨table, htable, fun verb hverb => ?_⟩
  obtain ⟨hsmall, hstopword⟩ := hverbs verb hverb
  have hlowercase : defaultStopwords.map lowercase = defaultStopwords := by decide +kernel
  refine ⟨hsmall, ?_⟩
  rw [isStopword, ofWords, hlowercase]
  simpa using hstopword

/-- A token is an infinitive, or a small word that is no stopword and that the table does not know. If
the infinitives are small words and no stopwords either, as those of the bundled table are, the tokens of
a normal form, with spaces between them, are their own normal form. -/
theorem normalForm_laws :
    (∀ (n : Normalizer) (text : String),
      (∀ token ∈ n.normalize text, (∃ verb ∈ n.verbs.verbs, verb.infinitive = token) ∨
        (IsSmallWord token ∧ n.isStopword token = false ∧ n.verbs.infinitive? token = none)) ∧
      (n.KeepsInfinitives →
        n.normalize (" ".intercalate (n.normalize text)) = n.normalize text)) ∧
    ∃ table, VerbTable.bundled? = .ok table ∧ (ofWords defaultStopwords table).KeepsInfinitives :=
  ⟨fun _ text => ⟨fun _ => token_of_mem_normalize,
    fun hn => normalize_intercalate_normalize hn text⟩, exists_bundled_keepsInfinitives⟩

/-- A form of one verb is the infinitive of another one. -/
theorem normalForm_laws_chained :
    let table := VerbTable.ofVerbs [⟨"lie", ["lay", "lain"]⟩, ⟨"lay", ["laid", "laid"]⟩]
    let n := ofWords defaultStopwords table
    let text := "The cat has lain; it LAY, and it laid eggs!"
    n.normalize text = ["cat", "has", "lie", "it", "lay", "and", "it", "lay", "eggs"] ∧
      "lie" ∈ n.normalize text ∧ ((∃ verb ∈ table.verbs, verb.infinitive = "lie") ∨
        (IsSmallWord "lie" ∧ n.isStopword "lie" = false ∧ table.infinitive? "lie" = none)) ∧
      n.KeepsInfinitives ∧
      n.normalize (" ".intercalate (n.normalize text)) = n.normalize text := by
  intro table n text
  have htokens : n.normalize text =
      ["cat", "has", "lie", "it", "lay", "and", "it", "lay", "eggs"] := by decide +kernel
  have hlie : "lie" ∈ n.normalize text := by
    rw [htokens]
    decide
  have hn : n.KeepsInfinitives := by decide +kernel
  obtain ⟨hcases, hagain⟩ := normalForm_laws.1 n text
  exact ⟨htokens, hlie, hcases "lie" hlie, hn, hagain hn⟩

end Normalizer

end NearDup
