import NearDup.Article
import NearDup.Detector

/-! Judgements about which articles are near duplicates, and the search for the duplicates of a new
article. Main statement: what is found are stored articles that match. -/

namespace NearDup

/-- Whether a new article, given first, matches a stored one. A comparison may break down. -/
abbrev Matcher := ArticleId → String → ArticleId → String → Option Bool

/-- A score for two articles, if the comparison does not break down, and the score that near
duplicates have at least. -/
structure Similarity where
  threshold : Float
  score? : ArticleId → String → ArticleId → String → Option Float

namespace Similarity

/-- Whether two articles score at least the threshold. -/
def matcher (s : Similarity) : Matcher := fun id content id' content' =>
  (s.score? id content id' content').map fun score => decide (s.threshold ≤ score)

/-- The judgement of a detector, which only looks at the contents. -/
def ofDetector (d : Detector) : Similarity :=
  ⟨d.threshold, fun _ a _ b => some (d.compare a b)⟩

/-- Scores that are listed by the number of the stored article. -/
def ofScores (threshold : Float) (scores : List (ArticleId × Float)) : Similarity :=
  ⟨threshold, fun _ _ id _ => scores.lookup id⟩

end Similarity

/-- The duplicates that were found for an article, and the group of the last of them. -/
structure Duplicates where
  ids : List ArticleId
  group : Option GroupId
deriving DecidableEq, Repr

def Duplicates.none : Duplicates := ⟨[], Option.none⟩

/-- The articles that match, in order, unless a comparison breaks down. -/
def matching? (matcher : Matcher) (id : ArticleId) (content : String) :
    List Article → Option (List Article)
  | [] => some []
  | a :: articles => do
    let isMatch ← matcher id content a.id a.content
    let rest ← matching? matcher id content articles
    return if isMatch then a :: rest else rest

/-- The duplicates of an article among the stored ones. Where they are in several groups, the last
one counts. -/
def duplicatesAmong? (matcher : Matcher) (id : ArticleId) (content : String)
    (stored : List Article) : Option Duplicates :=
  (matching? matcher id content stored).map fun found =>
    ⟨found.map (·.id), found.getLast?.map (·.group)⟩

theorem matching?_total (isMatch : ArticleId → String → ArticleId → String → Bool) (id : ArticleId)
    (content : String) (stored : List Article) :
    matching? (fun a c b d => some (isMatch a c b d)) id content stored =
      some (stored.filter fun a => isMatch id content a.id a.content) := by
  induction stored with
  | nil => rfl
  | cons a stored ih => by_cases h : isMatch id content a.id a.content <;> simp [matching?, ih, h]

end NearDup
