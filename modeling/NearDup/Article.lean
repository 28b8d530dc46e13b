/-! Articles and the groups of near duplicates that they belong to. -/

namespace NearDup

/-- The number of an article, from one on. -/
abbrev ArticleId := Nat

/-- The number of a group, from one on and independent of the numbers of articles. -/
abbrev GroupId := Nat

/-- A stored article. Only its duplicates may grow, when later articles are linked back to it;
`isUnique` tells whether it had any when it was created. -/
structure Article where
  id : ArticleId
  content : String
  duplicateIds : List ArticleId
  isUnique : Bool
  group : GroupId
deriving DecidableEq, Repr

/-- A new article, unique if it has no duplicates. -/
def Article.new (id : ArticleId) (content : String) (duplicateIds : List ArticleId)
    (group : GroupId) : Article :=
  ⟨id, content, duplicateIds, duplicateIds.isEmpty, group⟩

structure Membership where
  group : GroupId
  article : ArticleId
deriving DecidableEq, Repr

end NearDup
