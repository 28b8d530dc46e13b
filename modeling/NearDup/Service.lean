import NearDup.Similarity
import NearDup.Storage.Program

/-! Creating articles, and reading them back by their groups. A creation numbers the article, looks
for its duplicates, stores it with its membership, and then adds it to the duplicates of those
that are not unique themselves. -/

namespace NearDup

namespace Service

/-- The duplicates of a new article. Where the search fails, there are none. -/
def findDuplicates (matcher : Matcher) (id : ArticleId) (content : String) : Program Duplicates := do
  match ← .ask .allArticles with
  | .error _ => return .none
  | .ok stored => return (duplicatesAmong? matcher id content stored).getD .none

/-- Adds the article `id` to the duplicates of `peer`, unless that is unique. A failure leaves the
peer as it is. -/
def linkTo (id peer : ArticleId) : Program Unit := do
  match ← .ask (.articleById peer) with
  | .error _ => return
  | .ok article =>
    if article.isUnique then return
    let _ ← .ask (.updateDuplicateIds peer (article.duplicateIds ++ [id]))

/-- Adds the article `id` to the duplicates of each of its peers. -/
def linkToAll (id : ArticleId) : List ArticleId → Program Unit
  | [] => return
  | peer :: peers => do
    linkTo id peer
    linkToAll id peers

/-- The group of an article with these duplicates: that of the last one, or else a new one. -/
def groupFor (found : Duplicates) : Program (Except Error GroupId) :=
  match found.group with
  | some group => return .ok group
  | none => .ask .nextGroupId

/-- Stores an article and its membership, and links it to its duplicates. -/
def store (article : Article) : Program (Except Error Article) := do
  match ← .ask (.createArticle article) with
  | .error e => return .error e
  | .ok () =>
    match ← .ask (.createMembership ⟨article.group, article.id⟩) with
    | .error e => return .error e
    | .ok () =>
      linkToAll article.id article.duplicateIds
      return .ok article

/-- Creates an article. It fails if the article or its group cannot be numbered, or if it or its
membership cannot be stored. -/
def create (matcher : Matcher) (content : String) : Program (Except Error Article) := do
  match ← .ask .nextArticleId with
  | .error e => return .error e
  | .ok id =>
    let found ← findDuplicates matcher id content
    match ← groupFor found with
    | .error e => return .error e
    | .ok group => store (.new id content found.ids group)

/-- The members of each group, in the order of the memberships. -/
def groupMembers (memberships : List Membership) : IdMap (List ArticleId) :=
  memberships.foldl (fun groups m =>
    groups.insert m.group ((groups.find? m.group).getD [] ++ [m.article])) .empty

end Service

end NearDup
