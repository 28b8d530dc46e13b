import NearDup.Error
import NearDup.IdMap

/-! The stored articles with their groups, and the counters that number them. Main statements: a
listing is a head of the articles by ascending number, and an article that is inserted is found. -/

namespace NearDup

/-- Everything that is stored. A counter holds the number that was given out last. -/
structure Store where
  articleCounter : Nat
  groupCounter : Nat
  articles : IdMap Article
  memberships : List Membership
deriving DecidableEq

namespace Store

def empty : Store := ⟨0, 0, .empty, []⟩

def nextArticleId (s : Store) : ArticleId × Store :=
  (s.articleCounter + 1, { s with articleCounter := s.articleCounter + 1 })

def nextGroupId (s : Store) : GroupId × Store :=
  (s.groupCounter + 1, { s with groupCounter := s.groupCounter + 1 })

/-- Stores an article under its number, which must be free. -/
def insertArticle (s : Store) (a : Article) : Except Error Store :=
  if s.articles.contains a.id then .error (.storage (.alreadyExists a.id))
  else .ok { s with articles := s.articles.insert a.id a }

def article (s : Store) (id : ArticleId) : Except Error Article :=
  match s.articles.find? id with
  | some a => .ok a
  | none => .error (.notFound id)

/-- Replaces the duplicates of an article. -/
def setDuplicateIds (s : Store) (id : ArticleId) (duplicateIds : List ArticleId) :
    Except Error Store := do
  let a ← s.article id
  return { s with articles := s.articles.insert id { a with duplicateIds } }

/-- The first articles by ascending number, at most `limit`. -/
def allArticles (s : Store) (limit : Nat) : List Article :=
  s.articles.values.take limit

/-- The first unique articles by ascending number, at most `limit`. -/
def uniqueArticles (s : Store) (limit : Nat) : List Article :=
  (s.articles.values.filter (·.isUnique)).take limit

/-- Adds a membership after all others. -/
def addMembership (s : Store) (m : Membership) : Store :=
  { s with memberships := s.memberships ++ [m] }

/-- The first memberships in the order in which they were added, at most `limit`. -/
def firstMemberships (s : Store) (limit : Nat) : List Membership :=
  s.memberships.take limit

theorem article_insertArticle {s s' : Store} {a : Article} (h : s.insertArticle a = .ok s') :
    s'.article a.id = .ok a := by
  rw [insertArticle] at h
  split at h
  · simp at h
  · obtain rfl := Except.ok.inj h
    simp [article]

theorem allArticles_isPrefix (s : Store) (limit : Nat) :
    s.allArticles limit <+: s.articles.values :=
  List.take_prefix limit _

end Store

end NearDup
