import NearDup.Store.Basic

/-! The calls that a storage answers. -/

namespace NearDup

/-- The kinds of calls. -/
inductive Method
  | nextArticleId
  | createArticle
  | updateDuplicateIds
  | articleById
  | allArticles
  | uniqueArticles
  | nextGroupId
  | createMembership
  | allMemberships
deriving DecidableEq, Repr

namespace Method

def all : List Method := [.nextArticleId, .createArticle, .updateDuplicateIds, .articleById,
  .allArticles, .uniqueArticles, .nextGroupId, .createMembership, .allMemberships]

def name : Method → String
  | .nextArticleId => "next_article_id"
  | .createArticle => "create_article"
  | .updateDuplicateIds => "update_duplicate_ids"
  | .articleById => "article_by_id"
  | .allArticles => "all_articles"
  | .uniqueArticles => "unique_articles"
  | .nextGroupId => "next_duplicate_group_id"
  | .createMembership => "create_duplicate_group"
  | .allMemberships => "all_duplicate_groups"

def ofName? (name : String) : Option Method :=
  all.find? (·.name == name)

/-- What a call of this kind is answered with. -/
def Reply : Method → Type
  | .nextArticleId => ArticleId
  | .createArticle => Unit
  | .updateDuplicateIds => Unit
  | .articleById => Article
  | .allArticles => List Article
  | .uniqueArticles => List Article
  | .nextGroupId => GroupId
  | .createMembership => Unit
  | .allMemberships => List Membership

/-- Whether calls of this kind change what is stored. -/
def writes : Method → Bool
  | .nextArticleId | .createArticle | .updateDuplicateIds | .nextGroupId | .createMembership => true
  | .articleById | .allArticles | .uniqueArticles | .allMemberships => false

end Method

/-- A call with its arguments. -/
inductive Call : Method → Type
  | nextArticleId : Call .nextArticleId
  | createArticle (a : Article) : Call .createArticle
  | updateDuplicateIds (id : ArticleId) (duplicateIds : List ArticleId) : Call .updateDuplicateIds
  | articleById (id : ArticleId) : Call .articleById
  | allArticles : Call .allArticles
  | uniqueArticles : Call .uniqueArticles
  | nextGroupId : Call .nextGroupId
  | createMembership (m : Membership) : Call .createMembership
  | allMemberships : Call .allMemberships
deriving DecidableEq, Repr

/-- The answer to a call and the store after it; a call that fails changes nothing. Listings hold
at most `limit` entries. -/
def Store.perform (s : Store) (limit : Nat) : {m : Method} → Call m → Except Error (m.Reply × Store)
  | _, .nextArticleId => .ok s.nextArticleId
  | _, .createArticle a => return ((), ← s.insertArticle a)
  | _, .updateDuplicateIds id duplicateIds => return ((), ← s.setDuplicateIds id duplicateIds)
  | _, .articleById id => return (← s.article id, s)
  | _, .allArticles => .ok (s.allArticles limit, s)
  | _, .uniqueArticles => .ok (s.uniqueArticles limit, s)
  | _, .nextGroupId => .ok s.nextGroupId
  | _, .createMembership m => .ok ((), s.addMembership m)
  | _, .allMemberships => .ok (s.firstMemberships limit, s)

theorem Store.perform_of_reads {s s' : Store} {limit : Nat} {m : Method} {c : Call m}
    {reply : m.Reply} (hm : m.writes = false) (h : s.perform limit c = .ok (reply, s')) :
    s' = s := by
  cases c with
  | nextArticleId | createArticle | updateDuplicateIds | nextGroupId | createMembership =>
    simp [Method.writes] at hm
  | allArticles | uniqueArticles | allMemberships =>
    exact (congrArg Prod.snd (Except.ok.inj h)).symm
  | articleById id =>
    simp only [Store.perform] at h
    cases ha : s.article id with
    | error e => simp [ha, bind, Except.bind] at h
    | ok a =>
      rw [ha] at h
      exact (congrArg Prod.snd (Except.ok.inj h)).symm

end NearDup
