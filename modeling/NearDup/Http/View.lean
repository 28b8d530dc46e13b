import NearDup.Store.Json

/-! Articles and groups as clients see them. -/

namespace NearDup.Http

open Json (Decoder Shape)

/-- An article without its group. -/
structure ArticleView where
  id : ArticleId
  content : String
  duplicateIds : List ArticleId
deriving DecidableEq, Repr

namespace ArticleView

def ofArticle (a : Article) : ArticleView := ⟨a.id, a.content, a.duplicateIds⟩

def toJson (a : ArticleView) : Json := .object [
  ("id", .number a.id),
  ("content", .string a.content),
  ("duplicate_article_ids", Json.ofIds a.duplicateIds)]

def shape : Shape ArticleView where
  name := "ArticleResponse"
  blank := ⟨0, "", []⟩
  fields := [
    ⟨"id", .never, fun node a => return { a with id := ← Decoder.id node }⟩,
    ⟨"content", .never, fun node a => return { a with content := ← Decoder.string node }⟩,
    ⟨"duplicate_article_ids", .never, fun node a =>
      return { a with duplicateIds := ← Decoder.list Decoder.id node }⟩]

def ofJson : Decoder ArticleView := shape.decode

end ArticleView

structure ArticleListing where
  articles : List ArticleView
deriving DecidableEq, Repr

namespace ArticleListing

def toJson (l : ArticleListing) : Json := .object [
  ("articles", .array (l.articles.map ArticleView.toJson))]

def shape : Shape ArticleListing where
  name := "ArticleList"
  blank := ⟨[]⟩
  fields := [
    ⟨"articles", .never, fun node _ => return ⟨← Decoder.list ArticleView.ofJson node⟩⟩]

def ofJson : Decoder ArticleListing := shape.decode

end ArticleListing

/-- A listing of groups by the numbers of their members. -/
structure GroupListing where
  groups : List (List ArticleId)
deriving DecidableEq, Repr

namespace GroupListing

def toJson (l : GroupListing) : Json := .object [
  ("duplicate_groups", .array (l.groups.map Json.ofIds))]

def shape : Shape GroupListing where
  name := "DuplicateGroupList"
  blank := ⟨[]⟩
  fields := [
    ⟨"duplicate_groups", .never, fun node _ =>
      return ⟨← Decoder.list (Decoder.list Decoder.id) node⟩⟩]

def ofJson : Decoder GroupListing := shape.decode

end GroupListing

end NearDup.Http
