import NearDup.Json.Decode
import NearDup.Json.Value
import NearDup.Store.Basic

/-! Articles, memberships and whole stores as JSON. -/

namespace NearDup

/-- The first number that is too great for a counter or a number of an article or group. -/
def idBound : Nat := UInt64.size

namespace Json

/-- A number of an article or of a group. -/
def Decoder.id : Decoder Nat := Decoder.natural idBound "u64"

def ofIds (ids : List Nat) : Json := .array (ids.map .number)

end Json

open Json (Decoder Field Shape)

namespace Article

def toJson (a : Article) : Json := .object [
  ("id", .number a.id),
  ("content", .string a.content),
  ("duplicate_ids", Json.ofIds a.duplicateIds),
  ("is_unique", .boolean a.isUnique),
  ("duplicate_group_id", .number a.group)]

/-- An article without duplicates may leave them out. -/
def shape : Shape Article where
  name := "Article"
  blank := ⟨0, "", [], false, 0⟩
  fields := [
    ⟨"id", .never, fun node a => return { a with id := ← Decoder.id node }⟩,
    ⟨"content", .never, fun node a => return { a with content := ← Decoder.string node }⟩,
    ⟨"duplicate_ids", .anywhere, fun node a =>
      return { a with duplicateIds := ← Decoder.list Decoder.id node }⟩,
    ⟨"is_unique", .never, fun node a => return { a with isUnique := ← Decoder.boolean node }⟩,
    ⟨"duplicate_group_id", .never, fun node a => return { a with group := ← Decoder.id node }⟩]

def ofJson : Decoder Article := shape.decode

end Article

namespace Membership

def toJson (m : Membership) : Json := .object [
  ("duplicate_group_id", .number m.group),
  ("article_id", .number m.article)]

def shape : Shape Membership where
  name := "DuplicateGroup"
  blank := ⟨0, 0⟩
  fields := [
    ⟨"duplicate_group_id", .never, fun node m => return { m with group := ← Decoder.id node }⟩,
    ⟨"article_id", .never, fun node m => return { m with article := ← Decoder.id node }⟩]

def ofJson : Decoder Membership := shape.decode

end Membership

namespace Store

/-- The articles are the members of an object, named by their numbers. -/
def toJson (s : Store) : Json := .object [
  ("article_counter", .number s.articleCounter),
  ("group_counter", .number s.groupCounter),
  ("articles", .object (s.articles.entries.map fun entry =>
    (String.ofList (Decimal.digitChars entry.1), entry.2.toJson))),
  ("groups", .array (s.memberships.map Membership.toJson))]

def shape : Shape Store where
  name := "StoreState"
  blank := .empty
  fields := [
    ⟨"article_counter", .never, fun node s => return { s with articleCounter := ← Decoder.id node }⟩,
    ⟨"group_counter", .never, fun node s => return { s with groupCounter := ← Decoder.id node }⟩,
    ⟨"articles", .never, fun node s => return { s with
      articles := .ofList (← Decoder.numbered idBound "u64" Article.ofJson node) }⟩,
    ⟨"groups", .never, fun node s => return { s with
      memberships := ← Decoder.list Membership.ofJson node }⟩]

def ofJson : Decoder Store := shape.decode

def text (s : Store) : String := s.toJson.render

def ofText? (text : String) : Except Json.Error Store :=
  (Json.Document.ofText text).decode ofJson

def ofBytes? (bytes : Bytes) : Except Json.Error Store :=
  (Json.Document.ofBytes bytes).decode ofJson

end Store

end NearDup
