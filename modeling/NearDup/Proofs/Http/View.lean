import Mathlib.Data.Set.Function
import NearDup.Http.View
import NearDup.Proofs.Store.Json

/-! Articles and groups as clients see them, written and read back. Main statement: whatever is kept
in a file or sent to a client is read back from its text, so that no two stores have the same text.
-/

namespace NearDup

open Json

/-- Whether a value is read back from its text, and from the bytes of that. -/
def Json.ReadsBack {α : Type} (decode : Decoder α) (toJson : α → Json) (a : α) : Prop :=
  (Document.ofText (toJson a).render).decode decode = .ok a ∧
    (Document.ofBytes (Text.encode (toJson a).render)).decode decode = .ok a

theorem Json.readsBack_of_decode {α : Type} {decode : Decoder α} {toJson : α → Json} {a : α}
    (h : decode (nodeOf (toJson a)) = .ok a) : ReadsBack decode toJson a := by
  rw [ReadsBack, ofText_render, ofBytes_encode_render, Document.decode, h]
  exact ⟨rfl, rfl⟩

namespace Http

/-- Whether all numbers that a client sees of an article are under the bound. -/
structure ArticleView.InRange (a : ArticleView) : Prop where
  id_lt : a.id < idBound
  duplicateIds_lt : ∀ id ∈ a.duplicateIds, id < idBound

def ArticleListing.InRange (l : ArticleListing) : Prop := ∀ a ∈ l.articles, a.InRange

def GroupListing.InRange (l : GroupListing) : Prop := ∀ ids ∈ l.groups, ∀ id ∈ ids, id < idBound

theorem ArticleView.ofJson_toJson {a : ArticleView} (h : a.InRange) :
    ArticleView.ofJson (nodeOf a.toJson) = .ok a :=
  Shape.decode_of_fills (by decide) <|
    .cons (read_ok (id_number h.id_lt) _) <|
    .cons (read_ok (string_string a.content) _) <|
    .cons (read_ok (list_ofIds h.duplicateIds_lt) _) <|
    .nil a

theorem ArticleListing.ofJson_toJson {l : ArticleListing} (h : l.InRange) :
    ArticleListing.ofJson (nodeOf l.toJson) = .ok l := by
  have harticles : Decoder.list ArticleView.ofJson
      (nodeOf (.array (l.articles.map ArticleView.toJson))) = .ok l.articles :=
    list_array fun a ha => ArticleView.ofJson_toJson (h a ha)
  exact Shape.decode_of_fills (by decide) (.cons (read_ok harticles _) (.nil l))

theorem GroupListing.ofJson_toJson {l : GroupListing} (h : l.InRange) :
    GroupListing.ofJson (nodeOf l.toJson) = .ok l := by
  have hgroups : Decoder.list (Decoder.list Decoder.id)
      (nodeOf (.array (l.groups.map Json.ofIds))) = .ok l.groups :=
    list_array fun ids hids => list_ofIds (h ids hids)
  exact Shape.decode_of_fills (by decide) (.cons (read_ok hgroups _) (.nil l))

end Http

theorem Store.readsBack {s : Store} (h : s.InRange) : ReadsBack Store.ofJson Store.toJson s :=
  readsBack_of_decode (ofJson_toJson h)

theorem Store.injOn_text : Set.InjOn Store.text {s | s.InRange} := by
  intro s hs t ht htext
  have hread : Store.ofText? s.text = .ok s := (readsBack hs).1
  rw [htext] at hread
  exact Except.ok.inj (hread.symm.trans (readsBack ht).1)

/-- Stores, articles, memberships and what clients see of them are read back from their texts, as
long as their numbers are in range, whatever the contents of articles and the numbers under which
they are stored. No two such stores have the same text. -/
theorem Json.readsBack_of_inRange :
    (∀ s : Store, s.InRange →
        Store.ofText? s.text = .ok s ∧ Store.ofBytes? (Text.encode s.text) = .ok s) ∧
      (∀ a : Article, a.InRange → ReadsBack Article.ofJson Article.toJson a) ∧
      (∀ m : Membership, m.InRange → ReadsBack Membership.ofJson Membership.toJson m) ∧
      (∀ a : Http.ArticleView, a.InRange →
        ReadsBack Http.ArticleView.ofJson Http.ArticleView.toJson a) ∧
      (∀ l : Http.ArticleListing, l.InRange →
        ReadsBack Http.ArticleListing.ofJson Http.ArticleListing.toJson l) ∧
      (∀ l : Http.GroupListing, l.InRange →
        ReadsBack Http.GroupListing.ofJson Http.GroupListing.toJson l) ∧
      Set.InjOn Store.text {s | s.InRange} :=
  ⟨fun _ h => Store.readsBack h,
    fun _ h => readsBack_of_decode (Article.ofJson_toJson h),
    fun _ h => readsBack_of_decode (Membership.ofJson_toJson h),
    fun _ h => readsBack_of_decode (Http.ArticleView.ofJson_toJson h),
    fun _ h => readsBack_of_decode (Http.ArticleListing.ofJson_toJson h),
    fun _ h => readsBack_of_decode (Http.GroupListing.ofJson_toJson h),
    Store.injOn_text⟩

/-- A store with the greatest number, and an article under a number that is not its own. -/
theorem Json.readsBack_of_inRange_misplaced :
    let a : Article := ⟨1, "\"\\\x01\n𝄞", [3, 3], true, 18446744073709551615⟩
    let s : Store := ⟨18446744073709551615, 0, .ofList [(7, a)], [⟨2, 1⟩, ⟨2, 1⟩]⟩
    s.text = "\x7b\"article_counter\":18446744073709551615,\"group_counter\":0,\"articles\":" ++
        "\x7b\"7\":\x7b\"id\":1,\"content\":\"\\\"\\\\\\u0001\\n𝄞\",\"duplicate_ids\":[3,3]," ++
        "\"is_unique\":true,\"duplicate_group_id\":18446744073709551615\x7d\x7d,\"groups\":[" ++
        "\x7b\"duplicate_group_id\":2,\"article_id\":1\x7d,\x7b\"duplicate_group_id\":2," ++
        "\"article_id\":1\x7d]\x7d" ∧
      Store.ofText? s.text = .ok s := by
  intro a s
  have ha : a.InRange := ⟨by decide, by decide, by decide⟩
  have hm : ∀ m ∈ s.memberships, m.InRange := by
    intro m hm
    have heq : m = ⟨2, 1⟩ := by simpa [s] using hm
    exact heq ▸ ⟨by decide, by decide⟩
  have hs : s.InRange := by
    refine ⟨by decide, by decide, fun entry he => ?_, hm⟩
    obtain rfl : entry = (7, a) := List.mem_singleton.mp he
    exact ⟨by decide, ha⟩
  exact ⟨by decide +kernel, (readsBack_of_inRange.1 s hs).1⟩

end NearDup
