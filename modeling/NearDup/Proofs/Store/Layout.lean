import NearDup.Proofs.Storage.Backend
import NearDup.Proofs.Store.Json

/-! Snapshots that were laid out anew by other hands. Main statement: a file is opened as the store that
its text stands for, in whichever of the ways it is written; and no file is opened whose text has a
known field twice in its store, in an article or in a membership. -/

namespace NearDup

open Json

def Article.fieldNames : List String :=
  ["id", "content", "duplicate_ids", "is_unique", "duplicate_group_id"]

def Membership.fieldNames : List String := ["duplicate_group_id", "article_id"]

namespace Store

def fieldNames : List String := ["article_counter", "group_counter", "articles", "groups"]

/-- Whether an object has a known field twice: that of a store itself, that of one of its articles or
that of one of its memberships. -/
inductive RepeatsField : Node → Prop
  | store {members close} (h : RepeatsName fieldNames members) :
      RepeatsField (.object members close)
  | article {members close raw articles close' key fields close''}
      (hname : Spells raw "articles".toList) (harticles : (raw, .object articles close') ∈ members)
      (harticle : (key, .object fields close'') ∈ articles)
      (h : RepeatsName Article.fieldNames fields) : RepeatsField (.object members close)
  | membership {members close raw rows close' fields close''}
      (hname : Spells raw "groups".toList) (hrows : (raw, .array rows close') ∈ members)
      (hrow : .object fields close'' ∈ rows) (h : RepeatsName Membership.fieldNames fields) :
      RepeatsField (.object members close)

/-- The texts of objects that have a known field twice. -/
def RepeatsFieldIn (text : String) : Prop :=
  ∃ node, RepeatsField node ∧ node.WrittenIn (Text.toSymbols text)

/-- No store is read from an object that has a known field twice. -/
theorem RepeatsField.ofJson_ne {node : Node} (hnode : RepeatsField node) (s : Store) :
    ofJson node ≠ .ok s := by
  intro hread
  cases hnode with
  | store h => exact Shape.not_repeatsName_of_decode hread h
  | article hname harticles harticle h =>
    obtain ⟨b, c, hfield⟩ := Shape.exists_read_of_decode (by decide) shape.fields[2]
      (List.getElem_mem _) hread harticles hname
    obtain ⟨entries, hentries, -⟩ := bind_eq_ok_iff.mp hfield
    obtain ⟨a, ha⟩ := exists_of_numbered hentries _ harticle
    exact Shape.not_repeatsName_of_decode ha h
  | membership hname hrows hrow h =>
    obtain ⟨b, c, hfield⟩ := Shape.exists_read_of_decode (by decide) shape.fields[3]
      (List.getElem_mem _) hread hrows hname
    obtain ⟨memberships, hmemberships, -⟩ := bind_eq_ok_iff.mp hfield
    obtain ⟨m, hm⟩ := exists_of_list hmemberships _ hrow
    exact Shape.not_repeatsName_of_decode hm h

theorem RepeatsFieldIn.exists_error {text : String} (h : RepeatsFieldIn text) :
    ∃ e, ofBytes? (Text.encode text) = .error e := by
  obtain ⟨node, hnode, hwritten⟩ := h
  cases hread : ofBytes? (Text.encode text) with
  | error e => exact ⟨e, rfl⟩
  | ok s =>
    rw [ofBytes?, hwritten.ofBytes] at hread
    obtain ⟨s, hs, -⟩ := bind_eq_ok_iff.mp hread
    exact absurd hs (hnode.ofJson_ne s)

end Store

namespace Snapshot

variable {files : Tree} {dir : Path} {text : String}

/-- A file is opened as the store that its text stands for, however the text is laid out: with any space
between its tokens, any spelling of its names and contents, the members of each object in any order and
others among them, an article without its list of duplicates where that is empty, and articles and
memberships as objects or as arrays. A text with a known field twice is not opened. -/
theorem open?_of_text
    (hfile : files.readOptional (dir.join fileName) = .ok (some (Text.encode text))) :
    (∀ s : Store, s.InRange → s.WrittenIn text →
      open? files dir = .ok ⟨dir.join fileName, s⟩) ∧
    (Store.RepeatsFieldIn text → ∃ e, open? files dir = .error (.json e)) := by
  have hstored : Store.stored? files (dir.join fileName) =
      (Store.ofBytes? (Text.encode text)).mapError .json := by
    rw [Store.stored?, hfile]
  rw [open?_eq, hstored]
  refine ⟨fun s hrange htext => ?_, fun htext => ?_⟩
  · rw [Store.ofBytes?_of_writtenIn htext hrange]
    rfl
  · obtain ⟨e, he⟩ := htext.exists_error
    rw [he]
    exact ⟨e, rfl⟩

/-- A store whose text was laid out anew, and that text with a second list of memberships. -/
theorem open?_of_text_relaid :
    let article : Json := .object [("note", .array [.null]), ("id", .number 1),
      ("content", .string "a"), ("is_unique", .boolean true), ("duplicate_group_id", .number 1)]
    let rows : Json := .array [.array [.number 1, .number 1]]
    let members : List (String × Json) := [("groups", rows), ("articles", .object [("1", article)]),
      ("group_counter", .number 1), ("article_counter", .number 1)]
    let text : String := " " ++ (Json.object members).render
    let text' : String := (Json.object (("groups", rows) :: members)).render
    let files (text : String) : Tree := ⟨[(["artsim.json"], .file (Text.encode text))]⟩
    let path : Path := Path.join ⟨"."⟩ fileName
    let s : Store := ⟨1, 1, .ofList [(1, ⟨1, "a", [], true, 1⟩)], [⟨1, 1⟩]⟩
    (files text).readOptional path = .ok (some (Text.encode text)) ∧
      s.InRange ∧ s.WrittenIn text ∧ open? (files text) ⟨"."⟩ = .ok ⟨path, s⟩ ∧
      (files text').readOptional path = .ok (some (Text.encode text')) ∧
      Store.RepeatsFieldIn text' ∧ ∃ e, open? (files text') ⟨"."⟩ = .error (.json e) := by
  intro article rows members text text' files path s
  have hfile : (files text).readOptional path = .ok (some (Text.encode text)) := by
    decide +kernel
  have hfile' : (files text').readOptional path = .ok (some (Text.encode text')) := by
    decide +kernel
  have hrange : s.InRange := by
    have hone : 1 < idBound := by decide
    exact ⟨hone, hone, List.forall_mem_singleton.mpr ⟨hone, hone, fun _ h => (nomatch h), hone⟩,
      List.forall_mem_singleton.mpr ⟨hone, hone⟩⟩
  have harticle : Article.WrittenAs ⟨1, "a", [], true, 1⟩ (nodeOf article) := by
    refine .inl ⟨@List.perm_append_comm _ [(rawOf "note", nodeOf (.array [.null]))] _, ?_, ?_⟩
    · exact .cons (spells_rawOf _) rfl <| .cons (spells_rawOf _) (isString_string "a") <|
        .without rfl <| .cons (spells_rawOf _) rfl <| .cons (spells_rawOf _) rfl .nil
    · exact List.forall_mem_singleton.mpr ⟨⟨"note", spells_rawOf _, by decide⟩, isWhole_nodeOf _⟩
  have hrow : Membership.WrittenAs ⟨1, 1⟩ (nodeOf (.array [.number 1, .number 1])) :=
    .inr ⟨.cons rfl (.cons rfl .nil)⟩
  have htext : s.WrittenIn text := by
    refine ⟨nodeOf (.object members), isObject_of_perm (List.reverse_perm _).symm ?_,
      isWhole_nodeOf _, ?_⟩
    · exact .cons (spells_rawOf _) rfl <| .cons (spells_rawOf _) rfl <|
        .cons (spells_rawOf _) ⟨.refl _, .cons ⟨by decide, harticle⟩ .nil⟩ <|
        .cons (spells_rawOf _) ⟨.cons hrow .nil⟩ .nil
    · rw [Text.toSymbols, String.toList_append]
      exact .space (by decide) (writtenIn_render (.object members)).spaced
  have htext' : Store.RepeatsFieldIn text' :=
    ⟨nodeOf (.object (("groups", rows) :: members)),
      .store ⟨"groups", by decide, _, _, .cons_cons _ (.cons_cons _ (List.nil_sublist _)),
        spells_rawOf _, spells_rawOf _⟩, writtenIn_render _⟩
  exact ⟨hfile, hrange, htext, (open?_of_text hfile).1 s hrange htext, hfile', htext',
    (open?_of_text hfile').2 htext'⟩

end Snapshot

end NearDup
