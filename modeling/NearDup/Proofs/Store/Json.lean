import NearDup.Proofs.IdMap
import NearDup.Proofs.Json.Record
import NearDup.Store.Json

/-! Articles, memberships and stores in all the ways in which they can be written, and read back. Main
statements: a store whose numbers are in range is read from the bytes of every text that stands for
it, its own text among them, whatever the contents of its articles; and what is read from any bytes
is in range. -/

namespace NearDup

open Json (nodeOf Decoder)

/-- Whether all numbers of an article are under the bound. -/
structure Article.InRange (a : Article) : Prop where
  id_lt : a.id < idBound
  duplicateIds_lt : ∀ id ∈ a.duplicateIds, id < idBound
  group_lt : a.group < idBound

structure Membership.InRange (m : Membership) : Prop where
  group_lt : m.group < idBound
  article_lt : m.article < idBound

structure Store.InRange (s : Store) : Prop where
  articleCounter_lt : s.articleCounter < idBound
  groupCounter_lt : s.groupCounter < idBound
  articles : ∀ entry ∈ s.articles.entries, entry.1 < idBound ∧ entry.2.InRange
  memberships : ∀ m ∈ s.memberships, m.InRange

namespace Json

/-! ### The ways to write numbers, texts, lists and maps -/

/-- The value that stands for a number. -/
def IsNumber (n : Nat) (node : Node) : Prop :=
  node = .number (.ofNat n)

/-- The values that stand for a text: the strings that spell it. -/
inductive IsString (text : String) : Node → Prop
  | mk {raw} (h : Spells raw text.toList) : IsString text (.string raw)

/-- The arrays whose items stand for some values. -/
inductive IsList {α : Type} (form : α → Node → Prop) (values : List α) : Node → Prop
  | mk {items} (h : List.Forall₂ form values items) : IsList form values (.array items .proper)

/-- Whether a member stands for an entry of a map: its name is the number as it is written. -/
structure IsEntry {α : Type} (form : α → Node → Prop) (entry : Nat × α)
    (member : RawString × Node) : Prop where
  name : member.1 = (Nat.toDigits 10 entry.1).map .char
  value : form entry.2 member.2

/-- The objects whose members stand for the entries of a map, in any order. -/
inductive IsMap {α : Type} (form : α → Node → Prop) (m : IdMap α) : Node → Prop
  | mk {entries members} (hperm : entries.Perm m.entries)
      (h : List.Forall₂ (IsEntry form) entries members) : IsMap form m (.object members .proper)

end Json

open Json

/-! ### The ways to write a store -/

/-- The parts of an article. Its duplicates may be left out where it has none. -/
def Article.parts (a : Article) : List Part := [
  ⟨"id", IsNumber a.id, False⟩,
  ⟨"content", IsString a.content, False⟩,
  ⟨"duplicate_ids", IsList IsNumber a.duplicateIds, a.duplicateIds = []⟩,
  ⟨"is_unique", (· = .boolean a.isUnique), False⟩,
  ⟨"duplicate_group_id", IsNumber a.group, False⟩]

/-- The values that stand for an article. -/
def Article.WrittenAs (a : Article) : Node → Prop :=
  IsRecord a.parts

def Membership.parts (m : Membership) : List Part := [
  ⟨"duplicate_group_id", IsNumber m.group, False⟩,
  ⟨"article_id", IsNumber m.article, False⟩]

/-- The values that stand for a membership. -/
def Membership.WrittenAs (m : Membership) : Node → Prop :=
  IsRecord m.parts

def Store.parts (s : Store) : List Part := [
  ⟨"article_counter", IsNumber s.articleCounter, False⟩,
  ⟨"group_counter", IsNumber s.groupCounter, False⟩,
  ⟨"articles", IsMap Article.WrittenAs s.articles, False⟩,
  ⟨"groups", IsList Membership.WrittenAs s.memberships, False⟩]

/-- The texts that stand for a store. -/
def Store.WrittenIn (s : Store) (text : String) : Prop :=
  ∃ node, IsObject s.parts node ∧ node.WrittenIn (Text.toSymbols text)

/-! ### Reading numbers, texts, lists and maps -/

namespace Json

variable {α : Type} {form : α → Node → Prop} {decode : Decoder α} {P : α → Prop} {node : Node}

theorem id_number {n : Nat} (h : n < idBound) : Decoder.id (nodeOf (.number n)) = .ok n :=
  natural_number "u64" (Nat.le_refl _) h

theorem list_ofIds {ids : List Nat} (h : ∀ id ∈ ids, id < idBound) :
    Decoder.list Decoder.id (nodeOf (ofIds ids)) = .ok ids :=
  list_array fun id hid => id_number (h id hid)

theorem IsNumber.read {n : Nat} (hnode : IsNumber n node) (h : n < idBound) :
    Decoder.id node = .ok n := by
  rw [hnode]
  exact id_number h

theorem IsString.read {text : String} (hnode : IsString text node) :
    Decoder.string node = .ok text := by
  obtain ⟨h⟩ := hnode
  exact h.string

theorem IsList.read {values : List α} (hnode : IsList form values node) (hvalues : ∀ a ∈ values, P a)
    (hread : ∀ a node, form a node → P a → decode node = .ok a) :
    Decoder.list decode node = .ok values := by
  obtain ⟨h⟩ := hnode
  have hitems := (List.forall₂_and_left ..).mpr ⟨hvalues, h⟩
  exact list_of_forall₂ (hitems.flip.imp fun item a h => hread a item h.2 h.1)

theorem IsMap.read {m : IdMap α} (hnode : IsMap form m node)
    (hvalues : ∀ entry ∈ m.entries, entry.1 < idBound ∧ P entry.2)
    (hread : ∀ a node, form a node → P a → decode node = .ok a) :
    ∃ entries, Decoder.numbered idBound "u64" decode node = .ok entries ∧ .ofList entries = m := by
  obtain @⟨entries, members, hperm, h⟩ := hnode
  have hmembers := (List.forall₂_and_left ..).mpr
    ⟨fun entry he => hvalues entry (hperm.subset he), h⟩
  refine ⟨entries, numbered_of_forall₂ "u64" (Nat.le_refl _) ?_, IdMap.ofList_of_perm hperm⟩
  exact hmembers.flip.imp fun member entry h =>
    ⟨h.2.name, h.1.1, hread entry.2 member.2 h.2.value h.1.2⟩

end Json

/-! ### Reading stores -/

/-- The slot of a field that holds a number. -/
def Json.idSlot {α : Type} {shape : Shape α} (name : String) (put : Nat → α → α) {n : Nat}
    (h : n < idBound) : shape.Slot :=
  .ofValue ⟨name, IsNumber n, False⟩ .never Decoder.id put n (fun _ hnode => hnode.read h) False.elim

def Article.assembly {a : Article} (h : a.InRange) : Article.shape.Assembly a where
  slots := [
    idSlot "id" (fun id a => { a with id }) h.id_lt,
    .ofValue ⟨"content", IsString a.content, False⟩ .never Decoder.string
      (fun content a => { a with content }) a.content (fun _ => IsString.read) False.elim,
    .ofValue ⟨"duplicate_ids", IsList IsNumber a.duplicateIds, a.duplicateIds = []⟩ .anywhere
      (Decoder.list Decoder.id) (fun duplicateIds a => { a with duplicateIds }) a.duplicateIds
      (fun _ hnode => hnode.read h.duplicateIds_lt fun _ _ => IsNumber.read)
      fun hnone => ⟨by decide, by rw [hnone]; rfl⟩,
    .ofValue ⟨"is_unique", (· = .boolean a.isUnique), False⟩ .never Decoder.boolean
      (fun isUnique a => { a with isUnique }) a.isUnique (fun _ hnode => by rw [hnode]; rfl)
      False.elim,
    idSlot "duplicate_group_id" (fun group a => { a with group }) h.group_lt]
  fields := rfl
  nodup := by decide
  commute := by simp [Shape.Slot.ofValue, Shape.Slot.of, idSlot]
  made := rfl

def Membership.assembly {m : Membership} (h : m.InRange) : Membership.shape.Assembly m where
  slots := [
    idSlot "duplicate_group_id" (fun group m => { m with group }) h.group_lt,
    idSlot "article_id" (fun article m => { m with article }) h.article_lt]
  fields := rfl
  nodup := by decide
  commute := by simp [Shape.Slot.ofValue, Shape.Slot.of, idSlot]
  made := rfl

/-- An article in range is read from every value that stands for it. -/
theorem Article.ofJson_of_writtenAs {a : Article} {node : Node} (hnode : a.WrittenAs node)
    (h : a.InRange) : Article.ofJson node = .ok a :=
  (assembly h).decode_of_isRecord hnode

/-- A membership in range is read from every value that stands for it. -/
theorem Membership.ofJson_of_writtenAs {m : Membership} {node : Node} (hnode : m.WrittenAs node)
    (h : m.InRange) : Membership.ofJson node = .ok m :=
  (assembly h).decode_of_isRecord hnode

def Store.assembly {s : Store} (h : s.InRange) : Store.shape.Assembly s where
  slots := [
    idSlot "article_counter" (fun articleCounter s => { s with articleCounter })
      h.articleCounter_lt,
    idSlot "group_counter" (fun groupCounter s => { s with groupCounter }) h.groupCounter_lt,
    -- The entries come in the order of their text, so it is the map that is one and the same.
    .of ⟨"articles", IsMap Article.WrittenAs s.articles, False⟩ .never
      (Decoder.numbered idBound "u64" Article.ofJson)
      (fun entries s => { s with articles := .ofList entries }) ({ · with articles := s.articles })
      (fun _ hnode => by
        obtain ⟨entries, hread, hmap⟩ :=
          hnode.read h.articles fun _ _ => Article.ofJson_of_writtenAs
        exact ⟨entries, hread, by rw [hmap]⟩)
      False.elim,
    .ofValue ⟨"groups", IsList Membership.WrittenAs s.memberships, False⟩ .never
      (Decoder.list Membership.ofJson) (fun memberships s => { s with memberships }) s.memberships
      (fun _ hnode => hnode.read h.memberships fun _ _ => Membership.ofJson_of_writtenAs) False.elim]
  fields := rfl
  nodup := by decide
  commute := by simp [Shape.Slot.ofValue, Shape.Slot.of, idSlot]
  made := rfl

/-- A store in range is read from the bytes of every text that stands for it. -/
theorem Store.ofBytes?_of_writtenIn {s : Store} {text : String} (htext : s.WrittenIn text)
    (h : s.InRange) : Store.ofBytes? (Text.encode text) = .ok s := by
  obtain ⟨node, hnode, hwritten⟩ := htext
  rw [ofBytes?, hwritten.ofBytes, Document.decode, ofJson, (assembly h).decode_of_isObject hnode]
  rfl

/-! ### Rendered stores -/

namespace Json

variable {α : Type} {form : α → Node → Prop} {toJson : α → Json}

theorem isNumber_number (n : Nat) : IsNumber n (nodeOf (.number n)) := rfl

theorem isString_string (text : String) : IsString text (nodeOf (.string text)) :=
  ⟨spells_rawOf text⟩

theorem isList_array (h : ∀ a, form a (nodeOf (toJson a))) (values : List α) :
    IsList form values (nodeOf (.array (values.map toJson))) := by
  refine ⟨?_⟩
  rw [nodesOf_eq_map, List.map_map]
  exact List.forall₂_map_right_iff.mpr (List.forall₂_same.mpr fun a _ => h a)

theorem isList_ofIds (ids : List Nat) : IsList IsNumber ids (nodeOf (ofIds ids)) :=
  isList_array isNumber_number ids

theorem isMap_object (h : ∀ a, form a (nodeOf (toJson a))) (m : IdMap α) :
    IsMap form m (nodeOf (.object (m.entries.map fun entry =>
      (String.ofList (Decimal.digitChars entry.1), toJson entry.2)))) := by
  refine ⟨.refl _, ?_⟩
  induction m.entries with
  | nil => exact .nil
  | cons entry entries ih => exact .cons ⟨rawOf_digitChars entry.1, h entry.2⟩ ih

end Json

theorem Article.writtenAs_toJson (a : Article) : a.WrittenAs (nodeOf a.toJson) :=
  .inl <| isObject_of_perm (.refl _) <|
    .cons (spells_rawOf _) rfl <|
    .cons (spells_rawOf _) (isString_string a.content) <|
    .cons (spells_rawOf _) (isList_ofIds a.duplicateIds) <|
    .cons (spells_rawOf _) rfl <|
    .cons (spells_rawOf _) rfl .nil

theorem Membership.writtenAs_toJson (m : Membership) : m.WrittenAs (nodeOf m.toJson) :=
  .inl <| isObject_of_perm (.refl _) <|
    .cons (spells_rawOf _) rfl <|
    .cons (spells_rawOf _) rfl .nil

theorem Store.isObject_toJson (s : Store) : IsObject s.parts (nodeOf s.toJson) :=
  isObject_of_perm (.refl _) <|
    .cons (spells_rawOf _) rfl <|
    .cons (spells_rawOf _) rfl <|
    .cons (spells_rawOf _) (isMap_object Article.writtenAs_toJson s.articles) <|
    .cons (spells_rawOf _) (isList_array Membership.writtenAs_toJson s.memberships) .nil

theorem Article.ofJson_toJson {a : Article} (h : a.InRange) :
    Article.ofJson (nodeOf a.toJson) = .ok a :=
  ofJson_of_writtenAs a.writtenAs_toJson h

theorem Membership.ofJson_toJson {m : Membership} (h : m.InRange) :
    Membership.ofJson (nodeOf m.toJson) = .ok m :=
  ofJson_of_writtenAs m.writtenAs_toJson h

namespace Store

theorem ofJson_toJson {s : Store} (h : s.InRange) : Store.ofJson (nodeOf s.toJson) = .ok s :=
  (assembly h).decode_of_isObject s.isObject_toJson

/-- The text of a store is one of those that stand for it. -/
theorem writtenIn_text (s : Store) : s.WrittenIn s.text :=
  ⟨nodeOf s.toJson, s.isObject_toJson, writtenIn_render s.toJson⟩

/-- A store in range is read back from the bytes of its text. -/
theorem ofBytes?_encode_text {s : Store} (h : s.InRange) :
    Store.ofBytes? (Text.encode s.text) = .ok s :=
  ofBytes?_of_writtenIn s.writtenIn_text h

theorem inRange_empty : empty.InRange :=
  ⟨by decide, by decide, by simp [empty], by simp [empty]⟩

end Store

/-! ### What is read is in range -/

theorem Json.id_yields : Decoder.id.Yields (· < idBound) := natural_yields idBound "u64"

theorem Article.ofJson_yields : Decoder.Yields Article.ofJson Article.InRange := by
  refine Shape.yields ?_ ⟨by decide, (fun _ h => nomatch h), by decide⟩
  simp only [Shape.Keeps, shape, List.forall_mem_cons, List.not_mem_nil, false_implies,
    implies_true, and_true]
  refine ⟨?_, ?_, ?_, ?_, ?_⟩ <;> intro node a b hread ha <;>
    obtain ⟨value, hvalue, hb⟩ := bind_eq_ok_iff.mp hread <;> obtain rfl := Except.ok.inj hb
  · exact { ha with id_lt := id_yields node value hvalue }
  · exact { ha with }
  · exact { ha with duplicateIds_lt := list_yields id_yields node value hvalue }
  · exact { ha with }
  · exact { ha with group_lt := id_yields node value hvalue }

theorem Membership.ofJson_yields : Decoder.Yields Membership.ofJson Membership.InRange := by
  refine Shape.yields ?_ ⟨by decide, by decide⟩
  simp only [Shape.Keeps, shape, List.forall_mem_cons, List.not_mem_nil, false_implies,
    implies_true, and_true]
  refine ⟨?_, ?_⟩ <;> intro node a b hread ha <;>
    obtain ⟨value, hvalue, hb⟩ := bind_eq_ok_iff.mp hread <;> obtain rfl := Except.ok.inj hb
  · exact { ha with group_lt := id_yields node value hvalue }
  · exact { ha with article_lt := id_yields node value hvalue }

namespace Store

theorem ofJson_yields : Decoder.Yields Store.ofJson Store.InRange := by
  refine Shape.yields ?_ inRange_empty
  simp only [Shape.Keeps, shape, List.forall_mem_cons, List.not_mem_nil, false_implies,
    implies_true, and_true]
  refine ⟨?_, ?_, ?_, ?_⟩ <;> intro node a b hread ha <;>
    obtain ⟨value, hvalue, hb⟩ := bind_eq_ok_iff.mp hread <;> obtain rfl := Except.ok.inj hb
  · exact { ha with articleCounter_lt := id_yields node value hvalue }
  · exact { ha with groupCounter_lt := id_yields node value hvalue }
  · have hentries := numbered_yields idBound "u64" Article.ofJson_yields node value hvalue
    exact { ha with articles := fun entry he => hentries entry (IdMap.mem_ofList he) }
  · exact { ha with memberships := list_yields Membership.ofJson_yields node value hvalue }

/-- What is read from any bytes is in range. -/
theorem inRange_of_ofBytes? {bytes : Bytes} {s : Store} (h : Store.ofBytes? bytes = .ok s) :
    s.InRange := by
  obtain ⟨value, hvalue, hends⟩ := bind_eq_ok_iff.mp h
  split at hends
  · exact Except.ok.inj hends ▸ ofJson_yields _ value hvalue
  · cases hends

end Store

end NearDup
