import Mathlib.Data.List.Nodup
import NearDup.Json.Decode
import NearDup.Proofs.Json.Document

/-! Values read back from the ways in which they can be written: numbers under a bound, strings, lists,
objects with numbers for names, and records. Main statement: a record is read from an object that has
each of its fields at most once, and those that may not be left out, in any order and with any other
members among them. -/

namespace NearDup.Json

open Text (Symbol)

variable {α : Type}

/-! ### Numbers and strings -/

theorem wantNumber_ofNat {n : Nat} (h : n < UInt64.size) :
    wantNumber (.ofNat n) = .ok (.natural n) := by
  rw [wantNumber, NumberText.value?_ofNat h]

theorem asNatural_natural {bound n : Nat} (expected : String) (h : n < bound) :
    (Number.natural n).asNatural bound expected = .ok n :=
  if_pos h

theorem natural_number {bound n : Nat} (expected : String) (hbound : bound ≤ UInt64.size)
    (h : n < bound) : Decoder.natural bound expected (.number (.ofNat n)) = .ok n := by
  rw [Decoder.natural, wantNumber_ofNat (Nat.lt_of_lt_of_le h hbound)]
  exact asNatural_natural expected h

theorem Spells.wantText {raw : RawString} {text : String} (h : Spells raw text.toList) :
    wantText raw = .ok text := by
  rw [Json.wantText, h.textOf?]

theorem Spells.string {raw : RawString} {text : String} (h : Spells raw text.toList) :
    Decoder.string (.string raw) = .ok text :=
  h.wantText

theorem string_string (text : String) : Decoder.string (nodeOf (.string text)) = .ok text :=
  (spells_rawOf text).string

/-! ### Lists -/

theorem decodeItems_of_forall₂ {decode : Decoder α} {items : List Node} {values : List α}
    (h : List.Forall₂ (fun item a => decode item = .ok a) items values) (index : Nat) :
    decodeItems decode index items = .ok values := by
  induction h generalizing index with
  | nil => rfl
  | cons hitem _ ih =>
    rw [decodeItems, hitem, ih (index + 1)]
    rfl

theorem list_of_forall₂ {decode : Decoder α} {items : List Node} {values : List α}
    (h : List.Forall₂ (fun item a => decode item = .ok a) items values) :
    Decoder.list decode (.array items .proper) = .ok values := by
  rw [Decoder.list, decodeItems_of_forall₂ h]
  rfl

theorem nodesOf_eq_map (items : List Json) : nodesOf items = items.map nodeOf := by
  induction items with
  | nil => rfl
  | cons item items ih => rw [nodesOf, ih, List.map_cons]

theorem list_array {decode : Decoder α} {toJson : α → Json} {values : List α}
    (h : ∀ a ∈ values, decode (nodeOf (toJson a)) = .ok a) :
    Decoder.list decode (nodeOf (.array (values.map toJson))) = .ok values := by
  rw [nodeOf, nodesOf_eq_map, List.map_map]
  exact list_of_forall₂ (List.forall₂_map_left_iff.mpr (List.forall₂_same.mpr h))

/-! ### Objects with numbers for names -/

theorem escaped_of_isDigit {c : Char} (h : c.isDigit = true) : escaped c = [c] := by
  unfold escaped
  split
  any_goals simp at h
  have hlow : '0'.toNat ≤ c.toNat := (Char.isDigit_iff_toNat.mp h).1
  exact if_neg (Nat.not_lt.mpr (Nat.le_trans (by decide) hlow))

/-- Digits stand in a string as they are. -/
theorem rawOf_digitChars (n : Nat) :
    rawOf (String.ofList (Decimal.digitChars n)) = (Nat.toDigits 10 n).map .char := by
  have hdigits : ∀ c ∈ Nat.toDigits 10 n, escaped c = [c] := fun c hc =>
    escaped_of_isDigit ((isDigits_toDigits n).isDigit c hc)
  rw [rawOf, String.toList_ofList, Decimal.digitChars, List.flatMap_congr hdigits,
    List.flatMap_singleton']

theorem quotedNatural_toDigits {bound n : Nat} (expected : String) (hbound : bound ≤ UInt64.size)
    (h : n < bound) :
    quotedNatural bound expected ((Nat.toDigits 10 n).map .char ++ [.char '"']) = .ok n := by
  have hstart : startsNumber ((Nat.toDigits 10 n).map Symbol.char ++ [.char '"']) = true := by
    obtain ⟨c, cs, hcs, hc⟩ := (isDigits_toDigits n).exists_cons
    simp [hcs, startsNumber, hc]
  have hscan := (NumberText.written_ofNat n).scan (NumberText.ends_cons (c := '"') rfl (by decide) [])
  have hvalue := wantNumber_ofNat (Nat.lt_of_lt_of_le h hbound)
  rw [quotedNatural, hstart, hscan]
  simp only [hvalue]
  change ((Number.natural n).asNatural bound expected >>= fun value => pure value) = .ok n
  rw [asNatural_natural expected h]
  rfl

theorem numbered_of_forall₂ {bound : Nat} (expected : String) (hbound : bound ≤ UInt64.size)
    {decode : Decoder α} {members : List (RawString × Node)} {entries : List (Nat × α)}
    (h : List.Forall₂ (fun member entry => member.1 = (Nat.toDigits 10 entry.1).map .char ∧
      entry.1 < bound ∧ decode member.2 = .ok entry.2) members entries) :
    Decoder.numbered bound expected decode (.object members .proper) = .ok entries := by
  have hmembers : decodeNumbered bound expected decode members = .ok entries := by
    induction h with
    | nil => rfl
    | cons hentry _ ih =>
      obtain ⟨hname, hkey, hvalue⟩ := hentry
      rw [decodeNumbered, hname, quotedNatural_toDigits expected hbound hkey, hvalue, ih]
      rfl
  rw [Decoder.numbered, hmembers]
  rfl

/-! ### Records -/

/-- A field is set to the value that is read. -/
theorem read_ok {β : Type} {x : Except Error β} {b : β} (h : x = .ok b) (f : β → α) :
    (do return f (← x)) = Except.ok (f b) := by
  rw [h]
  rfl

/-- Whether members are the fields of a record in their order, which read in turn lead from one
record to another. -/
inductive Fills : List (Field α) → List (String × Json) → α → α → Prop
  | nil (a) : Fills [] [] a a
  | cons {field fields value members a b c} (hread : field.read (nodeOf value) a = .ok b)
      (hrest : Fills fields members b c) :
      Fills (field :: fields) ((field.name, value) :: members) a c

namespace Shape

/-- Whether members that are read in turn lead from one record to another: fields with the given names,
and members of other names without flaw. -/
inductive Reads (shape : Shape α) : List (RawString × Node) → List String → α → α → Prop
  | nil (a) : Reads shape [] [] a a
  | field {field raw value members names a b c} (hfield : field ∈ shape.fields)
      (hname : Spells raw field.name.toList) (hread : field.read value a = .ok b)
      (h : Reads shape members names b c) :
      Reads shape ((raw, value) :: members) (field.name :: names) a c
  | other {name : String} {raw value members names a b}
      (hname : Spells raw name.toList) (hother : name ∉ shape.fields.map Field.name)
      (hvalue : value.skip = .ok ()) (h : Reads shape members names a b) :
      Reads shape ((raw, value) :: members) names a b

variable {shape : Shape α} {fields : List (Field α)} {members : List (RawString × Node)}
  {given : List (String × Json)} {a b : α}

theorem find?_name {field : Field α} (hnodup : (shape.fields.map Field.name).Nodup)
    (h : field ∈ shape.fields) : shape.fields.find? (·.name == field.name) = some field := by
  obtain ⟨found, hfound⟩ : ∃ found, shape.fields.find? (·.name == field.name) = some found :=
    Option.isSome_iff_exists.mp (List.find?_isSome.mpr ⟨field, h, beq_self_eq_true field.name⟩)
  have hname : found.name = field.name := by simpa using List.find?_some hfound
  rw [hfound, List.inj_on_of_nodup_map hnodup (List.mem_of_find?_eq_some hfound) h hname]

/-- Members that can be read in turn are read, if no name comes twice. -/
theorem Reads.readMembers {names : List String} (hnodup : (shape.fields.map Field.name).Nodup)
    (h : shape.Reads members names a b) (hnames : names.Nodup) (seen : List String)
    (hseen : ∀ name ∈ names, name ∉ seen) :
    shape.readMembers members seen a = .ok (names.reverse ++ seen, b) := by
  induction h generalizing seen with
  | nil a => rfl
  | @field field raw value members names a b c hfield hname hread _ ih =>
    obtain ⟨hfresh, hnames⟩ := List.nodup_cons.mp hnames
    obtain ⟨hunseen, hseen⟩ := List.forall_mem_cons.mp hseen
    have hcontains : seen.contains field.name = false := by simpa using hunseen
    have hrest := ih hnames (field.name :: seen) fun name hmem hseen' => by
      rcases List.mem_cons.mp hseen' with rfl | hseen'
      · exact hfresh hmem
      · exact hseen name hmem hseen'
    rw [Shape.readMembers, hname.wantText]
    simp only [bind, Except.bind, find?_name hnodup hfield, hcontains, hread, Except.mapError, hrest,
      Bool.false_eq_true, if_false, List.reverse_cons, List.append_assoc, List.singleton_append]
  | @other name raw value members names a b hname hother hvalue _ ih =>
    have hfind : shape.fields.find? (·.name == name) = none := by
      refine List.find?_eq_none.mpr fun field hfield => ?_
      rw [beq_iff_eq]
      rintro rfl
      exact hother (List.mem_map_of_mem hfield)
    rw [Shape.readMembers, hname.wantText]
    simp only [bind, Except.bind, hfind, hvalue, ih hnames seen hseen]

/-- A record is read from an object whose members lead to it, if no name comes twice and none is missed
that may not be left out. -/
theorem Reads.decode {names : List String} (hnodup : (shape.fields.map Field.name).Nodup)
    (h : shape.Reads members names shape.blank a) (hnames : names.Nodup)
    (hall : ∀ field ∈ shape.fields, field.omission = .never → field.name ∈ names) :
    shape.decode (.object members .proper) = .ok a := by
  have hread := h.readMembers hnodup hnames [] fun _ _ => List.not_mem_nil
  have hcomplete : (shape.fields.find? fun field =>
      field.omission = .never && !(names.reverse ++ []).contains field.name) = none := by
    refine List.find?_eq_none.mpr fun field hfield => ?_
    simpa using hall field hfield
  rw [Shape.decode, hread]
  simp only [bind, Except.bind, Close.want, hcomplete]
  rfl

/-- Fields in their order lead from one record to another. -/
theorem reads_of_fills (hfields : fields ⊆ shape.fields) (h : Fills fields given a b) :
    shape.Reads (membersOf given) (fields.map Field.name) a b := by
  induction h with
  | nil a => exact .nil a
  | @cons field fields value given a b c hread _ ih =>
    obtain ⟨hfield, hfields⟩ := List.cons_subset.mp hfields
    exact .field hfield (spells_rawOf field.name) hread (ih hfields)

/-- A record is read from an object that has each of its fields once, in their order. -/
theorem decode_of_fills (hnodup : (shape.fields.map Field.name).Nodup)
    (h : Fills shape.fields given shape.blank a) :
    shape.decode (nodeOf (.object given)) = .ok a :=
  (reads_of_fills (List.Subset.refl _) h).decode hnodup hnodup fun _ hfield _ =>
    List.mem_map_of_mem hfield

end Shape

end NearDup.Json
