import Mathlib.Data.List.Perm.Basic
import Mathlib.Data.List.ReduceOption
import NearDup.Proofs.Json.Decode
import NearDup.Proofs.Json.Yields

/-! Records in all the ways in which they can be written: as an object with their parts in any order and
other members among them, or as the array of their parts. Main statements: a record is read from each of
these, and it is read from no object that has two members of one known name. -/

namespace NearDup.Json

/-! ### The ways to write a record -/

/-- A part of a record: its name, the values that stand for it, and whether it may be left out. -/
structure Part where
  name : String
  form : Node → Prop
  omitted : Prop

/-- Whether members are the parts of a record in their order, less some that may be left out. -/
inductive Holds : List Part → List (RawString × Node) → Prop
  | nil : Holds [] []
  | cons {part parts raw value members} (hname : Spells raw part.name.toList)
      (hvalue : part.form value) (h : Holds parts members) :
      Holds (part :: parts) ((raw, value) :: members)
  | without {part parts members} (homitted : part.omitted) (h : Holds parts members) :
      Holds (part :: parts) members

/-- Whether a member is none of a record, and has any value at all. -/
structure IsOther (names : List String) (member : RawString × Node) : Prop where
  name : ∃ name, Spells member.1 name.toList ∧ name ∉ names
  value : member.2.IsWhole

/-- The objects that stand for a record: its parts in any order, with any other members among them. -/
inductive IsObject (parts : List Part) : Node → Prop
  | mk {members known others} (hperm : members.Perm (known ++ others)) (hknown : Holds parts known)
      (hothers : ∀ member ∈ others, IsOther (parts.map Part.name) member) :
      IsObject parts (.object members .proper)

/-- The array that stands for a record: all its parts in their order. -/
inductive IsArray (parts : List Part) : Node → Prop
  | mk {items} (h : List.Forall₂ Part.form parts items) : IsArray parts (.array items .proper)

/-- The values that stand for a record. -/
def IsRecord (parts : List Part) (node : Node) : Prop :=
  IsObject parts node ∨ IsArray parts node

/-- Whether two members of an object have the same one of some names. -/
def RepeatsName (names : List String) (members : List (RawString × Node)) : Prop :=
  ∃ name ∈ names, ∃ first second, [first, second].Sublist members ∧
    Spells first.1 name.toList ∧ Spells second.1 name.toList

theorem isObject_of_perm {parts : List Part} {members known : List (RawString × Node)}
    (hperm : members.Perm known) (h : Holds parts known) : IsObject parts (.object members .proper) :=
  ⟨hperm.trans (.of_eq (List.append_nil known).symm), h, fun _ hmem => nomatch hmem⟩

/-! ### Values that are skipped -/

theorem faultOfItems?_eq_none {items : List Node} (h : ∀ item ∈ items, item.fault? = none) :
    faultOfItems? items = none := by
  induction items with
  | nil => rfl
  | cons item items ih =>
    obtain ⟨hitem, hitems⟩ := List.forall_mem_cons.mp h
    rw [faultOfItems?, hitem, ih hitems, Option.none_or]

theorem faultOfMembers?_eq_none {members : List (RawString × Node)}
    (h : ∀ member ∈ members, member.2.fault? = none) : faultOfMembers? members = none := by
  induction members with
  | nil => rfl
  | cons member members ih =>
    obtain ⟨hvalue, hmembers⟩ := List.forall_mem_cons.mp h
    rw [faultOfMembers?, hvalue, ih hmembers, Option.none_or]

theorem Node.IsWhole.fault? {node : Node} (h : node.IsWhole) : node.fault? = none := by
  induction h with
  | null | boolean _ | number _ | string _ => rfl
  | array _ ih => rw [Node.fault?, faultOfItems?_eq_none ih]; rfl
  | object _ ih => rw [Node.fault?, faultOfMembers?_eq_none ih]; rfl

/-- A value without flaw is skipped, whatever it is. -/
theorem Node.IsWhole.skip {node : Node} (h : node.IsWhole) : node.skip = .ok () := by
  rw [Node.skip, h.fault?]

namespace Shape

variable {α : Type} {shape : Shape α}

/-! ### Parts and fields -/

/-- A part of a record with the field that takes it: every value of the part sets it in the record, and
where it may be left out, it is in the blank record. -/
structure Slot (shape : Shape α) extends Part where
  field : Field α
  set : α → α
  name_eq : field.name = name
  read_eq : ∀ node, form node → ∀ a, field.read node a = .ok (set a)
  of_omitted : omitted → field.omission ≠ .never ∧ set shape.blank = shape.blank

/-- The slot of a field whose value is read and put in its place. -/
def Slot.of {β : Type} (part : Part) (omission : Omission) (decode : Decoder β) (put : β → α → α)
    (set : α → α) (hread : ∀ node, part.form node → ∃ b, decode node = .ok b ∧ put b = set)
    (homitted : part.omitted → omission ≠ .never ∧ set shape.blank = shape.blank) : Slot shape where
  toPart := part
  field := ⟨part.name, omission, fun node a => return put (← decode node) a⟩
  set := set
  name_eq := rfl
  read_eq node hnode a := by
    obtain ⟨b, hb, rfl⟩ := hread node hnode
    exact read_ok hb fun b => put b a
  of_omitted := homitted

/-- The slot of a field that has one value, in whichever way that is written. -/
def Slot.ofValue {β : Type} (part : Part) (omission : Omission) (decode : Decoder β)
    (put : β → α → α) (b : β) (hread : ∀ node, part.form node → decode node = .ok b)
    (homitted : part.omitted → omission ≠ .never ∧ put b shape.blank = shape.blank) : Slot shape :=
  .of part omission decode put (put b) (fun node hnode => ⟨b, hread node hnode, rfl⟩) homitted

/-- The slots of a record, one for each of its fields, which make it out of the blank one. Their order
does not matter. -/
structure Assembly (shape : Shape α) (a : α) where
  slots : List (Slot shape)
  fields : slots.map Slot.field = shape.fields
  nodup : (shape.fields.map Field.name).Nodup
  commute : slots.Pairwise fun s t => ∀ b, s.set (t.set b) = t.set (s.set b)
  made : slots.foldl (fun b slot => slot.set b) shape.blank = a

namespace Assembly

variable {a : α}

def parts (assembly : shape.Assembly a) : List Part :=
  assembly.slots.map Slot.toPart

theorem names_parts (assembly : shape.Assembly a) :
    assembly.parts.map Part.name = shape.fields.map Field.name := by
  rw [← assembly.fields, parts, List.map_map, List.map_map]
  exact List.map_congr_left fun slot _ => slot.name_eq.symm

end Assembly

/-- The slots that a record's members fill. Leaving out the others makes no difference. -/
theorem exists_filled {slots : List (Slot shape)} {known : List (RawString × Node)} {b : α}
    (h : Holds (slots.map Slot.toPart) known)
    (hcommute : slots.Pairwise fun s t => ∀ b, s.set (t.set b) = t.set (s.set b))
    (homitted : ∀ slot ∈ slots, slot.omitted → slot.set b = b) :
    ∃ filled, filled.Sublist slots ∧ (∀ slot ∈ slots, ¬ slot.omitted → slot ∈ filled) ∧
      List.Forall₂ (fun member slot => Spells member.1 slot.name.toList ∧ slot.form member.2)
        known filled ∧
      filled.foldl (fun b slot => slot.set b) b = slots.foldl (fun b slot => slot.set b) b := by
  induction slots generalizing known b with
  | nil =>
    cases h
    exact ⟨[], .refl _, (fun _ h => nomatch h), .nil, rfl⟩
  | cons slot slots ih =>
    obtain ⟨hslot, hcommute⟩ := List.pairwise_cons.mp hcommute
    obtain ⟨hfirst, homitted⟩ := List.forall_mem_cons.mp homitted
    cases h with
    | @cons _ _ raw value known hname hvalue h =>
      have homitted' : ∀ other ∈ slots, other.omitted → other.set (slot.set b) = slot.set b :=
        fun other hother ho => by rw [← hslot other hother b, homitted other hother ho]
      obtain ⟨filled, hsub, hall, hforall, hfold⟩ := ih h hcommute homitted'
      refine ⟨slot :: filled, hsub.cons_cons slot, ?_, .cons ⟨hname, hvalue⟩ hforall, hfold⟩
      exact List.forall_mem_cons.mpr ⟨fun _ => List.mem_cons_self,
        fun other hother ho => List.mem_cons_of_mem _ (hall other hother ho)⟩
    | without ho h =>
      obtain ⟨filled, hsub, hall, hforall, hfold⟩ := ih h hcommute homitted
      refine ⟨filled, hsub.cons slot, ?_, hforall, ?_⟩
      · exact List.forall_mem_cons.mpr ⟨fun hnot => absurd ho hnot, hall⟩
      · rw [List.foldl_cons, hfirst ho, hfold]

/-- How a member of an object is taken: by a slot of the record, or by none. -/
inductive Takes (shape : Shape α) : RawString × Node → Option (Slot shape) → Prop
  | slot {raw value slot} (hname : Spells raw slot.name.toList) (hvalue : slot.form value) :
      Takes shape (raw, value) (some slot)
  | other {member} (h : IsOther (shape.fields.map Field.name) member) : Takes shape member none

/-- Members that are taken lead to a record, in their order. -/
theorem reads_of_takes {members : List (RawString × Node)} {taken : List (Option (Slot shape))}
    (h : List.Forall₂ shape.Takes members taken)
    (hfields : ∀ slot ∈ taken.reduceOption, slot.field ∈ shape.fields) (b : α) :
    shape.Reads members (taken.reduceOption.map fun slot => slot.field.name) b
      (taken.reduceOption.foldl (fun b slot => slot.set b) b) := by
  induction h generalizing b with
  | nil => exact .nil b
  | cons htakes _ ih =>
    cases htakes with
    | @slot raw value slot hname hvalue =>
      obtain ⟨hfield, hfields⟩ := List.forall_mem_cons.mp hfields
      rw [← slot.name_eq] at hname
      exact .field hfield hname (slot.read_eq value hvalue b) (ih hfields (slot.set b))
    | @other member h =>
      obtain ⟨name, hname, hother⟩ := h.name
      exact .other hname hother h.value.skip (ih hfields b)

theorem readItems_of_forall₂ {slots : List (Slot shape)} {items : List Node}
    (h : List.Forall₂ (fun slot item => slot.form item) slots items) (index : Nat) (b : α) :
    shape.readItems .proper (slots.map Slot.field) index items b =
      .ok (slots.foldl (fun b slot => slot.set b) b) := by
  induction h generalizing index b with
  | nil => rfl
  | @cons slot item slots items hvalue _ ih =>
    rw [List.map_cons, readItems, slot.read_eq item hvalue b]
    exact ih (index + 1) (slot.set b)

namespace Assembly

theorem set_comm {a : α} (assembly : shape.Assembly a) {s t : Slot shape} (hs : s ∈ assembly.slots)
    (ht : t ∈ assembly.slots) (b : α) : s.set (t.set b) = t.set (s.set b) := by
  have : Std.Symm fun s t : Slot shape => ∀ b, s.set (t.set b) = t.set (s.set b) :=
    ⟨fun _ _ h b => (h b).symm⟩
  exact assembly.commute.forall_of_forall (fun _ _ _ => rfl) hs ht b

/-- A record is read from each object that stands for it. -/
theorem decode_of_isObject {a : α} (assembly : shape.Assembly a) {node : Node}
    (h : IsObject assembly.parts node) : shape.decode node = .ok a := by
  obtain @⟨members, known, others, hperm, hknown, hothers⟩ := h
  obtain ⟨filled, hsub, hall, hfilled, hfold⟩ := exists_filled hknown assembly.commute
    fun slot _ ho => (slot.of_omitted ho).2
  rw [assembly.names_parts] at hothers
  have htakes : List.Forall₂ shape.Takes (known ++ others)
      (filled.map some ++ others.map fun _ => none) :=
    List.rel_append (List.forall₂_map_right_iff.mpr (hfilled.imp fun _ _ h => .slot h.1 h.2))
      (List.forall₂_map_right_iff.mpr <|
        List.forall₂_same.mpr fun member hm => .other (hothers member hm))
  -- The members stand in any order, and so do the slots that take them.
  obtain ⟨taken, htaken, hpermTaken⟩ := List.perm_comp_forall₂ hperm htakes
  have hreduced : taken.reduceOption.Perm filled := by
    simpa [List.reduceOption] using hpermTaken.filterMap id
  have hfields : ∀ slot ∈ taken.reduceOption, slot.field ∈ shape.fields := fun slot hslot =>
    assembly.fields ▸ List.mem_map_of_mem (hsub.subset (hreduced.subset hslot))
  have hreads := reads_of_takes htaken hfields shape.blank
  have hmade : taken.reduceOption.foldl (fun b slot => slot.set b) shape.blank = a := by
    refine (hreduced.foldl_eq' (fun s hs t ht b => ?_) _).trans (hfold.trans assembly.made)
    exact assembly.set_comm (hsub.subset (hreduced.subset ht)) (hsub.subset (hreduced.subset hs)) b
  rw [hmade] at hreads
  refine hreads.decode assembly.nodup ?_ fun field hfield hnever => ?_
  · have hnodup := assembly.nodup
    rw [← assembly.fields, List.map_map] at hnodup
    exact (hreduced.map _).nodup_iff.mpr (hnodup.sublist (hsub.map _))
  · rw [← assembly.fields] at hfield
    obtain ⟨slot, hslot, rfl⟩ := List.mem_map.mp hfield
    have hfilled := hall slot hslot fun ho => (slot.of_omitted ho).1 hnever
    exact List.mem_map.mpr ⟨slot, hreduced.symm.subset hfilled, rfl⟩

/-- A record is read from each array that stands for it. -/
theorem decode_of_isArray {a : α} (assembly : shape.Assembly a) {node : Node}
    (h : IsArray assembly.parts node) : shape.decode node = .ok a := by
  obtain @⟨items, h⟩ := h
  rw [Shape.decode, ← assembly.fields,
    readItems_of_forall₂ (List.forall₂_map_left_iff.mp h), assembly.made]

theorem decode_of_isRecord {a : α} (assembly : shape.Assembly a) {node : Node}
    (h : IsRecord assembly.parts node) : shape.decode node = .ok a :=
  h.elim assembly.decode_of_isObject assembly.decode_of_isArray

end Assembly

/-! ### Records that are read -/

variable {members : List (RawString × Node)} {close : Close} {seen : List String} {a : α}
  {r : List String × α}

/-- The ways in which a member is read. -/
theorem of_readMembers_cons {raw : RawString} {value : Node}
    (h : shape.readMembers ((raw, value) :: members) seen a = .ok r) :
    ∃ name, wantText raw = .ok name ∧
      ((name ∉ shape.fields.map Field.name ∧ shape.readMembers members seen a = .ok r) ∨
        ∃ field ∈ shape.fields, field.name = name ∧ name ∉ seen ∧
          ∃ b, field.read value a = .ok b ∧ shape.readMembers members (name :: seen) b = .ok r) := by
  obtain ⟨name, hname, h⟩ := bind_eq_ok_iff.mp h
  refine ⟨name, hname, ?_⟩
  split at h
  · rename_i hfind
    obtain ⟨-, -, h⟩ := bind_eq_ok_iff.mp h
    refine .inl ⟨fun hmem => ?_, h⟩
    obtain ⟨field, hfield, heq⟩ := List.mem_map.mp hmem
    exact List.find?_eq_none.mp hfind field hfield (beq_iff_eq.mpr heq)
  · rename_i field hfind
    split at h
    · cases h
    · rename_i hunseen
      obtain ⟨b, hread, h⟩ := bind_eq_ok_iff.mp h
      have heq : field.name = name := by simpa using List.find?_some hfind
      exact .inr ⟨field, List.mem_of_find?_eq_some hfind, heq, by simpa using hunseen, b,
        mapError_eq_ok_iff.mp hread, h⟩

/-- A known name that has been seen is not read again. -/
theorem not_spells_of_seen {name : String} (hname : name ∈ shape.fields.map Field.name)
    (h : shape.readMembers members seen a = .ok r) (hseen : name ∈ seen) :
    ∀ member ∈ members, ¬ Spells member.1 name.toList := by
  induction members generalizing seen a with
  | nil => exact fun _ hmem => nomatch hmem
  | cons member members ih =>
    obtain ⟨found, hfound, h⟩ := of_readMembers_cons h
    have hspells : Spells member.1 name.toList → found = name := fun h =>
      Except.ok.inj (hfound.symm.trans h.wantText)
    rcases h with ⟨hunknown, h⟩ | ⟨_, _, _, hunseen, _, _, h⟩
    · refine List.forall_mem_cons.mpr ⟨fun hs => hunknown ?_, ih h hseen⟩
      rwa [hspells hs]
    · refine List.forall_mem_cons.mpr ⟨fun hs => hunseen ?_, ih h (List.mem_cons_of_mem _ hseen)⟩
      rwa [hspells hs]

theorem not_repeatsName_of_readMembers (h : shape.readMembers members seen a = .ok r) :
    ¬ RepeatsName (shape.fields.map Field.name) members := by
  rintro ⟨name, hname, first, second, hsub, hfirst, hsecond⟩
  induction members generalizing seen a with
  | nil => cases hsub
  | cons member members ih =>
    obtain ⟨found, hfound, h⟩ := of_readMembers_cons h
    cases hsub with
    | cons _ hsub =>
      rcases h with ⟨_, h⟩ | ⟨_, _, _, _, _, _, h⟩
      · exact ih h hsub
      · exact ih h hsub
    | cons_cons _ hsub =>
      obtain rfl := Except.ok.inj (hfound.symm.trans hfirst.wantText)
      rcases h with ⟨hunknown, _⟩ | ⟨_, _, _, _, _, _, h⟩
      · exact hunknown hname
      · exact not_spells_of_seen hname h List.mem_cons_self second
          (List.singleton_sublist.mp hsub) hsecond

theorem exists_read_of_readMembers (hnodup : (shape.fields.map Field.name).Nodup) (field : Field α)
    (hfield : field ∈ shape.fields) (h : shape.readMembers members seen a = .ok r)
    {member : RawString × Node} (hmem : member ∈ members) (hname : Spells member.1 field.name.toList) :
    ∃ b c, field.read member.2 b = .ok c := by
  induction members generalizing seen a with
  | nil => cases hmem
  | cons first members ih =>
    obtain ⟨found, hfound, h⟩ := of_readMembers_cons h
    rcases List.mem_cons.mp hmem with rfl | hmem
    · obtain rfl := Except.ok.inj (hfound.symm.trans hname.wantText)
      rcases h with ⟨hunknown, _⟩ | ⟨other, hother, heq, _, b, hread, _⟩
      · exact absurd (List.mem_map_of_mem hfield) hunknown
      · obtain rfl := List.inj_on_of_nodup_map hnodup hother hfield heq
        exact ⟨a, b, hread⟩
    · rcases h with ⟨_, h⟩ | ⟨_, _, _, _, _, _, h⟩
      · exact ih h hmem
      · exact ih h hmem

/-- An object that is read has no known name twice. -/
theorem not_repeatsName_of_decode (h : shape.decode (.object members close) = .ok a) :
    ¬ RepeatsName (shape.fields.map Field.name) members := by
  obtain ⟨r, hr, -⟩ := bind_eq_ok_iff.mp h
  exact not_repeatsName_of_readMembers hr

/-- Of an object that is read, each member of a known name is read. -/
theorem exists_read_of_decode (hnodup : (shape.fields.map Field.name).Nodup) (field : Field α)
    (hfield : field ∈ shape.fields) (h : shape.decode (.object members close) = .ok a)
    {member : RawString × Node} (hmem : member ∈ members) (hname : Spells member.1 field.name.toList) :
    ∃ b c, field.read member.2 b = .ok c := by
  obtain ⟨r, hr, -⟩ := bind_eq_ok_iff.mp h
  exact exists_read_of_readMembers hnodup field hfield hr hmem hname

end Shape

/-! ### Lists and maps that are read -/

variable {α : Type} {decode : Decoder α}

theorem exists_of_decodeItems {items : List Node} {index : Nat} {values : List α}
    (h : decodeItems decode index items = .ok values) :
    ∀ item ∈ items, ∃ a, decode item = .ok a := by
  induction items generalizing index values with
  | nil => exact fun _ hmem => nomatch hmem
  | cons item items ih =>
    obtain ⟨first, hfirst, h⟩ := bind_eq_ok_iff.mp h
    obtain ⟨rest, hrest, -⟩ := bind_eq_ok_iff.mp h
    exact List.forall_mem_cons.mpr ⟨⟨first, mapError_eq_ok_iff.mp hfirst⟩, ih hrest⟩

theorem exists_of_list {items : List Node} {close : Close} {values : List α}
    (h : Decoder.list decode (.array items close) = .ok values) :
    ∀ item ∈ items, ∃ a, decode item = .ok a := by
  obtain ⟨values, hvalues, -⟩ := bind_eq_ok_iff.mp h
  exact exists_of_decodeItems hvalues

theorem exists_of_decodeNumbered {bound : Nat} {expected : String}
    {members : List (RawString × Node)} {values : List (Nat × α)}
    (h : decodeNumbered bound expected decode members = .ok values) :
    ∀ member ∈ members, ∃ a, decode member.2 = .ok a := by
  induction members generalizing values with
  | nil => exact fun _ hmem => nomatch hmem
  | cons member members ih =>
    obtain ⟨key, -, h⟩ := bind_eq_ok_iff.mp h
    obtain ⟨first, hfirst, h⟩ := bind_eq_ok_iff.mp h
    obtain ⟨rest, hrest, -⟩ := bind_eq_ok_iff.mp h
    exact List.forall_mem_cons.mpr ⟨⟨first, mapError_eq_ok_iff.mp hfirst⟩, ih hrest⟩

theorem exists_of_numbered {bound : Nat} {expected : String} {members : List (RawString × Node)}
    {close : Close} {values : List (Nat × α)}
    (h : Decoder.numbered bound expected decode (.object members close) = .ok values) :
    ∀ member ∈ members, ∃ a, decode member.2 = .ok a := by
  obtain ⟨values, hvalues, -⟩ := bind_eq_ok_iff.mp h
  exact exists_of_decodeNumbered hvalues

end NearDup.Json
