import NearDup.Json.Decode

/-! What readers can yield, whatever the tree that they are given. Main statement: a record has
every property that it has when it is blank and that each of its fields keeps. -/

namespace NearDup.Json

variable {α β : Type} {decode : Decoder α} {P : α → Prop}

theorem bind_eq_ok_iff {x : Except Error α} {f : α → Except Error β} {b : β} :
    (x >>= f) = .ok b ↔ ∃ a, x = .ok a ∧ f a = .ok b := by
  cases x <;> simp [bind, Except.bind]

theorem mapError_eq_ok_iff {x : Except Error α} {f : Error → Error} {a : α} :
    x.mapError f = .ok a ↔ x = .ok a := by
  cases x with
  | error e => exact ⟨nofun, nofun⟩
  | ok b => exact Iff.rfl

/-- What comes after a check succeeds just if the check is passed and it does. -/
theorem check_eq_ok_iff {ε α : Type} {p : Prop} [Decidable p] {e : ε}
    {next : Unit → Except ε α} {a : α} :
    (if p then throw e >>= next else next ()) = .ok a ↔ ¬ p ∧ next () = .ok a := by
  by_cases h : p
  · rw [if_pos h]
    exact iff_of_false nofun fun hnot => hnot.1 h
  · rw [if_neg h, and_iff_right h]

/-- Whether all values that a reader yields have a property. -/
def Decoder.Yields (decode : Decoder α) (P : α → Prop) : Prop :=
  ∀ node a, decode node = .ok a → P a

/-! ### Numbers, lists and objects with numbers for names -/

theorem asNatural_lt {bound n : Nat} {expected : String} {value : Number}
    (h : value.asNatural bound expected = .ok n) : n < bound := by
  unfold Number.asNatural at h
  split at h
  · split at h
    · obtain rfl := Except.ok.inj h
      assumption
    · cases h
  · cases h
  · cases h

theorem natural_yields (bound : Nat) (expected : String) :
    (Decoder.natural bound expected).Yields (· < bound) := by
  intro node n h
  unfold Decoder.natural at h
  split at h
  · obtain ⟨value, -, hvalue⟩ := bind_eq_ok_iff.mp h
    exact asNatural_lt hvalue
  · cases h

theorem decodeItems_yields (h : decode.Yields P) {items : List Node} {index : Nat} {values : List α}
    (hitems : decodeItems decode index items = .ok values) : ∀ a ∈ values, P a := by
  induction items generalizing index values with
  | nil =>
    obtain rfl := Except.ok.inj hitems
    exact fun a ha => nomatch ha
  | cons item items ih =>
    obtain ⟨first, hfirst, hitems⟩ := bind_eq_ok_iff.mp hitems
    obtain ⟨rest, hrest, hvalues⟩ := bind_eq_ok_iff.mp hitems
    obtain rfl := Except.ok.inj hvalues
    exact List.forall_mem_cons.mpr ⟨h item first (mapError_eq_ok_iff.mp hfirst), ih hrest⟩

theorem list_yields (h : decode.Yields P) : (Decoder.list decode).Yields (∀ a ∈ ·, P a) := by
  intro node values hnode
  unfold Decoder.list at hnode
  split at hnode
  · obtain ⟨items, hitems, hclose⟩ := bind_eq_ok_iff.mp hnode
    obtain ⟨-, -, hvalues⟩ := bind_eq_ok_iff.mp hclose
    obtain rfl := Except.ok.inj hvalues
    exact decodeItems_yields h hitems
  · cases hnode

theorem quotedNatural_lt {bound n : Nat} {expected : String} {input : List Text.Symbol}
    (h : quotedNatural bound expected input = .ok n) : n < bound := by
  simp only [quotedNatural, check_eq_ok_iff] at h
  obtain ⟨-, h⟩ := h
  split at h
  · cases h
  · obtain ⟨number, -, h⟩ := bind_eq_ok_iff.mp h
    obtain ⟨value, hvalue, h⟩ := bind_eq_ok_iff.mp h
    split at h
    · obtain rfl := Except.ok.inj h
      exact asNatural_lt hvalue
    · cases h

theorem decodeNumbered_yields (bound : Nat) (expected : String) (h : decode.Yields P)
    {members : List (RawString × Node)} {values : List (Nat × α)}
    (hmembers : decodeNumbered bound expected decode members = .ok values) :
    ∀ entry ∈ values, entry.1 < bound ∧ P entry.2 := by
  induction members generalizing values with
  | nil =>
    obtain rfl := Except.ok.inj hmembers
    exact fun a ha => nomatch ha
  | cons member members ih =>
    obtain ⟨key, hkey, hmembers⟩ := bind_eq_ok_iff.mp hmembers
    obtain ⟨first, hfirst, hmembers⟩ := bind_eq_ok_iff.mp hmembers
    obtain ⟨rest, hrest, hvalues⟩ := bind_eq_ok_iff.mp hmembers
    obtain rfl := Except.ok.inj hvalues
    exact List.forall_mem_cons.mpr
      ⟨⟨quotedNatural_lt hkey, h _ first (mapError_eq_ok_iff.mp hfirst)⟩, ih hrest⟩

theorem numbered_yields (bound : Nat) (expected : String) (h : decode.Yields P) :
    (Decoder.numbered bound expected decode).Yields
      (∀ entry ∈ ·, entry.1 < bound ∧ P entry.2) := by
  intro node values hnode
  unfold Decoder.numbered at hnode
  split at hnode
  · obtain ⟨items, hitems, hclose⟩ := bind_eq_ok_iff.mp hnode
    split at hclose
    · obtain ⟨-, -, hclose⟩ := bind_eq_ok_iff.mp hclose
      cases hclose
    · dsimp only at hclose
      obtain ⟨-, -, hvalues⟩ := bind_eq_ok_iff.mp hclose
      obtain rfl := Except.ok.inj hvalues
      exact decodeNumbered_yields bound expected h hitems
  · cases hnode

/-! ### Records -/

namespace Shape

variable {shape : Shape α}

/-- Whether reading any field of a record keeps a property. -/
def Keeps (shape : Shape α) (P : α → Prop) : Prop :=
  ∀ field ∈ shape.fields, ∀ node a b, field.read node a = .ok b → P a → P b

theorem readMembers_keeps (h : shape.Keeps P) {members : List (RawString × Node)}
    {seen seen' : List String} {a b : α}
    (hread : shape.readMembers members seen a = .ok (seen', b)) (ha : P a) : P b := by
  induction members generalizing seen a with
  | nil =>
    obtain rfl := (Prod.mk.inj (Except.ok.inj hread)).2
    exact ha
  | cons member members ih =>
    obtain ⟨name, -, hread⟩ := bind_eq_ok_iff.mp hread
    split at hread
    · obtain ⟨-, -, hread⟩ := bind_eq_ok_iff.mp hread
      exact ih hread ha
    · rename_i field hfield
      split at hread
      · cases hread
      · obtain ⟨next, hnext, hread⟩ := bind_eq_ok_iff.mp hread
        refine ih hread (h field ?_ _ _ _ (mapError_eq_ok_iff.mp hnext) ha)
        exact List.mem_of_find?_eq_some hfield

theorem readItems_keeps (h : shape.Keeps P) {close : Close} {fields : List (Field α)} {index : Nat}
    (hfields : fields ⊆ shape.fields) {items : List Node} {a b : α}
    (hread : shape.readItems close fields index items a = .ok b) (ha : P a) : P b := by
  induction fields generalizing index items a with
  | nil =>
    cases items with
    | nil =>
      obtain ⟨-, -, hread⟩ := bind_eq_ok_iff.mp hread
      exact Except.ok.inj hread ▸ ha
    | cons item items => cases hread
  | cons field fields ih =>
    obtain ⟨hfield, hrest⟩ := List.cons_subset.mp hfields
    cases items with
    | nil =>
      obtain ⟨-, -, hread⟩ := bind_eq_ok_iff.mp hread
      split at hread
      · exact ih hrest hread ha
      · cases hread
    | cons item items =>
      obtain ⟨next, hnext, hread⟩ := bind_eq_ok_iff.mp hread
      exact ih hrest hread (h field hfield _ _ _ (mapError_eq_ok_iff.mp hnext) ha)

/-- A record has what its blank has and its fields keep. -/
theorem yields (h : shape.Keeps P) (hblank : P shape.blank) : Decoder.Yields shape.decode P := by
  intro node a hnode
  unfold decode at hnode
  split at hnode
  · obtain ⟨⟨seen, b⟩, hread, hnode⟩ := bind_eq_ok_iff.mp hnode
    obtain ⟨-, -, hnode⟩ := bind_eq_ok_iff.mp hnode
    split at hnode
    · cases hnode
    · exact Except.ok.inj hnode ▸ readMembers_keeps h hread hblank
  · exact readItems_keeps h (List.Subset.refl _) hnode hblank
  · cases hnode

end Shape

end NearDup.Json
