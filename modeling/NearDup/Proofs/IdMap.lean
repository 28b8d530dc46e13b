import Mathlib.Data.List.Induction
import Mathlib.Data.List.Sort
import NearDup.IdMap

/-! Maps as their ascending lists of entries. A value for a number beyond all others comes last, and
a value over one that is there changes that one alone. -/

namespace NearDup

namespace IdMap

variable {α : Type}

/-- The map with each value changed by `f`. -/
def map (f : α → α) (m : IdMap α) : IdMap α :=
  ⟨m.entries.map fun entry => (entry.1, f entry.2), List.pairwise_map.mpr m.ascending⟩

@[simp] theorem entries_empty : (empty : IdMap α).entries = [] := rfl

@[simp] theorem values_empty : (empty : IdMap α).values = [] := rfl

@[simp] theorem entries_map (f : α → α) (m : IdMap α) :
    (m.map f).entries = m.entries.map fun entry => (entry.1, f entry.2) := rfl

@[simp] theorem values_map (f : α → α) (m : IdMap α) : (m.map f).values = m.values.map f := by
  simp [values]

/-! ### Entries and lookups -/

theorem mem_of_lookup {key : Nat} {value : α} {entries : List (Nat × α)}
    (h : entries.lookup key = some value) : (key, value) ∈ entries := by
  obtain ⟨before, after, rfl, _⟩ := List.lookup_eq_some_iff.mp h
  simp

theorem lookup_of_mem {entries : List (Nat × α)} {key : Nat} {value : α}
    (hasc : entries.Pairwise fun a b => a.1 < b.1) (h : (key, value) ∈ entries) :
    entries.lookup key = some value := by
  induction entries with
  | nil => simp at h
  | cons entry entries ih =>
    obtain ⟨hhead, htail⟩ := List.pairwise_cons.mp hasc
    rcases List.mem_cons.mp h with rfl | h
    · simp
    · have hne : (key == entry.1) = false := by simpa using Nat.ne_of_gt (hhead _ h)
      rw [List.lookup_cons, hne]
      exact ih htail h

theorem mem_entries_iff {m : IdMap α} {key : Nat} {value : α} :
    (key, value) ∈ m.entries ↔ m.find? key = some value :=
  ⟨lookup_of_mem m.ascending, mem_of_lookup⟩

/-- Maps that find the same are equal. -/
theorem ext_find? {m n : IdMap α} (h : ∀ key, m.find? key = n.find? key) : m = n := by
  have : Std.Irrefl fun a b : Nat × α => a.1 < b.1 := ⟨fun a => Nat.lt_irrefl a.1⟩
  have : Std.Antisymm fun a b : Nat × α => a.1 < b.1 :=
    ⟨fun _ _ hab hba => absurd hba (Nat.lt_asymm hab)⟩
  refine ext (m.ascending.eq_of_mem_iff n.ascending fun entry => ?_)
  rw [mem_entries_iff, mem_entries_iff, h entry.1]

theorem find?_map (f : α → α) (m : IdMap α) (key : Nat) :
    (m.map f).find? key = (m.find? key).map f := by
  cases h : m.find? key with
  | none =>
    refine List.lookup_eq_none_iff.mpr fun entry he => ?_
    obtain ⟨old, hold, rfl⟩ := List.mem_map.mp he
    exact List.lookup_eq_none_iff.mp h old hold
  | some value =>
    exact mem_entries_iff.mp (List.mem_map.mpr ⟨_, mem_entries_iff.mpr h, rfl⟩)

theorem mem_values_of_find? {m : IdMap α} {key : Nat} {value : α}
    (h : m.find? key = some value) : value ∈ m.values :=
  List.mem_map.mpr ⟨_, mem_entries_iff.mpr h, rfl⟩

/-! ### Insertion -/

theorem insertEntry_of_lt {key : Nat} {value : α} {entries : List (Nat × α)}
    (h : ∀ entry ∈ entries, entry.1 < key) :
    insertEntry key value entries = entries ++ [(key, value)] := by
  induction entries with
  | nil => rfl
  | cons entry entries ih =>
    have hlt : entry.1 < key := h entry List.mem_cons_self
    rw [insertEntry, if_neg (Nat.lt_asymm hlt), if_neg (Nat.ne_of_gt hlt),
      ih fun e he => h e (List.mem_cons_of_mem _ he)]
    rfl

theorem entries_insert_of_lt {m : IdMap α} {key : Nat} {value : α}
    (h : ∀ entry ∈ m.entries, entry.1 < key) :
    (m.insert key value).entries = m.entries ++ [(key, value)] :=
  insertEntry_of_lt h

theorem values_insert_of_lt {m : IdMap α} {key : Nat} {value : α}
    (h : ∀ entry ∈ m.entries, entry.1 < key) :
    (m.insert key value).values = m.values ++ [value] := by
  simp [values, entries_insert_of_lt h]

theorem insertEntry_of_lookup {key : Nat} {value : α} {entries : List (Nat × α)} (f : α → α)
    (hasc : entries.Pairwise fun a b => a.1 < b.1) (h : entries.lookup key = some value) :
    insertEntry key (f value) entries =
      entries.map fun entry => (entry.1, if entry.1 = key then f entry.2 else entry.2) := by
  induction entries with
  | nil => simp at h
  | cons entry entries ih =>
    obtain ⟨hhead, htail⟩ := List.pairwise_cons.mp hasc
    rcases List.mem_cons.mp (mem_of_lookup h) with rfl | hmem
    · -- The entry is the first one, and all others have greater numbers.
      have hrest : entries.map (fun e => (e.1, if e.1 = key then f e.2 else e.2)) = entries := by
        refine (List.map_congr_left fun e he => ?_).trans (List.map_id entries)
        simp [Nat.ne_of_gt (hhead e he)]
      simp [insertEntry, hrest]
    · have hlt : entry.1 < key := hhead _ hmem
      rw [insertEntry, if_neg (Nat.lt_asymm hlt), if_neg (Nat.ne_of_gt hlt),
        ih htail (lookup_of_mem htail hmem)]
      simp [Nat.ne_of_lt hlt]

theorem insert_eq_map {m : IdMap α} {key : Nat} {value : α} (f : α → α) (keyOf : α → Nat)
    (hkey : ∀ entry ∈ m.entries, entry.1 = keyOf entry.2) (h : m.find? key = some value) :
    m.insert key (f value) = m.map fun v => if keyOf v = key then f v else v := by
  apply ext
  rw [entries_map]
  refine (insertEntry_of_lookup f m.ascending h).trans (List.map_congr_left fun entry he => ?_)
  rw [hkey entry he]

/-- A value that is put where it is already changes nothing. -/
theorem insert_of_find? {m : IdMap α} {key : Nat} {value : α} (h : m.find? key = some value) :
    m.insert key value = m := by
  apply ext
  refine (insertEntry_of_lookup id m.ascending h).trans ?_
  simp

theorem entries_foldl_insert {m : IdMap α} {entries : List (Nat × α)}
    (h : (m.entries ++ entries).Pairwise fun a b => a.1 < b.1) :
    (entries.foldl (fun m entry => m.insert entry.1 entry.2) m).entries = m.entries ++ entries := by
  induction entries generalizing m with
  | nil => rw [List.append_nil, List.foldl_nil]
  | cons entry entries ih =>
    have hlast : (m.insert entry.1 entry.2).entries = m.entries ++ [entry] :=
      entries_insert_of_lt fun e he => (List.pairwise_append.mp h).2.2 e he entry List.mem_cons_self
    rw [List.append_cons, ← hlast] at h ⊢
    exact ih h

theorem mem_ofList {entries : List (Nat × α)} {e : Nat × α} (h : e ∈ (ofList entries).entries) :
    e ∈ entries := by
  induction entries using List.reverseRecOn with
  | nil => exact h
  | append_singleton entries entry ih =>
    rw [ofList, List.foldl_append] at h
    rcases mem_insertEntry h with rfl | h
    · exact List.mem_append_right _ List.mem_cons_self
    · exact List.mem_append_left _ (ih h)

/-- A map is the one of its entries. -/
theorem ofList_entries (m : IdMap α) : ofList m.entries = m :=
  ext (entries_foldl_insert (m := empty) m.ascending)

theorem insert_comm (m : IdMap α) {key key' : Nat} (value value' : α) (h : key ≠ key') :
    (m.insert key value).insert key' value' = (m.insert key' value').insert key value := by
  refine ext_find? fun other => ?_
  by_cases hkey : other = key
  · subst hkey
    rw [find?_insert_of_ne _ _ h, find?_insert_self, find?_insert_self]
  · by_cases hkey' : other = key'
    · subst hkey'
      rw [find?_insert_self, find?_insert_of_ne _ _ hkey, find?_insert_self]
    · simp only [find?_insert_of_ne _ _ hkey, find?_insert_of_ne _ _ hkey']

/-- A map is the one of its entries in any order. -/
theorem ofList_of_perm {m : IdMap α} {entries : List (Nat × α)} (h : entries.Perm m.entries) :
    ofList entries = m := by
  refine (h.foldl_eq' ?_ empty).trans (ofList_entries m)
  rintro ⟨key, value⟩ he ⟨key', value'⟩ he' n
  by_cases hkey : key = key'
  · subst hkey
    have hfind := mem_entries_iff.mp (h.subset he)
    rw [mem_entries_iff.mp (h.subset he')] at hfind
    rw [Option.some.inj hfind]
  · exact insert_comm n value value' hkey

end IdMap

end NearDup
