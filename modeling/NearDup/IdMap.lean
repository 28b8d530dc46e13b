/-! Finite maps from numbers, listed in ascending order. Main statements: what is inserted is found,
everything else is found as before, and two maps are equal if they list the same entries. -/

namespace NearDup

/-- A value for each of finitely many numbers. -/
structure IdMap (α : Type) where
  entries : List (Nat × α)
  ascending : entries.Pairwise fun a b => a.1 < b.1

namespace IdMap

variable {α : Type}

theorem ext {m n : IdMap α} (h : m.entries = n.entries) : m = n := by
  cases m
  cases n
  simpa using h

instance [DecidableEq α] : DecidableEq (IdMap α) := fun m n =>
  if h : m.entries = n.entries then isTrue (ext h) else isFalse fun he => h (he ▸ rfl)

def empty : IdMap α := ⟨[], .nil⟩

def find? (m : IdMap α) (key : Nat) : Option α :=
  m.entries.lookup key

def contains (m : IdMap α) (key : Nat) : Bool :=
  (m.find? key).isSome

def size (m : IdMap α) : Nat :=
  m.entries.length

/-- The values by ascending number. -/
def values (m : IdMap α) : List α :=
  m.entries.map (·.2)

/-- Puts a value in its place in an ascending list, over one that is there. -/
def insertEntry (key : Nat) (value : α) : List (Nat × α) → List (Nat × α)
  | [] => [(key, value)]
  | entry :: entries =>
    if key < entry.1 then (key, value) :: entry :: entries
    else if key = entry.1 then (key, value) :: entries
    else entry :: insertEntry key value entries

theorem mem_insertEntry {key : Nat} {value : α} {entries : List (Nat × α)} {e : Nat × α}
    (h : e ∈ insertEntry key value entries) : e = (key, value) ∨ e ∈ entries := by
  induction entries with
  | nil => simpa [insertEntry] using h
  | cons entry entries ih =>
    rw [insertEntry] at h
    split at h
    · simpa using h
    · split at h
      · rcases List.mem_cons.mp h with h | h
        · exact .inl h
        · exact .inr (List.mem_cons_of_mem _ h)
      · rcases List.mem_cons.mp h with h | h
        · exact .inr (h ▸ List.mem_cons_self)
        · exact (ih h).imp_right (List.mem_cons_of_mem _)

theorem pairwise_insertEntry {key : Nat} {value : α} {entries : List (Nat × α)}
    (h : entries.Pairwise fun a b => a.1 < b.1) :
    (insertEntry key value entries).Pairwise fun a b => a.1 < b.1 := by
  induction entries with
  | nil => simp [insertEntry]
  | cons entry entries ih =>
    obtain ⟨hhead, htail⟩ := List.pairwise_cons.mp h
    rw [insertEntry]
    split
    · rename_i hlt
      refine List.pairwise_cons.mpr ⟨fun b hb => ?_, h⟩
      rcases List.mem_cons.mp hb with rfl | hb
      · exact hlt
      · exact Nat.lt_trans hlt (hhead b hb)
    · split
      · rename_i heq
        exact List.pairwise_cons.mpr ⟨fun b hb => heq ▸ hhead b hb, htail⟩
      · rename_i hlt hne
        refine List.pairwise_cons.mpr ⟨fun b hb => ?_, ih htail⟩
        rcases mem_insertEntry hb with rfl | hb
        · exact Nat.lt_of_le_of_ne (Nat.le_of_not_lt hlt) (Ne.symm hne)
        · exact hhead b hb

def insert (m : IdMap α) (key : Nat) (value : α) : IdMap α :=
  ⟨insertEntry key value m.entries, pairwise_insertEntry m.ascending⟩

/-- The map of the given entries, of which the last for a number counts. -/
def ofList (entries : List (Nat × α)) : IdMap α :=
  entries.foldl (fun m entry => m.insert entry.1 entry.2) empty

theorem lookup_insertEntry_self (key : Nat) (value : α) (entries : List (Nat × α)) :
    (insertEntry key value entries).lookup key = some value := by
  induction entries with
  | nil => simp [insertEntry]
  | cons entry entries ih =>
    obtain ⟨k, v⟩ := entry
    rw [insertEntry]
    split
    · simp
    · split
      · simp
      · rename_i hne
        have : (key == k) = false := by simpa using hne
        simp [List.lookup_cons, this, ih]

theorem lookup_insertEntry_of_ne {key other : Nat} (value : α) (entries : List (Nat × α))
    (h : other ≠ key) : (insertEntry key value entries).lookup other = entries.lookup other := by
  have hkey : (other == key) = false := by simpa using h
  induction entries with
  | nil => simp [insertEntry, List.lookup_cons, hkey]
  | cons entry entries ih =>
    obtain ⟨k, v⟩ := entry
    rw [insertEntry]
    split
    · simp [List.lookup_cons, hkey]
    · split
      · rename_i heq
        simp only at heq
        subst heq
        simp [List.lookup_cons, hkey]
      · simp [List.lookup_cons, ih]

@[simp] theorem find?_empty (key : Nat) : (empty : IdMap α).find? key = none := rfl

@[simp] theorem find?_insert_self (m : IdMap α) (key : Nat) (value : α) :
    (m.insert key value).find? key = some value :=
  lookup_insertEntry_self key value m.entries

theorem find?_insert_of_ne (m : IdMap α) {key other : Nat} (value : α) (h : other ≠ key) :
    (m.insert key value).find? other = m.find? other :=
  lookup_insertEntry_of_ne value m.entries h

end IdMap

end NearDup
