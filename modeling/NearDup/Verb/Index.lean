/-! What words stand for, as an index that is filled entry by entry. Main statement: in the index of
a list of verbs an infinitive stands for itself, and any other word for the infinitive of the first
verb that has it for a form. -/

namespace NearDup

/-- One verb: its infinitive, and the forms that stand for it. -/
structure Verb where
  infinitive : String
  forms : List String
deriving DecidableEq, Repr

/-- Words with the infinitives that they stand for. Of two entries for a word the one in front
counts. -/
structure VerbIndex where
  entries : List (String × String)
deriving DecidableEq, Repr

namespace VerbIndex

def empty : VerbIndex := ⟨[]⟩

/-- The infinitive that a word stands for. -/
def find? (index : VerbIndex) (word : String) : Option String :=
  index.entries.lookup word

/-- Enters a word, whatever it stood for before. -/
def insert (index : VerbIndex) (word infinitive : String) : VerbIndex :=
  ⟨(word, infinitive) :: index.entries⟩

/-- Enters a word unless it stands for something already. -/
def insertNew (index : VerbIndex) (word infinitive : String) : VerbIndex :=
  if (index.find? word).isSome then index else index.insert word infinitive

def addInfinitive (index : VerbIndex) (verb : Verb) : VerbIndex :=
  index.insert verb.infinitive verb.infinitive

def addForms (index : VerbIndex) (verb : Verb) : VerbIndex :=
  verb.forms.foldl (fun index form => index.insertNew form verb.infinitive) index

/-- The index of a list of verbs. The infinitives are entered first, so that no form takes the place
of one, and then the forms in the order of the verbs. -/
def ofVerbs (verbs : List Verb) : VerbIndex :=
  verbs.foldl addForms (verbs.foldl addInfinitive empty)

/-! ### Lookups -/

variable (index : VerbIndex) (word infinitive key : String)

@[simp] theorem find?_empty : empty.find? key = none := rfl

theorem find?_insert :
    (index.insert word infinitive).find? key =
      if key = word then some infinitive else index.find? key := by
  rw [find?, insert, List.lookup_cons]
  by_cases h : key = word
  · simp [h]
  · have hbeq : (key == word) = false := by simpa using h
    simp [h, hbeq, find?]

theorem find?_insertNew :
    (index.insertNew word infinitive).find? key =
      (index.find? key).or (if key = word then some infinitive else none) := by
  rw [insertNew]
  by_cases h : key = word
  · subst h
    cases hfind : index.find? key with
    | some found => simp [hfind]
    | none => simp [find?_insert]
  · cases hfind : index.find? word with
    | some found => simp [h]
    | none => simp [find?_insert, h]

theorem find?_foldl_addInfinitive (verbs : List Verb) :
    (verbs.foldl addInfinitive index).find? key =
      if verbs.any (·.infinitive == key) then some key else index.find? key := by
  induction verbs generalizing index with
  | nil => rfl
  | cons verb verbs ih =>
    rw [List.foldl_cons, ih, List.any_cons, addInfinitive, find?_insert]
    by_cases h : key = verb.infinitive
    · simp [h]
    · have hbeq : (verb.infinitive == key) = false := by simpa using Ne.symm h
      simp [h, hbeq]

theorem find?_addForms (verb : Verb) :
    (index.addForms verb).find? key =
      (index.find? key).or (if verb.forms.contains key then some verb.infinitive else none) := by
  obtain ⟨infinitive, forms⟩ := verb
  rw [addForms]
  induction forms generalizing index with
  | nil => simp
  | cons form forms ih =>
    rw [List.foldl_cons, ih, find?_insertNew, List.contains_cons]
    by_cases h : key = form
    · simp [h]
    · have hbeq : (key == form) = false := by simpa using h
      simp [h, hbeq]

theorem find?_foldl_addForms (verbs : List Verb) :
    (verbs.foldl addForms index).find? key =
      (index.find? key).or ((verbs.find? (·.forms.contains key)).map (·.infinitive)) := by
  induction verbs generalizing index with
  | nil => simp
  | cons verb verbs ih =>
    rw [List.foldl_cons, ih, find?_addForms, List.find?_cons]
    cases h : verb.forms.contains key with
    | true => cases index.find? key <;> rfl
    | false => simp only [Bool.false_eq_true, if_false, Option.or_none]

theorem find?_ofVerbs (verbs : List Verb) :
    (ofVerbs verbs).find? key =
      if verbs.any (·.infinitive == key) then some key
      else (verbs.find? (·.forms.contains key)).map (·.infinitive) := by
  rw [ofVerbs, find?_foldl_addForms, find?_foldl_addInfinitive]
  split <;> simp

end VerbIndex

end NearDup
