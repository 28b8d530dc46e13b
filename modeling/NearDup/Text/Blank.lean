/-! Blank characters, trimming, and cutting a text at chosen characters. Main statement:
the pieces between two cuts hold no cut. -/

namespace NearDup.Text

/-- The characters of the Unicode property `White_Space`. -/
def isBlank (c : Char) : Bool :=
  let n := c.toNat
  (0x09 ≤ n && n ≤ 0x0D) || n == 0x20 || n == 0x85 || n == 0xA0 || n == 0x1680 ||
    (0x2000 ≤ n && n ≤ 0x200A) || n == 0x2028 || n == 0x2029 || n == 0x202F || n == 0x205F ||
    n == 0x3000

/-- The pieces of a text between the characters that `cut` marks; one more than there are cuts. -/
def pieces (cut : Char → Bool) : List Char → List (List Char)
  | [] => [[]]
  | c :: cs =>
    if cut c then [] :: pieces cut cs
    else
      match pieces cut cs with
      | [] => [[c]]
      | piece :: rest => (c :: piece) :: rest

theorem pieces_ne_nil (cut : Char → Bool) (cs : List Char) : pieces cut cs ≠ [] := by
  cases cs with
  | nil => simp [pieces]
  | cons c cs =>
    rw [pieces]
    split
    · simp
    · split <;> simp

theorem not_cut_of_mem_pieces (cut : Char → Bool) (cs : List Char) :
    ∀ piece ∈ pieces cut cs, ∀ c ∈ piece, cut c = false := by
  induction cs with
  | nil => simp [pieces]
  | cons c cs ih =>
    rw [pieces]
    split
    · simpa using ih
    · rename_i hc
      split
      · rename_i hp
        exact absurd hp (pieces_ne_nil cut cs)
      · rename_i piece rest hp
        simp only [hp, List.mem_cons, forall_eq_or_imp] at ih ⊢
        exact ⟨⟨by simpa using hc, ih.1⟩, ih.2⟩

/-- The words of a text: its longest runs without a blank. -/
def wordsOf (cs : List Char) : List (List Char) :=
  (pieces isBlank cs).filter (! ·.isEmpty)

/-- A text without the blanks at its two ends. -/
def trimmed (cs : List Char) : List Char :=
  ((cs.dropWhile isBlank).reverse.dropWhile isBlank).reverse

def words (text : String) : List String :=
  (wordsOf text.toList).map String.ofList

def trim (text : String) : String :=
  String.ofList (trimmed text.toList)

/-- The pieces of a text between the occurrences of `separator`. -/
def splitAt (separator : Char) (text : String) : List String :=
  (pieces (· == separator) text.toList).map String.ofList

end NearDup.Text
