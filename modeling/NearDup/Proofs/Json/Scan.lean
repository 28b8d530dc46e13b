import NearDup.Json.Token
import NearDup.Json.Value

/-! Strings and numbers in all the ways in which they can be written, and read back. Main statements:
the scan of a string stops at its closing mark, and what it has passed stands for the text that it
spells; and the scan of a number stops at what follows it. -/

namespace NearDup.Json

open Text (Symbol)

/-! ### Strings -/

/-- The letters that stand for a character after a backslash. -/
def shortEscapes : List (Char × Char) := [
  ('"', '"'), ('\\', '\\'), ('/', '/'), ('b', '\x08'), ('f', '\x0c'), ('n', '\n'), ('r', '\r'),
  ('t', '\t')]

/-- Whether four characters are the digits of a number in base sixteen, in small letters or capitals. -/
structure IsHex (w x y z : Char) (n : Nat) : Prop where
  lt : n < 0x10000
  digits : [w, x, y, z].map Char.toLower =
    [n / 0x1000, n / 0x100 % 16, n / 16 % 16, n % 16].map Nat.digitChar

/-- What may stand between the marks of a string, whether or not it stands for a text. -/
inductive Enclosed : RawString → Prop
  | nil : Enclosed []
  | short {e c raw} (h : (e, c) ∈ shortEscapes) (hrest : Enclosed raw) :
      Enclosed (.char '\\' :: .char e :: raw)
  | unit {w x y z n raw} (h : IsHex w x y z n) (hrest : Enclosed raw) :
      Enclosed (.char '\\' :: .char 'u' :: .char w :: .char x :: .char y :: .char z :: raw)
  | plain {c raw} (hmark : c ≠ '"') (hslash : c ≠ '\\') (hc : ¬ c.toNat < 0x20)
      (hrest : Enclosed raw) : Enclosed (.char c :: raw)

/-- The ways in which a character is written in a string: by an escape of its own, by its unit of
sixteen bits, by the two units that it takes, or as it is. -/
inductive Spelling (c : Char) : RawString → Prop
  | short {e} (h : (e, c) ∈ shortEscapes) : Spelling c [.char '\\', .char e]
  | unit {w x y z} (h : IsHex w x y z c.toNat) :
      Spelling c [.char '\\', .char 'u', .char w, .char x, .char y, .char z]
  | pair {w x y z w' x' y' z' n n'} (hc : 0x10000 ≤ c.toNat)
      (hn : n = 0xD800 + (c.toNat - 0x10000) / 0x400)
      (hn' : n' = 0xDC00 + (c.toNat - 0x10000) % 0x400)
      (h : IsHex w x y z n) (h' : IsHex w' x' y' z' n') :
      Spelling c [.char '\\', .char 'u', .char w, .char x, .char y, .char z,
        .char '\\', .char 'u', .char w', .char x', .char y', .char z']
  | plain (hmark : c ≠ '"') (hslash : c ≠ '\\') (hc : ¬ c.toNat < 0x20) : Spelling c [.char c]

/-- The ways in which characters are written in a string, each in one of its own. -/
inductive Spells : RawString → List Char → Prop
  | nil : Spells [] []
  | cons {c cs piece raw} (h : Spelling c piece) (hrest : Spells raw cs) :
      Spells (piece ++ raw) (c :: cs)

/-- A text as it is written between its marks. -/
def rawOf (text : String) : RawString :=
  (text.toList.flatMap escaped).map .char

theorem isHex_digitChar : ∀ n < 0x20,
    IsHex '0' '0' (Nat.digitChar (n / 16)) (Nat.digitChar (n % 16)) n := by
  intro n hn
  refine ⟨by omega, ?_⟩
  revert n
  decide

theorem spelling_escaped (c : Char) : Spelling c ((escaped c).map .char) := by
  unfold escaped
  split
  any_goals exact .short (by decide)
  rename_i hmark hslash _ _ _ _ _
  split
  · exact .unit (isHex_digitChar _ ‹_›)
  · exact .plain hmark hslash ‹_›

theorem spells_rawOf (text : String) : Spells (rawOf text) text.toList := by
  unfold rawOf
  induction text.toList with
  | nil => exact .nil
  | cons c cs ih =>
    rw [List.flatMap_cons, List.map_append]
    exact .cons (spelling_escaped c) ih

theorem Spelling.enclosed_append {c : Char} {piece raw : RawString} (h : Spelling c piece)
    (hraw : Enclosed raw) : Enclosed (piece ++ raw) := by
  cases h with
  | short h => exact .short h hraw
  | unit h => exact .unit h hraw
  | pair _ _ _ h h' => exact .unit h (.unit h' hraw)
  | plain hmark hslash hc => exact .plain hmark hslash hc hraw

theorem Spells.enclosed {raw : RawString} {cs : List Char} (h : Spells raw cs) : Enclosed raw := by
  induction h with
  | nil => exact .nil
  | cons h _ ih => exact h.enclosed_append ih

theorem shortEscape?_of_mem {e c : Char} (h : (e, c) ∈ shortEscapes) :
    shortEscape? (.char e) = some c ∧ e ≠ 'u' := by
  have hall : ∀ p ∈ shortEscapes, shortEscape? (.char p.1) = some p.2 ∧ p.1 ≠ 'u' := by decide
  exact hall _ h

theorem hexDigit?_digitChar : ∀ d < 16, hexDigit? (.char (Nat.digitChar d)) = some d := by
  decide

/-- A digit in base sixteen may be a capital. -/
theorem hexDigit?_toLower (c : Char) : hexDigit? (.char c.toLower) = hexDigit? (.char c) := by
  have hcapitals : ∀ n < 91, 65 ≤ n →
      hexDigit? (.char (Char.ofNat n).toLower) = hexDigit? (.char (Char.ofNat n)) := by
    decide
  by_cases hupper : c.val ≥ 'A'.val ∧ c.val ≤ 'Z'.val
  · obtain ⟨hlow, hhigh⟩ := hupper
    rw [← Char.ofNat_toNat c]
    exact hcapitals c.toNat (Nat.lt_succ_of_le (UInt32.le_iff_toNat_le.mp hhigh))
      (UInt32.le_iff_toNat_le.mp hlow)
  · have hself : c.toLower = c := dif_neg hupper
    rw [hself]

theorem IsHex.hexUnit? {w x y z : Char} {n : Nat} (h : IsHex w x y z n) :
    hexUnit? (.char w) (.char x) (.char y) (.char z) = some n := by
  have hdigit {c : Char} {d : Nat} (hd : d < 16) (hc : c.toLower = d.digitChar) :
      hexDigit? (.char c) = some d := by
    rw [← hexDigit?_toLower, hc, hexDigit?_digitChar d hd]
  have hlt := h.lt
  have hdigits := h.digits
  simp only [List.map_cons, List.map_nil, List.cons.injEq, and_true] at hdigits
  obtain ⟨hw, hx, hy, hz⟩ := hdigits
  simp only [Json.hexUnit?, hdigit (by omega) hw, hdigit (by omega) hx, hdigit (by omega) hy,
    hdigit (by omega) hz, bind, Option.bind, pure, Option.some.injEq]
  omega

/-- The scan of a string stops at its closing mark. -/
theorem Enclosed.scanString {raw : RawString} (h : Enclosed raw) (rest : List Symbol) :
    scanString (raw ++ .char '"' :: rest) = (raw, .closed rest) := by
  induction h with
  | nil => rfl
  | short h _ ih => simp [Json.scanString, shortEscape?_of_mem h, ih]
  | unit h _ ih => simp [Json.scanString, h.hexUnit?, ih]
  | plain hmark hslash hc _ ih => simp [Json.scanString, hmark, hslash, isControl, hc, ih]

/-- A character of one unit is no half of a character. -/
theorem charsOf?_unit (c : Char) (rest : List Piece) :
    charsOf? (.unit c.toNat :: rest) = (charsOf? rest).map (c :: ·) := by
  have hvalid : c.toNat < 0xD800 ∨ 0xDFFF < c.toNat ∧ c.toNat < 0x110000 := c.valid
  have hlead : isLead c.toNat = false := by simp [isLead]; omega
  have htrail : isTrail c.toNat = false := by simp [isTrail]; omega
  cases rest with
  | nil => simp [charsOf?, hlead, htrail]
  | cons piece rest => cases piece <;> simp [charsOf?, hlead, htrail]

/-- A character of two units is made of these halves. -/
theorem charsOf?_pair {c : Char} {n n' : Nat} (hc : 0x10000 ≤ c.toNat)
    (hn : n = 0xD800 + (c.toNat - 0x10000) / 0x400)
    (hn' : n' = 0xDC00 + (c.toNat - 0x10000) % 0x400) (rest : List Piece) :
    charsOf? (.unit n :: .unit n' :: rest) = (charsOf? rest).map (c :: ·) := by
  have hvalid : c.toNat < 0xD800 ∨ 0xDFFF < c.toNat ∧ c.toNat < 0x110000 := c.valid
  have hlead : isLead n = true := by simp [isLead]; omega
  have htrail : isTrail n' = true := by simp [isTrail]; omega
  have hcode : 0x10000 + (n - 0xD800) * 0x400 + (n' - 0xDC00) = c.toNat := by omega
  rw [charsOf?, if_pos hlead, if_pos htrail, hcode, Char.ofNat_toNat]

theorem Spelling.charsOf? {c : Char} {piece : RawString} (h : Spelling c piece) (raw : RawString) :
    charsOf? (piecesOf (piece ++ raw)) = (charsOf? (piecesOf raw)).map (c :: ·) := by
  cases h with
  | short h => simp [piecesOf, shortEscape?_of_mem h, Json.charsOf?]
  | unit h => simp [piecesOf, h.hexUnit?, charsOf?_unit]
  | pair hc hn hn' h h' => simp [piecesOf, h.hexUnit?, h'.hexUnit?, charsOf?_pair hc hn hn']
  | plain hmark hslash hc => simp [piecesOf, hslash, Json.charsOf?]

theorem Spells.charsOf? {raw : RawString} {cs : List Char} (h : Spells raw cs) :
    charsOf? (piecesOf raw) = some cs := by
  induction h with
  | nil => rfl
  | cons h _ ih => rw [h.charsOf?, ih, Option.map_some]

/-- What spells a text stands for it. -/
theorem Spells.textOf? {raw : RawString} {text : String} (h : Spells raw text.toList) :
    textOf? raw = some text := by
  rw [Json.textOf?, h.charsOf?, Option.map_some, String.ofList_toList]

/-! ### Numbers -/

/-- Whether characters are one digit or more. -/
structure IsDigits (cs : List Char) : Prop where
  ne_nil : cs ≠ []
  isDigit : ∀ c ∈ cs, c.isDigit = true

theorem IsDigits.exists_cons {cs : List Char} (h : IsDigits cs) :
    ∃ c rest, cs = c :: rest ∧ c.isDigit = true := by
  obtain ⟨c, rest, rfl⟩ := List.exists_cons_of_ne_nil h.ne_nil
  exact ⟨c, rest, rfl, h.isDigit c List.mem_cons_self⟩

theorem isDigits_toDigits (n : Nat) : IsDigits (Nat.toDigits 10 n) :=
  ⟨Nat.toDigits_ne_nil, fun _ => Nat.isDigit_of_mem_toDigits (by decide) (by decide)⟩

def digitValues (cs : List Char) : List Nat :=
  cs.map fun c => c.toNat - '0'.toNat

/-- The digits of a number, first digit first. -/
def digitsOf (n : Nat) : List Nat :=
  digitValues (Nat.toDigits 10 n)

theorem ofDigits_digitsOf (n : Nat) : Numeral.ofDigits (digitsOf n) = n := by
  rw [Numeral.ofDigits, digitsOf, digitValues, List.foldl_map, ← Nat.ofDigitChars_eq_foldl,
    Nat.ofDigitChars_ten_toDigits]

/-- A number that is not one digit starts with no zero. -/
theorem eq_nil_of_toDigits {n : Nat} {cs : List Char} (h : Nat.toDigits 10 n = '0' :: cs) :
    cs = [] := by
  induction n using Nat.strongRecOn generalizing cs with
  | ind n ih =>
    by_cases hn : n < 10
    · rw [Nat.toDigits_of_lt_base hn] at h
      exact (List.cons.inj h).2.symm
    · rw [Nat.toDigits_of_base_le (by decide) (Nat.not_lt.mp hn)] at h
      obtain ⟨c, rest, hrest, -⟩ := (isDigits_toDigits (n / 10)).exists_cons
      rw [hrest, List.cons_append] at h
      obtain ⟨rfl, -⟩ := List.cons.inj h
      obtain rfl := ih (n / 10) (by omega) hrest
      have hzero : n / 10 = 0 := by
        have hvalue := ofDigits_digitsOf (n / 10)
        rwa [digitsOf, hrest, eq_comm] at hvalue
      omega

namespace NumberText

/-- The ways in which the digits after the point are written, with the point. -/
inductive WritesFraction : Option (List Nat) → List Char → Prop
  | absent : WritesFraction none []
  | present {cs} (h : IsDigits cs) : WritesFraction (some (digitValues cs)) ('.' :: cs)

/-- The ways in which an exponent is written, with its mark and a sign or none. -/
inductive WritesExponent : Option (Bool × List Nat) → List Char → Prop
  | absent : WritesExponent none []
  | present {mark sign negative cs} (hmark : mark ∈ ['e', 'E'])
      (hsign : (sign, negative) ∈ [([], false), (['+'], false), (['-'], true)]) (h : IsDigits cs) :
      WritesExponent (some (negative, digitValues cs)) (mark :: (sign ++ cs))

/-- The ways in which a number is written. The digits before the point are a zero alone, or start with
no zero. -/
inductive Written : NumberText → List Char → Prop
  | positive {whole fraction exponent cs ds} (h : IsDigits whole)
      (hzero : ∀ rest, whole = '0' :: rest → rest = []) (hfraction : WritesFraction fraction cs)
      (hexponent : WritesExponent exponent ds) :
      Written ⟨false, digitValues whole, fraction, exponent⟩ (whole ++ (cs ++ ds))
  | negative {n cs} (hn : n.negative = false) (h : Written n cs) :
      Written { n with negative := true } ('-' :: cs)

theorem Written.exists_cons {n : NumberText} {cs : List Char} (h : n.Written cs) :
    ∃ c rest, cs = c :: rest ∧ (c = '-' ∨ c.isDigit = true) := by
  cases h with
  | positive h _ _ _ =>
    obtain ⟨c, rest, rfl, hc⟩ := h.exists_cons
    exact ⟨c, _, rfl, .inr hc⟩
  | negative _ _ => exact ⟨'-', _, rfl, .inl rfl⟩

/-- A natural number as it is written. -/
def ofNat (n : Nat) : NumberText := ⟨false, digitsOf n, none, none⟩

theorem written_ofNat (n : Nat) : (ofNat n).Written (Nat.toDigits 10 n) := by
  have h := Written.positive (isDigits_toDigits n) (fun _ => eq_nil_of_toDigits) .absent .absent
  rwa [List.append_nil, List.append_nil] at h

/-- What cannot go on with a number before it. -/
structure Ends (rest : List Symbol) : Prop where
  digits : NumberText.digits rest = ([], rest)
  fraction : scanFraction rest = .ok (none, rest)
  exponent : scanExponent rest = .ok (none, rest)

theorem ends_nil : Ends [] := ⟨rfl, rfl, rfl⟩

theorem ends_cons {c : Char} (hdigit : c.isDigit = false) (hc : c ∉ ['.', 'e', 'E'])
    (rest : List Symbol) : Ends (.char c :: rest) := by
  simp only [List.mem_cons, List.not_mem_nil, or_false, not_or] at hc
  refine ⟨?_, ?_, ?_⟩
  · simp [NumberText.digits, Numeral.digit?, hdigit]
  · simp [scanFraction, hc]
  · simp [scanExponent, hc]

variable {rest : List Symbol}

theorem digits_append {cs : List Char} (hcs : ∀ c ∈ cs, c.isDigit = true)
    (h : digits rest = ([], rest)) : digits (cs.map .char ++ rest) = (digitValues cs, rest) := by
  induction cs with
  | nil => exact h
  | cons c cs ih =>
    have hc : Numeral.digit? c = some (c.toNat - '0'.toNat) := if_pos (hcs c List.mem_cons_self)
    simp only [List.map_cons, List.cons_append, digits, hc,
      ih fun c hc => hcs c (List.mem_cons_of_mem _ hc)]
    rfl

theorem someDigits_append {cs : List Char} (hcs : IsDigits cs) (h : digits rest = ([], rest)) :
    someDigits (cs.map .char ++ rest) = .ok (digitValues cs, rest) := by
  obtain ⟨c, tail, rfl, -⟩ := hcs.exists_cons
  rw [someDigits, digits_append hcs.isDigit h]
  rfl

theorem scanWhole_append {cs : List Char} (hcs : IsDigits cs)
    (hzero : ∀ tail, cs = '0' :: tail → tail = []) (h : digits rest = ([], rest)) :
    scanWhole (cs.map .char ++ rest) = .ok (digitValues cs, rest) := by
  obtain ⟨c, tail, rfl, hdigit⟩ := hcs.exists_cons
  unfold scanWhole
  rw [someDigits_append hcs h]
  by_cases hc : c = '0'
  · obtain rfl := hzero tail (by rw [hc])
    obtain rfl := hc
    rfl
  · have hvalue : c.toNat - '0'.toNat ≠ 0 := by
      have hlow := (Char.isDigit_iff_toNat.mp hdigit).1
      have hne : c.toNat ≠ '0'.toNat := fun heq => hc (Char.toNat_inj.mp heq)
      omega
    obtain ⟨d, hd⟩ := Nat.exists_eq_succ_of_ne_zero hvalue
    simp only [digitValues, List.map_cons, hd]
    rfl

/-- An exponent is read to its end, and what it starts with goes on with no digit and no fraction. -/
theorem WritesExponent.scan {exponent : Option (Bool × List Nat)} {cs : List Char}
    (h : WritesExponent exponent cs) (hrest : Ends rest) :
    digits (cs.map .char ++ rest) = ([], cs.map .char ++ rest) ∧
      scanFraction (cs.map .char ++ rest) = .ok (none, cs.map .char ++ rest) ∧
      scanExponent (cs.map .char ++ rest) = .ok (exponent, rest) := by
  cases h with
  | absent => exact ⟨hrest.digits, hrest.fraction, hrest.exponent⟩
  | @present mark sign negative cs hmark hsign h =>
    have hdigits := someDigits_append h hrest.digits
    obtain ⟨c, tail, rfl, hc⟩ := h.exists_cons
    have hplus : c ≠ '+' := by rintro rfl; simp at hc
    have hminus : c ≠ '-' := by rintro rfl; simp at hc
    simp only [List.mem_cons, List.not_mem_nil, or_false, Prod.mk.injEq] at hmark hsign
    refine ⟨?_, ?_, ?_⟩
    · rcases hmark with rfl | rfl <;> rfl
    · rcases hmark with rfl | rfl <;> rfl
    · rcases hmark with rfl | rfl <;> rcases hsign with ⟨rfl, rfl⟩ | ⟨rfl, rfl⟩ | ⟨rfl, rfl⟩ <;>
        simp_all [scanExponent, bind, Except.bind, pure, Except.pure]

theorem WritesFraction.scan {fraction : Option (List Nat)} {cs : List Char}
    (h : WritesFraction fraction cs) (hdigits : digits rest = ([], rest))
    (hrest : scanFraction rest = .ok (none, rest)) :
    digits (cs.map .char ++ rest) = ([], cs.map .char ++ rest) ∧
      scanFraction (cs.map .char ++ rest) = .ok (fraction, rest) := by
  cases h with
  | absent => exact ⟨hdigits, hrest⟩
  | present h =>
    refine ⟨rfl, ?_⟩
    simp only [List.map_cons, List.cons_append, scanFraction, someDigits_append h hdigits]
    rfl

/-- A number without a sign is read to its end, part by part. -/
theorem Written.parts {n : NumberText} {cs : List Char} (h : n.Written cs)
    (hn : n.negative = false) (hrest : Ends rest) : ∃ input input',
      scanWhole (cs.map .char ++ rest) = .ok (n.whole, input) ∧
      scanFraction input = .ok (n.fraction, input') ∧
      scanExponent input' = .ok (n.exponent, rest) := by
  cases h with
  | positive h hzero hfraction hexponent =>
    obtain ⟨hd, hf, he⟩ := hexponent.scan hrest
    obtain ⟨hd, hf⟩ := hfraction.scan hd hf
    simp only [List.map_append, List.append_assoc]
    exact ⟨_, _, scanWhole_append h hzero hd, hf, he⟩
  | negative _ _ => simp at hn

/-- A number is read to its end. -/
theorem Written.scan {n : NumberText} {cs : List Char} (h : n.Written cs) (hrest : Ends rest) :
    scan (cs.map .char ++ rest) = .ok (n, rest) := by
  cases h with
  | positive h hzero hfraction hexponent =>
    obtain ⟨_, _, hw, hf, he⟩ := (Written.positive h hzero hfraction hexponent).parts rfl hrest
    obtain ⟨c, tail, rfl, hc⟩ := h.exists_cons
    have hminus : c ≠ '-' := by rintro rfl; simp at hc
    rw [List.cons_append, List.map_cons, List.cons_append] at hw ⊢
    generalize (tail ++ _).map Symbol.char ++ rest = input at hw
    simp [NumberText.scan, hminus, hw, hf, he, bind, Except.bind, pure, Except.pure]
  | negative hn h =>
    obtain ⟨_, _, hw, hf, he⟩ := h.parts hn hrest
    simp only [List.map_cons, List.cons_append, NumberText.scan, hw, hf, he, bind, Except.bind]
    rfl

theorem value?_ofNat {n : Nat} (h : n < UInt64.size) : (ofNat n).value? = some (.natural n) := by
  simp [value?, ofNat, isInteger, ofDigits_digitsOf, h]

end NumberText

end NearDup.Json
