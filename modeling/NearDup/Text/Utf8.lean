/-! Texts as bytes and back. Bytes that are no text are read as far as they go: what begins no
character is kept as it is. -/

namespace NearDup

abbrev Bytes := List UInt8

namespace Text

/-- One position of what may not be text: a character, or a byte that begins none. -/
inductive Symbol
  | char (c : Char)
  | stray (byte : UInt8)
deriving DecidableEq, Repr

/-- The six bits of a byte that continues a character. -/
def continuation? (byte : UInt8) : Option Nat :=
  if 0x80 ≤ byte ∧ byte < 0xC0 then some (byte.toNat - 0x80) else none

/-- The character with code point `n`, if there is one and it takes as many bytes as those from
`least` on. -/
def scalar? (least n : Nat) : Option Char :=
  if least ≤ n ∧ n.isValidChar then some (Char.ofNat n) else none

/-- The character that `lead` and the bytes after it begin with, and what follows it. -/
def charAt? (lead : UInt8) (rest : Bytes) : Option (Char × Bytes) :=
  let a := lead.toNat
  if a < 0x80 then some (Char.ofNat a, rest)
  else if 0xC0 ≤ a ∧ a < 0xE0 then
    match rest with
    | b :: rest => do
      let c ← scalar? 0x80 ((a - 0xC0) * 0x40 + (← continuation? b))
      return (c, rest)
    | _ => none
  else if 0xE0 ≤ a ∧ a < 0xF0 then
    match rest with
    | b :: b' :: rest => do
      let n := ((a - 0xE0) * 0x40 + (← continuation? b)) * 0x40 + (← continuation? b')
      let c ← scalar? 0x800 n
      return (c, rest)
    | _ => none
  else if 0xF0 ≤ a ∧ a < 0xF8 then
    match rest with
    | b :: b' :: b'' :: rest => do
      let n := ((a - 0xF0) * 0x40 + (← continuation? b)) * 0x40 + (← continuation? b')
      let c ← scalar? 0x10000 (n * 0x40 + (← continuation? b''))
      return (c, rest)
    | _ => none
  else none

theorem charAt?_length {lead : UInt8} {rest rest' : Bytes} {c : Char}
    (h : charAt? lead rest = some (c, rest')) : rest'.length ≤ rest.length := by
  simp only [charAt?] at h
  split at h
  · simp_all
  · split at h
    · split at h
      · simp only [Option.bind_eq_bind, Option.bind_eq_some_iff, Option.pure_def,
          Option.some.injEq, Prod.mk.injEq] at h
        obtain ⟨_, _, _, _, _, rfl⟩ := h
        simp
      · simp at h
    · split at h
      · split at h
        · simp only [Option.bind_eq_bind, Option.bind_eq_some_iff, Option.pure_def,
            Option.some.injEq, Prod.mk.injEq] at h
          obtain ⟨_, _, _, _, _, _, _, rfl⟩ := h
          simp
          omega
        · simp at h
      · split at h
        · split at h
          · simp only [Option.bind_eq_bind, Option.bind_eq_some_iff, Option.pure_def,
              Option.some.injEq, Prod.mk.injEq] at h
            obtain ⟨_, _, _, _, _, _, _, _, _, rfl⟩ := h
            simp
            omega
          · simp at h
        · simp at h

/-- The characters of a sequence of bytes, and the bytes between them that begin none. -/
def symbols (bytes : Bytes) : List Symbol :=
  match bytes with
  | [] => []
  | lead :: rest =>
    match _h : charAt? lead rest with
    | some (c, rest') => .char c :: symbols rest'
    | none => .stray lead :: symbols rest
termination_by bytes.length
decreasing_by
  · have := charAt?_length ‹_›
    simp
    omega
  · simp

/-- The character at a position. -/
def Symbol.char? : Symbol → Option Char
  | .char c => some c
  | .stray _ => none

/-- The text that the positions spell. -/
def ofSymbols? (symbols : List Symbol) : Option String :=
  (symbols.mapM Symbol.char?).map String.ofList

/-- The positions of a text. -/
def toSymbols (text : String) : List Symbol :=
  text.toList.map .char

def encode (text : String) : Bytes :=
  text.toList.flatMap String.utf8EncodeChar

def decode? (bytes : Bytes) : Option String :=
  ofSymbols? (symbols bytes)

end Text

end NearDup
