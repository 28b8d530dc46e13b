import NearDup.Json.Number

/-! JSON texts as tokens. A flaw ends the tokens: the last of them then holds the rest of the text. -/

namespace NearDup.Json

open Text (Symbol)

/-- A string between its quotation marks, with its escapes as they are written. -/
abbrev RawString := List Symbol

inductive Token
  | openArray
  | closeArray
  | openObject
  | closeObject
  | comma
  | colon
  | null
  | boolean (b : Bool)
  | number (n : NumberText)
  | string (raw : RawString)
  /-- The rest of a text from a token on that has a fault. -/
  | broken (rest : List Symbol) (fault : Fault)
deriving DecidableEq, Repr

/-! ### Strings -/

/-- How the scan of a string ends. -/
inductive StringEnd
  | closed (rest : List Symbol)
  | failed (flaw : Flaw)
deriving DecidableEq, Repr

def hexDigit? : Symbol → Option Nat
  | .char c =>
    let n := c.toNat
    if '0'.toNat ≤ n ∧ n ≤ '9'.toNat then some (n - '0'.toNat)
    else if 'a'.toNat ≤ n ∧ n ≤ 'f'.toNat then some (n - 'a'.toNat + 10)
    else if 'A'.toNat ≤ n ∧ n ≤ 'F'.toNat then some (n - 'A'.toNat + 10)
    else none
  | .stray _ => none

/-- The value of four digits in base sixteen. -/
def hexUnit? (a b c d : Symbol) : Option Nat := do
  return (((← hexDigit? a) * 16 + (← hexDigit? b)) * 16 + (← hexDigit? c)) * 16 + (← hexDigit? d)

def byteCount (symbols : List Symbol) : Nat :=
  symbols.foldl (fun n symbol =>
    match symbol with
    | .char c => n + c.utf8Size
    | .stray _ => n + 1) 0

/-- The character that a letter after a backslash stands for. -/
def shortEscape? : Symbol → Option Char
  | .char '"' => some '"'
  | .char '\\' => some '\\'
  | .char '/' => some '/'
  | .char 'b' => some '\x08'
  | .char 'f' => some '\x0c'
  | .char 'n' => some '\n'
  | .char 'r' => some '\r'
  | .char 't' => some '\t'
  | _ => none

/-- Whether a symbol may not stand in a string as it is. -/
def isControl : Symbol → Bool
  | .char c => c.toNat < 0x20
  | .stray _ => false

/-- An escape by four digits that are not all there. -/
def unitFlaw (rest : List Symbol) : Flaw :=
  if byteCount rest < 4 then .ended else .malformed

/-- The string up to its closing mark. -/
def scanString : List Symbol → RawString × StringEnd
  | [] => ([], .failed .ended)
  | .char '"' :: rest => ([], .closed rest)
  | .char '\\' :: .char 'u' :: a :: b :: c :: d :: rest =>
    match hexUnit? a b c d with
    | some _ =>
      let (raw, ending) := scanString rest
      (.char '\\' :: .char 'u' :: a :: b :: c :: d :: raw, ending)
    | none => ([], .failed (unitFlaw (a :: b :: c :: d :: rest)))
  | .char '\\' :: .char 'u' :: rest => ([], .failed (unitFlaw rest))
  | [.char '\\'] => ([], .failed .ended)
  | .char '\\' :: escape :: rest =>
    match shortEscape? escape with
    | some _ =>
      let (raw, ending) := scanString rest
      (.char '\\' :: escape :: raw, ending)
    | none => ([], .failed .malformed)
  | symbol :: rest =>
    if isControl symbol then ([], .failed .malformed)
    else
      let (raw, ending) := scanString rest
      (symbol :: raw, ending)

/-- What one piece of a string stands for: a character, a unit of sixteen bits, or nothing. -/
inductive Piece
  | char (c : Char)
  | unit (n : Nat)
  | stray
deriving DecidableEq, Repr

def piecesOf : RawString → List Piece
  | .char '\\' :: .char 'u' :: a :: b :: c :: d :: raw =>
    .unit ((hexUnit? a b c d).getD 0) :: piecesOf raw
  | .char '\\' :: escape :: raw =>
    (match shortEscape? escape with
      | some c => .char c
      | none => .stray) :: piecesOf raw
  | .char c :: raw => .char c :: piecesOf raw
  | .stray _ :: raw => .stray :: piecesOf raw
  | [] => []

/-- Whether a unit is the first half of a character. -/
def isLead (n : Nat) : Bool := 0xD800 ≤ n && n < 0xDC00

/-- Whether a unit is the second half of a character. -/
def isTrail (n : Nat) : Bool := 0xDC00 ≤ n && n < 0xE000

/-- The characters of a string, if every half of one has its other half. -/
def charsOf? : List Piece → Option (List Char)
  | [] => some []
  | .char c :: rest => (charsOf? rest).map (c :: ·)
  | .unit n :: .unit n' :: rest =>
    if isLead n then
      if isTrail n' then
        (charsOf? rest).map (Char.ofNat (0x10000 + (n - 0xD800) * 0x400 + (n' - 0xDC00)) :: ·)
      else none
    else if isTrail n then none
    else (charsOf? (.unit n' :: rest)).map (Char.ofNat n :: ·)
  | .unit n :: rest =>
    if isLead n || isTrail n then none else (charsOf? rest).map (Char.ofNat n :: ·)
  | .stray :: _ => none

/-- Whether some half of a character can have no other half, whatever pieces may still follow. -/
def hasLoneHalf : List Piece → Bool
  | [] => false
  | .unit n :: .unit n' :: rest =>
    if isLead n then !isTrail n' || hasLoneHalf rest
    else isTrail n || hasLoneHalf (.unit n' :: rest)
  | .unit n :: rest => isTrail n || (isLead n && !rest.isEmpty) || hasLoneHalf rest
  | _ :: rest => hasLoneHalf rest

def textOf? (raw : RawString) : Option String :=
  (charsOf? (piecesOf raw)).map String.ofList

/-- The fault of a string that is not closed. A reader that wants its text meets a lone half of a
character first. -/
def stringFault (raw : RawString) (flaw : Flaw) : Fault :=
  ⟨if hasLoneHalf (piecesOf raw) then .malformed else flaw, flaw⟩

/-! ### Tokens -/

/-- Goes past the characters of a word. -/
def scanWord : List Char → List Symbol → Except Fault (List Symbol)
  | [], rest => .ok rest
  | _ :: _, [] => .error .ended
  | c :: cs, symbol :: rest => if symbol = .char c then scanWord cs rest else .error .malformed

def isSpace (c : Char) : Bool :=
  c = ' ' || c = '\n' || c = '\t' || c = '\r'

/-- The token that starts with the character `c`, and what follows it. -/
def tokenAt (c : Char) (rest : List Symbol) : Token × List Symbol :=
  let all : List Symbol := .char c :: rest
  let word (token : Token) (letters : String) : Token × List Symbol :=
    match scanWord letters.toList rest with
    | .ok rest => (token, rest)
    | .error fault => (.broken all fault, [])
  match c with
  | '[' => (.openArray, rest)
  | ']' => (.closeArray, rest)
  | '{' => (.openObject, rest)
  | '}' => (.closeObject, rest)
  | ',' => (.comma, rest)
  | ':' => (.colon, rest)
  | 'n' => word .null "ull"
  | 't' => word (.boolean true) "rue"
  | 'f' => word (.boolean false) "alse"
  | '"' =>
    match scanString rest with
    | (raw, .closed rest) => (.string raw, rest)
    | (raw, .failed flaw) => (.broken all (stringFault raw flaw), [])
  | c =>
    if c = '-' || c.isDigit then
      match NumberText.scan all with
      | .ok (n, rest) => (.number n, rest)
      | .error fault => (.broken all fault, [])
    else (.broken all .malformed, [])

/-- At most `limit` tokens of a text. -/
def tokensUpTo : (limit : Nat) → List Symbol → List Token
  | 0, _ => []
  | _, [] => []
  | _ + 1, .stray byte :: rest => [.broken (.stray byte :: rest) .malformed]
  | limit + 1, .char c :: rest =>
    if isSpace c then tokensUpTo limit rest
    else
      let (token, rest) := tokenAt c rest
      token :: tokensUpTo limit rest

def tokens (input : List Symbol) : List Token :=
  tokensUpTo input.length input

end NearDup.Json
