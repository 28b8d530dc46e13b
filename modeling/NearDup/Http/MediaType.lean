/-! Media types such as `application/json; charset=utf-8`. -/

namespace NearDup.Http

/-- A media type without its parameters, in small letters. -/
structure MediaType where
  kind : String
  subtype : String
  suffix : Option String
deriving DecidableEq, Repr

namespace MediaType

def isTokenChar (c : Char) : Bool :=
  c.isAlphanum || "!#$%&'*+-.^_`|~".toList.contains c

/-- The characters that may stand in quotation marks. -/
def isQuotedChar (c : Char) : Bool :=
  0x20 ≤ c.toNat && c.toNat != 0x7F

/-- Where a reader of parameters is. -/
inductive Place
  | beforeName
  | inName
  | beforeValue
  | inValue
  | beforeQuoted
  | inQuoted
  | afterQuoted
deriving DecidableEq, Repr

/-- The place after a character. A quotation mark right after another one is part of the value. -/
def Place.next? (place : Place) (c : Char) : Option Place :=
  match place with
  | .beforeName =>
    if c == ' ' then some .beforeName else if isTokenChar c then some .inName else none
  | .inName =>
    if c == '=' then some .beforeValue else if isTokenChar c then some .inName else none
  | .beforeValue =>
    if c == '"' then some .beforeQuoted else if isTokenChar c then some .inValue else none
  | .inValue =>
    if c == ';' then some .beforeName else if isTokenChar c then some .inValue else none
  | .beforeQuoted => if isQuotedChar c then some .inQuoted else none
  | .inQuoted =>
    if c == '"' then some .afterQuoted else if isQuotedChar c then some .inQuoted else none
  | .afterQuoted =>
    if c == ';' then some .beforeName else if c == ' ' then some .afterQuoted else none

def Place.mayEnd : Place → Bool
  | .beforeName | .beforeValue | .inValue | .afterQuoted => true
  | .inName | .beforeQuoted | .inQuoted => false

def areParameters (cs : List Char) : Bool :=
  (cs.foldlM Place.next? .beforeName).any Place.mayEnd

/-- Cuts a subtype at its last plus sign, unless it starts with that. -/
def cutSuffix (subtype : List Char) : List Char × Option (List Char) :=
  let suffix := (subtype.reverse.takeWhile (· != '+')).reverse
  let head := subtype.take (subtype.length - suffix.length - 1)
  if head.isEmpty then (subtype, none) else (head, some suffix)

def smallText (cs : List Char) : String :=
  String.ofList (cs.map Char.toLower)

def ofText? (text : String) : Option MediaType :=
  let kind := text.toList.takeWhile isTokenChar
  match text.toList.drop kind.length with
  | '/' :: rest =>
    let subtype := rest.takeWhile isTokenChar
    let (head, suffix) := cutSuffix subtype
    let type : MediaType := ⟨smallText kind, smallText head, suffix.map smallText⟩
    if kind.isEmpty then none
    else
      match rest.drop subtype.length with
      | [] => some type
      | ';' :: parameters =>
        if !subtype.isEmpty && areParameters parameters then some type else none
      | _ => none
  | _ => none

def isJson (type : MediaType) : Bool :=
  type.kind == "application" && (type.subtype == "json" || type.suffix == some "json")

end MediaType

end NearDup.Http
