import NearDup.Json.Document

/-! Values read from JSON trees. A reader takes a tree in the order of its text and ends with the
first flaw or misfit that it meets. -/

namespace NearDup.Json

/-- A reader of one kind of value. -/
abbrev Decoder (α : Type) := Node → Except Error α

/-- A flaw in what is wanted. -/
def Fault.error (fault : Fault) : Error := .flaw fault.wanted

def Error.malformed : Error := .flaw .malformed

def wantText (raw : RawString) : Except Error String :=
  match textOf? raw with
  | some text => .ok text
  | none => .error .malformed

def wantNumber (n : NumberText) : Except Error Number :=
  match n.value? with
  | some value => .ok value
  | none => .error .malformed

def Number.found : Number → Found
  | .natural n => .natural n
  | .negative n => .negative n
  | .float x => .float x

/-- The way in which an array or an object ends, for a reader that wants it. -/
def Close.want : Close → Except Error Unit
  | .proper => .ok ()
  | .cut fault => .error fault.error
  | .nameless token => .error token.nameFault.error

mutual

/-- The flaw in a value. -/
def Node.fault? : Node → Option Fault
  | .array items close => (faultOfItems? items).or (faultOfClose? close)
  | .object members close => (faultOfMembers? members).or (faultOfClose? close)
  | .broken _ fault => some fault
  | _ => none

def faultOfItems? : List Node → Option Fault
  | [] => none
  | item :: items => item.fault?.or (faultOfItems? items)

def faultOfMembers? : List (RawString × Node) → Option Fault
  | [] => none
  | (_, value) :: members => value.fault?.or (faultOfMembers? members)

def faultOfClose? : Close → Option Fault
  | .proper => none
  | .cut fault => some fault
  | .nameless token => some token.nameFault

end

/-- Goes past a value, whatever it is. -/
def Node.skip (node : Node) : Except Error Unit :=
  match node.fault? with
  | some fault => .error (.flaw fault.skipped)
  | none => .ok ()

/-- The error of a value that is not of the expected kind. An array or an object is not read for
it. -/
def Node.mismatch (expected : String) (node : Node) : Error :=
  let wrong (found : Found) : Error := .misfit [] (.wrongType found expected)
  match node with
  | .null => wrong .null
  | .boolean b => wrong (.boolean b)
  | .number n =>
    match n.value? with
    | some value => wrong value.found
    | none => .malformed
  | .string raw =>
    match textOf? raw with
    | some text => wrong (.string text)
    | none => .malformed
  | .array _ _ => wrong .array
  | .object _ _ => wrong .object
  | .broken _ fault => fault.error

def Number.asNatural (bound : Nat) (expected : String) : Number → Except Error Nat
  | .natural n =>
    if n < bound then .ok n else .error (.misfit [] (.wrongValue (.natural n) expected))
  | .negative n => .error (.misfit [] (.wrongValue (.negative n) expected))
  | .float x => .error (.misfit [] (.wrongType (.float x) expected))

def Decoder.natural (bound : Nat) (expected : String) : Decoder Nat
  | .number n => do (← wantNumber n).asNatural bound expected
  | node => .error (node.mismatch expected)

def Decoder.float : Decoder Float
  | .number n => do
    match ← wantNumber n with
    | .natural n => return Float.ofNat n
    | .negative n => return -Float.ofNat n
    | .float x => return x
  | node => .error (node.mismatch "f64")

def Decoder.boolean : Decoder Bool
  | .boolean b => .ok b
  | node => .error (node.mismatch "a boolean")

/-- A string, called `expected` where it is missed. -/
def Decoder.stringAs (expected : String) : Decoder String
  | .string raw => wantText raw
  | node => .error (node.mismatch expected)

def Decoder.string : Decoder String := Decoder.stringAs "a string"

/-- A value, or null in its place. -/
def Decoder.nullable {α : Type} (decode : Decoder α) : Decoder (Option α)
  | .null => .ok none
  | node => some <$> decode node

/-- Reads items in order. -/
def decodeItems {α : Type} (decode : Decoder α) (index : Nat) : List Node → Except Error (List α)
  | [] => .ok []
  | item :: items => do
    let first ← (decode item).mapError (Error.inside (.item index))
    let rest ← decodeItems decode (index + 1) items
    return first :: rest

def Decoder.list {α : Type} (decode : Decoder α) : Decoder (List α)
  | .array items close => do
    let values ← decodeItems decode 0 items
    close.want
    return values
  | node => .error (node.mismatch "a sequence")

/-! ### Objects with numbers for names -/

/-- Whether symbols start as a number does. -/
def startsNumber : List Text.Symbol → Bool
  | .char c :: _ => c = '-' || c.isDigit
  | _ => false

/-- A number in quotation marks, from what follows the first of them. -/
def quotedNatural (bound : Nat) (expected : String) (input : List Text.Symbol) :
    Except Error Nat := do
  if !startsNumber input then throw .malformed
  match NumberText.scan input with
  | .error fault => throw fault.error
  | .ok (n, rest) =>
    let value ← (← wantNumber n).asNatural bound expected
    match rest with
    | .char '"' :: _ => return value
    | _ => throw .malformed

/-- Reads members in order, whose names are numbers. -/
def decodeNumbered {α : Type} (bound : Nat) (expected : String) (decode : Decoder α) :
    List (RawString × Node) → Except Error (List (Nat × α))
  | [] => .ok []
  | (name, value) :: members => do
    let key ← quotedNatural bound expected (name ++ [.char '"'])
    let first ← (decode value).mapError (Error.inside (.member (toString key)))
    let rest ← decodeNumbered bound expected decode members
    return (key, first) :: rest

def Decoder.numbered {α : Type} (bound : Nat) (expected : String) (decode : Decoder α) :
    Decoder (List (Nat × α))
  | .object members close => do
    let values ← decodeNumbered bound expected decode members
    match close with
    | .nameless (.broken (.char '"' :: input) _) =>
      let _ ← quotedNatural bound expected input
      throw .malformed
    | close => close.want
    return values
  | node => .error (node.mismatch "a map")

/-! ### Records -/

/-- Where a field may be left out. -/
inductive Omission
  | never
  /-- In an object. -/
  | named
  /-- In an object, and at the end of an array. -/
  | anywhere
deriving DecidableEq, Repr

/-- A field of a record: its name, and how its value is read into the record. -/
structure Field (α : Type) where
  name : String
  omission : Omission
  read : Node → α → Except Error α

/-- A record: an object with members of given names, or an array of their values. Fields that are
left out are as in `blank`. -/
structure Shape (α : Type) where
  name : String
  blank : α
  fields : List (Field α)

namespace Shape

variable {α : Type}

/-- What a record is called where it is missed. -/
def expected (shape : Shape α) : String := "struct " ++ shape.name

/-- Reads members in order, after those with the names `seen`; unknown ones are skipped. -/
def readMembers (shape : Shape α) :
    List (RawString × Node) → (seen : List String) → α → Except Error (List String × α)
  | [], seen, a => .ok (seen, a)
  | (raw, value) :: members, seen, a => do
    let name ← wantText raw
    match shape.fields.find? (·.name == name) with
    | none =>
      value.skip
      shape.readMembers members seen a
    | some field =>
      if seen.contains name then throw (.misfit [] (.duplicateField name))
      let a ← (field.read value a).mapError (Error.inside (.member name))
      shape.readMembers members (name :: seen) a

/-- Reads the items of an array into the fields from number `index` on. -/
def readItems (shape : Shape α) (close : Close) :
    List (Field α) → (index : Nat) → List Node → α → Except Error α
  | [], _, [], a => do
    close.want
    return a
  | [], _, _ :: _, _ => .error .malformed
  | field :: fields, index, item :: items, a => do
    let a ← (field.read item a).mapError (Error.inside (.item index))
    shape.readItems close fields (index + 1) items a
  | field :: fields, index, [], a => do
    close.want
    if field.omission = .anywhere then shape.readItems close fields (index + 1) [] a
    else
      let count := shape.fields.length
      let elements := if count = 1 then " with 1 element" else " with " ++ toString count ++ " elements"
      throw (.misfit [] (.wrongLength index (shape.expected ++ elements)))

def decode (shape : Shape α) : Decoder α
  | .object members close => do
    let (seen, a) ← shape.readMembers members [] shape.blank
    close.want
    match shape.fields.find? fun field => field.omission = .never && !seen.contains field.name with
    | some field => throw (.misfit [] (.missingField field.name))
    | none => return a
  | .array items close => shape.readItems close shape.fields 0 items shape.blank
  | node => .error (node.mismatch shape.expected)

end Shape

/-! ### Choices -/

/-- The choice that a name stands for. -/
def choose {α : Type} (choices : List (String × α)) (name : String) : Except Error α :=
  match choices.lookup name with
  | some a => .ok a
  | none =>
    let names := choices.map fun choice => "`" ++ choice.1 ++ "`"
    .error (.misfit [] (.unknownVariant name (" or ".intercalate names)))

/-- What stands for the name of a choice in an object. -/
def namelessChoice (token : Token) : Error :=
  match token with
  | .closeArray | .closeObject | .comma | .colon | .broken .. => (parseValue 1 [token]).1.mismatch ""
  | token => (parseValue 1 [token]).1.mismatch "variant identifier"

/-- One of several named values: its name, or an object with that name and null. -/
def Decoder.choice {α : Type} (choices : List (String × α)) : Decoder α
  | .string raw => do choose choices (← wantText raw)
  | .object ((raw, value) :: members) close => do
    let a ← choose choices (← wantText raw)
    match value with
    | .null =>
      match members, close with
      | [], .proper => return a
      | [], .cut fault => throw fault.error
      | _, _ => throw .malformed
    | value => throw (value.mismatch "unit")
  | .object [] (.nameless token) => .error (namelessChoice token)
  | .object [] (.cut fault) => .error fault.error
  | .broken [] fault | .broken (.char '"' :: _) fault => .error fault.error
  | _ => .error .malformed

/-! ### Texts -/

/-- The value of a text, which nothing follows. -/
def Document.decode {α : Type} (decode : Decoder α) (document : Document) : Except Error α := do
  let value ← decode document.root
  if document.ends then return value else throw .malformed

end NearDup.Json
