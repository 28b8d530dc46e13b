import NearDup.Json.Token

/-! JSON texts as trees. A text with a flaw is a tree up to that flaw, so that a reader that goes
through the tree meets what is wrong in the order of the text. -/

namespace NearDup.Json

inductive Close
  /-- With its bracket. -/
  | proper
  /-- With a flaw after what it holds. -/
  | cut (fault : Fault)
  /-- With a token that stands for the name of a member and is no string. -/
  | nameless (token : Token)
deriving DecidableEq, Repr

/-- A value of a text. -/
inductive Node
  | null
  | boolean (b : Bool)
  | number (n : NumberText)
  | string (raw : RawString)
  | array (items : List Node) (close : Close)
  | object (members : List (RawString × Node)) (close : Close)
  /-- A flaw where a value is due, or in it; `rest` is the text from there on, if no token of
  another kind stands there. -/
  | broken (rest : List Text.Symbol) (fault : Fault)

structure Document where
  root : Node
  ends : Bool

/-- The token that stands where the name of a member is due, read as a flaw. -/
def Token.nameFault : Token → Fault
  | .broken (.char '"' :: _) fault => fault
  | _ => .malformed

/-- The flaw of a text that has no further token, or a wrong one, after an item or a member. -/
def afterItem : List Token → Close
  | [] => .cut .ended
  | _ :: _ => .cut .malformed

mutual

/-- The value that tokens start with, and what follows it; `fuel` bounds the depth of the calls. -/
def parseValue : (fuel : Nat) → List Token → Node × List Token
  | 0, _ => (.broken [] .ended, [])
  | _ + 1, [] => (.broken [] .ended, [])
  | fuel + 1, token :: rest =>
    match token with
    | .null => (.null, rest)
    | .boolean b => (.boolean b, rest)
    | .number n => (.number n, rest)
    | .string raw => (.string raw, rest)
    | .broken text fault => (.broken text fault, [])
    | .openArray =>
      match rest with
      | .closeArray :: rest => (.array [] .proper, rest)
      | [] => (.array [] (.cut .ended), [])
      | rest =>
        let (items, close, rest) := parseItems fuel rest
        (.array items close, rest)
    | .openObject =>
      match rest with
      | .closeObject :: rest => (.object [] .proper, rest)
      | [] => (.object [] (.cut .ended), [])
      | rest =>
        let (members, close, rest) := parseMembers fuel rest
        (.object members close, rest)
    | .closeArray | .closeObject | .comma | .colon => (.broken [] .malformed, [])

/-- The items of an array from the first one on. -/
def parseItems : (fuel : Nat) → List Token → List Node × Close × List Token
  | 0, _ => ([], .cut .ended, [])
  | fuel + 1, tokens =>
    match parseValue fuel tokens with
    | (item, .closeArray :: rest) => ([item], .proper, rest)
    | (item, .comma :: rest) =>
      let (items, close, rest) := parseItems fuel rest
      (item :: items, close, rest)
    | (item, rest) => ([item], afterItem rest, [])

/-- The members of an object from the first one on. -/
def parseMembers : (fuel : Nat) → List Token → List (RawString × Node) × Close × List Token
  | 0, _ => ([], .cut .ended, [])
  | _ + 1, [] => ([], .cut .ended, [])
  | fuel + 1, .string name :: .colon :: rest =>
    match parseValue fuel rest with
    | (value, .closeObject :: rest) => ([(name, value)], .proper, rest)
    | (value, .comma :: rest) =>
      let (members, close, rest) := parseMembers fuel rest
      ((name, value) :: members, close, rest)
    | (value, rest) => ([(name, value)], afterItem rest, [])
  | _ + 1, [.string name] => ([(name, .broken [] .ended)], .cut .ended, [])
  | _ + 1, .string name :: _ :: _ => ([(name, .broken [] .malformed)], .cut .malformed, [])
  | _ + 1, token :: _ => ([], .nameless token, [])

end

/-- The tree of a text. Every call takes a token or comes right before one that does. -/
def Document.ofTokens (tokens : List Token) : Document :=
  let (root, rest) := parseValue (2 * tokens.length + 2) tokens
  ⟨root, rest.isEmpty⟩

def Document.ofSymbols (symbols : List Text.Symbol) : Document :=
  ofTokens (tokens symbols)

def Document.ofText (text : String) : Document :=
  ofSymbols (Text.toSymbols text)

def Document.ofBytes (bytes : Bytes) : Document :=
  ofSymbols (Text.symbols bytes)

end NearDup.Json
