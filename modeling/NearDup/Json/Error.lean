import NearDup.Decimal.Layout
import NearDup.Text.Quoted

/-! Why a text is no JSON text of the wanted kind, and the wording for it. -/

namespace NearDup

namespace Json

/-- How a text fails to be JSON. -/
inductive Flaw
  /-- It goes on in a way that JSON does not allow. -/
  | malformed
  /-- It ends too early. -/
  | ended
deriving DecidableEq, Repr

/-- A flaw as it shows to a reader that wants the value it lies in, and to one that skips it: the
latter does not look as closely. -/
structure Fault where
  wanted : Flaw
  skipped : Flaw
deriving DecidableEq, Repr

/-- A text that goes on wrongly. -/
def Fault.malformed : Fault := ⟨.malformed, .malformed⟩

def Fault.ended : Fault := ⟨.ended, .ended⟩

/-- What stands where something else is expected. -/
inductive Found
  | null
  | boolean (b : Bool)
  | natural (n : Nat)
  /-- The number `-n`. -/
  | negative (n : Nat)
  | float (x : Float)
  | string (text : String)
  | array
  | object

def Found.message : Found → String
  | .null => "null"
  | .boolean b => "boolean `" ++ toString b ++ "`"
  | .natural n => "integer `" ++ toString n ++ "`"
  | .negative n => "integer `-" ++ toString n ++ "`"
  | .float x => "floating point `" ++ Decimal.Layout.data.writeFloat x ++ "`"
  | .string text => "string " ++ Text.quoted text
  | .array => "sequence"
  | .object => "map"

/-- How a JSON value fails to be of the wanted kind. -/
inductive Misfit
  | wrongType (found : Found) (expected : String)
  | wrongValue (found : Found) (expected : String)
  | wrongLength (length : Nat) (expected : String)
  | missingField (name : String)
  | duplicateField (name : String)
  | unknownVariant (name : String) (expected : String)

def Misfit.message : Misfit → String
  | .wrongType found expected => "invalid type: " ++ found.message ++ ", expected " ++ expected
  | .wrongValue found expected => "invalid value: " ++ found.message ++ ", expected " ++ expected
  | .wrongLength n expected => "invalid length " ++ toString n ++ ", expected " ++ expected
  | .missingField name => "missing field `" ++ name ++ "`"
  | .duplicateField name => "duplicate field `" ++ name ++ "`"
  | .unknownVariant name expected => "unknown variant `" ++ name ++ "`, expected " ++ expected

inductive Step
  | member (name : String)
  | item (index : Nat)
deriving DecidableEq, Repr

/-- The first error of a text: a flaw, or a misfit with the steps that lead to where it lies. -/
inductive Error
  | flaw (flaw : Flaw)
  | misfit (way : List Step) (misfit : Misfit)

/-- The error as seen from one step further out. -/
def Error.inside (step : Step) : Error → Error
  | .flaw f => .flaw f
  | .misfit way m => .misfit (step :: way) m

def Error.message : Error → String
  | .flaw .malformed => "malformed JSON"
  | .flaw .ended => "unexpected end of JSON"
  | .misfit _ m => m.message

/-- A way into a value, as text. -/
def Step.wayText : List Step → String
  | [] => ""
  | .member name :: way => name ++ wayTail way
  | .item index :: way => "[" ++ toString index ++ "]" ++ wayTail way
where
  wayTail : List Step → String
    | [] => ""
    | .member name :: way => "." ++ name ++ wayTail way
    | .item index :: way => "[" ++ toString index ++ "]" ++ wayTail way

/-- The wording of an error after the way to where it lies. -/
def Error.placedMessage : Error → String
  | .misfit (step :: way) m => Step.wayText (step :: way) ++ ": " ++ m.message
  | e => e.message

end Json

end NearDup
