import NearDup.Error
import NearDup.Json.Value
import NearDup.Text.Utf8

/-! Requests, responses, and the problems that responses tell of. -/

namespace NearDup.Http

structure Request where
  method : String
  target : String
  headers : List (String × String)
  body : Bytes

structure Response where
  status : Nat
  body : Option Json

/-- The value of the first header with a name, in any case. -/
def Request.header? (r : Request) (name : String) : Option String :=
  (r.headers.find? fun header => header.1.toLower == name.toLower).map (·.2)

/-- The path that is asked for, without a query or a fragment. -/
def Request.path (r : Request) : List Char :=
  r.target.toList.takeWhile fun c => c != '?' && c != '#'

/-- What went wrong with a request, for its sender. -/
inductive Problem
  | notFound (message : String)
  | badRequest (message : String)
  | failed (message : String)
  | tooLate
deriving DecidableEq, Repr

namespace Problem

def ofError (e : Error) : Problem :=
  match e with
  | .notFound _ => .notFound e.message
  | _ => .failed e.message

def code : Problem → String
  | .notFound _ => "not_found"
  | .badRequest _ => "bad_request"
  | .failed _ => "internal_error"
  | .tooLate => "timeout"

def message : Problem → String
  | .notFound message | .badRequest message | .failed message => message
  | .tooLate => "request deadline exceeded"

def status : Problem → Nat
  | .notFound _ => 404
  | .badRequest _ => 400
  | .failed _ | .tooLate => 500

def response (p : Problem) : Response where
  status := p.status
  body := some (.object [("error",
    .object [("code", .string p.code), ("message", .string p.message)])])

end Problem

end NearDup.Http
