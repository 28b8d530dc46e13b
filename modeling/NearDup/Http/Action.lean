import NearDup.Decimal.Numeral
import NearDup.Http.MediaType
import NearDup.Http.Message
import NearDup.Http.Percent
import NearDup.Store.Json
import NearDup.Text.Blank

/-! What requests ask for. Whether a request can be understood does not depend on what is stored. -/

namespace NearDup.Http

open Json (Decoder Shape)

inductive Action
  | health
  | listArticles
  | getArticle (id : ArticleId)
  | listGroups
  | createArticle (content : String)
deriving DecidableEq, Repr

/-- Why a request is not understood. -/
inductive Refusal
  | noSuchPath
  | wrongMethod
  | bad (message : String)
deriving DecidableEq, Repr

def Refusal.response : Refusal → Response
  | .noSuchPath => ⟨404, none⟩
  | .wrongMethod => ⟨405, none⟩
  | .bad message => (Problem.badRequest message).response

def articleIdOf (segment : List Char) : Except Refusal ArticleId :=
  match Text.decode? (Percent.decode (Text.encode (String.ofList segment))) with
  | none => .error (.bad "Invalid URL: Invalid UTF-8 in `id`")
  | some text =>
    (Numeral.natural idBound text).mapError fun _ =>
      .bad ("Invalid URL: Cannot parse `" ++ text ++ "` to a `u64`")

/-- Whether a text holds only what a header may hold as text: ASCII without controls, and tabs. -/
def isHeaderText (text : String) : Bool :=
  text.toList.all fun c => (0x20 ≤ c.toNat && c.toNat < 0x7F) || c == '\t'

def Request.declaresJson (r : Request) : Bool :=
  match r.header? "content-type" with
  | some type => isHeaderText type && (MediaType.ofText? type).any MediaType.isJson
  | none => false

/-- What a body says about the article to create: its content, empty if it is left out. -/
def contentShape : Shape String where
  name := "CreateArticleRequest"
  blank := ""
  fields := [⟨"content", .anywhere, fun node _ => Decoder.string node⟩]

/-- The wording for a body that does not say what to create. -/
def bodyMessage (e : Json.Error) : String :=
  match e with
  | .flaw _ => "Failed to parse the request body as JSON: " ++ e.placedMessage
  | .misfit .. => "Failed to deserialize the JSON body into the target type: " ++ e.placedMessage

/-- How many bytes a body that is to be read may have. -/
def bodyLimit : Nat := 2097152

/-- The content of the article that a request wants to be created. -/
def Request.newContent (r : Request) : Except Refusal String := do
  if !r.declaresJson then throw (.bad "Expected request with `Content-Type: application/json`")
  if bodyLimit < r.body.length then
    throw (.bad "Failed to buffer the request body: length limit exceeded")
  let content ← ((Json.Document.ofBytes r.body).decode contentShape.decode).mapError fun e =>
    .bad (bodyMessage e)
  if content.isEmpty then throw (.bad "content must not be empty")
  return content

def Request.reads (r : Request) : Bool :=
  r.method == "GET" || r.method == "HEAD"

def Request.action (r : Request) : Except Refusal Action :=
  let reading (action : Except Refusal Action) := if r.reads then action else .error .wrongMethod
  match Text.splitAt '/' (String.ofList r.path) with
  | ["", "health"] => reading (.ok .health)
  | ["", "duplicate_groups"] => reading (.ok .listGroups)
  | ["", "articles"] =>
    if r.method == "POST" then return .createArticle (← r.newContent) else reading (.ok .listArticles)
  | ["", "articles", segment] =>
    if segment.isEmpty then .error .noSuchPath
    else reading do return .getArticle (← articleIdOf segment.toList)
  | _ => .error .noSuchPath

end NearDup.Http
