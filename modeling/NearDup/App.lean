import NearDup.Config.Variables
import NearDup.Http.Action
import NearDup.Http.View
import NearDup.Service
import NearDup.Storage.Timeline

/-! The application behind the requests: opened as it is configured, then one action after another. A
creation that misses its deadline stays in the queue and is finished later. -/

namespace NearDup

/-- What actions depend on beside what is stored: the judgement of duplicates, and after how many
milliseconds an action is given up. -/
structure App where
  matcher : Matcher
  timeout : Nat

abbrev Session := Timeline (Except Error Article)

namespace Session

/-- Creates articles, each after those before it: what came of each. -/
def create (s : Session) (matcher : Matcher) (contents : List String) :
    List (Except Error Article) × Session :=
  let (results, s') := (contents.foldl (fun s content =>
    s.submit (Service.create matcher content)) s).finish
  (results.drop s.queue.length, s')

def groups (s : Session) : Except Error (IdMap (List ArticleId)) × Session :=
  let (reply, s) := s.ask .allMemberships
  (reply.map Service.groupMembers, s)

end Session

namespace App

open Http

/-- The application of a configuration, and its storage. -/
def ofConfig? (files : Tree) (c : Config) : Except Error (App × Storage) := do
  c.validate.mapError .config
  let detector ← (c.similarity.detector? files).mapError .config
  let storage ← Storage.open? files c.storage
  return (⟨(Similarity.ofDetector detector).matcher, c.server.requestTimeout⟩, storage)

/-- The response to a call, if that was answered in time. -/
def respond {α : Type} (status : Nat) (body : α → Json) : Option (Except Error α) → Response
  | none => Problem.tooLate.response
  | some (.error e) => (Problem.ofError e).response
  | some (.ok a) => ⟨status, some (body a)⟩

def listingOf (articles : List Article) : Json :=
  (ArticleListing.mk (articles.map ArticleView.ofArticle)).toJson

/-- The body for a list of memberships: groups with one member are not shown. -/
def groupingOf (memberships : List Membership) : Json :=
  (GroupListing.mk
    ((Service.groupMembers memberships).values.filter fun members => 2 ≤ members.length)).toJson

def version : String := "0.1.0"

/-- The body that tells how long the application has been up, in whole seconds. -/
def healthOf (uptime : Nat) : Json := .object [
  ("status", .string "ok"),
  ("version", .string version),
  ("uptime_secs", .number uptime)]

/-- Does what is asked for. -/
def perform (app : App) (s : Session) : Action → Response × Session
  | .health => (⟨200, some (healthOf (s.clock / 1000))⟩, s)
  | .listArticles =>
    let (reply, s) := s.askWithin app.timeout .uniqueArticles
    (respond 200 listingOf reply, s)
  | .getArticle id =>
    let (reply, s) := s.askWithin app.timeout (.articleById id)
    (respond 200 (fun a : Article => (ArticleView.ofArticle a).toJson) reply, s)
  | .listGroups =>
    let (reply, s) := s.askWithin app.timeout .allMemberships
    (respond 200 groupingOf reply, s)
  | .createArticle content =>
    let (result, s) := (s.submit (Service.create app.matcher content)).await app.timeout
    (respond 201 (fun a : Article => (ArticleView.ofArticle a).toJson) result, s)

/-- Answers a request. Only a creation changes what is stored. -/
def answer (app : App) (s : Session) (r : Request) : Response × Session :=
  let (response, s) :=
    match r.action with
    | .error refusal => (refusal.response, s)
    | .ok action => app.perform s action
  (if r.method == "HEAD" then { response with body := none } else response, s)

end App

end NearDup
