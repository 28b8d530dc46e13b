import NearDup.App
import NearDup.Proofs.Creation.Memberships
import NearDup.Proofs.Storage.Timeline

/-! Requests of which some miss their deadlines. Main statement: whatever the timeout, what is
stored in the end is what complete creations leave, one for each accepted request in order of
arrival. -/

namespace NearDup

open Http (Request Response Problem)

/-! ### Creations over a connection -/

namespace Service

/-- Creates an article over a connection, without regard to time. -/
def createOver (matcher : Matcher) (content : String) (c : Connection) : Record × Connection :=
  let ((result, calls), c) := (create matcher content).logOver c
  (⟨result, calls⟩, c)

/-- Creates articles over a connection one after another, without regard to time. -/
def createAll (matcher : Matcher) : List String → Connection → List Record × Connection
  | [], c => ([], c)
  | content :: contents, c =>
    let (record, c) := createOver matcher content c
    let (records, c) := createAll matcher contents c
    (record :: records, c)

theorem createAll_append (matcher : Matcher) (contents contents' : List String) (c : Connection) :
    createAll matcher (contents ++ contents') c =
      ((createAll matcher contents c).1 ++
          (createAll matcher contents' (createAll matcher contents c).2).1,
        (createAll matcher contents' (createAll matcher contents c).2).2) := by
  induction contents generalizing c with
  | nil => rfl
  | cons content contents ih => simp [createAll, ih]

theorem createOver_eq (matcher : Matcher) (content : String) (c : Connection) :
    (createOver matcher content c).1.result = ((create matcher content).runOver c).1 ∧
      (createOver matcher content c).2 = ((create matcher content).runOver c).2 :=
  (create matcher content).logOver_eq c

/-- A creation over a connection is one in the store behind it, with some of its calls lost. -/
theorem exists_creation (matcher : Matcher) (content : String) (c : Connection) :
    ∃ creation : Creation, creation.run c.storage.limit c.storage.backend.store =
        ((createOver matcher content c).1, (createOver matcher content c).2.storage.backend.store) ∧
      (createOver matcher content c).2.storage.limit = c.storage.limit := by
  obtain ⟨hruns, hlimit⟩ := (create matcher content).runs_logOver c
  obtain ⟨faults, hfaults⟩ := hruns.exists_faults
  have hrun := hfaults faults [] fun k => by simp
  exact ⟨⟨content, matcher, faults⟩, by simp [Creation.run, hrun, createOver], hlimit⟩

theorem limit_createAll (matcher : Matcher) (contents : List String) (c : Connection) :
    (createAll matcher contents c).2.storage.limit = c.storage.limit := by
  induction contents generalizing c with
  | nil => rfl
  | cons content contents ih =>
    obtain ⟨_, _, hlimit⟩ := exists_creation matcher content c
    exact (ih _).trans hlimit

theorem exists_creations (matcher : Matcher) (contents : List String) (c : Connection) :
    ∃ creations : List Creation, History.resume c.storage.limit c.storage.backend.store creations =
      ⟨(createAll matcher contents c).1, (createAll matcher contents c).2.storage.backend.store⟩ := by
  induction contents generalizing c with
  | nil => exact ⟨[], rfl⟩
  | cons content contents ih =>
    obtain ⟨creation, hcreation, hlimit⟩ := exists_creation matcher content c
    obtain ⟨creations, hcreations⟩ := ih (createOver matcher content c).2
    rw [hlimit] at hcreations
    exact ⟨creation :: creations, by simp [History.resume_cons, hcreation, hcreations, createAll]⟩

/-- Creations over a connection to a store that creations have led to go on with its history. -/
theorem exists_history (matcher : Matcher) (contents : List String) {c : Connection}
    {earlier : List Creation}
    (h : c.storage.backend.store = (History.of c.storage.limit earlier).store) :
    ∃ creations, History.of c.storage.limit creations =
      ⟨(History.of c.storage.limit earlier).records ++ (createAll matcher contents c).1,
        (createAll matcher contents c).2.storage.backend.store⟩ := by
  obtain ⟨creations, hcreations⟩ := exists_creations matcher contents c
  rw [h] at hcreations
  exact ⟨earlier ++ creations, by simp only [History.of_append, hcreations]⟩

end Service

/-! ### Requests as they arrive -/

/-- The article that a request wants to be created, if it is accepted. -/
def Http.Request.accepted? (r : Request) : Option String :=
  match r.action with
  | .ok (.createArticle content) => some content
  | _ => none

/-- A request, how long after what was before it comes, and whether the next one waits for its
answer. -/
structure Arrival where
  pause : Nat
  request : Request
  awaited : Bool

/-- The contents of the accepted creations, in order of arrival. -/
def acceptedContents (arrivals : List Arrival) : List String :=
  arrivals.filterMap fun arrival => arrival.request.accepted?

theorem acceptedContents_cons (arrival : Arrival) (arrivals : List Arrival) :
    acceptedContents (arrival :: arrivals) =
      arrival.request.accepted?.toList ++ acceptedContents arrivals := by
  cases h : arrival.request.accepted? <;> simp [acceptedContents, h]

namespace App

/-- The session as soon as a request has come, before any time is spent on it. -/
def accept (app : App) (s : Session) (r : Request) : Session :=
  match r.accepted? with
  | some content => s.submit (Service.create app.matcher content)
  | none => s

/-- The session when the next request may come. -/
def follow (app : App) (s : Session) (arrival : Arrival) : Session :=
  if arrival.awaited then (app.answer (s.wait arrival.pause) arrival.request).2
  else app.accept (s.wait arrival.pause) arrival.request

/-- The answers to the accepted creations, and the session in the end. A creation is answered as if
nothing came after it, for that queues behind it. -/
def serve (app : App) (s : Session) : List Arrival → List Response × Session
  | [] => ([], s)
  | arrival :: arrivals =>
    let rest := app.serve (app.follow s arrival) arrivals
    (match arrival.request.accepted? with
      | some _ => (app.answer (s.wait arrival.pause) arrival.request).1 :: rest.1
      | none => rest.1, rest.2)

theorem settled_accept (app : App) (s : Session) (r : Request) :
    (app.accept s r).settled =
      (Service.createAll app.matcher r.accepted?.toList s.settled).2 := by
  unfold accept
  split <;> rename_i h
  · simp only [Timeline.settled_submit, h, Option.toList_some, Service.createAll,
      (Service.createOver_eq app.matcher _ s.settled).2]
  · simp [h, Service.createAll]

/-- Of all actions, only a creation is left over for later. -/
theorem settled_perform (app : App) (s : Session) (action : Http.Action) :
    (app.perform s action).2.settled =
      match action with
      | .createArticle content => (s.submit (Service.create app.matcher content)).settled
      | _ => s.settled := by
  cases action with
  | health => rfl
  | listArticles | getArticle _ | listGroups => exact s.settled_askWithin app.timeout _ rfl
  | createArticle content => exact Timeline.settled_await _ app.timeout

/-- Answering a request comes to the same as only accepting it. -/
theorem settled_answer (app : App) (s : Session) (r : Request) :
    (app.answer s r).2.settled = (app.accept s r).settled := by
  unfold answer accept Request.accepted?
  cases r.action with
  | error refusal => rfl
  | ok action =>
    refine (app.settled_perform s action).trans ?_
    cases action <;> rfl

theorem settled_follow (app : App) (s : Session) (arrival : Arrival) :
    (app.follow s arrival).settled =
      (Service.createAll app.matcher arrival.request.accepted?.toList s.settled).2 := by
  unfold follow
  split
  · rw [app.settled_answer, app.settled_accept, s.settled_wait]
  · rw [app.settled_accept, s.settled_wait]

theorem settled_serve (app : App) (s : Session) (arrivals : List Arrival) :
    (app.serve s arrivals).2.settled =
      (Service.createAll app.matcher (acceptedContents arrivals) s.settled).2 := by
  induction arrivals generalizing s with
  | nil => rfl
  | cons arrival arrivals ih =>
    rw [acceptedContents_cons, Service.createAll_append, ← app.settled_follow, ← ih, serve]

end App

end NearDup
