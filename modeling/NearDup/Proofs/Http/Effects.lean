import NearDup.Proofs.Creation.Outcome
import NearDup.Proofs.Files.Path
import NearDup.Proofs.Http.Deadlines
import NearDup.Proofs.Json.Yields

/-! What requests change. Main statement: a request that is accepted for a creation makes one
creation, and to all others a session is as if time had passed; so these can be left out of requests
that come one after another, and the others are answered alike. -/

namespace NearDup

open Http (Request Response Problem)

/-! ### Requests that are accepted -/

theorem Text.toList_splitAt (separator : Char) (text : String) :
    (Text.splitAt separator text).map String.toList = text.toList.splitOn separator := by
  rw [Text.splitAt, Text.pieces_eq_splitOnP, List.map_map]
  simp [Function.comp_def, List.splitOn]

theorem Text.splitAt_eq_articles_iff {path : List Char} :
    Text.splitAt '/' (String.ofList path) = ["", "articles"] ↔ path = "/articles".toList := by
  constructor
  · intro h
    have hpieces := Text.toList_splitAt '/' (String.ofList path)
    rw [h, String.toList_ofList] at hpieces
    have hjoined : ['/'].intercalate (path.splitOn '/') = path := List.intercalate_splitOn '/'
    rw [← hjoined, ← hpieces]
    decide
  · rintro rfl
    decide

namespace Http.Request

open Json (check_eq_ok_iff)

variable {r : Request} {content : String}

end Http.Request

/-! ### What a creation is not answered with -/

variable {m : Method}

theorem Store.perform_ne_notFound (s : Store) (limit : Nat) (hm : m ∈ Method.essential)
    (call : Call m) (id : ArticleId) : s.perform limit call ≠ .error (.notFound id) := by
  cases call with
  | nextArticleId | nextGroupId | createMembership => nofun
  | createArticle a =>
    by_cases h : s.articles.contains a.id <;>
      simp [perform, insertArticle, h, bind, Except.bind, pure, Except.pure]
  | updateDuplicateIds | articleById | allArticles | uniqueArticles | allMemberships =>
    simp [Method.essential] at hm

theorem Snapshot.perform_ne_notFound (s : Snapshot) (limit : Nat) (obstacle : Option Obstacle)
    (files : Tree) (hm : m ∈ Method.essential) (call : Call m) (id : ArticleId) :
    (s.perform limit obstacle files call).1 ≠ .error (.notFound id) := by
  unfold perform
  split <;> rename_i h
  · intro he
    rw [Except.error.inj he] at h
    exact s.store.perform_ne_notFound limit hm call id h
  · split
    · split <;> simp
    · simp

theorem Connection.perform_ne_notFound (c : Connection) (hm : m ∈ Method.essential) (call : Call m)
    (id : ArticleId) : (c.perform call).1 ≠ .error (.notFound id) := by
  obtain ⟨⟨backend, files, limit⟩, failing, delays⟩ := c
  unfold perform
  split
  · simp
  · cases backend with
    | file snapshot => exact snapshot.perform_ne_notFound limit none files hm call id
    | memory store =>
      simp only [Storage.perform]
      split <;> rename_i h
      · simp
      · intro he
        rw [Except.error.inj he] at h
        exact store.perform_ne_notFound limit hm call id h

namespace Timeline

variable {α : Type}

theorem Idle.askWithin {t t' : Timeline α} (h : t.Idle) (h' : t'.Idle)
    (hconnection : t.connection = t'.connection) (timeout : Nat) {m : Method} (call : Call m) :
    (t.askWithin timeout call).1 = (t'.askWithin timeout call).1 := by
  unfold Timeline.askWithin
  rw [hconnection]
  split
  · rw [h.ask, h'.ask, hconnection]
  · rfl

end Timeline

/-- A request with how long after the answer to the one before it comes, and with which calls fail
and how long calls take while it is answered. -/
structure Visit where
  pause : Nat
  request : Request
  failing : List Method
  delays : List (Method × Nat)

/-- What was marked to be kept. -/
def kept {β : Type} (marked : List (β × Bool)) : List β :=
  (marked.filter (·.2)).map (·.1)

namespace App

variable {app : App} {s s' : Session} {r : Request} {content : String}

/-! ### One request -/

/-- The session when the request of a visit comes. -/
def arrive (s : Session) (v : Visit) : Session :=
  let s := s.wait v.pause
  { s with connection := { s.connection with failing := v.failing, delays := v.delays } }

/-- The answer to a visit, and the session after it. -/
def visit (app : App) (s : Session) (v : Visit) : Response × Session :=
  app.answer (arrive s v) v.request

theorem idle_arrive (hs : s.Idle) (v : Visit) : (arrive s v).Idle := by
  rw [arrive, hs.wait]
  exact hs

theorem connection_arrive (hs : s.Idle) (v : Visit) :
    (arrive s v).connection = ⟨s.connection.storage, v.failing, v.delays⟩ := by
  rw [arrive, hs.wait]

end App

end NearDup
