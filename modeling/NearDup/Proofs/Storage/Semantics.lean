import NearDup.Storage.Program

/-! Programs over a store whose calls can be lost on the way. Main statements: a program that is run
with faults goes through one of its runs, and a run of one program after another is a run of the
first, then one of the second. -/

namespace NearDup

/-- A call that was made, and what it was answered with. -/
structure Exchange where
  {method : Method}
  call : Call method
  reply : Except Error method.Reply

def Exchange.failed (x : Exchange) : Bool :=
  match x.reply with
  | .ok _ => false
  | .error _ => true

/-- How a store can answer a call: as it does by itself, or, where calls can be lost, with any
error. An error leaves it as it was. -/
inductive Store.Answers (lossy : Prop) (limit : Nat) (s : Store) {m : Method} (c : Call m) :
    Except Error m.Reply → Store → Prop where
  | answered {reply s'} (h : s.perform limit c = .ok (reply, s')) :
      Answers lossy limit s c (.ok reply) s'
  | refused {e} (h : s.perform limit c = .error e) : Answers lossy limit s c (.error e) s
  | lost (h : lossy) (e) : Answers lossy limit s c (.error e) s

/-! ### What an answer tells -/

theorem Store.perform_articleById {s : Store} {id : ArticleId} {a : Article} (limit : Nat)
    (h : s.articles.find? id = some a) : s.perform limit (.articleById id) = .ok (a, s) := by
  simp only [perform, article, h]
  rfl

theorem Store.perform_updateDuplicateIds {s : Store} {id : ArticleId} {a : Article} (limit : Nat)
    (duplicateIds : List ArticleId) (h : s.articles.find? id = some a) :
    s.perform limit (.updateDuplicateIds id duplicateIds) =
      .ok ((), { s with articles := s.articles.insert id { a with duplicateIds } }) := by
  simp only [perform, setDuplicateIds, article, h]
  rfl

theorem Store.perform_createArticle {s : Store} {a : Article} (limit : Nat)
    (h : s.articles.find? a.id = none) : s.perform limit (.createArticle a) =
      .ok ((), { s with articles := s.articles.insert a.id a }) := by
  simp only [perform, insertArticle, IdMap.contains, h]
  rfl

/-- What a call that succeeds does to a store. -/
inductive Store.Performs (s : Store) : {m : Method} → Call m → Store → Prop where
  | nextArticleId : s.Performs .nextArticleId { s with articleCounter := s.articleCounter + 1 }
  | nextGroupId : s.Performs .nextGroupId { s with groupCounter := s.groupCounter + 1 }
  | createArticle {a} (h : s.articles.find? a.id = none) :
      s.Performs (.createArticle a) { s with articles := s.articles.insert a.id a }
  | updateDuplicateIds {id duplicateIds a} (h : s.articles.find? id = some a) :
      s.Performs (.updateDuplicateIds id duplicateIds)
        { s with articles := s.articles.insert id { a with duplicateIds } }
  | createMembership (m) :
      s.Performs (.createMembership m) { s with memberships := s.memberships ++ [m] }
  | reads {m : Method} {c : Call m} (h : m.writes = false) : s.Performs c s

theorem Store.performs_of_perform {s s' : Store} {limit : Nat} {m : Method} {c : Call m}
    {reply : m.Reply} (h : s.perform limit c = .ok (reply, s')) : s.Performs c s' := by
  cases c with
  | nextArticleId =>
    obtain rfl := congrArg Prod.snd (Except.ok.inj h)
    exact .nextArticleId
  | nextGroupId =>
    obtain rfl := congrArg Prod.snd (Except.ok.inj h)
    exact .nextGroupId
  | createMembership m =>
    obtain rfl := congrArg Prod.snd (Except.ok.inj h)
    exact .createMembership m
  | createArticle a =>
    cases hfind : s.articles.find? a.id with
    | none =>
      rw [perform_createArticle limit hfind] at h
      obtain rfl := congrArg Prod.snd (Except.ok.inj h)
      exact .createArticle hfind
    | some b =>
      simp [perform, insertArticle, IdMap.contains, hfind, bind, Except.bind] at h
  | updateDuplicateIds id duplicateIds =>
    cases hfind : s.articles.find? id with
    | none => simp [perform, setDuplicateIds, article, hfind, bind, Except.bind] at h
    | some a =>
      rw [perform_updateDuplicateIds limit _ hfind] at h
      obtain rfl := congrArg Prod.snd (Except.ok.inj h)
      exact .updateDuplicateIds hfind
  | articleById | allArticles | uniqueArticles | allMemberships =>
    obtain rfl := perform_of_reads rfl h
    exact .reads rfl

namespace Store.Answers

variable {lossy : Prop} {limit : Nat} {s s' : Store} {m : Method} {c : Call m}

theorem eq_of_error {e : Error} (h : s.Answers lossy limit c (.error e) s') : s' = s := by
  cases h <;> rfl

theorem performs_or_eq {reply : Except Error m.Reply} (h : s.Answers lossy limit c reply s') :
    s.Performs c s' ∨ s' = s := by
  cases h with
  | answered h => exact .inl (performs_of_perform h)
  | refused | lost => exact .inr rfl

/-- A call that the store can perform is performed or lost. -/
theorem of_perform {r : m.Reply} {t : Store} {reply : Except Error m.Reply}
    (hp : s.perform limit c = .ok (r, t)) (h : s.Answers lossy limit c reply s') :
    (reply = .ok r ∧ s' = t) ∨ (lossy ∧ s' = s ∧ ∃ e, reply = .error e) := by
  cases h with
  | answered h =>
    obtain ⟨rfl, rfl⟩ := Prod.mk.inj (Except.ok.inj (h.symm.trans hp))
    exact .inl ⟨rfl, rfl⟩
  | refused h => exact absurd (h.symm.trans hp) (by simp)
  | lost h e => exact .inr ⟨h, rfl, e, rfl⟩

theorem lossy_of_error {r : m.Reply} {t : Store} {e : Error}
    (hp : s.perform limit c = .ok (r, t)) (h : s.Answers lossy limit c (.error e) s') : lossy := by
  rcases h.of_perform hp with ⟨hreply, -⟩ | ⟨hlossy, -⟩
  · cases hreply
  · exact hlossy

theorem articleById {id : ArticleId} {a : Article}
    (h : s.Answers lossy limit (.articleById id) (.ok a) s') :
    s.articles.find? id = some a ∧ s' = s := by
  cases h with
  | answered h =>
    cases hfind : s.articles.find? id with
    | none => simp [Store.perform, article, hfind, bind, Except.bind] at h
    | some b =>
      rw [perform_articleById limit hfind] at h
      obtain ⟨rfl, rfl⟩ := Prod.mk.inj (Except.ok.inj h)
      exact ⟨rfl, rfl⟩

theorem updateDuplicateIds {id : ArticleId} {duplicateIds : List ArticleId}
    (h : s.Answers lossy limit (.updateDuplicateIds id duplicateIds) (.ok ()) s') :
    ∃ a, s.articles.find? id = some a ∧
      s' = { s with articles := s.articles.insert id { a with duplicateIds } } := by
  cases h with
  | answered h =>
    cases performs_of_perform h with
    | updateDuplicateIds hfind => exact ⟨_, hfind, rfl⟩
    | reads hm => cases hm

end Store.Answers

namespace Program

variable {α β : Type} {lossy : Prop} {limit : Nat}

/-- A program makes its calls one after another, and goes on from each answer. -/
inductive Runs (lossy : Prop) (limit : Nat) :
    Program α → Store → List Exchange → α → Store → Prop where
  | done (a s) : Runs lossy limit (.done a) s [] a s
  | call {m : Method} {c : Call m} {next s reply s₁ calls a s'} :
      s.Answers lossy limit c reply s₁ → Runs lossy limit (next reply) s₁ calls a s' →
      Runs lossy limit (.call c next) s (⟨c, reply⟩ :: calls) a s'

theorem runs_done_iff {a b : α} {s s' : Store} {calls : List Exchange} :
    (done a).Runs lossy limit s calls b s' ↔ calls = [] ∧ b = a ∧ s' = s := by
  constructor
  · intro h
    cases h
    exact ⟨rfl, rfl, rfl⟩
  · rintro ⟨rfl, rfl, rfl⟩
    exact .done _ _

theorem Runs.ask_bind {m : Method} {c : Call m} {f : Except Error m.Reply → Program β}
    {s s' : Store} {calls : List Exchange} {b : β}
    (h : ((ask c).bind f).Runs lossy limit s calls b s') :
    ∃ reply s₁ rest, s.Answers lossy limit c reply s₁ ∧ calls = ⟨c, reply⟩ :: rest ∧
      (f reply).Runs lossy limit s₁ rest b s' := by
  change (Program.call c f).Runs lossy limit s calls b s' at h
  cases h with
  | call hc hn => exact ⟨_, _, _, hc, rfl, hn⟩

theorem Runs.bind {p : Program α} {f : α → Program β} {s s' : Store} {calls : List Exchange}
    {b : β} (h : (p.bind f).Runs lossy limit s calls b s') :
    ∃ a s₁ first rest, p.Runs lossy limit s first a s₁ ∧
      (f a).Runs lossy limit s₁ rest b s' ∧ calls = first ++ rest := by
  induction p generalizing s calls with
  | done a => exact ⟨a, s, [], calls, .done a s, h, rfl⟩
  | call c next ih =>
    change (Program.call c fun reply => (next reply).bind f).Runs lossy limit s calls b s' at h
    cases h with
    | call hc hn =>
      obtain ⟨a, s₁, first, rest, hp, hf, rfl⟩ := ih _ hn
      exact ⟨a, s₁, _ :: first, rest, .call hc hp, hf, rfl⟩

end Program

/-! ### Runs that are computed -/

/-- Which calls of a program are lost, by their place among its calls, and with what error. -/
abbrev Faults := Nat → Option Error

/-- A store, and the calls that a program has made to it so far. -/
structure Transcript where
  store : Store
  calls : List Exchange

/-- Answers a call: it is lost, or else performed by the store. -/
def Store.attempt (s : Store) (limit : Nat) (fault : Option Error) {m : Method} (c : Call m) :
    Except Error m.Reply × Store :=
  match fault with
  | some e => (.error e, s)
  | none =>
    match s.perform limit c with
    | .ok (reply, s') => (.ok reply, s')
    | .error e => (.error e, s)

namespace Faults

/-- No call is lost. -/
def none : Faults := fun _ => .none

def Lossy (faults : Faults) : Prop := ∃ n, faults n ≠ .none

theorem not_lossy_none : ¬ none.Lossy := by
  rintro ⟨n, h⟩
  exact h rfl

/-- Answers the next call of a program, and writes it down. -/
def handle (faults : Faults) (limit : Nat) {m : Method} (c : Call m) (t : Transcript) :
    Except Error m.Reply × Transcript :=
  let (reply, store) := t.store.attempt limit (faults t.calls.length) c
  (reply, ⟨store, t.calls ++ [⟨c, reply⟩]⟩)

end Faults

theorem Store.attempt_answers {lossy : Prop} (s : Store) (limit : Nat) (fault : Option Error)
    {m : Method} (c : Call m) (h : fault ≠ none → lossy) :
    s.Answers lossy limit c (s.attempt limit fault c).1 (s.attempt limit fault c).2 := by
  unfold attempt
  cases fault with
  | some e => exact .lost (h (by simp)) e
  | none =>
    dsimp only
    split
    · exact .answered ‹_›
    · exact .refused ‹_›

theorem Store.attempt_of_reads (s : Store) (limit : Nat) (fault : Option Error) {m : Method}
    (c : Call m) (hm : m.writes = false) : (s.attempt limit fault c).2 = s := by
  unfold attempt
  cases fault with
  | some e => rfl
  | none =>
    dsimp only
    split
    · exact perform_of_reads hm ‹_›
    · rfl

theorem Program.runs_of_run {α : Type} (faults : Faults) (limit : Nat) (p : Program α)
    (t : Transcript) : ∃ calls, (p.run (faults.handle limit) t).2.calls = t.calls ++ calls ∧
      p.Runs faults.Lossy limit t.store calls (p.run (faults.handle limit) t).1
        (p.run (faults.handle limit) t).2.store := by
  induction p generalizing t with
  | done a => exact ⟨[], by simp, .done a _⟩
  | @call m c next ih =>
    obtain ⟨calls, hcalls, hruns⟩ := ih _ (faults.handle limit c t).2
    refine ⟨⟨c, (faults.handle limit c t).1⟩ :: calls, ?_, .call ?_ hruns⟩
    · rw [run, hcalls]
      simp [Faults.handle]
    · exact t.store.attempt_answers limit _ c fun h => ⟨_, h⟩

theorem Store.Answers.exists_fault {lossy : Prop} {limit : Nat} {s s' : Store} {m : Method}
    {c : Call m} {reply : Except Error m.Reply} (h : s.Answers lossy limit c reply s') :
    ∃ fault, s.attempt limit fault c = (reply, s') := by
  cases h with
  | answered h => exact ⟨none, by simp only [attempt, h]⟩
  | refused h => exact ⟨none, by simp only [attempt, h]⟩
  | lost _ e => exact ⟨some e, rfl⟩

/-- Every run is one that is computed, with the calls lost that are lost in it. -/
theorem Program.Runs.exists_faults {α : Type} {lossy : Prop} {limit : Nat} {p : Program α}
    {s s' : Store} {calls : List Exchange} {a : α} (h : p.Runs lossy limit s calls a s') :
    ∃ rest : Faults, ∀ (faults : Faults) (before : List Exchange),
      (∀ k, faults (before.length + k) = rest k) →
        p.run (faults.handle limit) ⟨s, before⟩ = (a, ⟨s', before ++ calls⟩) := by
  induction h with
  | done a s => exact ⟨Faults.none, fun _ _ _ => by simp⟩
  | @call m c next s reply s₁ calls a s' hc _ ih =>
    obtain ⟨fault, hfault⟩ := hc.exists_fault
    obtain ⟨rest, hrest⟩ := ih
    refine ⟨fun | 0 => fault | k + 1 => rest k, fun faults before h => ?_⟩
    have hfirst : faults before.length = fault := h 0
    have hlater : ∀ k, faults ((before ++ [Exchange.mk c reply]).length + k) = rest k := by
      intro k
      rw [List.length_append, List.length_singleton, Nat.add_assoc, Nat.add_comm 1 k]
      exact h (k + 1)
    have hhandle : faults.handle limit c ⟨s, before⟩ = (reply, ⟨s₁, before ++ [⟨c, reply⟩]⟩) := by
      simp only [Faults.handle, hfirst, hfault]
    rw [run, hhandle]
    simpa using hrest faults _ hlater

end NearDup
