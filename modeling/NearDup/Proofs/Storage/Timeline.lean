import NearDup.Proofs.Storage.Backend
import NearDup.Storage.Timeline

/-! What passes when time does. Main statements: however far a queue is worked off, finishing it
afterwards leaves the same, and a program that ends in time ends with the same, at whatever time it
begins; and what a program does over a connection is one of its runs over the store behind that. -/

namespace NearDup

/-! ### Programs over a connection -/

theorem Connection.perform_of_reads (c : Connection) {m : Method} (call : Call m)
    (hm : m.writes = false) : (c.perform call).2 = c := by
  unfold perform
  split
  · rfl
  · rw [c.storage.perform_of_reads call hm]

theorem Connection.reply_of_reads (c : Connection) {m : Method} {call : Call m}
    (hm : m.writes = false) (hfailing : m ∉ c.failing) {reply : m.Reply} {store : Store}
    (h : c.storage.backend.store.perform c.storage.limit call = .ok (reply, store)) :
    (c.perform call).1 = .ok reply := by
  rw [perform, if_neg (by simpa using hfailing)]
  exact c.storage.reply_of_reads hm h

/-- A call over a connection is answered as by the store behind it, or is lost. -/
theorem Connection.perform_answers (c : Connection) {m : Method} (call : Call m) :
    c.storage.backend.store.Answers True c.storage.limit call (c.perform call).1
        (c.perform call).2.storage.backend.store ∧
      (c.perform call).2.storage.limit = c.storage.limit := by
  unfold perform
  split
  · exact ⟨.lost trivial _, rfl⟩
  · exact ⟨c.storage.perform_answers call, c.storage.limit_perform call⟩

/-- What comes of a program over a connection, with the calls that it makes. -/
def Program.logOver {α : Type} : Program α → Connection → (α × List Exchange) × Connection
  | .done a, connection => ((a, []), connection)
  | .call c next, connection =>
    let (reply, connection) := connection.perform c
    let ((a, calls), connection) := (next reply).logOver connection
    ((a, ⟨c, reply⟩ :: calls), connection)

namespace Program

variable {α : Type}

theorem logOver_eq (p : Program α) (c : Connection) :
    (p.logOver c).1.1 = (p.runOver c).1 ∧ (p.logOver c).2 = (p.runOver c).2 := by
  induction p generalizing c with
  | done a => exact ⟨rfl, rfl⟩
  | call call next ih => exact ih _ _

theorem runs_logOver (p : Program α) (c : Connection) :
    p.Runs True c.storage.limit c.storage.backend.store (p.logOver c).1.2 (p.logOver c).1.1
        (p.logOver c).2.storage.backend.store ∧
      (p.logOver c).2.storage.limit = c.storage.limit := by
  induction p generalizing c with
  | done a => exact ⟨.done a _, rfl⟩
  | call call next ih =>
    obtain ⟨hanswers, hlimit⟩ := c.perform_answers call
    obtain ⟨hruns, hlimit'⟩ := ih (c.perform call).1 (c.perform call).2
    rw [hlimit] at hruns hlimit'
    exact ⟨.call hanswers hruns, hlimit'⟩

theorem runAll_append (queue queue' : List (Program α)) (c : Connection) :
    runAll (queue ++ queue') c =
      ((runAll queue c).1 ++ (runAll queue' (runAll queue c).2).1,
        (runAll queue' (runAll queue c).2).2) := by
  induction queue generalizing c with
  | nil => rfl
  | cons p queue ih => simp [runAll, ih]

/-- A program that is not run to its end comes to the same if it goes on afterwards. -/
theorem runOver_advance (limit : Option Nat) (p : Program α) (due : Option Nat) (time : Nat)
    (c : Connection) :
    match p.advance limit due time c with
    | .ended a _ c' => p.runOver c = (a, c')
    | .waiting p' _ c' => p.runOver c = p'.runOver c' := by
  induction p generalizing due time c with
  | done a => rfl
  | @call m call next ih =>
    by_cases h : comesBefore limit (due.getD (time + c.delay m))
    · simp only [advance, if_pos h]
      exact ih _ _ _ _
    · simp only [advance, if_neg h]

end Program

/-! ### Timelines -/

namespace Timeline

variable {α : Type}

/-- The connection as it is left when the queue is finished. -/
def settled (t : Timeline α) : Connection := (Program.runAll t.queue t.connection).2

theorem settled_eq_finish (t : Timeline α) : t.finish.2.connection = t.settled :=
  t.finish_eq.2.1

theorem settled_submit (t : Timeline α) (p : Program α) :
    (t.submit p).settled = (p.runOver t.settled).2 := by
  simp [settled, submit, Program.runAll_append, Program.runAll]

theorem settled_work (limit : Option Nat) (time : Nat) (due : Option Nat) (c : Connection)
    (queue : List (Program α)) :
    (work limit time due c queue).2.settled = (Program.runAll queue c).2 := by
  induction queue generalizing time due c with
  | nil => rfl
  | cons p queue ih =>
    have h := p.runOver_advance limit due time c
    rw [work]
    split <;> rename_i hp <;> rw [hp] at h
    · simp only [Program.runAll, h, ih]
    · simp only [settled, Program.runAll, h]

theorem settled_run (t : Timeline α) (limit : Option Nat) : (t.run limit).2.settled = t.settled := by
  unfold run
  split
  · exact settled_work limit t.clock t.due t.connection t.queue
  · rfl

theorem settled_wait (t : Timeline α) (time : Nat) : (t.wait time).settled = t.settled :=
  t.settled_run (some (t.clock + time))

theorem settled_await (t : Timeline α) (timeout : Nat) : (t.await timeout).2.settled = t.settled := by
  unfold await
  dsimp only
  split
  · exact t.settled_run _
  · exact t.settled_run _

theorem settled_ask (t : Timeline α) {m : Method} (call : Call m) (hm : m.writes = false) :
    (t.ask call).2.settled = t.settled := by
  unfold ask
  simp only [Connection.perform_of_reads _ call hm]
  exact t.settled_wait _

theorem settled_askWithin (t : Timeline α) (timeout : Nat) {m : Method} (call : Call m)
    (hm : m.writes = false) : (t.askWithin timeout call).2.settled = t.settled := by
  unfold askWithin
  split
  · exact t.settled_ask call hm
  · exact t.settled_wait timeout

end Timeline

/-! ### Programs at another time -/

/-- The same progress, `k` later. -/
def Progress.later {α : Type} (k : Nat) : Progress α → Progress α
  | .ended a time connection => .ended a (time + k) connection
  | .waiting p due connection => .waiting p (due + k) connection

namespace Timeline

variable {α : Type}

/-- Whether nothing is left to be done. -/
def Idle (t : Timeline α) : Prop := t.queue = [] ∧ t.due = none

/-- Once the queue is worked off, no call is waited for. -/
theorem idle_work {limit : Option Nat} {time : Nat} {due : Option Nat} {c : Connection}
    {queue : List (Program α)} (h : (work limit time due c queue).2.queue = []) :
    (work limit time due c queue).2.Idle := by
  induction queue generalizing time due c with
  | nil => exact ⟨rfl, rfl⟩
  | cons p queue ih =>
    rw [work] at h ⊢
    split at h
    · exact ih h
    · cases h

theorem idle_finish (t : Timeline α) : t.finish.2.Idle :=
  idle_work t.finish_eq.2.2

namespace Idle

variable {t : Timeline α}

theorem run (h : t.Idle) (limit : Option Nat) : t.run limit = ([], t) := by
  obtain ⟨clock, c, queue, due⟩ := t
  obtain ⟨rfl, rfl⟩ := h
  unfold Timeline.run
  split <;> rfl

theorem wait (h : t.Idle) (time : Nat) : t.wait time = { t with clock := t.clock + time } := by
  rw [Timeline.wait, h.run]

theorem settled (h : t.Idle) : t.settled = t.connection := by
  rw [Timeline.settled, h.1]
  rfl

theorem ask (h : t.Idle) {m : Method} (call : Call m) :
    (t.ask call).1 = (t.connection.perform call).1 := by
  rw [Timeline.ask, h.wait]

theorem askWithin_of_le (h : t.Idle) {timeout : Nat} {m : Method} (call : Call m)
    (hdelay : t.connection.delay m ≤ timeout) :
    (t.askWithin timeout call).1 = some (t.connection.perform call).1 := by
  rw [Timeline.askWithin, if_pos hdelay, h.ask]

end Idle

end Timeline

end NearDup
