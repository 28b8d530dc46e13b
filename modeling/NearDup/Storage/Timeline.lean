import NearDup.Storage.Connection

/-! Programs that queue for a connection while time passes. One program runs at a time, and the next
one begins when it ends. Time passes only in calls. Main statement: without a limit, the queue is
worked off, and the results are those of running the programs one after another. -/

namespace NearDup

/-- How far a program has got. -/
inductive Progress (α : Type)
  /-- It has ended, at a time. -/
  | ended (a : α) (time : Nat) (connection : Connection)
  /-- It waits at a call that is answered at time `due`. -/
  | waiting (program : Program α) (due : Nat) (connection : Connection)

/-- Whether a moment comes before the limit, if there is one. -/
def comesBefore (limit : Option Nat) (time : Nat) : Bool :=
  match limit with
  | some limit => time < limit
  | none => true

/-- Runs a program from `time` on, as far as its calls are answered before `limit`. If its first
call has been begun before, it is answered at time `due`. -/
def Program.advance {α : Type} (limit : Option Nat) :
    Program α → (due : Option Nat) → (time : Nat) → Connection → Progress α
  | .done a, _, time, connection => .ended a time connection
  | .call (m := m) c next, due, time, connection =>
    let due := due.getD (time + connection.delay m)
    if comesBefore limit due then
      (next (connection.perform c).1).advance limit none due (connection.perform c).2
    else .waiting (.call c next) due connection

/-- A moment, and the programs that are still to end, in order. Only the first of them has been begun,
if any; the call that it waits at is then answered at time `due`. -/
structure Timeline (α : Type) where
  clock : Nat
  connection : Connection
  queue : List (Program α)
  due : Option Nat

namespace Timeline

variable {α : Type}

/-- The first moment, with nothing to be done. -/
def start (c : Connection) : Timeline α := ⟨0, c, [], none⟩

def submit (t : Timeline α) (p : Program α) : Timeline α :=
  { t with queue := t.queue ++ [p] }

/-- Works off a queue as far as calls are answered before `limit`: the results, in order, and the
moment of the last one with what is left. -/
def work (limit : Option Nat) (time : Nat) (due : Option Nat) (c : Connection) :
    List (Program α) → List α × Timeline α
  | [] => ([], ⟨time, c, [], none⟩)
  | p :: queue =>
    match p.advance limit due time c with
    | .ended a time c => ((a :: (work limit time none c queue).1), (work limit time none c queue).2)
    | .waiting p due c => ([], ⟨time, c, p :: queue, some due⟩)

/-- Works off the queue as far as calls are answered before `limit`. -/
def run (t : Timeline α) (limit : Option Nat) : List α × Timeline α :=
  if comesBefore limit t.clock then work limit t.clock t.due t.connection t.queue else ([], t)

def finish (t : Timeline α) : List α × Timeline α :=
  t.run none

/-- Lets time pass. What falls on its end is not done yet. -/
def wait (t : Timeline α) (time : Nat) : Timeline α :=
  { (t.run (some (t.clock + time))).2 with clock := t.clock + time }

/-- The result of the last program of the queue, if that ends in less than `timeout`; else it stays
in the queue, and the time has passed. -/
def await (t : Timeline α) (timeout : Nat) : Option α × Timeline α :=
  let (results, t') := t.run (some (t.clock + timeout))
  if t'.queue.isEmpty then (results.getLast?, t')
  else (none, { t' with clock := t.clock + timeout })

/-- Makes a call beside the queue. -/
def ask (t : Timeline α) {m : Method} (call : Call m) : Except Error m.Reply × Timeline α :=
  let t := t.wait (t.connection.delay m)
  ((t.connection.perform call).1, { t with connection := (t.connection.perform call).2 })

/-- Makes a call beside the queue, and gives it up if it takes more than `timeout`. -/
def askWithin (t : Timeline α) (timeout : Nat) {m : Method} (call : Call m) :
    Option (Except Error m.Reply) × Timeline α :=
  if t.connection.delay m ≤ timeout then (some (t.ask call).1, (t.ask call).2)
  else (none, t.wait timeout)

end Timeline

/-- Runs a program over a connection, without regard to time. -/
def Program.runOver {α : Type} (p : Program α) (connection : Connection) : α × Connection :=
  p.run (fun c connection => connection.perform c) connection

theorem Program.advance_none {α : Type} (p : Program α) (due : Option Nat) (time : Nat)
    (connection : Connection) : ∃ time', p.advance none due time connection =
      .ended (p.runOver connection).1 time' (p.runOver connection).2 := by
  induction p generalizing due time connection with
  | done a => exact ⟨time, by simp [advance, runOver, run]⟩
  | @call m c next ih =>
    obtain ⟨time', h⟩ := ih (connection.perform c).1 none
      (due.getD (time + connection.delay m)) (connection.perform c).2
    exact ⟨time', by simpa [advance, comesBefore, runOver, run] using h⟩

/-- Runs programs one after another, without regard to time. -/
def Program.runAll {α : Type} : List (Program α) → Connection → List α × Connection
  | [], c => ([], c)
  | p :: queue, c =>
    let (a, c) := p.runOver c
    let (results, c) := runAll queue c
    (a :: results, c)

theorem Timeline.work_none {α : Type} (queue : List (Program α)) (time : Nat) (due : Option Nat)
    (c : Connection) : (work none time due c queue).1 = (Program.runAll queue c).1 ∧
      (work none time due c queue).2.connection = (Program.runAll queue c).2 ∧
      (work none time due c queue).2.queue = [] := by
  induction queue generalizing time due c with
  | nil => simp [work, Program.runAll]
  | cons p queue ih =>
    obtain ⟨time', h⟩ := p.advance_none due time c
    obtain ⟨h₁, h₂, h₃⟩ := ih time' none (p.runOver c).2
    simp [work, h, Program.runAll, h₁, h₂, h₃]

theorem Timeline.finish_eq {α : Type} (t : Timeline α) :
    t.finish.1 = (Program.runAll t.queue t.connection).1 ∧
      t.finish.2.connection = (Program.runAll t.queue t.connection).2 ∧
      t.finish.2.queue = [] := by
  simpa [finish, run, comesBefore] using
    work_none t.queue t.clock t.due t.connection

end NearDup
