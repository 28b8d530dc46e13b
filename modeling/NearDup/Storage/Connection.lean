import NearDup.Storage.Backend
import NearDup.Storage.Program

/-! Storages that are reached over a connection: calls take time there and may fail. Main statement: a
call that fails on the way leaves the storage as it was. -/

namespace NearDup

/-- A storage, the kinds of calls that do not reach it, and how long calls take, in milliseconds. -/
structure Connection where
  storage : Storage
  failing : List Method
  delays : List (Method × Nat)

namespace Connection

/-- A connection on which every call arrives at once. -/
def direct (storage : Storage) : Connection := ⟨storage, [], []⟩

/-- How long calls of a kind take. -/
def delay (c : Connection) (m : Method) : Nat :=
  (c.delays.lookup m).getD 0

/-- Answers a call once its time has passed. -/
def perform (c : Connection) {m : Method} (call : Call m) : Except Error m.Reply × Connection :=
  if c.failing.contains m then (.error (.storage (.connectionReset m.name)), c)
  else ((c.storage.perform call).1, { c with storage := (c.storage.perform call).2 })

theorem perform_of_failing {c : Connection} {m : Method} (call : Call m) (h : m ∈ c.failing) :
    c.perform call = (.error (.storage (.connectionReset m.name)), c) := by
  simp [perform, h]

theorem perform_of_not_failing {c : Connection} {m : Method} (call : Call m)
    (h : m ∉ c.failing) : (c.perform call).2.storage = (c.storage.perform call).2 := by
  simp [perform, h]

end Connection

end NearDup
