import NearDup.Proofs.Storage.Semantics
import NearDup.Storage.Backend

/-! Calls to storages in memory and in a file. Main statement: what a storage answers is what its
store answers, unless the call is lost because a file could not be written. -/

namespace NearDup

/-! ### The opening of a file -/

/-- The store that a file holds, which is empty where there is none. -/
def Store.stored? (files : Tree) (path : Path) : Except Error Store :=
  match files.readOptional path with
  | .error e => .error (.io e)
  | .ok none => .ok .empty
  | .ok (some bytes) => (Store.ofBytes? bytes).mapError .json

theorem Snapshot.open?_eq (files : Tree) (dir : Path) :
    open? files dir =
      (Store.stored? files (dir.join fileName)).map fun store => ⟨dir.join fileName, store⟩ := by
  dsimp only [open?, Store.stored?]
  cases files.readOptional (dir.join fileName) with
  | error e => rfl
  | ok found =>
    cases found with
    | none => rfl
    | some bytes =>
      change ((Store.ofBytes? bytes).mapError Error.json >>= fun store =>
          pure (Snapshot.mk (dir.join fileName) store)) =
        .map _ ((Store.ofBytes? bytes).mapError .json)
      cases Store.ofBytes? bytes <;> rfl

/-! ### Calls that only read -/

theorem Snapshot.perform_of_reads (s : Snapshot) (limit : Nat) (obstacle : Option Obstacle)
    (files : Tree) {m : Method} (c : Call m) (hm : m.writes = false) :
    (s.perform limit obstacle files c).2 = (s, files) := by
  unfold perform
  split
  · rfl
  · rw [if_neg (by simp [hm])]

theorem Storage.perform_of_reads (s : Storage) {m : Method} (c : Call m) (hm : m.writes = false) :
    (s.perform c).2 = s := by
  obtain ⟨backend, files, limit⟩ := s
  cases backend with
  | memory store =>
    simp only [perform]
    split
    · rename_i store' h
      rw [Store.perform_of_reads hm h]
    · rfl
  | file snapshot => simp only [perform, snapshot.perform_of_reads limit none files c hm]

/-- A call that only reads is answered by the store alone. -/
theorem Storage.reply_of_reads (s : Storage) {m : Method} {c : Call m} (hm : m.writes = false)
    {reply : m.Reply} {store : Store} (h : s.backend.store.perform s.limit c = .ok (reply, store)) :
    (s.perform c).1 = .ok reply := by
  obtain ⟨backend, files, limit⟩ := s
  cases backend with
  | memory stored =>
    rw [Backend.store] at h
    simp only [perform, h]
  | file snapshot =>
    rw [Backend.store] at h
    simp [perform, Snapshot.perform, h, hm]

/-! ### Calls of all kinds -/

/-- A file that cannot be written makes a call fail that the store could have answered. -/
theorem Snapshot.perform_answers (s : Snapshot) (limit : Nat) (obstacle : Option Obstacle)
    (files : Tree) {m : Method} (c : Call m) :
    s.store.Answers True limit c (s.perform limit obstacle files c).1
      (s.perform limit obstacle files c).2.1.store := by
  unfold perform
  split
  · exact .refused ‹_›
  · rename_i reply store h
    split
    · split
      · exact .answered h
      · exact .lost trivial _
    · rename_i hm
      rw [Store.perform_of_reads (by simpa using hm) h] at h
      exact .answered h

theorem Storage.perform_answers (s : Storage) {m : Method} (c : Call m) :
    s.backend.store.Answers True s.limit c (s.perform c).1 (s.perform c).2.backend.store := by
  obtain ⟨backend, files, limit⟩ := s
  cases backend with
  | memory store =>
    simp only [perform]
    split
    · exact .answered ‹_›
    · exact .refused ‹_›
  | file snapshot => exact snapshot.perform_answers limit none files c

theorem Storage.limit_perform (s : Storage) {m : Method} (c : Call m) :
    (s.perform c).2.limit = s.limit := by
  obtain ⟨backend, files, limit⟩ := s
  cases backend with
  | memory store =>
    simp only [perform]
    split <;> rfl
  | file snapshot => rfl

end NearDup
