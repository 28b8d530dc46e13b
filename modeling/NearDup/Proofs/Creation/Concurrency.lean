import Mathlib.Data.List.FinRange
import Mathlib.Data.List.Nodup
import Mathlib.Logic.Function.Basic
import Mathlib.Logic.Relation
import NearDup.Proofs.Creation.Memberships
import NearDup.Proofs.Storage.Interruption

/-! Creations that are started at once on one store. Each takes the lock, makes its calls one by one
while others may come in between, and gives the lock back; readers come at any time. Main statement:
what comes of them is what comes of the same creations one after another in the order in which they
got the lock, and at no moment do the memberships run ahead of the articles. -/

namespace NearDup

/-- How far one of several creations has got. -/
inductive Stage
  /-- It has not got the lock. -/
  | waiting
  /-- It has got the lock and made some calls. -/
  | running (rest : Program (Except Error Article)) (calls : List Exchange)
  | ended (record : Record)

/-- The calls that a creation has made so far. -/
def Stage.calls : Stage → List Exchange
  | .waiting => []
  | .running _ calls => calls
  | .ended record => record.calls

/-- Creations on one store: which of them holds the lock, how far each has got, and which have got
the lock so far, in order. -/
structure Crowd (n : Nat) where
  store : Store
  holder : Option (Fin n)
  stages : Fin n → Stage
  order : List (Fin n)

namespace Crowd

variable {n : Nat}

/-- All creations have been started, and none has got the lock. -/
def start (store : Store) : Crowd n := ⟨store, none, fun _ => .waiting, []⟩

/-- The creations when one of them has come to another stage. -/
def advance (c : Crowd n) (i : Fin n) (stage : Stage) (store : Store) (holder : Option (Fin n)) :
    Crowd n :=
  ⟨store, holder, Function.update c.stages i stage, c.order⟩

theorem advance_advance (c : Crowd n) (i : Fin n) (stage stage' : Stage) (store store' : Store)
    (holder holder' : Option (Fin n)) :
    (c.advance i stage store holder).advance i stage' store' holder' =
      c.advance i stage' store' holder' := by
  simp only [advance, Function.update_idem]

theorem stages_advance_self (c : Crowd n) (i : Fin n) (stage : Stage) (store : Store)
    (holder : Option (Fin n)) : (c.advance i stage store holder).stages i = stage := by
  simp [advance]

theorem stages_advance_of_ne (c : Crowd n) {i j : Fin n} (stage : Stage) (store : Store)
    (holder : Option (Fin n)) (h : j ≠ i) :
    (c.advance i stage store holder).stages j = c.stages j := by
  simp [advance, h]

/-- The creations when one of them has got the lock. -/
def lock (c : Crowd n) (creations : Fin n → Creation) (i : Fin n) : Crowd n :=
  { c.advance i (.running (Service.create (creations i).matcher (creations i).content) []) c.store
      (some i) with order := c.order ++ [i] }

/-- What can happen next: a creation gets the lock that nobody holds, makes its next call, or ends
and gives the lock back; or someone reads, without a lock. Calls may be lost. -/
inductive Step (limit : Nat) (creations : Fin n → Creation) (s : Crowd n) : Crowd n → Prop where
  | lock (i) (hfree : s.holder = none) (hi : s.stages i = .waiting) :
      Step limit creations s (s.lock creations i)
  | call (i) {m : Method} {c : Call m} {next calls} (hi : s.stages i = .running (.call c next) calls)
      {reply store}
      (hreply : s.store.attempt limit ((creations i).faults calls.length) c = (reply, store)) :
      Step limit creations s
        (s.advance i (.running (next reply) (calls ++ [⟨c, reply⟩])) store s.holder)
  | unlock (i) {result calls} (hi : s.stages i = .running (.done result) calls) :
      Step limit creations s (s.advance i (.ended ⟨result, calls⟩) s.store none)
  | read {m : Method} (c : Call m) (fault) (hm : m.writes = false) :
      Step limit creations s { s with store := (s.store.attempt limit fault c).2 }

/-- What can happen to creations after a while. -/
def Steps (limit : Nat) (creations : Fin n → Creation) : Crowd n → Crowd n → Prop :=
  Relation.ReflTransGen (Step limit creations)

/-! ### What an interleaving has come to -/

/-- Some creations have ended, and left what they leave one after another. -/
structure Settled (limit : Nat) (creations : Fin n → Creation) (s₀ : Store)
    (stages : Fin n → Stage) (order : List (Fin n)) (s : Store) : Prop where
  nodup : order.Nodup
  records_eq : order.map stages =
    (History.resume limit s₀ (order.map creations)).records.map .ended
  store_eq : s = (History.resume limit s₀ (order.map creations)).store

/-- Either nobody holds the lock, and all creations that had it have ended. Or the last one to get
it holds it and has made some calls on the store that the others left. -/
inductive Sound (limit : Nat) (creations : Fin n → Creation) (s₀ : Store) : Crowd n → Prop where
  | idle {s stages order} (hsettled : Settled limit creations s₀ stages order s)
      (hwaiting : ∀ i, i ∉ order → stages i = .waiting) :
      Sound limit creations s₀ ⟨s, none, stages, order⟩
  | busy {s s' stages order i rest calls} (hsettled : Settled limit creations s₀ stages order s)
      (hi : i ∉ order) (hrunning : stages i = .running rest calls)
      (hleads : (Service.create (creations i).matcher (creations i).content).Leads
        (creations i).faults limit ⟨s, []⟩ rest ⟨s', calls⟩)
      (hwaiting : ∀ j, j ∉ order ++ [i] → stages j = .waiting) :
      Sound limit creations s₀ ⟨s', some i, stages, order ++ [i]⟩

variable {limit : Nat} {creations : Fin n → Creation} {s₀ s : Store}
variable {stages : Fin n → Stage} {order : List (Fin n)} {i : Fin n}

theorem Settled.start : Settled limit creations s₀ stages [] s₀ := ⟨List.nodup_nil, rfl, rfl⟩

theorem Settled.exists_record (h : Settled limit creations s₀ stages order s) (hi : i ∈ order) :
    ∃ record ∈ (History.resume limit s₀ (order.map creations)).records,
      stages i = .ended record := by
  have hmem : stages i ∈ order.map stages := List.mem_map_of_mem hi
  rw [h.records_eq] at hmem
  obtain ⟨record, hrecord, heq⟩ := List.mem_map.mp hmem
  exact ⟨record, hrecord, heq.symm⟩

/-- What becomes of a creation that has not ended does not matter to those that have. -/
theorem Settled.update (h : Settled limit creations s₀ stages order s) (hi : i ∉ order)
    (stage : Stage) : Settled limit creations s₀ (Function.update stages i stage) order s := by
  refine ⟨h.nodup, ?_, h.store_eq⟩
  rw [← h.records_eq]
  exact List.map_congr_left fun j hj =>
    Function.update_of_ne (ne_of_mem_of_not_mem hj hi) stage stages

theorem Settled.concat (h : Settled limit creations s₀ stages order s) (hi : i ∉ order)
    (hended : stages i = .ended ((creations i).run limit s).1) :
    Settled limit creations s₀ stages (order ++ [i]) ((creations i).run limit s).2 := by
  refine ⟨List.nodup_append.mpr ⟨h.nodup, List.nodup_singleton i, by grind⟩, ?_, ?_⟩
  · simp [History.resume_concat, History.extend, h.records_eq, hended, ← h.store_eq]
  · simp [History.resume_concat, History.extend, ← h.store_eq]

theorem Settled.exists_index (h : Settled limit creations s₀ stages order s) {record : Record}
    (hrecord : record ∈ (History.resume limit s₀ (order.map creations)).records) :
    ∃ i, stages i = .ended record := by
  have hmem : Stage.ended record ∈ order.map stages := by
    rw [h.records_eq]
    exact List.mem_map_of_mem hrecord
  obtain ⟨i, -, hi⟩ := List.mem_map.mp hmem
  exact ⟨i, hi⟩

theorem Settled.notMem (h : Settled limit creations s₀ stages order s)
    (hi : ∀ record, stages i ≠ .ended record) : i ∉ order := by
  intro hmem
  obtain ⟨record, -, hended⟩ := h.exists_record hmem
  exact hi record hended

/-! ### One step -/

/-- Only the holder of the lock has begun and not ended. -/
theorem Sound.busy_of_running {c : Crowd n} {rest : Program (Except Error Article)}
    {calls : List Exchange} (h : Sound limit creations s₀ c)
    (hi : c.stages i = .running rest calls) :
    ∃ s order, Settled limit creations s₀ c.stages order s ∧ c.holder = some i ∧
      c.order = order ++ [i] ∧
      (Service.create (creations i).matcher (creations i).content).Leads
        (creations i).faults limit ⟨s, []⟩ rest ⟨c.store, calls⟩ ∧
      ∀ j, j ∉ order ++ [i] → c.stages j = .waiting := by
  cases h with
  | idle hsettled hwaiting =>
    have hnot := hsettled.notMem (i := i) fun record hended => nomatch hi.symm.trans hended
    simp [hwaiting i hnot] at hi
  | @busy s s' stages order j rest' calls' hsettled hj hrunning hleads hwaiting =>
    have hnot := hsettled.notMem (i := i) fun record hended => nomatch hi.symm.trans hended
    obtain rfl : i = j := by
      by_contra hne
      simp [hwaiting i (by simp [hnot, hne])] at hi
    obtain ⟨rfl, rfl⟩ := Stage.running.inj (hi.symm.trans hrunning)
    exact ⟨s, order, hsettled, rfl, rfl, hleads, hwaiting⟩

theorem Sound.lock {c : Crowd n} (h : Sound limit creations s₀ c) (hfree : c.holder = none)
    (hi : c.stages i = .waiting) :
    Sound limit creations s₀ (c.lock creations i) := by
  cases h with
  | @idle s stages order hsettled hwaiting =>
    have hnot := hsettled.notMem (i := i) fun record hended => nomatch hi.symm.trans hended
    refine .busy (hsettled.update hnot _) hnot (Function.update_self i _ _) .refl fun j hj => ?_
    have hne : j ≠ i := fun he => hj (by simp [he])
    rw [stages_advance_of_ne _ _ _ _ hne]
    exact hwaiting j fun hmem => hj (List.mem_append_left _ hmem)
  | busy => simp at hfree

theorem Sound.call {c : Crowd n} {m : Method} {call : Call m}
    {next : Except Error m.Reply → Program (Except Error Article)} {calls : List Exchange}
    (h : Sound limit creations s₀ c) (hi : c.stages i = .running (.call call next) calls)
    {reply : Except Error m.Reply} {store : Store}
    (hreply : c.store.attempt limit ((creations i).faults calls.length) call = (reply, store)) :
    Sound limit creations s₀
      (c.advance i (.running (next reply) (calls ++ [⟨call, reply⟩])) store c.holder) := by
  obtain ⟨s, order, hsettled, hholder, horder, hleads, hwaiting⟩ := h.busy_of_running hi
  have hnot := hsettled.notMem (i := i) fun record hended => nomatch hi.symm.trans hended
  have hcall := hleads.call
  simp only [Faults.handle_eq, hreply] at hcall
  rw [advance, hholder, horder]
  refine .busy (hsettled.update hnot _) hnot (Function.update_self i _ _) hcall fun j hj => ?_
  have hne : j ≠ i := fun he => hj (by simp [he])
  rw [Function.update_of_ne hne]
  exact hwaiting j hj

theorem Sound.unlock {c : Crowd n} {result : Except Error Article} {calls : List Exchange}
    (h : Sound limit creations s₀ c) (hi : c.stages i = .running (.done result) calls) :
    Sound limit creations s₀ (c.advance i (.ended ⟨result, calls⟩) c.store none) := by
  obtain ⟨s, order, hsettled, -, horder, hleads, hwaiting⟩ := h.busy_of_running hi
  have hnot := hsettled.notMem (i := i) fun record hended => nomatch hi.symm.trans hended
  have hrun : (creations i).run limit s = (⟨result, calls⟩, c.store) := by
    simp only [Creation.run, hleads.run_eq]
    rfl
  have hended := (hsettled.update hnot (.ended ⟨result, calls⟩)).concat hnot (by simp [hrun])
  rw [hrun] at hended
  rw [advance, horder]
  refine .idle hended fun j hj => ?_
  have hne : j ≠ i := fun he => hj (by simp [he])
  rw [Function.update_of_ne hne]
  exact hwaiting j hj

theorem Sound.step {c c' : Crowd n} (h : Sound limit creations s₀ c)
    (hstep : Step limit creations c c') : Sound limit creations s₀ c' := by
  cases hstep with
  | lock i hfree hi => exact h.lock hfree hi
  | call i hi hreply => exact h.call hi hreply
  | unlock i hi => exact h.unlock hi
  | read call fault hm =>
    rw [Store.attempt_of_reads c.store limit fault call hm]
    exact h

theorem sound_of_steps {c : Crowd n} (h : Steps limit creations (start s₀) c) :
    Sound limit creations s₀ c := by
  induction h with
  | refl => exact .idle .start fun _ _ => rfl
  | tail _ hstep ih => exact ih.step hstep

/-! ### The whole interleaving -/

theorem Sound.settled {c : Crowd n} (h : Sound limit creations s₀ c)
    (hended : ∀ i, ∃ record, c.stages i = .ended record) :
    Settled limit creations s₀ c.stages c.order c.store ∧ ∀ i, i ∈ c.order := by
  cases h with
  | idle hsettled hwaiting =>
    refine ⟨hsettled, fun i => ?_⟩
    by_contra hnot
    obtain ⟨record, hi⟩ := hended i
    simp [hwaiting i hnot] at hi
  | @busy _ _ _ _ i _ _ _ _ hrunning =>
    obtain ⟨record, hi⟩ := hended i
    simp [hrunning] at hi

/-- Between two steps the store is that of a history: of the creations that have ended, and of one
more whose further calls are lost. -/
theorem Sound.exists_history {earlier : List Creation} {c : Crowd n}
    (h : Sound limit creations (History.of limit earlier).store c) :
    ∃ later ended last, c.store = (History.of limit (earlier ++ later)).store ∧
      (History.of limit (earlier ++ later)).records =
        (History.of limit earlier).records ++ ended ++ Option.toList last ∧
      ∀ record ∈ ended, ∃ i, c.stages i = .ended record := by
  cases h with
  | @idle s stages order hsettled hwaiting =>
    refine ⟨order.map creations, _, none, hsettled.store_eq.trans ?_, ?_,
      fun record hrecord => hsettled.exists_index hrecord⟩
    · rw [History.of_append]
    · rw [History.of_append, Option.toList_none, List.append_nil]
  | @busy s s' stages order i rest calls hsettled hi hrunning hleads hwaiting =>
    let interrupted := { creations i with faults := (creations i).faults.cut calls.length }
    have hstore : (interrupted.run limit s).2 = s' := hleads.store_eq
    refine ⟨order.map creations ++ [interrupted], _, some (interrupted.run limit s).1, ?_, ?_,
      fun record hrecord => hsettled.exists_index hrecord⟩
    · rw [History.of_append, History.resume_concat]
      simp [History.extend, ← hsettled.store_eq, hstore]
    · rw [History.of_append, History.resume_concat]
      simp [History.extend, ← hsettled.store_eq]

/-! ### No creation is left waiting -/

/-- A creation that has the lock can make all its calls and end. -/
theorem steps_of_running {rest : Program (Except Error Article)} {calls : List Exchange}
    {c : Crowd n} (hi : c.stages i = .running rest calls) :
    let ran := rest.run ((creations i).faults.handle limit) ⟨c.store, calls⟩
    Steps limit creations c (c.advance i (.ended ⟨ran.1, ran.2.calls⟩) ran.2.store none) := by
  induction rest generalizing c calls with
  | done result => exact .single (.unlock i hi)
  | call call next ih =>
    rcases hreply : c.store.attempt limit ((creations i).faults calls.length) call
      with ⟨reply, store⟩
    have hrest := ih reply (stages_advance_self c i
      (.running (next reply) (calls ++ [⟨call, reply⟩])) store c.holder)
    simp only [advance_advance] at hrest
    simp only [Program.run, Faults.handle_eq, hreply]
    exact .head (.call i hi hreply) hrest

/-- The creations after one of them has got the lock, made all its calls and ended. -/
def complete (limit : Nat) (creations : Fin n → Creation) (i : Fin n) (c : Crowd n) : Crowd n :=
  (c.lock creations i).advance i (.ended ((creations i).run limit c.store).1)
    ((creations i).run limit c.store).2 none

theorem steps_complete {c : Crowd n} (hfree : c.holder = none) (hi : c.stages i = .waiting) :
    Steps limit creations c (c.complete limit creations i) := by
  have hrunning : (c.lock creations i).stages i = .running
      (Service.create (creations i).matcher (creations i).content) [] :=
    stages_advance_self c i _ c.store (some i)
  exact .head (.lock i hfree hi) (steps_of_running hrunning)

theorem stages_complete_self (c : Crowd n) :
    (c.complete limit creations i).stages i = .ended ((creations i).run limit c.store).1 :=
  stages_advance_self _ _ _ _ _

theorem stages_complete_of_ne (c : Crowd n) {j : Fin n} (h : j ≠ i) :
    (c.complete limit creations i).stages j = c.stages j := by
  rw [complete, stages_advance_of_ne _ _ _ _ h]
  exact stages_advance_of_ne c _ c.store (some i) h

/-- Nobody holds the lock, and each creation waits for it or has ended. -/
def Idle (c : Crowd n) : Prop :=
  c.holder = none ∧ ∀ i, c.stages i = .waiting ∨ ∃ record, c.stages i = .ended record

theorem Idle.complete {c : Crowd n} (h : c.Idle) (i : Fin n) :
    (c.complete limit creations i).Idle := by
  refine ⟨rfl, fun j => ?_⟩
  by_cases hj : j = i
  · subst hj
    exact .inr ⟨_, stages_complete_self c⟩
  · rw [stages_complete_of_ne c hj]
    exact h.2 j

theorem Sound.exists_idle {c : Crowd n} (h : Sound limit creations s₀ c) :
    ∃ c', Steps limit creations c c' ∧ c'.Idle := by
  cases h with
  | @idle s stages order hsettled hwaiting =>
    refine ⟨_, .refl, rfl, fun i => ?_⟩
    by_cases hi : i ∈ order
    · obtain ⟨record, -, hended⟩ := hsettled.exists_record hi
      exact .inr ⟨record, hended⟩
    · exact .inl (hwaiting i hi)
  | @busy s s' stages order i rest calls hsettled hi hrunning hleads hwaiting =>
    refine ⟨_, steps_of_running hrunning, rfl, fun j => ?_⟩
    by_cases hj : j = i
    · subst hj
      exact .inr ⟨_, stages_advance_self _ _ _ _ _⟩
    · rw [stages_advance_of_ne _ _ _ _ hj]
      by_cases hmem : j ∈ order
      · obtain ⟨record, -, hended⟩ := hsettled.exists_record hmem
        exact .inr ⟨record, hended⟩
      · exact .inl (hwaiting j (by simp [hmem, hj]))

/-- From an idle state the creations can be completed one by one. -/
theorem Idle.exists_ended {c : Crowd n} (h : c.Idle) (indices : List (Fin n)) :
    ∃ c', Steps limit creations c c' ∧ c'.Idle ∧
      ∀ i ∈ indices, ∃ record, c'.stages i = .ended record := by
  induction indices using List.reverseRecOn with
  | nil => exact ⟨c, .refl, h, by simp⟩
  | append_singleton indices i ih =>
    obtain ⟨c', hsteps, hidle, hended⟩ := ih
    rcases hidle.2 i with hwaiting | hi
    · refine ⟨c'.complete limit creations i, hsteps.trans (steps_complete hidle.1 hwaiting),
        hidle.complete i, fun j hj => ?_⟩
      by_cases hji : j = i
      · subst hji
        exact ⟨_, stages_complete_self c'⟩
      · rw [stages_complete_of_ne c' hji]
        exact hended j (by simpa [hji] using hj)
    · exact ⟨c', hsteps, hidle, by simpa [or_imp, forall_and] using ⟨hended, hi⟩⟩

theorem Sound.exists_ended {c : Crowd n} (h : Sound limit creations s₀ c) :
    ∃ c', Steps limit creations c c' ∧ ∀ i, ∃ record, c'.stages i = .ended record := by
  obtain ⟨c', hsteps, hidle⟩ := h.exists_idle
  obtain ⟨c'', hsteps', -, hended⟩ : ∃ c'', Steps limit creations c' c'' ∧ c''.Idle ∧
      ∀ i ∈ List.finRange n, ∃ record, c''.stages i = .ended record :=
    hidle.exists_ended (List.finRange n)
  exact ⟨c'', hsteps.trans hsteps', fun i => hended i (List.mem_finRange i)⟩

/-! ### All interleavings -/

/-- Creations that are started at once can always all end, and if they have, each has got the lock
once, and records and store are those of the same creations one after another in that order. At
every moment, if the store at the beginning was left by creations too, each membership names a
stored article with its group; and if no membership was lost, at most one article is without. -/
theorem serialized (limit : Nat) (creations : Fin n → Creation) (s₀ : Store) {c : Crowd n}
    (h : Steps limit creations (start s₀) c) :
    (∃ c', Steps limit creations c c' ∧ ∀ i, ∃ record, c'.stages i = .ended record) ∧
      ((∀ i, ∃ record, c.stages i = .ended record) →
        (c.order.Nodup ∧ ∀ i, i ∈ c.order) ∧
          c.order.map c.stages =
            (History.resume limit s₀ (c.order.map creations)).records.map .ended ∧
          c.store = (History.resume limit s₀ (c.order.map creations)).store) ∧
      ∀ earlier, s₀ = (History.of limit earlier).store →
        (∀ m ∈ c.store.memberships, ∃ a ∈ c.store.articles.values, a.membership = m) ∧
          ((∀ record ∈ (History.of limit earlier).records, record.lostMemberships = []) →
            (∀ i, (c.stages i).calls.filterMap Exchange.lostMembership? = []) →
            ∀ a ∈ c.store.articles.values, ∀ b ∈ c.store.articles.values,
              (∀ m ∈ c.store.memberships, m.article ≠ a.id) →
              (∀ m ∈ c.store.memberships, m.article ≠ b.id) → a = b) := by
  have hsound := sound_of_steps h
  refine ⟨hsound.exists_ended, fun hended => ?_, ?_⟩
  · obtain ⟨hsettled, hall⟩ := hsound.settled hended
    exact ⟨⟨hsettled.nodup, hall⟩, hsettled.records_eq, hsettled.store_eq⟩
  · rintro earlier rfl
    obtain ⟨later, ended, last, hstore, hrecords, hstages⟩ := hsound.exists_history
    rw [hstore]
    refine ⟨(History.registered_of limit (earlier ++ later)).stored, fun hearlier hcalls => ?_⟩
    have hkept : ∀ record ∈ (History.of limit earlier).records ++ ended,
        record.lostMemberships = [] := by
      refine List.forall_mem_append.mpr ⟨hearlier, fun record hrecord => ?_⟩
      obtain ⟨i, hi⟩ := hstages record hrecord
      have hlost := hcalls i
      rwa [hi] at hlost
    exact fun a ha b hb => History.eq_of_missing hrecords hkept ha hb

/-- Two articles that match, of which the second gets the lock first. -/
theorem serialized_pair :
    let creations : Fin 2 → Creation := fun i =>
      ⟨if i = 0 then "a" else "b", fun _ _ _ _ => some true, Faults.none⟩
    let c := ((start .empty).complete 10 creations 1).complete 10 creations 0
    Steps 10 creations (start .empty) c ∧
      c.store.articles.values.map (fun a => (a.content, a.duplicateIds)) =
        [("b", []), ("a", [1])] ∧
      c.store = (History.resume 10 .empty [creations 1, creations 0]).store := by
  intro creations c
  have hsteps : Steps 10 creations (start .empty) c :=
    (steps_complete rfl rfl).trans (steps_complete rfl (stages_complete_of_ne _ (by decide)))
  have hended : ∀ i, ∃ record, c.stages i = .ended record :=
    Fin.forall_fin_two.mpr ⟨⟨_, stages_complete_self _⟩,
      ⟨_, (stages_complete_of_ne _ (by decide)).trans (stages_complete_self _)⟩⟩
  exact ⟨hsteps, by decide, ((serialized 10 creations .empty hsteps).2.1 hended).2.2⟩

end Crowd

end NearDup
