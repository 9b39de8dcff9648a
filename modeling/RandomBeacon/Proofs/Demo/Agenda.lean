import RandomBeacon.Proofs.Demo.Interleaving

/-!
The tasks of the session's timeline: those of the errand that it waits for, and the publications
that are due. A turn puts what it goes on with in the place of its task (`tasks_fire`), and a result
that a task has left behind stays (`Retired.resultOf?_fire`).
-/

namespace RandomBeacon

namespace Schedule

/-- The task that goes on after a turn. -/
def Next.tasks {τ ρ : Type} (number : Nat) : Next τ ρ → List (Task τ)
  | .wait due work => [⟨number, due, work⟩]
  | .ended _ => []

namespace Timeline

variable {σ τ ρ : Type} {rules : Rules σ τ ρ} {t : Timeline σ τ ρ} {task : Task τ} {number : Nat}

/-- Tasks with the numbers from `number` on. -/
def numberFrom (number : Nat) : List (Option Nat × τ) → List (Task τ)
  | [] => []
  | (due, work) :: rest => ⟨number, due, work⟩ :: numberFrom (number + 1) rest

theorem tasks_spawnAll (t : Timeline σ τ ρ) (spawned : List (Option Nat × τ)) :
    (t.spawnAll spawned).tasks = t.tasks ++ numberFrom t.issued spawned := by
  induction spawned generalizing t with
  | nil => exact (List.append_nil _).symm
  | cons x rest ih =>
    rw [spawnAll_cons, ih]
    exact List.append_assoc _ _ _

/-- The turn of a task leaves the task that goes on, the others and the ones that it starts. -/
theorem tasks_fire (numbered : t.Numbered) {others : List (Task τ)}
    (split : t.tasks.Perm (task :: others)) :
    (t.fire rules task).tasks.Perm
      ((rules.resume t.now task t.state).next.tasks task.id ++ others ++
        numberFrom t.issued (rules.resume t.now task t.state).spawned) := by
  have mem : task ∈ t.tasks := split.mem_iff.mpr List.mem_cons_self
  have same : (t.others task).Perm others := ((tasks_split numbered mem).symm.trans split).cons_inv
  rw [fire_eq, tasks_spawnAll, settleTask_issued]
  refine List.Perm.append_right _ ?_
  cases (rules.resume t.now task t.state).next with
  | ended result => exact same
  | wait due work =>
    have kept : (t.others task).map
        (fun other => if other.id = task.id then (⟨task.id, due, work⟩ : Task τ) else other) =
        t.others task := by
      refine (List.map_congr_left fun other mem => ?_).trans (List.map_id _)
      exact if_neg (mem_others.mp mem).2
    have replaced := (tasks_split numbered mem).map
      fun other => if other.id = task.id then (⟨task.id, due, work⟩ : Task τ) else other
    rw [List.map_cons, if_pos rfl, kept] at replaced
    exact replaced.trans (same.cons _)

/-- A task that has left its result is there no longer. -/
theorem Retired.differs (retired : t.Retired) {result : ρ} (left : t.resultOf? number = some result)
    (mem : task ∈ t.tasks) : task.id ≠ number := by
  obtain ⟨entry, found, _⟩ := Option.map_eq_some_iff.mp left
  have same : entry.id = number := by simpa using List.find?_some found
  exact same ▸ retired.gone entry (List.mem_of_find?_eq_some found) task mem

/-- What a task has left stays. -/
theorem Retired.resultOf?_fire (retired : t.Retired) {result : ρ}
    (left : t.resultOf? number = some result) (mem : task ∈ t.tasks) :
    (t.fire rules task).resultOf? number = some result := by
  have differs := retired.differs left mem
  have ends : (t.fire rules task).ended = _ := ended_fire t rules
  rw [resultOf?, ends]
  cases (rules.resume t.now task t.state).next with
  | wait due work => exact left
  | ended other =>
    rw [List.find?_cons_of_neg (by simpa using differs)]
    exact left

/-- A task that ends leaves its result. -/
theorem resultOf?_fire {result : ρ}
    (ends : (rules.resume t.now task t.state).next = .ended result) :
    (t.fire rules task).resultOf? task.id = some result := by
  rw [resultOf?, ended_fire, ends]
  simp

end Timeline

end Schedule

namespace Demo

open World (rules)

abbrev Task := Schedule.Task (Work Simulated)

/-- The task that publishes the next round. -/
def Plan.publication (p : Plan) (number : Nat) : Task :=
  ⟨number, some p.publishDelay, .publishing Simulated.draw⟩

/-- A publication may take its turn once it is due. -/
theorem Plan.isReady_publication (p : Plan) (number : Nat) (t : Timeline) :
    t.isReady rules (p.publication number) = decide (p.publishDelay ≤ t.now) := by
  simp [Schedule.Timeline.isReady, publication, World.rules, World.woken]

/-- A task that is due now may take its turn. -/
theorem isReady_now (t : Timeline) (number : Nat) (work : Work Simulated) :
    t.isReady rules ⟨number, some t.now, work⟩ = true := by
  simp [Schedule.Timeline.isReady]

/-- The tasks of the timeline are the session's `own` and publications of these `numbers`. -/
structure Scheduled (p : Plan) (own : List Task) (numbers : List Nat) (t : Timeline) : Prop where
  numbered : t.Numbered
  retired : t.Retired
  tasks : t.tasks.Perm (own ++ numbers.map p.publication)

namespace Scheduled

variable {p : Plan} {own rest : List Task} {numbers : List Nat} {t : Timeline}
  {task : Task} {number : Nat}

theorem mem_iff (scheduled : Scheduled p own numbers t) :
    task ∈ t.tasks ↔ task ∈ own ∨ ∃ number ∈ numbers, p.publication number = task := by
  rw [scheduled.tasks.mem_iff, List.mem_append, List.mem_map]

/-- Neither the state nor the clock matters. -/
theorem within (scheduled : Scheduled p own numbers t) (state : World Simulated) (now : Nat) :
    Scheduled p own numbers { t with state, now } := by
  obtain ⟨numbered, ⟨once, given, gone⟩, tasks⟩ := scheduled
  exact ⟨numbered, ⟨once, given, gone⟩, tasks⟩

theorem start (scheduled : Scheduled p [] numbers t) (e : Errand) :
    Scheduled p [⟨t.issued, some t.now, .errand e⟩] numbers (t.start e) := by
  refine ⟨Schedule.Timeline.numbered_spawn scheduled.numbered _ _,
    scheduled.retired.spawn _ _, ?_⟩
  exact (scheduled.tasks.append_right _).trans List.perm_append_comm

/-- A turn of the session's own leaves what the turn goes on with and starts. -/
theorem fire (scheduled : Scheduled p own numbers t) (split : own.Perm (task :: rest))
    (after : List Task) (new : List Nat)
    (leaves : ((t.state.run t.now task.work).next.tasks task.id ++
      Schedule.Timeline.numberFrom t.issued (t.state.run t.now task.work).spawned).Perm
        (after ++ new.map p.publication)) :
    Scheduled p (after ++ rest) (numbers ++ new) (t.fire rules task) := by
  have mem : task ∈ t.tasks :=
    scheduled.mem_iff.mpr (.inl (split.mem_iff.mpr List.mem_cons_self))
  refine ⟨Schedule.Timeline.numbered_fire scheduled.numbered task,
    scheduled.retired.fire scheduled.numbered mem, ?_⟩
  have turned : (t.fire rules task).tasks.Perm _ :=
    Schedule.Timeline.tasks_fire scheduled.numbered
      (scheduled.tasks.trans (split.append_right _))
  rw [List.map_append, ← List.append_assoc]
  generalize numbers.map p.publication = later at turned ⊢
  refine turned.trans ?_
  calc
    _ ++ (rest ++ later) ++ _ = _ ++ ((rest ++ later) ++ _) := List.append_assoc _ _ _
    List.Perm _ (_ ++ (_ ++ (rest ++ later))) := List.perm_append_comm.append_left _
    _ = (_ ++ _) ++ (rest ++ later) := (List.append_assoc _ _ _).symm
    List.Perm _ ((after ++ new.map p.publication) ++ (rest ++ later)) := leaves.append_right _
    _ = after ++ (new.map p.publication ++ (rest ++ later)) := List.append_assoc _ _ _
    List.Perm _ (after ++ ((rest ++ later) ++ new.map p.publication)) :=
      List.perm_append_comm.append_left _
    _ = after ++ rest ++ later ++ new.map p.publication := by simp only [List.append_assoc]

/-- The session's task waits for something else. -/
theorem waits (scheduled : Scheduled p own numbers t) (split : own.Perm (task :: rest))
    {due : Option Nat} {work : Work Simulated}
    (next : (t.state.run t.now task.work).next = .wait due work)
    (alone : (t.state.run t.now task.work).spawned = []) :
    Scheduled p (⟨task.id, due, work⟩ :: rest) numbers (t.fire rules task) := by
  have left := scheduled.fire split [⟨task.id, due, work⟩] [] (List.Perm.of_eq ?_)
  · rwa [List.append_nil] at left
  · rw [next, alone]
    rfl

/-- The session's task ends. -/
theorem ends (scheduled : Scheduled p own numbers t) (split : own.Perm (task :: rest))
    {reply : Reply} (next : (t.state.run t.now task.work).next = .ended reply)
    (alone : (t.state.run t.now task.work).spawned = []) :
    Scheduled p rest numbers (t.fire rules task) := by
  have left := scheduled.fire split [] [] (List.Perm.of_eq ?_)
  · rwa [List.append_nil] at left
  · rw [next, alone]
    rfl

/-- A publication that takes its turn is gone. -/
theorem publish (scheduled : Scheduled p own numbers t) (due : number ∈ numbers) :
    Scheduled p own (numbers.erase number) (t.fire rules (p.publication number)) := by
  have mem : p.publication number ∈ t.tasks := scheduled.mem_iff.mpr (.inr ⟨number, due, rfl⟩)
  refine ⟨Schedule.Timeline.numbered_fire scheduled.numbered _,
    scheduled.retired.fire scheduled.numbered mem, ?_⟩
  have split : (own ++ numbers.map p.publication).Perm
      (p.publication number :: (own ++ (numbers.erase number).map p.publication)) :=
    (((List.perm_cons_erase due).map p.publication).append_left own).trans List.perm_middle
  have turned : (t.fire rules (p.publication number)).tasks.Perm _ :=
    Schedule.Timeline.tasks_fire scheduled.numbered (scheduled.tasks.trans split)
  refine turned.trans (List.Perm.of_eq ?_)
  exact List.append_nil _

end Scheduled

end Demo

end RandomBeacon
