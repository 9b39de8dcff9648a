import RandomBeacon.Proofs.Schedule

/-!
A task that has a timeline to itself. Nothing happens but its own turns, so waiting for its end goes
from one turn to the next (`Leads.turn`), and where that comes to the end of the task within the
fuel there is, waiting comes to it (`await_of_leads`).
-/

namespace RandomBeacon.Schedule.Timeline

variable {σ τ ρ : Type} {rules : Rules σ τ ρ} {t u v : Timeline σ τ ρ} {task : Task τ} {id : Nat}

/-- Waiting for the end of a task comes from `t` to `u` in at most `n` rounds. -/
def Leads (rules : Rules σ τ ρ) (id n : Nat) (t u : Timeline σ τ ρ) : Prop :=
  ∃ m ≤ n, ∀ fuel,
    t.runUntil rules (fun t => !t.isLive id) none (m + fuel) =
      u.runUntil rules (fun t => !t.isLive id) none fuel

theorem Leads.trans {m n : Nat} (first : Leads rules id m t u) (second : Leads rules id n u v) :
    Leads rules id (m + n) t v := by
  obtain ⟨k, le, run⟩ := first
  obtain ⟨l, le', run'⟩ := second
  refine ⟨k + l, Nat.add_le_add le le', fun fuel => ?_⟩
  rw [Nat.add_assoc, run, run']

theorem fire_wait {state : σ} {due : Option Nat} {work : τ} (alone : t.tasks = [task])
    (turn : rules.resume t.now task t.state = ⟨state, .wait due work, []⟩) :
    t.fire rules task = { t with state, tasks := [⟨task.id, due, work⟩] } := by
  rw [fire_eq, turn]
  simp [settleTask, spawnAll, alone]

theorem fire_ended {state : σ} {result : ρ} (alone : t.tasks = [task])
    (turn : rules.resume t.now task t.state = ⟨state, .ended result, []⟩) :
    t.fire rules task =
      { t with state, tasks := [], ended := ⟨task.id, t.now, result⟩ :: t.ended } := by
  rw [fire_eq, turn]
  simp [settleTask, spawnAll, alone]

section Rounds

variable (live : t.isLive id = true)
include live

theorem Leads.fire (ready : t.ready? rules = some task) :
    Leads rules id 1 t (t.fire rules task) := by
  refine ⟨1, Nat.le_refl _, fun fuel => ?_⟩
  rw [Nat.add_comm, runUntil, live]
  simp [ready]

theorem Leads.clock {instant : Nat} (idle : t.ready? rules = none)
    (next : t.nextInstant? = some instant) :
    Leads rules id 1 t { t with now := max t.now instant } := by
  refine ⟨1, Nat.le_refl _, fun fuel => ?_⟩
  rw [Nat.add_comm, runUntil, live]
  simp [idle, next, Option.filter]

end Rounds

/-- A task that is alone takes its next turn at its instant. -/
theorem Leads.turn {due : Nat} {work : τ} (alone : t.tasks = [⟨id, some due, work⟩])
    (later : t.now ≤ due) (asleep : rules.woken t.state work = false) :
    Leads rules id 2 t
      (({ t with now := due } : Timeline σ τ ρ).fire rules ⟨id, some due, work⟩) := by
  have live : t.isLive id = true := by simp [isLive, alone]
  have up : ({ t with now := due } : Timeline σ τ ρ).ready? rules = some ⟨id, some due, work⟩ := by
    simp [ready?, isReady, alone]
  have fires := Leads.fire (t := { t with now := due }) live up
  rcases Nat.lt_or_eq_of_le later with before | rfl
  · have waits : t.ready? rules = none := by simp [ready?, isReady, alone, asleep, before]
    have next : t.nextInstant? = some due := by simp [nextInstant?, alone]
    have elapses := Leads.clock live waits next
    rw [Nat.max_eq_right later] at elapses
    exact elapses.trans fires
  · obtain ⟨m, le, run⟩ := fires
    exact ⟨m, by omega, run⟩

/-- What the turn that task `id` took at `now` has left, beside what had `ended` before: the task
alone, or nothing. -/
def Remains (id now : Nat) (ended : List (Ended ρ)) (t : Timeline σ τ ρ) : Next τ ρ → Prop
  | .wait due work => t.tasks = [⟨id, due, work⟩] ∧ t.ended = ended
  | .ended result => t.tasks = [] ∧ t.ended = ⟨id, now, result⟩ :: ended

/-- A turn in which a task that is alone starts no other leaves it waiting or ended. -/
theorem Leads.goes {due : Nat} {work : τ} (alone : t.tasks = [⟨id, some due, work⟩])
    (later : t.now ≤ due) (asleep : rules.woken t.state work = false)
    (lone : (rules.resume due ⟨id, some due, work⟩ t.state).spawned = []) :
    ∃ u, Leads rules id 2 t u ∧ u.now = due ∧
      u.state = (rules.resume due ⟨id, some due, work⟩ t.state).state ∧
      u.Remains id due t.ended (rules.resume due ⟨id, some due, work⟩ t.state).next := by
  refine ⟨_, .turn alone later asleep, now_fire rules _ _, state_fire rules _ _, ?_⟩
  rw [fire_eq, lone, spawnAll, List.foldl_nil]
  cases (rules.resume due ⟨id, some due, work⟩ t.state).next <;>
    simp [settleTask, Remains, alone]

/-- Waiting for a task comes to the timeline that is left without tasks. -/
theorem await_of_leads {n fuel : Nat} (leads : Leads rules id n t u) (enough : n ≤ fuel)
    (empty : u.tasks = []) : t.await rules fuel id = u := by
  obtain ⟨m, le, run⟩ := leads
  have dead : u.isLive id = false := by simp [isLive, empty]
  have still : u.ready? rules = none := by simp [ready?, empty]
  have stops (k : Nat) : u.runUntil rules (fun t => !t.isLive id) none k = u := by
    cases k with
    | zero => rfl
    | succ k => simp [runUntil, dead]
  have came : t.runUntil rules (fun t => !t.isLive id) none fuel = u := by
    rw [show fuel = m + (fuel - m) by omega, run, stops]
  rw [await, came]
  cases fuel with
  | zero => rfl
  | succ fuel => simp [settle, still]

end RandomBeacon.Schedule.Timeline
