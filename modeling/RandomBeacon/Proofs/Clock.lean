import RandomBeacon.Proofs.Schedule

/-!
When the clock of a timeline may move: nothing can run, and no task is to be woken earlier
(`Idle`). So no instant that a task waits for is passed over (`Punctual`). Whatever order tasks take
their turns in, what they do while the clock goes by this rule is a history of turns and of waits
(`Elapses`); running a timeline until something holds is one (`elapses_runUntil`).
-/

namespace RandomBeacon.Schedule.Timeline

variable {σ τ ρ : Type}

/-- The clock may move on to this instant. -/
structure Idle (rules : Rules σ τ ρ) (t : Timeline σ τ ρ) (instant : Nat) : Prop where
  later : t.now ≤ instant
  still : ∀ task ∈ t.tasks, t.isReady rules task = false
  next : ∀ task ∈ t.tasks, ∀ due, task.due = some due → instant ≤ due

/-- No task waits for an instant that has passed. -/
def Punctual (t : Timeline σ τ ρ) : Prop :=
  ∀ task ∈ t.tasks, ∀ due, task.due = some due → t.now ≤ due

/-- Tasks that have ended are there no longer, and their numbers are not given again. -/
structure Retired (t : Timeline σ τ ρ) : Prop where
  once : (t.ended.map (·.id)).Nodup
  given : ∀ entry ∈ t.ended, entry.id < t.issued
  gone : ∀ entry ∈ t.ended, ∀ task ∈ t.tasks, task.id ≠ entry.id

/-- What comes about by turns of tasks that are ready while the clock goes by its rule. -/
inductive Elapses (rules : Rules σ τ ρ) (t : Timeline σ τ ρ) : Timeline σ τ ρ → Prop
  | start : Elapses rules t t
  | turn {u : Timeline σ τ ρ} (before : Elapses rules t u) (task : Task τ) (mem : task ∈ u.tasks)
      (ready : u.isReady rules task = true) : Elapses rules t (u.fire rules task)
  | pass {u : Timeline σ τ ρ} (before : Elapses rules t u) (instant : Nat)
      (idle : u.Idle rules instant) : Elapses rules t { u with now := instant }

variable {rules : Rules σ τ ρ} {t u v : Timeline σ τ ρ} {task : Task τ} {instant : Nat}

theorem idle_iff : t.Idle rules instant ↔ t.now ≤ instant ∧
    ∀ task ∈ t.tasks, t.isReady rules task = false ∧ task.due.all (instant ≤ ·) = true := by
  constructor
  · rintro ⟨later, still, next⟩
    refine ⟨later, fun task mem => ⟨still task mem, ?_⟩⟩
    cases is : task.due with
    | none => rfl
    | some due => exact decide_eq_true (next task mem due is)
  · rintro ⟨later, each⟩
    refine ⟨later, fun task mem => (each task mem).1, ?_⟩
    intro task mem due is
    have all := (each task mem).2
    rw [is] at all
    exact of_decide_eq_true all

instance : Decidable (t.Idle rules instant) := decidable_of_iff _ idle_iff.symm

section Kept

theorem Punctual.spawn (punctual : t.Punctual) {due : Nat} (later : t.now ≤ due) (work : τ) :
    (t.spawn (some due) work).Punctual := by
  intro task mem instant waits
  rcases List.mem_append.mp mem with old | new
  · exact punctual task old instant waits
  · obtain rfl := List.mem_singleton.mp new
    obtain rfl := Option.some.inj waits
    exact later

/-- A turn after which every wait is for the present or the future keeps the timeline punctual. -/
theorem Punctual.fire (punctual : t.Punctual)
    (waits : ∀ due work, (rules.resume t.now task t.state).next = .wait (some due) work →
      t.now ≤ due)
    (spawns : ∀ due work, (some due, work) ∈ (rules.resume t.now task t.state).spawned →
      t.now ≤ due) : (t.fire rules task).Punctual := by
  intro other mem due is
  rw [now_fire]
  rcases mem_fire_waits mem with ⟨old, _⟩ | ⟨_, next⟩ | ⟨_, new⟩
  · exact punctual other old due is
  · exact waits due other.work (is ▸ next)
  · exact spawns due other.work (is ▸ new)

theorem Punctual.pass (idle : t.Idle rules instant) :
    ({ t with now := instant } : Timeline σ τ ρ).Punctual :=
  idle.next

theorem Retired.spawn (retired : t.Retired) (due : Option Nat) (work : τ) :
    (t.spawn due work).Retired := by
  obtain ⟨once, given, gone⟩ := retired
  refine ⟨once, fun entry mem => Nat.lt_succ_of_lt (given entry mem), ?_⟩
  intro entry mem task inside
  rcases List.mem_append.mp inside with old | new
  · exact gone entry mem task old
  · obtain rfl := List.mem_singleton.mp new
    exact Nat.ne_of_gt (given entry mem)

theorem Retired.fire (retired : t.Retired) (numbered : t.Numbered) (mem : task ∈ t.tasks) :
    (t.fire rules task).Retired := by
  obtain ⟨once, given, gone⟩ := retired
  have issued := issued_fire rules t task
  have begun := numbered.2 task mem
  have past : ∀ entry ∈ t.ended, ∀ other ∈ (t.fire rules task).tasks, other.id ≠ entry.id := by
    intro entry old other inside
    have known := given entry old
    rcases mem_fire_waits inside with ⟨before, _⟩ | ⟨same, _⟩ | ⟨new, _⟩
    · exact gone entry old other before
    · exact same ▸ gone entry old task mem
    · omega
  have ends : (t.fire rules task).ended = _ := ended_fire t rules
  cases next : (rules.resume t.now task t.state).next with
  | wait due work =>
    rw [next] at ends
    constructor
    · rwa [ends]
    · rw [ends]
      exact fun entry old => Nat.lt_of_lt_of_le (given entry old) issued
    · rwa [ends]
  | ended result =>
    rw [next] at ends
    constructor
    · rw [ends, List.map_cons, List.nodup_cons]
      refine ⟨?_, once⟩
      intro before
      obtain ⟨entry, old, same⟩ := List.mem_map.mp before
      exact gone entry old task mem same.symm
    · intro entry ended
      rw [ends] at ended
      rcases List.mem_cons.mp ended with rfl | old
      · exact Nat.lt_of_lt_of_le begun issued
      · exact Nat.lt_of_lt_of_le (given entry old) issued
    · intro entry ended other inside
      rw [ends] at ended
      rcases List.mem_cons.mp ended with rfl | old
      · rcases mem_fire_waits inside with ⟨_, differs⟩ | ⟨_, waits⟩ | ⟨new, _⟩
        · exact differs
        · rw [next] at waits
          cases waits
        · exact Nat.ne_of_gt (Nat.lt_of_lt_of_le begun new)
      · exact past entry old other inside

/-- A task that has ended has ended once. -/
theorem Retired.unique (retired : t.Retired) {entry other : Ended ρ} (mem : entry ∈ t.ended)
    (inside : other ∈ t.ended) (same : entry.id = other.id) : entry = other :=
  List.inj_on_of_nodup_map retired.once mem inside same

end Kept

section Running

theorem Elapses.trans (before : Elapses rules t u) (after : Elapses rules u v) :
    Elapses rules t v := by
  induction after with
  | start => exact before
  | turn _ task mem ready ih => exact .turn ih task mem ready
  | pass _ instant idle ih => exact .pass ih instant idle

theorem elapses_fire (up : t.ready? rules = some task) : Elapses rules t (t.fire rules task) :=
  .turn .start task (List.mem_of_find?_eq_some up) (List.find?_some up)

/-- Running whatever can run at an instant takes no time. -/
theorem elapses_settle (fuel : Nat) : Elapses rules t (t.settle rules fuel) := by
  induction fuel generalizing t with
  | zero => exact .start
  | succ fuel ih =>
    unfold settle
    cases up : t.ready? rules with
    | none => exact .start
    | some task => exact (elapses_fire up).trans ih

/-- Where nothing can run the clock may move to an instant that no wait ends before. -/
theorem idle_of_least (waits : t.ready? rules = none) {instant : Nat}
    (least : ∀ due ∈ t.tasks.filterMap (·.due), instant ≤ due) :
    t.Idle rules (max t.now instant) := by
  have still : ∀ task ∈ t.tasks, t.isReady rules task = false := by
    intro task mem
    simpa using List.find?_eq_none.mp waits task mem
  refine ⟨Nat.le_max_left _ _, still, ?_⟩
  intro task mem due is
  apply Nat.max_le.mpr
  constructor
  · have ahead := still task mem
    simp only [isReady, is, Option.any_some, Bool.or_eq_false_iff, decide_eq_false_iff_not] at ahead
    omega
  · exact least due (List.mem_filterMap.mpr ⟨task, mem, is⟩)

/-- Running a timeline takes turns of tasks that are ready and lets the clock go by its rule. -/
theorem elapses_runUntil (enough : Timeline σ τ ρ → Bool) (limit : Option Nat) (fuel : Nat) :
    Elapses rules t (t.runUntil rules enough limit fuel) := by
  induction fuel generalizing t with
  | zero => exact .start
  | succ fuel ih =>
    have least {instant : Nat} (next : t.nextInstant? = some instant) :
        ∀ due ∈ t.tasks.filterMap (·.due), instant ≤ due :=
      (List.min?_eq_some_iff.mp next).2
    unfold runUntil
    by_cases done : enough t = true
    · rw [if_pos done]
      exact .start
    · rw [if_neg done]
      cases up : t.ready? rules with
      | some task => exact (elapses_fire up).trans ih
      | none =>
        simp only
        cases next : t.nextInstant?.filter (fun instant => limit.all (instant ≤ ·)) with
        | some instant =>
          obtain ⟨first, _⟩ := Option.filter_eq_some_iff.mp next
          exact (Elapses.start.pass _ (idle_of_least up (least first))).trans ih
        | none =>
          refine .pass .start _ (idle_of_least up ?_)
          intro due mem
          cases first : t.nextInstant? with
          | none =>
            rw [nextInstant?, List.min?_eq_none_iff] at first
            rw [first] at mem
            cases mem
          | some instant =>
            have early := least first due mem
            rw [first] at next
            cases limit with
            | none => cases next
            | some bound =>
              have beyond : bound < instant := by simpa [Option.filter] using next
              exact Nat.le_of_lt (Nat.lt_of_lt_of_le beyond early)

end Running

end RandomBeacon.Schedule.Timeline
