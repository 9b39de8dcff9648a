import Mathlib.Data.List.Induction
import RandomBeacon.Proofs.Generations
import RandomBeacon.Proofs.Replay

/-!
Runs told as lists of actions. An action names what happens next, and the timeline after it is a
function of it (`Timeline.act`), so two runs can be compared and what happened in a run can be
written down (`recorded`). Every step of a run is an allowed action (`Step.action`) and the other
way round (`step_act`), so the states that a run reaches are those that allowed lists of actions
lead to (`reachable_iff_runs`). What every action carries on together with what is written down of
it, a run carries on (`Runs.carries`), and so it is within a session (`Runs.carries_within`).
-/

namespace RandomBeacon

/-- What happens next in a run: a task takes its turn, or the surroundings do something. -/
inductive Action (π : Type) where
  | turn (number : Nat)
  | pass (instant : Nat)
  | ask (errand : Errand)
  | cancel (id : RequestId)
  | listen (handler : ClientHandler)
  | unlisten (number : Nat)
  | publish (r : Round)
  /-- The provider changes by itself. -/
  | adjust (provider : π)

namespace World.Timeline

variable {π : Type}

/-- The task of this number. -/
def task? (t : Timeline π) (number : Nat) : Option (Schedule.Task (Work π)) :=
  t.tasks.find? (·.id = number)

theorem task?_eq_some {t : Timeline π} (numbered : t.Numbered) {task : Schedule.Task (Work π)} :
    t.task? task.id = some task ↔ task ∈ t.tasks := by
  constructor
  · exact List.mem_of_find?_eq_some
  · intro mem
    have distinct := numbered.1
    unfold task?
    generalize t.tasks = tasks at mem distinct
    induction tasks with
    | nil => cases mem
    | cons first rest ih =>
      simp only [List.map_cons, List.nodup_cons] at distinct
      rcases List.mem_cons.mp mem with rfl | later
      · exact List.find?_cons_of_pos (by simp)
      · have differs : first.id ≠ task.id :=
          fun same => distinct.1 (List.mem_map.mpr ⟨task, later, same.symm⟩)
        rw [List.find?_cons_of_neg (by simpa using differs)]
        exact ih later distinct.2

theorem task?_spec {t : Timeline π} {number : Nat} {task : Schedule.Task (Work π)}
    (found : t.task? number = some task) : task ∈ t.tasks ∧ task.id = number :=
  ⟨List.mem_of_find?_eq_some found, by simpa using List.find?_some found⟩

/-- The work whose turn an action is, if it is one. -/
def work? (t : Timeline π) : Action π → Option (Work π)
  | .turn number => (t.task? number).map (·.work)
  | _ => none

/-- What an action is to the session. -/
def event (t : Timeline π) (a : Action π) : Event :=
  (t.work? a).elim .serve (·.event t.state)

theorem event_turn {t : Timeline π} {number : Nat} {task : Schedule.Task (Work π)}
    (found : t.task? number = some task) : t.event (.turn number) = task.work.event t.state := by
  rw [event, work?, found]
  rfl

variable [Provider π]

/-- Takes an action. A turn that no task can take changes nothing. -/
def act (t : Timeline π) : Action π → Timeline π
  | .turn number => (t.task? number).elim t (t.fire rules)
  | .pass instant => { t with now := instant }
  | .ask errand => t.start errand
  | .cancel id => t.alter fun w => w.withClient (w.client.cancel id).2
  | .listen handler => t.alter fun w => { w with scene := w.scene.listen handler }
  | .unlisten number => t.alter fun w => w.withClient (w.client.unsubscribeListener number).2
  | .publish r => t.alter fun w => (w.publish r).2
  | .adjust provider => t.alter fun w => { w with provider }

/-- Takes actions one after the other. -/
def play (t : Timeline π) (actions : List (Action π)) : Timeline π := actions.foldl act t

/-- Whether an action may happen next. -/
def Allows (e : Surroundings π) (t : Timeline π) : Action π → Prop
  | .turn number => ∃ task, t.task? number = some task ∧ t.isReady rules task = true ∧
      e.permits t.state task.work
  | .pass instant => t.now ≤ instant
  | .unlisten number => number ∈ t.state.scene.host.listeners.map (·.2)
  | .adjust provider => e.adjusts t.state.provider provider
  | .ask _ | .cancel _ | .listen _ | .publish _ => True

/-- Whether actions may happen one after the other. -/
def Performs (e : Surroundings π) : Timeline π → List (Action π) → Prop
  | _, [] => True
  | t, a :: rest => t.Allows e a ∧ Performs e (t.act a) rest

variable {e : Surroundings π} {s t : Timeline π} {a : Action π} {actions more : List (Action π)}

@[simp] theorem act_turn {number : Nat} {task : Schedule.Task (Work π)}
    (found : t.task? number = some task) : t.act (.turn number) = t.fire rules task := by
  rw [act, found]
  rfl

section Turn

variable {number : Nat} {task : Schedule.Task (Work π)} (found : t.task? number = some task)
include found

/-- After its turn a task waits again or is gone. -/
theorem task?_turn (numbered : t.Numbered) : (t.act (.turn number)).task? number =
    match (rules.resume t.now task t.state).next with
    | .wait due work => some ⟨number, due, work⟩
    | .ended _ => none := by
  obtain ⟨mem, rfl⟩ := task?_spec found
  have fired := Schedule.Timeline.find?_fire_self t rules numbered mem
  rw [act_turn found]
  cases next : (rules.resume t.now task t.state).next <;> rwa [next] at fired

theorem state_turn :
    (t.act (.turn number)).state = (rules.resume t.now task t.state).state := by
  rw [act_turn found, Schedule.Timeline.state_fire]

theorem ended_turn : (t.act (.turn number)).ended =
    match (rules.resume t.now task t.state).next with
    | .wait _ _ => t.ended
    | .ended result => ⟨number, t.now, result⟩ :: t.ended := by
  obtain ⟨_, rfl⟩ := task?_spec found
  have fired : (t.fire rules task).ended = _ := Schedule.Timeline.ended_fire t rules
  rw [act_turn found]
  cases next : (rules.resume t.now task t.state).next <;> rwa [next] at fired

end Turn

/-- Where all turns are permitted, a task that is ready may take its turn. -/
theorem allows_turn {number : Nat} (all : ∀ w work, e.permits w work)
    (up : (t.task? number).any (t.isReady rules) = true) : t.Allows e (.turn number) := by
  cases found : t.task? number with
  | none =>
    rw [found] at up
    cases up
  | some task =>
    rw [found] at up
    exact ⟨task, found, up, all _ _⟩

/-- An allowed action is a step. -/
theorem step_act (allowed : t.Allows e a) : Step e t (t.act a) := by
  cases a with
  | turn number =>
    obtain ⟨task, found, ready, permitted⟩ := allowed
    rw [act_turn found]
    exact .turn task (task?_spec found).1 ready permitted
  | pass instant => exact .pass instant allowed
  | ask errand => exact .ask errand
  | cancel id => exact .cancel id
  | listen handler => exact .listen handler
  | unlisten number => exact .unlisten number allowed
  | publish r => exact .publish r
  | adjust provider => exact .adjust provider allowed

/-- A step is an allowed action. -/
theorem Step.action (step : Step e s t) (numbered : s.Numbered) :
    ∃ a, s.Allows e a ∧ t = s.act a := by
  cases step with
  | turn task mem ready permitted =>
    have found := (task?_eq_some numbered).mpr mem
    exact ⟨.turn task.id, ⟨task, found, ready, permitted⟩, (act_turn found).symm⟩
  | pass instant later => exact ⟨.pass instant, later, rfl⟩
  | ask errand => exact ⟨.ask errand, trivial, rfl⟩
  | cancel id => exact ⟨.cancel id, trivial, rfl⟩
  | listen handler => exact ⟨.listen handler, trivial, rfl⟩
  | unlisten number known => exact ⟨.unlisten number, known, rfl⟩
  | publish r => exact ⟨.publish r, trivial, rfl⟩
  | adjust provider adjusts => exact ⟨.adjust provider, adjusts, rfl⟩

theorem play_append (t : Timeline π) (actions more : List (Action π)) :
    t.play (actions ++ more) = (t.play actions).play more :=
  List.foldl_append

theorem performs_append :
    t.Performs e (actions ++ more) ↔ t.Performs e actions ∧ (t.play actions).Performs e more := by
  induction actions generalizing t with
  | nil => simp [Performs, play]
  | cons a rest ih =>
    have played : t.play (a :: rest) = (t.act a).play rest := rfl
    rw [List.cons_append, Performs, ih, Performs, and_assoc, played]

/-- A run from `s` to `t`, told as a list of actions. -/
structure Runs (e : Surroundings π) (s : Timeline π) (actions : List (Action π)) (t : Timeline π) :
    Prop where
  performs : s.Performs e actions
  leads : s.play actions = t

theorem Runs.append {u : Timeline π} (before : Runs e s actions t) (after : Runs e t more u) :
    Runs e s (actions ++ more) u := by
  obtain ⟨performs, rfl⟩ := before
  obtain ⟨performs', rfl⟩ := after
  exact ⟨performs_append.mpr ⟨performs, performs'⟩, by simp [play]⟩

theorem Runs.split {first rest : List (Action π)} (run : Runs e s (first ++ rest) t) :
    Runs e s first (s.play first) ∧ Runs e (s.play first) rest t := by
  obtain ⟨performs, rfl⟩ := run
  obtain ⟨before, after⟩ := performs_append.mp performs
  exact ⟨⟨before, rfl⟩, ⟨after, by simp [play]⟩⟩

theorem Runs.reachable (run : Runs e s actions t) : Reachable e s t := by
  obtain ⟨performs, rfl⟩ := run
  induction actions generalizing s with
  | nil => exact .start
  | cons a rest ih =>
    obtain ⟨allowed, performs⟩ := performs
    exact (Reachable.start.next (step_act allowed)).trans (ih performs)

theorem Reachable.runs (run : Reachable e s t) (numbered : s.Numbered) :
    ∃ actions, Runs e s actions t := by
  induction run with
  | start => exact ⟨[], trivial, rfl⟩
  | next run step ih =>
    obtain ⟨actions, before⟩ := ih
    obtain ⟨a, allowed, rfl⟩ := step.action (run.numbered numbered)
    exact ⟨actions ++ [a], before.append ⟨⟨allowed, trivial⟩, rfl⟩⟩

/-- The states that a run reaches are those that allowed lists of actions lead to. -/
theorem reachable_iff_runs (numbered : s.Numbered) :
    Reachable e s t ↔ ∃ actions, Runs e s actions t :=
  ⟨fun run => run.runs numbered, fun ⟨_, run⟩ => run.reachable⟩

section Carries

variable {β : Type} (record : Timeline π → Action π → List β) {P : List β → Timeline π → Prop}
  {past : List β}

/-- What every action carries on, together with what is written down of it, a run carries on. -/
theorem Runs.carries (run : Runs e s actions t) (sound : Sound s) (start : P past s)
    (step : ∀ past u a, Allows e u a → Sound u → P past u → P (past ++ record u a) (u.act a)) :
    P (past ++ recorded act record actions s) t := by
  obtain ⟨performs, rfl⟩ := run
  induction actions generalizing s past with
  | nil =>
    rw [recorded, List.append_nil]
    exact start
  | cons a rest ih =>
    obtain ⟨allowed, performs⟩ := performs
    have later := ih ((step_act allowed).sound sound) (step past s a allowed sound start) performs
    rwa [List.append_assoc] at later

/-- What every action carries on that does not end the session, a run that does not end it does. -/
theorem Runs.carries_within (run : Runs e s actions t) (sound : Sound s)
    (lasts : t.client.session.generation = s.client.session.generation) (start : P past s)
    (step : ∀ past u a, Allows e u a → Sound u →
      (u.act a).client.session.generation = u.client.session.generation → P past u →
      P (past ++ record u a) (u.act a)) :
    P (past ++ recorded act record actions s) t := by
  -- generations only grow, so each state on the way is still of this one
  have carried := run.carries record (P := fun past u =>
    s.client.session.generation ≤ u.client.session.generation ∧
    (u.client.session.generation = s.client.session.generation → P past u))
    sound ⟨Nat.le_refl _, fun _ => start⟩ ?_
  · exact carried.2 lasts
  · rintro past u a allowed sound ⟨begun, holds⟩
    have later := (step_act allowed).generation_le sound
    refine ⟨Nat.le_trans begun later, fun same => ?_⟩
    have here : u.client.session.generation = s.client.session.generation := by omega
    exact step past u a allowed sound (same.trans here.symm) (holds here)

end Carries

/-- What every action carries on, told with the actions that have been taken, a run carries on. -/
theorem Runs.carries_play {P : List (Action π) → Timeline π → Prop} (run : Runs e s actions t)
    (sound : Sound s) (start : P [] s)
    (step : ∀ past u a, u = s.play past → Allows e u a → Sound u → P past u →
      P (past ++ [a]) (u.act a)) : P actions t := by
  obtain ⟨performs, rfl⟩ := run
  induction actions using List.reverseRecOn with
  | nil => exact start
  | append_singleton before a ih =>
    obtain ⟨early, allowed, _⟩ := performs_append.mp performs
    have here : Runs e s before (s.play before) := ⟨early, rfl⟩
    rw [play_append]
    exact step before _ a rfl allowed (here.reachable.sound sound) (ih early)

/-- What an allowed action does to the session is the course of its event. -/
theorem act_course (allowed : t.Allows e a) (sound : Sound t) :
    ∃ new rest, t.stages.Perm ((t.event a).stage?.toList ++ rest) ∧
      (t.act a).stages.Perm (new ++ rest) ∧ Course t.client (t.event a) (t.act a).client new := by
  have quiet (stages : (t.act a).stages = t.stages) (serves : t.event a = .serve)
      (same : (t.act a).client.standing = t.client.standing) :
      ∃ new rest, t.stages.Perm ((t.event a).stage?.toList ++ rest) ∧
        (t.act a).stages.Perm (new ++ rest) ∧
        Course t.client (t.event a) (t.act a).client new := by
    rw [serves]
    exact ⟨[], t.stages, .refl _, .of_eq stages, .serves same⟩
  cases a with
  | turn number =>
    obtain ⟨task, found, _, _⟩ := allowed
    obtain ⟨new, rest, before, after, move⟩ := fire_move sound.numbered (task?_spec found).1
    rw [act_turn found, event_turn found]
    exact ⟨new, rest, before, after, move.course (sound.aligned.perm before)⟩
  | ask errand => exact quiet (stages_start errand t) rfl rfl
  | pass | cancel | adjust => exact quiet rfl rfl rfl
  | listen handler => exact quiet rfl rfl (Scene.listen_standing _ handler)
  | unlisten number => exact quiet rfl rfl (Client.unsubscribeListener_standing number _)
  | publish r => exact quiet rfl rfl (publish_standing r t.state)

end World.Timeline

end RandomBeacon
