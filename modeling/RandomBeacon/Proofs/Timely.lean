import RandomBeacon.Proofs.Actions
import RandomBeacon.Proofs.Clock

/-!
Runs of a client in which the clock goes by its rule (`Timely`): it moves only when no task can
run, and past no instant that a task waits for. What every action carries on that keeps to the rule,
a timely run carries on (`Runs.carries_timely`). In every run, timely or not, a task ends at most
once (`Reachable.retired`).
-/

namespace RandomBeacon

open Schedule.Timeline (Retired)

namespace World.Timeline

variable {π : Type} [Provider π]

/-- Whether an action keeps to the rule of the clock. -/
def OnTime (t : Timeline π) : Action π → Prop
  | .pass instant => t.Idle rules instant
  | _ => True

/-- Whether actions keep to the rule of the clock, one after the other. -/
def Timely : Timeline π → List (Action π) → Prop
  | _, [] => True
  | t, a :: rest => t.OnTime a ∧ Timely (t.act a) rest

variable {e : Surroundings π} {s t : Timeline π} {a : Action π} {actions : List (Action π)}

section Time

variable {task : Schedule.Task (Work π)}

theorem act_now_turn (t : Timeline π) (number : Nat) : (t.act (.turn number)).now = t.now := by
  cases found : t.task? number with
  | none =>
    rw [act, found]
    rfl
  | some task => rw [act_turn found, Schedule.Timeline.now_fire]

theorem act_now_le (allowed : t.Allows e a) : t.now ≤ (t.act a).now := by
  cases a with
  | turn number => exact Nat.le_of_eq (act_now_turn t number).symm
  | pass instant => exact allowed
  | ask | cancel | listen | unlisten | publish | adjust => exact Nat.le_refl _

/-- No action that keeps to the rule of the clock passes over the instant of a task. -/
theorem act_punctual (timely : t.OnTime a) (mem : task ∈ t.tasks) {due : Nat}
    (is : task.due = some due) (early : t.now ≤ due) : (t.act a).now ≤ due := by
  cases a with
  | turn number =>
    rw [act_now_turn]
    exact early
  | pass instant => exact timely.next task mem due is
  | ask | cancel | listen | unlisten | publish | adjust => exact early

/-- While a task is ready the clock stands. -/
theorem act_still (timely : t.OnTime a) (mem : task ∈ t.tasks)
    (ready : t.isReady rules task = true) : (t.act a).now = t.now := by
  cases a with
  | turn number => exact act_now_turn t number
  | pass instant =>
    rw [timely.still task mem] at ready
    cases ready
  | ask | cancel | listen | unlisten | publish | adjust => rfl

end Time

/-- What every action carries on that keeps to the rule of the clock, together with what is written
down of it, a timely run carries on. -/
theorem Runs.carries_timely {β : Type} (record : Timeline π → Action π → List β)
    {P : List β → Timeline π → Prop} {past : List β} (run : Runs e s actions t)
    (timely : s.Timely actions) (sound : Sound s) (start : P past s)
    (step : ∀ past u a, Allows e u a → u.OnTime a → Sound u → P past u →
      P (past ++ record u a) (u.act a)) :
    P (past ++ recorded act record actions s) t := by
  obtain ⟨performs, rfl⟩ := run
  induction actions generalizing s past with
  | nil =>
    rw [recorded, List.append_nil]
    exact start
  | cons a rest ih =>
    obtain ⟨allowed, performs⟩ := performs
    obtain ⟨punctual, timely⟩ := timely
    have later := ih timely ((step_act allowed).sound sound)
      (step past s a allowed punctual sound start) performs
    rwa [List.append_assoc] at later

theorem timely_append {more : List (Action π)} :
    t.Timely (actions ++ more) ↔ t.Timely actions ∧ (t.play actions).Timely more := by
  induction actions generalizing t with
  | nil => simp [Timely, play]
  | cons a rest ih =>
    have played : t.play (a :: rest) = (t.act a).play rest := rfl
    rw [List.cons_append, Timely, ih, Timely, and_assoc, played]

/-- What comes about while the clock goes by its rule is a timely run, if any task that is ready may
take its turn. -/
theorem timely_of_elapses (all : ∀ w work, e.permits w work) (numbered : s.Numbered)
    (elapses : Schedule.Timeline.Elapses rules s t) :
    ∃ actions, Runs e s actions t ∧ s.Timely actions := by
  induction elapses with
  | start => exact ⟨[], ⟨trivial, rfl⟩, trivial⟩
  | turn _ task mem ready ih =>
    obtain ⟨actions, run, timely⟩ := ih
    have found := (task?_eq_some (run.reachable.numbered numbered)).mpr mem
    refine ⟨actions ++ [.turn task.id], ?_, ?_⟩
    · exact run.append ⟨⟨⟨task, found, ready, all _ _⟩, trivial⟩, act_turn found⟩
    · rw [timely_append, run.leads]
      exact ⟨timely, trivial, trivial⟩
  | pass _ instant idle ih =>
    obtain ⟨actions, run, timely⟩ := ih
    refine ⟨actions ++ [.pass instant], ?_, ?_⟩
    · exact run.append ⟨⟨idle.later, trivial⟩, rfl⟩
    · rw [timely_append, run.leads]
      exact ⟨timely, idle, trivial⟩

/-- Completing an errand is a timely run. -/
theorem timely_complete (all : ∀ w work, e.permits w work) (numbered : t.Numbered)
    (errand : Errand) :
    ∃ actions, Runs e (t.start errand) actions (t.complete errand).2 ∧
      (t.start errand).Timely actions :=
  timely_of_elapses all (Schedule.Timeline.numbered_spawn numbered _ _)
    ((Schedule.Timeline.elapses_runUntil _ _ _).trans (Schedule.Timeline.elapses_settle _))

omit [Provider π] in
theorem retired_fresh (config : Config) (factors : Nat → Binary64) (provider : π)
    (suffixes : Nat → Suffix) : Retired (fresh config factors provider suffixes) :=
  ⟨List.nodup_nil, by rintro entry ⟨⟩, by rintro entry ⟨⟩⟩

theorem Step.retired (step : Step e s t) (numbered : s.Numbered) (retired : s.Retired) :
    t.Retired := by
  cases step with
  | turn task mem => exact Retired.fire retired numbered mem
  | ask errand => exact Retired.spawn retired _ _
  | pass | cancel | listen | unlisten | publish | adjust =>
    exact ⟨retired.once, retired.given, retired.gone⟩

/-- In every run a task ends at most once. -/
theorem Reachable.retired (run : Reachable e s t) (numbered : s.Numbered) (retired : s.Retired) :
    t.Retired := by
  induction run with
  | start => exact retired
  | next run step ih => exact step.retired (run.numbered numbered) ih

end World.Timeline

end RandomBeacon
