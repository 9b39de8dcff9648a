import RandomBeacon.Proofs.Course

/-!
Runs of a client in its surroundings. A step is the turn of one task that is ready, whichever that
is, or something that the surroundings do between two turns: time passes, an errand is asked for, a
handler comes or goes, a round is published, the provider changes by itself. What holds at the
start and is kept by every course of every event (`Step.course`) holds throughout a run.
-/

namespace RandomBeacon

/-- What surrounds a client: how its provider may change by itself, and which turns are taken. -/
structure Surroundings (π : Type) where
  adjusts : π → π → Prop
  permits : World π → Work π → Prop := fun _ _ => True

namespace World.Timeline

variable {π : Type}

/-- A client that has done nothing yet. -/
def fresh (config : Config) (factors : Nat → Binary64) (provider : π) (suffixes : Nat → Suffix) :
    Timeline π :=
  { state := { scene := { client := { config, factors } }, provider, suffixes } }

def client (t : Timeline π) : Client := t.state.client

/-- The stages in which tasks wait. -/
def stages (t : Timeline π) : List Stage := stagesOf t.works

/-- Changes the world between two turns. -/
def alter (f : World π → World π) (t : Timeline π) : Timeline π :=
  { t with state := (f t.state).journalAt t.now }

theorem numbered_fresh (config : Config) (factors : Nat → Binary64) (provider : π)
    (suffixes : Nat → Suffix) : (fresh config factors provider suffixes).Numbered :=
  ⟨List.nodup_nil, by simp [fresh]⟩

theorem aligned_fresh (config : Config) (factors : Nat → Binary64) (provider : π)
    (suffixes : Nat → Suffix) :
    Aligned (fresh config factors provider suffixes).client
      (fresh config factors provider suffixes).stages := by
  constructor
  · rfl
  · rintro g ⟨⟩
  · rintro s ⟨⟩
  · rintro s ⟨⟩
  · rintro p id ⟨⟩

theorem stages_start (errand : Errand) (t : Timeline π) : (t.start errand).stages = t.stages := by
  simp [stages, Timeline.start, stagesOf, Work.stage?]

variable [Provider π]

inductive Step (e : Surroundings π) : Timeline π → Timeline π → Prop
  | turn {t : Timeline π} (task : Schedule.Task (Work π)) (mem : task ∈ t.tasks)
      (ready : t.isReady rules task = true) (permitted : e.permits t.state task.work) :
      Step e t (t.fire rules task)
  | pass {t : Timeline π} (instant : Nat) (later : t.now ≤ instant) :
      Step e t { t with now := instant }
  | ask {t : Timeline π} (errand : Errand) : Step e t (t.start errand)
  | cancel {t : Timeline π} (id : RequestId) :
      Step e t (t.alter fun w => w.withClient (w.client.cancel id).2)
  | listen {t : Timeline π} (handler : ClientHandler) :
      Step e t (t.alter fun w => { w with scene := w.scene.listen handler })
  | unlisten {t : Timeline π} (number : Nat)
      (known : number ∈ t.state.scene.host.listeners.map (·.2)) :
      Step e t (t.alter fun w => w.withClient (w.client.unsubscribeListener number).2)
  | publish {t : Timeline π} (r : Round) : Step e t (t.alter fun w => (w.publish r).2)
  | adjust {t : Timeline π} (provider : π) (adjusts : e.adjusts t.state.provider provider) :
      Step e t (t.alter fun w => { w with provider })

inductive Reachable (e : Surroundings π) (start : Timeline π) : Timeline π → Prop
  | start : Reachable e start start
  | next {s t : Timeline π} : Reachable e start s → Step e s t → Reachable e start t

variable {e : Surroundings π} {s t u : Timeline π}

theorem Reachable.trans (before : Reachable e s t) (after : Reachable e t u) : Reachable e s u := by
  induction after with
  | start => exact before
  | next _ step ih => exact .next ih step

/-- On the way from `start` to `t` there was a turn of this kind. -/
def Happened (e : Surroundings π) (start t : Timeline π) (kind : Client → Event → Prop) : Prop :=
  ∃ u task, Reachable e start u ∧ task ∈ u.tasks ∧ u.isReady rules task = true ∧
    e.permits u.state task.work ∧ kind u.client (task.work.event u.state) ∧
    Reachable e (u.fire rules task) t

theorem Happened.next {kind : Client → Event → Prop} (happened : Happened e s t kind)
    (step : Step e t u) : Happened e s u kind := by
  obtain ⟨v, task, before, mem, ready, permitted, of_kind, after⟩ := happened
  exact ⟨v, task, before, mem, ready, permitted, of_kind, .next after step⟩

theorem Step.numbered (step : Step e s t) (numbered : s.Numbered) : t.Numbered := by
  cases step with
  | turn task mem => exact Schedule.Timeline.numbered_fire numbered task
  | ask errand => exact Schedule.Timeline.numbered_spawn numbered _ _
  | pass | cancel | listen | unlisten | publish | adjust => exact numbered

theorem Reachable.numbered (run : Reachable e s t) (numbered : s.Numbered) : t.Numbered := by
  induction run with
  | start => exact numbered
  | next _ step ih => exact step.numbered ih

/-- The turn of a task takes its stage away, and is the event that `Work.event` says it is. -/
theorem fire_move {task : Schedule.Task (Work π)} (numbered : t.Numbered) (mem : task ∈ t.tasks) :
    ∃ new rest, t.stages.Perm ((task.work.event t.state).stage?.toList ++ rest) ∧
      (stages (t.fire rules task)).Perm (new ++ rest) ∧
      Move t.client (task.work.event t.state) (client (t.fire rules task)) new := by
  obtain ⟨rest, before, after⟩ := Schedule.Timeline.works_fire rules numbered mem
  have move := run_move t.now t.state task.work
  refine ⟨stagesOf (t.state.run t.now task.work).works, stagesOf rest, ?_, ?_, ?_⟩
  · rw [Work.event_stage?, ← stagesOf_cons]
    exact stagesOf_perm before
  · exact (stagesOf_perm after).trans (.of_eq (stagesOf_append _ _))
  · have fired := Schedule.Timeline.state_fire rules t task
    have same : (client (t.fire rules task)).core =
        (t.state.run t.now task.work).state.client.core := by
      rw [client, fired]
      rfl
    exact move.congr same

/-- A step is one event of the session. -/
theorem Step.move (step : Step e s t) (numbered : s.Numbered) :
    ∃ event new rest, s.stages.Perm (event.stage?.toList ++ rest) ∧ t.stages.Perm (new ++ rest) ∧
      Move s.client event t.client new ∧
      (event = .serve ∨ ∃ task ∈ s.tasks, e.permits s.state task.work ∧
        event = task.work.event s.state) := by
  have quiet {t : Timeline π} (stages : t.stages = s.stages)
      (same : t.client.standing = s.client.standing) :
      ∃ event new rest, s.stages.Perm (event.stage?.toList ++ rest) ∧
        t.stages.Perm (new ++ rest) ∧ Move s.client event t.client new ∧
        (event = .serve ∨ ∃ task ∈ s.tasks, e.permits s.state task.work ∧
          event = task.work.event s.state) :=
    ⟨.serve, [], s.stages, .refl _, .of_eq stages, .serve same, Or.inl rfl⟩
  cases step with
  | turn task mem ready permitted =>
    obtain ⟨new, rest, before, after, move⟩ := fire_move numbered mem
    exact ⟨_, new, rest, before, after, move, Or.inr ⟨task, mem, permitted, rfl⟩⟩
  | ask errand => exact quiet (stages_start errand s) rfl
  | pass | cancel | adjust => exact quiet rfl rfl
  | listen handler => exact quiet rfl (Scene.listen_standing _ handler)
  | unlisten number => exact quiet rfl (Client.unsubscribeListener_standing number _)
  | publish r => exact quiet rfl (publish_standing r s.state)

/-- The operations under way are aligned with the session throughout a run. -/
theorem Step.aligned (step : Step e s t) (numbered : s.Numbered)
    (aligned : Aligned s.client s.stages) : Aligned t.client t.stages := by
  obtain ⟨event, new, rest, before, after, move, _⟩ := step.move numbered
  have aligned := aligned.perm before
  exact ((move.course aligned).aligned aligned).perm after.symm

theorem Reachable.aligned (run : Reachable e s t) (numbered : s.Numbered)
    (aligned : Aligned s.client s.stages) : Aligned t.client t.stages := by
  induction run with
  | start => exact aligned
  | next run step ih => exact step.aligned (run.numbered numbered) ih

/-- Every step of a run takes one of the courses. -/
theorem Step.course (step : Step e s t) (numbered : s.Numbered)
    (aligned : Aligned s.client s.stages) :
    ∃ event new rest, s.stages.Perm (event.stage?.toList ++ rest) ∧ t.stages.Perm (new ++ rest) ∧
      Course s.client event t.client new ∧
      (event = .serve ∨ ∃ task ∈ s.tasks, e.permits s.state task.work ∧
        event = task.work.event s.state) := by
  obtain ⟨event, new, rest, before, after, move, origin⟩ := step.move numbered
  exact ⟨event, new, rest, before, after, move.course (aligned.perm before), origin⟩

theorem Reachable.config (run : Reachable e s t) (numbered : s.Numbered)
    (aligned : Aligned s.client s.stages) : t.client.config = s.client.config := by
  induction run with
  | start => rfl
  | next run step ih =>
    obtain ⟨_, _, _, _, _, course, _⟩ :=
      step.course (run.numbered numbered) (run.aligned numbered aligned)
    exact course.config.trans ih

end World.Timeline

end RandomBeacon
