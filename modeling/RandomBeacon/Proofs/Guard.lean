import RandomBeacon.Proofs.Handoffs
import RandomBeacon.Proofs.Replay
import RandomBeacon.Proofs.Waits

/-!
The guard over whole runs. Where the calls of a provider return, every state of a run is `Guarded`,
so the guard of the session at hand follows its hand-offs (`guard_follows_handoff`).
-/

namespace RandomBeacon

variable {π : Type}

theorem World.Timeline.guarded_fresh (config : Config) (factors : Nat → Binary64) (provider : π)
    (suffixes : Nat → Suffix) :
    Guarded (fresh config factors provider suffixes).client
      (fresh config factors provider suffixes).stages := by
  refine ⟨rfl, ?_, ?_⟩
  · rintro ⟨⟩
  · rintro ⟨⟩

variable [Provider π] {e : Surroundings π} {s t : World.Timeline π}

theorem Stage.Began.calm (steady : Provider.Steady π) {s : Stage} {pending : Pending π s.Signal}
    (began : s.Began pending) (q : π) : s.panicked (pending.finish q).result = false := by
  obtain ⟨now, w, rfl⟩ := began
  cases s with
  | subscribing =>
    have returns := steady.subscribe .randomnessPublished w.address w.provider q
    simp only [World.enter, World.call]
    cases h : ((Provider.start (.subscribe .randomnessPublished w.address) w.provider).1.finish
      q).result with
    | returned | failed => rfl
    | panicked detail => exact absurd h (returns detail)
  | releasing p id | dropping p id | closing id =>
    have returns := steady.unsubscribe id w.provider q
    simp only [World.enter, World.call]
    cases h : ((Provider.start (.unsubscribe id) w.provider).1.finish q).result with
    | returned | failed => rfl
    | panicked detail => exact absurd h (returns detail)
  | pausing | scheduled => rfl

namespace World.Timeline

/-- What the tasks of a steady provider resume with is no panic. -/
theorem calm_event (steady : Provider.Steady π) (issued : ∀ work ∈ t.works, work.Issued)
    {event : Event} (origin : event = .serve ∨ ∃ task ∈ t.tasks, e.permits t.state task.work ∧
      event = task.work.event t.state) :
    ∀ s signal, event = .resume s signal → s.panicked signal = false := by
  rintro s signal rfl
  rcases origin with none | ⟨task, mem, _, same⟩
  · cases none
  · have began := issued task.work (List.mem_map_of_mem mem)
    obtain ⟨pending, is, rfl⟩ := Work.of_event_resume same.symm
    rw [is] at began
    exact Stage.Began.calm steady began _

theorem Step.guarded (steady : Provider.Steady π) (step : Step e s t) (sound : Sound s)
    (guarded : Guarded s.client s.stages) : Guarded t.client t.stages := by
  obtain ⟨event, new, rest, before, after, course, origin⟩ :=
    step.course sound.numbered sound.aligned
  have next := course.guarded (sound.aligned.perm before) (guarded.perm before)
    (calm_event steady sound.issued origin)
  exact next.perm after.symm

theorem Reachable.guarded (steady : Provider.Steady π) (run : Reachable e s t) (sound : Sound s)
    (guarded : Guarded s.client s.stages) : Guarded t.client t.stages := by
  induction run with
  | start => exact guarded
  | next run step ih => exact step.guarded steady (run.sound sound) ih

/-- In every run over a provider whose calls return, the guard of a hand-off is up for the session
at hand or down, it is up exactly while a hand-off of that session is under way, of which there is
at most one, and a session that is reconnecting or initializing has a hand-off or an opening under
way. So a session with neither is in a state of rest, and its guard is down. -/
theorem guard_follows_handoff (steady : Provider.Steady π) {config : Config}
    {factors : Nat → Binary64} {provider : π} {suffixes : Nat → Suffix}
    (run : Reachable e (fresh config factors provider suffixes) t) :
    (t.client.session.reconnecting = none ∨
      t.client.session.reconnecting = some t.client.session.generation) ∧
    (t.client.session.reconnecting = some t.client.session.generation ↔
      ∃ s ∈ t.stages, s.recovers t.client.session.generation) ∧
    t.stages.countP (·.recovers t.client.session.generation) ≤ 1 ∧
    (t.client.session.lifecycle = .reconnecting →
      ∃ s ∈ t.stages, s.recovers t.client.session.generation) ∧
    (t.client.session.lifecycle = .initializing →
      ∃ s ∈ t.stages, s.initializes t.client.session.generation) ∧
    ((∀ s ∈ t.stages, s.recovers t.client.session.generation = false ∧
        s.initializes t.client.session.generation = false) →
      (t.client.session.lifecycle = .uninitialized ∨ t.client.session.lifecycle = .ready ∨
        t.client.session.lifecycle = .failed) ∧
      t.client.session.reconnecting = none) := by
  have sound := sound_fresh config factors provider suffixes
  have aligned := (run.sound sound).aligned
  have guarded := run.guarded steady sound (guarded_fresh config factors provider suffixes)
  have only : t.client.session.reconnecting = none ∨
      t.client.session.reconnecting = some t.client.session.generation := by
    cases up : t.client.session.reconnecting with
    | none => exact Or.inl rfl
    | some g => exact Or.inr (congrArg some (aligned.guard g up))
  have one : t.stages.countP (·.recovers t.client.session.generation) ≤ 1 := by
    have exact : t.stages.countP (·.recovers t.client.session.generation) = t.client.guards :=
      guarded.exact
    rw [exact]
    exact t.client.guards_le
  refine ⟨only, guarded.up_iff, one, guarded.reconnects, guarded.initializing, ?_⟩
  intro idle
  refine ⟨guarded.settled idle, ?_⟩
  rcases only with none | up
  · exact none
  · obtain ⟨s, mem, recovers⟩ := guarded.up_iff.mp up
    rw [(idle s mem).1] at recovers
    cases recovers

/-- A session that has lost a call and waits for its first attempt to reconnect. -/
def reconnecting : Timeline Simulated :=
  (trial 3 (.trial {})).replay (fun _ _ => true) [
    .ask .openSession, .turns 9,
    .behave { submitTransportFailure := true }, .ask (.request (.plain "lost")), .turns 9]

theorem guard_follows_handoff_reconnecting :
    reconnecting.client.session.lifecycle = .reconnecting ∧
    ∃ s ∈ reconnecting.stages, s.recovers reconnecting.client.session.generation :=
  have lifecycle : reconnecting.client.session.lifecycle = .reconnecting := by decide +kernel
  ⟨lifecycle, (guard_follows_handoff Simulated.steady (reachable_replay _ _)).2.2.2.1 lifecycle⟩

end World.Timeline

end RandomBeacon
