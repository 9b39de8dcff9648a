import RandomBeacon.Proofs.Waits

/-!
The generations of tasks. A task keeps the generation in which it began (`Work.generation?`), and
none keeps one that is still to come (`Reachable.dated`). Generations only grow.
-/

namespace RandomBeacon

variable {π : Type} [Provider π]

/-- The tasks that a turn leaves behind keep the generation of the session at hand or of the task
that left them; operations are known by their stages. -/
theorem World.run_generation {w : World π} {now g : Nat} {work new : Work π}
    (mem : new ∈ (w.run now work).works) (idle : new.stage? = none)
    (same : new.generation? = some g) :
    g = w.client.session.generation ∨ work.generation? = some g := by
  cases run_follows now w work new mem with
  | stage => cases idle
  | recovery generation began => exact Or.inr (began.trans same)
  | request | query => exact Or.inl (Option.some.inj same).symm
  | publication | submit | ask | submission | lookup | watch | chain | account => cases same

namespace World.Timeline

variable {e : Surroundings π} {s t : Timeline π}

/-- No task keeps a generation that is still to come. -/
def Dated (t : Timeline π) : Prop :=
  ∀ work ∈ t.works, ∀ g, work.generation? = some g → g ≤ t.client.session.generation

theorem Step.generation_le (step : Step e s t) (sound : Sound s) :
    s.client.session.generation ≤ t.client.session.generation := by
  obtain ⟨_, _, _, _, _, course, _⟩ := step.course sound.numbered sound.aligned
  rcases course.generation with same | ⟨_, next⟩
  · exact Nat.le_of_eq same.symm
  · exact next ▸ Nat.le_succ _

theorem Reachable.generation_le (run : Reachable e s t) (sound : Sound s) :
    s.client.session.generation ≤ t.client.session.generation := by
  induction run with
  | start => exact Nat.le_refl _
  | next run step ih => exact Nat.le_trans ih (step.generation_le (run.sound sound))

theorem Step.dated (step : Step e s t) (sound : Sound s) (dated : Dated s) : Dated t := by
  have later := step.generation_le sound
  have aligned := (step.sound sound).aligned
  have operation {work : Work π} (mem : work ∈ t.works) {stage : Stage}
      (waits : work.stage? = some stage) :
      ∀ g, work.generation? = some g → g ≤ t.client.session.generation := by
    intro g same
    obtain ⟨pending, rfl⟩ := Work.of_stage? waits
    obtain ⟨p, wants, rfl⟩ := Option.map_eq_some_iff.mp same
    exact aligned.begun _ (List.mem_filterMap.mpr ⟨_, mem, rfl⟩) p wants
  cases step with
  | turn task mem =>
    obtain ⟨rest, before, after⟩ := Schedule.Timeline.works_fire rules sound.numbered mem
    intro work inside g same
    cases waits : work.stage? with
    | some stage => exact operation inside waits g same
    | none =>
      refine Nat.le_trans ?_ later
      rcases List.mem_append.mp (after.mem_iff.mp inside) with new | old
      · rcases run_generation new waits same with current | left
        · exact Nat.le_of_eq current
        · exact dated _ (before.mem_iff.mpr List.mem_cons_self) g left
      · exact dated work (before.mem_iff.mpr (List.mem_cons_of_mem _ old)) g same
  | ask errand =>
    intro work inside g same
    rw [Timeline.start, Schedule.Timeline.works_spawn] at inside
    rcases List.mem_append.mp inside with old | new
    · exact dated work old g same
    · obtain rfl := List.mem_singleton.mp new
      cases same
  | pass | cancel | listen | unlisten | publish | adjust =>
    exact fun work mem g same => Nat.le_trans (dated work mem g same) later

theorem Reachable.dated (run : Reachable e s t) (sound : Sound s) (dated : Dated s) : Dated t := by
  induction run with
  | start => exact dated
  | next run step ih => exact step.dated (run.sound sound) ih

end World.Timeline

end RandomBeacon
