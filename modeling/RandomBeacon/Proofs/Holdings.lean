import RandomBeacon.Proofs.Bookkeeping
import RandomBeacon.Proofs.Conservation

/-!
Who owns the subscriptions that the provider holds. Each of them is promised to a subscribe call in
flight, is the session's, has been overwritten by another one, or has had its release asked for
(`Holdings`). What has been overwritten is lost for good: nobody will ask for its release.
-/

namespace RandomBeacon

open Provider

variable {π : Type}

namespace World.Timeline

variable [Provider π] {given : π → SubscriptionId → Prop} {adjusts : π → π → Prop}
  {reliable : Prop} {s t : Timeline π} {lost : List SubscriptionId}

/-- What the provider holds, less what it was asked to release, is promised, the session's or
`lost`; and what is being released was asked for. -/
structure Holdings (given : π → SubscriptionId → Prop) (t : Timeline π)
    (lost : List SubscriptionId) : Prop where
  books : t.state.Books given
    (t.works.filterMap Work.promised? ++ (t.client.session.subscription.toList ++ lost))
  asked : ∀ s ∈ t.stages, ∀ id, s.released? = some id → t.state.asked id = true

/-- On the way from `start` to `t` a commit has put another subscription in the place of
this one. -/
def Overwritten (e : Surroundings π) (start t : Timeline π) (id : SubscriptionId) : Prop :=
  Happened e start t fun c event => event.overwritten? c = some id

/-- The books with the promise of one task told apart. -/
theorem Holdings.owned {work : Work π} {rest : List (Work π)} (holdings : Holdings given t lost)
    (before : t.works.Perm (work :: rest)) :
    t.state.Books given (work.promised?.toList ++
      (t.client.session.subscription.toList ++ (lost ++ rest.filterMap Work.promised?))) := by
  refine Balanced.perm holdings.books ?_
  refine ((before.filterMap Work.promised?).append_right _).trans ?_
  rw [filterMap_cons_promised?, List.append_assoc, ← List.append_assoc _ lost]
  exact List.perm_append_comm.append_left _

/-- What bears on no subscription loses none. -/
theorem Holdings.alike (holdings : Holdings given s lost) (alike : Alike given s.state t.state)
    (standing : t.client.standing = s.client.standing)
    (works : ∃ errands : List Errand, t.works = s.works ++ errands.map .errand) :
    Holdings given t lost := by
  obtain ⟨errands, works⟩ := works
  constructor
  · simp only [Client.standing, Prod.mk.injEq] at standing
    rw [works, List.filterMap_append, promised?_errands, List.append_nil, standing.2.1]
    exact Books.alike holdings.books alike
  · rw [alike.asked, stages, works, stagesOf_append, stagesOf_errands, List.append_nil]
    exact holdings.asked

/-- A turn loses the subscription that it overwrites. -/
theorem Holdings.fire (custodian : Custodian given adjusts reliable)
    {task : Schedule.Task (Work π)} (numbered : t.Numbered) (mem : task ∈ t.tasks)
    (issued : ∀ work ∈ t.works, work.Issued) (aligned : Aligned t.client t.stages)
    (holdings : Holdings given t lost) :
    Holdings given (t.fire rules task)
      (((task.work.event t.state).overwritten? t.client).toList ++ lost) := by
  obtain ⟨rest, before, after⟩ := Schedule.Timeline.works_fire rules numbered mem
  have fired := Schedule.Timeline.state_fire rules t task
  have present : task.work ∈ t.works := before.mem_iff.mpr List.mem_cons_self
  have split : t.stages.Perm ((task.work.event t.state).stage?.toList ++ stagesOf rest) := by
    rw [Work.event_stage?, ← stagesOf_cons]
    exact stagesOf_perm before
  have course := (run_move t.now t.state task.work).course (aligned.perm split)
  have known (id : SubscriptionId) (releases : task.work.stage?.bind Stage.released? = some id) :
      t.state.asked id = true := by
    obtain ⟨s, stage, released⟩ := Option.bind_eq_some_iff.mp releases
    exact holdings.asked s (List.mem_filterMap.mpr ⟨task.work, present, stage⟩) id released
  have turned :=
    Books.turn custodian (issued _ present) known t.now course.conserves (holdings.owned before)
  constructor
  · unfold client Books
    rw [fired]
    refine Balanced.perm turned ?_
    refine .trans ?_ ((after.filterMap Work.promised?).symm.append_right _)
    rw [List.filterMap_append, List.append_assoc, ← List.append_assoc _ lost,
      ← List.append_assoc _ (_ ++ lost)]
    exact List.perm_append_comm.append_left _
  · intro s inside id releases
    rw [fired]
    obtain ⟨work, present, stage⟩ := List.mem_filterMap.mp inside
    rcases List.mem_append.mp (after.mem_iff.mp present) with new | old
    · exact asked_run t.now t.state task.work s (List.mem_filterMap.mpr ⟨work, new, stage⟩) id
        releases
    · have inside : s ∈ t.stages := List.mem_filterMap.mpr
        ⟨work, before.mem_iff.mpr (List.mem_cons_of_mem _ old), stage⟩
      exact asked_of_suffix (calls_run t.now t.state task.work)
        (holdings.asked s inside id releases)

variable {e : Surroundings π}

/-- A step loses nothing but what it overwrites. -/
theorem Step.holdings (custodian : Custodian given e.adjusts reliable) {start : Timeline π}
    (before : Reachable e start s) (step : Step e s t) (sound : Sound s)
    (holdings : Holdings given s lost) :
    ∃ more, Holdings given t (more ++ lost) ∧ ∀ id ∈ more, Overwritten e start t id := by
  rcases step.turns_or_alike custodian with
    ⟨task, mem, ready, permitted, rfl⟩ | ⟨alike, standing, works⟩
  · refine ⟨_, holdings.fire custodian sound.numbered mem sound.issued sound.aligned, ?_⟩
    intro id overwritten
    exact ⟨s, task, before, mem, ready, permitted, Option.mem_toList.mp overwritten, .start⟩
  · exact ⟨[], holdings.alike alike standing works, by rintro id ⟨⟩⟩

/-- What is lost stays lost, and all that is lost has been overwritten. -/
theorem Reachable.holdings (custodian : Custodian given e.adjusts reliable) (run : Reachable e s t)
    (sound : Sound s) (holdings : Holdings given s lost) :
    ∃ more, Holdings given t (more ++ lost) ∧ ∀ id ∈ more, Overwritten e s t id := by
  induction run with
  | start => exact ⟨[], holdings, by rintro id ⟨⟩⟩
  | next run step ih =>
    obtain ⟨more, holdings, overwritten⟩ := ih
    obtain ⟨newer, holdings, new⟩ := step.holdings custodian run (run.sound sound) holdings
    refine ⟨newer ++ more, by rwa [List.append_assoc], ?_⟩
    intro id mem
    rcases List.mem_append.mp mem with late | early
    · exact new id late
    · exact (overwritten id early).next step

theorem holdings_fresh {provider : π} (empty : held provider = []) (config : Config)
    (factors : Nat → Binary64) (suffixes : Nat → Suffix) :
    Holdings given (fresh config factors provider suffixes) [] := by
  refine ⟨⟨?_, ?_, ?_, ?_⟩, ?_⟩
  · exact empty.symm ▸ List.nodup_nil
  · intro id mem
    have none : id ∈ held provider := mem
    rw [empty] at none
    cases none
  · rintro id ⟨⟩
  · have none : held (fresh config factors provider suffixes).state.provider = [] := empty
    rw [none]
    exact .refl _
  · rintro s ⟨⟩

end World.Timeline

end RandomBeacon
