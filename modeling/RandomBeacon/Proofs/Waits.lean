import RandomBeacon.Proofs.Ledger.Promise
import RandomBeacon.Proofs.Runs
import RandomBeacon.Proofs.Successors

/-!
Every wait of a task is one that the provider gave (`Work.Issued`), so what is known of all calls
of a provider is known of the calls in flight.
-/

namespace RandomBeacon

variable {π : Type} [Provider π]

/-- A wait that begins a stage. -/
def Stage.Began (s : Stage) (pending : Pending π s.Signal) : Prop :=
  ∃ now, ∃ w : World π, pending = (w.enter now s).1

/-- The waits of a task are those that the provider gave. -/
def Work.Issued : Work π → Prop
  | .operation s pending => s.Began pending
  | .inFlight (.submit op) _ pending => ∃ address, Provider.Gave (.submit op address) pending
  | .inFlight (.query q) _ pending => ∃ address, Provider.Gave (.query q address) pending
  | .publishing draw => Provider.Left draw
  | .askingChain pending => Provider.Gave .chain pending
  | .askingAccount pending => Provider.Gave .account pending
  | _ => True

/-- The calls of stages are the session's. -/
theorem Stage.Began.publication {s : Stage} {pending : Pending π s.Signal} (began : s.Began pending)
    {q : π} {publication : Publication π}
    (leaves : (pending.finish q).publication = some publication) :
    Provider.Left publication.draw := by
  obtain ⟨now, w, rfl⟩ := began
  cases s with
  | subscribing => exact ⟨_, w.provider, q, publication, leaves, rfl⟩
  | releasing | dropping | closing => exact ⟨_, w.provider, q, publication, leaves, rfl⟩
  | pausing | scheduled => cases leaves

/-- The calls that tasks wait for leave rounds to be published, and nothing else does. -/
theorem Work.Issued.left {work : Work π} (issued : work.Issued) {q : π}
    {publication : Publication π} (leaves : work.publication? q = some publication) :
    Provider.Left publication.draw := by
  cases work with
  | operation s pending => exact Stage.Began.publication issued leaves
  | inFlight d exchange pending =>
    cases d with
    | submit op =>
      obtain ⟨address, p, rfl⟩ := issued
      exact ⟨_, p, q, publication, leaves, rfl⟩
    | query query =>
      obtain ⟨address, p, rfl⟩ := issued
      exact ⟨_, p, q, publication, leaves, rfl⟩
  | askingChain pending | askingAccount pending =>
    obtain ⟨p, rfl⟩ := issued
    exact ⟨_, p, q, publication, leaves, rfl⟩
  | errand | recovery | submitting | querying | calling | publishing | watching => cases leaves

namespace World

/-- The tasks that a turn leaves behind wait for what the provider gave. -/
theorem run_issued (now : Nat) (w : World π) {work : Work π} (issued : work.Issued) :
    ∀ new ∈ (w.run now work).works, new.Issued := by
  intro new mem
  cases run_follows now w work new mem with
  | stage s v => exact ⟨now, v, rfl⟩
  | publication p leaves => exact issued.left leaves
  | recovery | request | query | submit | ask | watch => trivial
  | submission | lookup => exact ⟨w.address, w.provider, rfl⟩
  | chain | account => exact ⟨w.provider, rfl⟩

namespace Timeline

variable {e : Surroundings π} {s t : Timeline π}

theorem Step.issued (step : Step e s t) (numbered : s.Numbered)
    (issued : ∀ work ∈ s.works, work.Issued) : ∀ work ∈ t.works, work.Issued := by
  cases step with
  | turn task mem =>
    obtain ⟨rest, before, after⟩ := Schedule.Timeline.works_fire rules numbered mem
    intro work inside
    rcases List.mem_append.mp (after.mem_iff.mp inside) with new | old
    · exact run_issued s.now s.state (issued _ (before.mem_iff.mpr List.mem_cons_self)) work new
    · exact issued work (before.mem_iff.mpr (List.mem_cons_of_mem _ old))
  | ask errand =>
    intro work inside
    rw [Timeline.start, Schedule.Timeline.works_spawn] at inside
    rcases List.mem_append.mp inside with old | new
    · exact issued work old
    · obtain rfl := List.mem_singleton.mp new
      trivial
  | pass | cancel | listen | unlisten | publish | adjust => exact issued

/-- What every state of a run has: numbered tasks, whose waits are the provider's and whose
operations are aligned with the session. -/
structure Sound (t : Timeline π) : Prop where
  numbered : t.Numbered
  issued : ∀ work ∈ t.works, work.Issued
  aligned : Aligned t.client t.stages

theorem sound_fresh (config : Config) (factors : Nat → Binary64) (provider : π)
    (suffixes : Nat → Suffix) : Sound (fresh config factors provider suffixes) :=
  ⟨numbered_fresh config factors provider suffixes, by rintro work ⟨⟩,
    aligned_fresh config factors provider suffixes⟩

theorem Step.sound (step : Step e s t) (sound : Sound s) : Sound t :=
  ⟨step.numbered sound.numbered, step.issued sound.numbered sound.issued,
    step.aligned sound.numbered sound.aligned⟩

theorem Reachable.sound (run : Reachable e s t) (sound : Sound s) : Sound t := by
  induction run with
  | start => exact sound
  | next _ step ih => exact step.sound ih

end Timeline

end World

end RandomBeacon
