import Mathlib.Data.List.Nodup
import RandomBeacon.Proofs.Calls
import RandomBeacon.Proofs.Generations
import RandomBeacon.Proofs.Replay

/-!
A closed session is dead (`closed_session_is_dead`). What began before it was closed is outdated for
good. An outdated task leaves the core of the client as it is, leaves only outdated tasks behind,
and asks the provider for nothing but the release of a subscription that it has just received
(`Harmless`).
-/

namespace RandomBeacon

variable {π : Type}

/-- Whether a task has begun. Errands begin with their first turn, and the rounds that a provider
publishes by itself are nobody's. -/
def Work.begun : Work π → Bool
  | errand _ | publishing _ => false
  | _ => true

/-- A task that began in this generation or before, or that keeps no generation. -/
structure Work.Outdated (generation : Nat) (work : Work π) : Prop where
  begun : work.begun = true
  dated : ∀ g, work.generation? = some g → g ≤ generation

namespace Client

/-- A client that has done nothing yet, save that its counters go on from those of another. -/
def renewed (c : Client) : Client where
  config := c.config
  factors := c.factors
  session := { generation := c.session.generation + 1 }
  budget := { epoch := c.budget.epoch + 1, delays := c.budget.delays }
  watch := { version := c.watch.version + 1 }
  registry := { issued := c.registry.issued }

theorem closeSession_core (c : Client) : c.closeSession.1.core = c.renewed.core := by
  unfold closeSession
  cases c.session.subscription <;> rfl

end Client

namespace World

variable {generation : Nat}

theorem finish_harmless {β : Type} (now : Nat) (pending : Pending π β) (w : World π) :
    ∀ new ∈ (w.finish now pending).2.2.map (·.2),
      new.Outdated generation ∨ ∃ draw, new = .publishing draw := by
  intro new mem
  obtain ⟨p, _, rfl⟩ := finish_spawned mem
  exact Or.inr ⟨p.draw, rfl⟩

theorem recoveries_outdated {α : Type} (now : Nat) {old : Nat} (le : old ≤ generation)
    (result : Except Failure α) :
    ∀ new ∈ (recoveries (π := π) now old result).map (·.2),
      new.Outdated generation ∨ ∃ draw, new = .publishing draw := by
  intro new mem
  obtain rfl := recoveries_spawned mem
  refine Or.inl ⟨rfl, ?_⟩
  rintro g ⟨⟩
  exact le

theorem watchReady_harmless (generation now deadline : Nat) (w : World π) :
    (w.watchReady now deadline).state.client.core = w.client.core ∧
    (∀ new ∈ (w.watchReady now deadline).next.works, new.Outdated generation) ∧
    (∀ new ∈ (w.watchReady now deadline).spawned.map (·.2),
      new.Outdated generation ∨ ∃ draw, new = .publishing draw) := by
  have outdated : ∀ new ∈ (w.watchReady now deadline).works, new.Outdated generation := by
    intro new mem
    obtain rfl := watchReady_works mem
    exact ⟨rfl, by rintro g ⟨⟩⟩
  refine ⟨by rw [watchReady_state], ?_, ?_⟩
  · exact fun new mem => outdated new (List.mem_append_left _ mem)
  · exact fun new mem => Or.inl (outdated new (List.mem_append_right _ mem))

end World

variable [Provider π]

/-- What a turn of an outdated task comes down to. -/
structure Work.Harmless (generation now : Nat) (w : World π) (work : Work π) : Prop where
  core : (w.run now work).state.client.core = w.client.core
  next : ∀ new ∈ (w.run now work).next.works, new.Outdated generation
  spawned : ∀ new ∈ (w.run now work).spawned.map (·.2),
    new.Outdated generation ∨ ∃ draw, new = .publishing draw
  calls : ∃ made, (w.run now work).state.calls = made ++ w.calls ∧
    ∀ call ∈ made, call.2.isSession = true →
      ∃ id, (work.event w).received? = some id ∧ call.2 = .unsubscribe id

namespace World

variable {w : World π} {generation now : Nat}

/-- A turn that makes no calls of the session. -/
theorem harmless_quiet {work : Work π} (made : List (Nat × Call))
    (core : (w.run now work).state.client.core = w.client.core)
    (next : ∀ new ∈ (w.run now work).next.works, new.Outdated generation)
    (spawned : ∀ new ∈ (w.run now work).spawned.map (·.2),
      new.Outdated generation ∨ ∃ draw, new = .publishing draw)
    (calls : (w.run now work).state.calls = made ++ w.calls)
    (other : ∀ call ∈ made, call.2.isSession = false) : work.Harmless generation now w := by
  refine ⟨core, next, spawned, made, calls, ?_⟩
  intro call mem session
  rw [other call mem] at session
  cases session

/-- An operation that has ended waits for nothing and calls nobody. -/
theorem proceed_ended (w : World π) (now : Nat) (spawned : List (Option Nat × Work π))
    {step : Client × Progress} (ended : step.2.stages = []) :
    (w.proceed now spawned step).next.works = [] ∧
    (w.proceed now spawned step).state.calls = w.calls := by
  obtain ⟨c, progress⟩ := step
  cases progress with
  | wait stage => cases ended
  | ended | lost => exact ⟨rfl, rfl⟩

/-- An operation that winds down stays outdated, and gives back what it receives. -/
theorem proceed_fades (w : World π) (now : Nat) (spawned : List (Option Nat × Work π))
    {step : Client × Progress} {p : Purpose} {received : Option SubscriptionId}
    (dated : p.generation ≤ generation) (fade : Client.Fades p received step.2) :
    (∀ new ∈ (w.proceed now spawned step).next.works, new.Outdated generation) ∧
    ∃ made, (w.proceed now spawned step).state.calls = made ++ w.calls ∧
      ∀ call ∈ made, ∃ id, received = some id ∧ call.2 = .unsubscribe id := by
  obtain ⟨c, progress⟩ := step
  have waits (s : Stage) (wants : s.purpose? = some p) (pending : Pending π s.Signal) :
      (Work.operation s pending).Outdated generation := by
    refine ⟨rfl, ?_⟩
    intro g same
    simp only [Work.generation?, wants, Option.map_some, Option.some.injEq] at same
    exact same ▸ dated
  cases fade with
  | ends result => exact ⟨by rintro new ⟨⟩, [], rfl, by rintro call ⟨⟩⟩
  | pauses failed =>
    refine ⟨?_, [], rfl, by rintro call ⟨⟩⟩
    intro new mem
    obtain rfl := List.mem_singleton.mp mem
    exact waits (.pausing p failed) rfl _
  | releases id =>
    refine ⟨?_, [(now, .unsubscribe id)], rfl, ?_⟩
    · intro new mem
      obtain rfl := List.mem_singleton.mp mem
      exact waits (.releasing p id) rfl _
    · intro call mem
      obtain rfl := List.mem_singleton.mp mem
      exact ⟨id, rfl, rfl⟩

/-- An operation on a closed session winds down and does no harm. -/
theorem operation_harmless {s : Stage} {pending : Pending π s.Signal}
    (outdated : (Work.operation s pending).Outdated generation)
    (stale : ∀ p, s.purpose? = some p → w.client.Stale p) :
    (Work.operation s pending).Harmless generation now w := by
  have finished : (w.finish now pending).2.1.client.core = w.client.core :=
    finish_core now pending w
  have spawned : ∀ new ∈ (w.run now (.operation s pending)).spawned.map (·.2),
      new.Outdated generation ∨ ∃ draw, new = .publishing draw := by
    rw [run, proceed_spawned]
    exact finish_harmless now pending w
  have ends (core : ((w.finish now pending).2.1.client.resume s (w.finish now pending).1).1.core =
        (w.finish now pending).2.1.client.core)
      (ended : ((w.finish now pending).2.1.client.resume s
        (w.finish now pending).1).2.stages = []) :
      (Work.operation s pending).Harmless generation now w := by
    obtain ⟨next, calls⟩ := proceed_ended (w.finish now pending).2.1 now
      (w.finish now pending).2.2 ended
    refine harmless_quiet [] ?_ ?_ spawned calls (by rintro call ⟨⟩)
    · simp only [run]
      rw [proceed_client]
      exact core.trans finished
    · intro new mem
      rw [run, next] at mem
      cases mem
  cases wants : s.purpose? with
  | none =>
    cases s with
    | closing id =>
      obtain ⟨core, ended⟩ := Client.resume_closing (w.finish now pending).2.1.client id
        (w.finish now pending).1
      exact ends core ended
    | subscribing | pausing | releasing | scheduled | dropping => cases wants
  | some p =>
    cases panics : s.panicked (w.finish now pending).1 with
    | true =>
      have lost := Client.resume_panicked panics (w.finish now pending).2.1.client
      exact ends (by rw [lost]) (by rw [lost]; rfl)
    | false =>
      obtain ⟨core, fade⟩ := Client.resume_stale wants ((stale p wants).congr finished) _ panics
      have dated : p.generation ≤ generation := outdated.dated _ (by simp [Work.generation?, wants])
      obtain ⟨next, made, calls, gives⟩ := proceed_fades (w.finish now pending).2.1 now
        (w.finish now pending).2.2 dated fade
      refine ⟨?_, next, spawned, made, calls, fun call mem _ => gives call mem⟩
      simp only [run]
      rw [proceed_client]
      exact core.trans finished

/-- An outdated task does no harm to the session that follows. -/
theorem run_outdated {work : Work π} (outdated : work.Outdated generation)
    (passed : generation < w.client.session.generation)
    (stale : ∀ s pending p, work = .operation s pending → s.purpose? = some p →
      w.client.Stale p) : work.Harmless generation now w := by
  have none {turn : Work π → Prop} : ∀ new ∈ ([] : List (Work π)), turn new := by rintro new ⟨⟩
  have quiet {call : Nat × Call} : call ∈ ([] : List (Nat × Call)) → call.2.isSession = false := by
    rintro ⟨⟩
  cases work with
  | errand | publishing => cases outdated.begun
  | recovery old =>
    have other : w.client.session.generation ≠ old :=
      Nat.ne_of_gt (Nat.lt_of_le_of_lt (outdated.dated old rfl) passed)
    obtain ⟨core, ended⟩ := Client.handOff_stale other
    have stages : (w.client.recoverSession old).2.stages = [] := by
      rw [Client.recoverSession, ended]
      rfl
    obtain ⟨next, calls⟩ := proceed_ended w now [] stages
    refine harmless_quiet [] ?_ ?_ ?_ calls (fun _ => quiet)
    · rw [run, proceed_client]
      exact core
    · rw [run, next]
      exact none
    · rw [run, proceed_spawned]
      exact none
  | operation s pending =>
    exact operation_harmless outdated fun p wants => stale s pending p rfl wants
  | submitting name id op old exchange =>
    have le := outdated.dated old rfl
    have core := concludeRequest_core id op (raced (w.submissionOutcome? exchange)) w.client
    refine harmless_quiet [] ?_ none (recoveries_outdated now le _) ?_ (fun _ => quiet)
    · simp only [run]
      split <;> exact core
    · simp only [run]
      split <;> rfl
  | querying q old exchange =>
    exact harmless_quiet [] (concludeQuery_core q _ w.client) none
      (recoveries_outdated now (outdated.dated old rfl) _) rfl (fun _ => quiet)
  | calling d exchange =>
    cases d with
    | submit op =>
      refine harmless_quiet [(now, .submit op w.address)] rfl ?_ none rfl ?_
      · intro new mem
        obtain rfl := List.mem_singleton.mp mem
        exact ⟨rfl, by rintro g ⟨⟩⟩
      · intro call mem
        obtain rfl := List.mem_singleton.mp mem
        rfl
    | query q =>
      refine harmless_quiet [(now, .query q w.address)] rfl ?_ none rfl ?_
      · intro new mem
        obtain rfl := List.mem_singleton.mp mem
        exact ⟨rfl, by rintro g ⟨⟩⟩
      · intro call mem
        obtain rfl := List.mem_singleton.mp mem
        rfl
  | inFlight d exchange pending =>
    exact harmless_quiet [] (finish_core now pending w) none
      (finish_harmless now pending w) rfl (fun _ => quiet)
  | watching deadline seen =>
    obtain ⟨core, next, spawned⟩ := watchReady_harmless generation now deadline w
    exact harmless_quiet [] core next spawned (calls_watchReady now deadline w)
      (fun _ => quiet)
  | askingChain pending =>
    exact harmless_quiet [] (finish_core now pending w) none
      (finish_harmless now pending w) rfl (fun _ => quiet)
  | askingAccount pending =>
    exact harmless_quiet [] (finish_core now pending w) none
      (finish_harmless now pending w) rfl (fun _ => quiet)

end World

namespace World.Timeline

variable {e : Surroundings π} {s t : Timeline π} {generation : Nat} {numbers : List Nat}

theorem harmless_of_outdated (sound : Sound t) (passed : generation < t.client.session.generation)
    {task : Schedule.Task (Work π)} (mem : task ∈ t.tasks)
    (outdated : task.work.Outdated generation) :
    task.work.Harmless generation t.now t.state := by
  refine run_outdated outdated passed ?_
  intro s pending p works wants
  have inside : s ∈ t.stages :=
    List.mem_filterMap.mpr ⟨task.work, List.mem_map_of_mem mem, by rw [works]; rfl⟩
  have dated : p.generation ≤ generation :=
    outdated.dated _ (by rw [works]; simp [Work.generation?, wants])
  rcases sound.aligned.current_or_stale inside wants with ⟨current, _⟩ | ⟨stale, _⟩
  · have same := current.generation
    omega
  · exact stale

/-- The tasks with these numbers, which have all been given, are outdated. -/
structure Outlived (generation : Nat) (numbers : List Nat) (t : Timeline π) : Prop where
  given : ∀ number ∈ numbers, number < t.issued
  outdated : ∀ task ∈ t.tasks, task.id ∈ numbers → task.work.Outdated generation

theorem Step.outlived (step : Step e s t) (sound : Sound s)
    (passed : generation < s.client.session.generation) (outlived : Outlived generation numbers s) :
    Outlived generation numbers t := by
  obtain ⟨given, outdated⟩ := outlived
  cases step with
  | turn task mem =>
    have issued := Schedule.Timeline.issued_fire rules s task
    refine ⟨fun number old => Nat.lt_of_lt_of_le (given number old) issued, ?_⟩
    intro other inside old
    rcases Schedule.Timeline.mem_fire inside with ⟨before, _⟩ | ⟨same, next⟩ | ⟨new, _⟩
    · exact outdated other before old
    · have late := outdated task mem (same ▸ old)
      exact (harmless_of_outdated sound passed mem late).next _ next
    · exact absurd (given _ old) (Nat.not_lt_of_le new)
  | ask errand =>
    refine ⟨fun number old => Nat.lt_succ_of_lt (given number old), ?_⟩
    intro other inside old
    rcases List.mem_append.mp inside with before | new
    · exact outdated other before old
    · obtain rfl := List.mem_singleton.mp new
      exact absurd (given _ old) (Nat.lt_irrefl _)
  | pass | cancel | listen | unlisten | publish | adjust => exact ⟨given, outdated⟩

theorem Reachable.outlived (run : Reachable e s t) (sound : Sound s)
    (passed : generation < s.client.session.generation) (outlived : Outlived generation numbers s) :
    Outlived generation numbers t := by
  induction run with
  | start => exact outlived
  | next run step ih =>
    have later := run.generation_le sound
    exact step.outlived (run.sound sound) (Nat.lt_of_lt_of_le passed later) ih

/-- The turn of a cleanup makes the client new and begins a generation. -/
theorem fire_closes {task : Schedule.Task (Work π)} (closes : task.work = .errand .closeSession)
    (s : Timeline π) : (client (s.fire rules task)).core = s.client.renewed.core := by
  have fired := Schedule.Timeline.state_fire rules s task
  have turned : (s.state.run s.now task.work).state.client = s.client.closeSession.1 := by
    rw [closes, run, begin, proceed_client]
    rfl
  have core : (client (s.fire rules task)).core =
      (s.state.run s.now task.work).state.client.core := by
    rw [client, fired]
    rfl
  rw [core, turned]
  exact Client.closeSession_core s.client

/-- What has begun when the session is closed is outdated from then on. -/
theorem outlived_fire (sound : Sound s) (dated : Dated s) {task : Schedule.Task (Work π)}
    (mem : task ∈ s.tasks) (closes : task.work = .errand .closeSession) :
    Outlived s.client.session.generation ((s.tasks.filter (·.work.begun)).map (·.id))
      (s.fire rules task) := by
  have known {number : Nat} (old : number ∈ (s.tasks.filter (·.work.begun)).map (·.id)) :
      ∃ begun ∈ s.tasks, begun.work.begun = true ∧ begun.id = number := by
    obtain ⟨begun, inside, rfl⟩ := List.mem_map.mp old
    obtain ⟨inside, was⟩ := List.mem_filter.mp inside
    exact ⟨begun, inside, was, rfl⟩
  constructor
  · intro number old
    obtain ⟨begun, inside, _, rfl⟩ := known old
    exact Nat.lt_of_lt_of_le (sound.numbered.2 begun inside)
      (Schedule.Timeline.issued_fire rules s task)
  · intro other inside old
    obtain ⟨begun, before, was, same⟩ := known old
    have one {a : Schedule.Task (Work π)} (mem : a ∈ s.tasks) (same : begun.id = a.id) :
        begun = a :=
      List.inj_on_of_nodup_map sound.numbered.1 before mem same
    rcases Schedule.Timeline.mem_fire inside with ⟨unmoved, _⟩ | ⟨turned, _⟩ | ⟨new, _⟩
    · obtain rfl := one unmoved same
      exact ⟨was, dated _ (List.mem_map_of_mem before)⟩
    · obtain rfl := one mem (same.trans turned)
      rw [closes] at was
      cases was
    · have issued := sound.numbered.2 begun before
      omega

/-- A session that is being recovered, with a request under way, and is about to be closed. -/
def deserted : Timeline Simulated :=
  (trial 3 (.trial { submitDelay := 1000 })).replay (fun _ _ => true) [
    .ask .openSession, .turns 9,
    .ask (.request (.plain "slow")), .turns 9,
    .behave { submitTransportFailure := true }, .ask (.request (.plain "lost")), .turns 9]

def desertion : Schedule.Task (Work Simulated) :=
  ⟨deserted.issued, some deserted.now, .errand .closeSession⟩

end World.Timeline

end RandomBeacon
