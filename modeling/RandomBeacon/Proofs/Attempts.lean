import RandomBeacon.Proofs.Actions
import RandomBeacon.Proofs.Budgeted
import RandomBeacon.Proofs.Client.Attempt
import RandomBeacon.Proofs.Guard

/-!
The attempts of a hand-off over a whole run. A hand-off that begins with its budget in full goes on
until one of its attempts succeeds, or fails for another reason than the network, or as many as the
limit have failed (`Tried`), whatever else is under way: in its session no other hand-off is, and
those of closed sessions leave the count alone (`act_tried`).
-/

namespace RandomBeacon

/-- How an attempt to reconnect has ended, if it ends with this event. -/
def Event.outcome? : Event → Option (Except Failure Unit)
  | resume s signal => s.outcome? signal
  | _ => none

/-- Whether an event hands the session to reconnection. -/
def Event.handsOver (c : Client) : Event → Bool
  | recoverSession generation => c.loses generation
  | resume (.subscribing (.opening generation) failed) (.failed fault) =>
    (Failure.ofSubscribeFault fault).isNetwork && Client.subscribeLimit ≤ failed + 1 &&
      c.loses generation
  | _ => false

/-- An attempt that failed for the network. -/
def NetworkLoss (outcome : Except Failure Unit) : Prop :=
  ∃ e, outcome = .error e ∧ e.isNetwork = true

theorem NetworkLoss.concat {lost : List (Except Failure Unit)} {e : Failure}
    (all : ∀ outcome ∈ lost, NetworkLoss outcome) (network : e.isNetwork = true) :
    ∀ outcome ∈ lost ++ [.error e], NetworkLoss outcome := by
  intro outcome mem
  rcases List.mem_append.mp mem with old | new
  · exact all outcome old
  · exact ⟨e, List.mem_singleton.mp new, network⟩

/-- What a hand-off replies after attempts that have ended so. -/
inductive Verdict (π : Type) [Provider π] (limit : Nat) : List (Except Failure Unit) → Reply → Prop
  | succeeds (lost : List (Except Failure Unit)) (all : ∀ outcome ∈ lost, NetworkLoss outcome)
      (left : lost.length < limit) : Verdict π limit (lost ++ [.ok ()]) (.finished (.ok ()))
  | aborts (lost : List (Except Failure Unit)) (all : ∀ outcome ∈ lost, NetworkLoss outcome)
      (left : lost.length < limit) (e : Failure) (other : e.isNetwork = false) :
      Verdict π limit (lost ++ [.error e]) (.finished (.error e))
  | exhausts (lost : List (Except Failure Unit)) (all : ∀ outcome ∈ lost, NetworkLoss outcome)
      (spent : lost.length = limit) :
      Verdict π limit lost (.finished (.error (.reconnection limit)))
  /-- The provider has panicked in the attempt that was under way. -/
  | breaks (lost : List (Except Failure Unit)) (all : ∀ outcome ∈ lost, NetworkLoss outcome)
      (left : lost.length < limit) (unsteady : ¬Provider.Steady π) : Verdict π limit lost .lost

/-- What becomes of a task whose operation makes this progress. -/
inductive Progress.Leads {π : Type} : Progress → Schedule.Next (Work π) Reply → Prop
  | wait (s : Stage) (due : Option Nat) (pending : Pending π s.Signal) :
      Leads (.wait s) (.wait due (.operation s pending))
  | ended (result : Except Failure Unit) : Leads (.ended result) (.ended (.finished result))
  | lost : Leads .lost (.ended .lost)

/-- A session that is handed to reconnection waits for its first attempt, or has none left. -/
theorem Client.HandOff.starts {c d : Client} {generation : Nat} {starter : Starter}
    {progress : Progress} (handed : c.HandOff generation starter d progress)
    (loses : c.loses generation = true) :
    (∃ h duration, progress = .wait (.scheduled h duration) ∧ h.generation = generation ∧
      d.budget.attempts = c.budget.attempts ∧ c.budget.attempts < c.limit) ∨
    (progress = .ended (.error (.reconnection c.budget.attempts)) ∧
      c.limit ≤ c.budget.attempts) := by
  obtain ⟨_, down, connected⟩ := loses_iff.mp loses
  cases handed with
  | busy up | joins up => exact absurd up down
  | skips starter e down idle => exact absurd connected (by simp [idle])
  | begins starter duration down connected left =>
    exact Or.inl ⟨_, duration, rfl, rfl, rfl, left⟩
  | spent starter e down connected spent tells => exact Or.inr ⟨by rw [tells], spent⟩

namespace World

variable {π : Type}

namespace Timeline

variable {t : Timeline π} {a : Action π} {number : Nat} {s : Stage} {due : Option Nat}
  {pending : Pending π s.Signal}

/-- How an attempt of the hand-off of this task has ended, if it ends with this action. -/
def outcome (number : Nat) (t : Timeline π) : Action π → List (Except Failure Unit)
  | .turn n => if n = number then (t.event (.turn n)).outcome?.toList else []
  | _ => []

theorem outcome_other (other : a ≠ .turn number) : t.outcome number a = [] := by
  cases a with
  | turn n =>
    have differs : n ≠ number := fun same => other (congrArg Action.turn same)
    rw [outcome, if_neg differs]
  | pass | ask | cancel | listen | unlisten | publish | adjust => rfl

theorem event_operation (found : t.task? number = some ⟨number, due, .operation s pending⟩) :
    t.event (.turn number) = .resume s (pending.finish t.state.provider).result := by
  rw [event, work?, found]
  rfl

theorem of_event_resume {signal : s.Signal} (is : t.event (.turn number) = .resume s signal) :
    ∃ due pending, t.task? number = some ⟨number, due, .operation s pending⟩ ∧
      signal = (pending.finish t.state.provider).result := by
  cases found : t.task? number with
  | none =>
    rw [event, work?, found] at is
    cases is
  | some task =>
    obtain ⟨_, rfl⟩ := task?_spec found
    have is : task.work.event t.state = .resume s signal := by rwa [event, work?, found] at is
    obtain ⟨id, due, work⟩ := task
    obtain ⟨pending, rfl, rfl⟩ := Work.of_event_resume is
    exact ⟨due, pending, rfl, rfl⟩

/-- An operation goes on in the turn of its task alone. -/
theorem of_event_stage? (waits : (t.event a).stage? = some s) :
    ∃ number due pending, a = .turn number ∧
      t.task? number = some ⟨number, due, .operation s pending⟩ := by
  cases event : t.event a with
  | resume s' signal =>
    rw [event] at waits
    obtain rfl := Option.some.inj waits
    cases a with
    | pass | ask | cancel | listen | unlisten | publish | adjust => cases event
    | turn number =>
      obtain ⟨due, pending, found, _⟩ := of_event_resume event
      exact ⟨number, due, pending, rfl, found⟩
  | openSession | closeSession | recoverSession | serve =>
    rw [event] at waits
    cases waits

theorem mem_stages (found : t.task? number = some ⟨number, due, .operation s pending⟩) :
    s ∈ t.stages :=
  List.mem_filterMap.mpr ⟨_, List.mem_map_of_mem (task?_spec found).1, rfl⟩

end Timeline

variable [Provider π]

theorem proceed_leads (now : Nat) (spawned : List (Option Nat × Work π)) (w : World π)
    (step : Client × Progress) : step.2.Leads (w.proceed now spawned step).next := by
  obtain ⟨c, progress⟩ := step
  cases progress with
  | wait s => exact .wait s _ _
  | ended result => exact .ended result
  | lost => exact .lost

namespace Timeline

variable {e : Surroundings π} {t u : Timeline π} {a : Action π} {more : List (Action π)}
  {number limit : Nat} {reply : Reply} {past : List (Except Failure Unit)}

/-- A task that has ended with this reply. -/
structure Gone (t : Timeline π) (number : Nat) (reply : Reply) : Prop where
  none : t.task? number = none
  given : number < t.issued
  told : ∃ entry ∈ t.ended, entry.id = number ∧ entry.result = reply

/-- The task of this number has made this progress. -/
def Attends (t : Timeline π) (number : Nat) : Progress → Prop
  | .wait s => ∃ due pending, t.task? number = some ⟨number, due, .operation s pending⟩
  | .ended result => t.Gone number (.finished result)
  | .lost => t.Gone number .lost

/-- The turn of an operation leaves the task where the operation has got to. -/
theorem fire_attends {task : Schedule.Task (Work π)} (numbered : t.Numbered) (mem : task ∈ t.tasks)
    {now : Nat} {spawned : List (Option Nat × Work π)} {w : World π} {step : Client × Progress}
    (is : t.state.run t.now task.work = w.proceed now spawned step) :
    Attends (t.fire rules task) task.id step.2 ∧
    (client (t.fire rules task)).core = step.1.core := by
  have leads := proceed_leads now spawned w step
  have found := Schedule.Timeline.find?_fire_self t rules numbered mem
  have ended : (t.fire rules task).ended = _ := Schedule.Timeline.ended_fire t rules
  have given :=
    Nat.lt_of_lt_of_le (numbered.2 task mem) (Schedule.Timeline.issued_fire rules t task)
  have next : (rules.resume t.now task t.state).next = (t.state.run t.now task.work).next := rfl
  constructor
  · rw [next, is] at found ended
    generalize (w.proceed now spawned step).next = next at leads found ended
    generalize step.2 = progress at leads ⊢
    cases leads with
    | wait s due pending => exact ⟨due, pending, found⟩
    | ended result =>
      refine ⟨found, given, ⟨task.id, t.now, .finished result⟩, ?_, rfl, rfl⟩
      rw [ended]
      exact List.mem_cons_self
    | lost =>
      refine ⟨found, given, ⟨task.id, t.now, .lost⟩, ?_, rfl, rfl⟩
      rw [ended]
      exact List.mem_cons_self
  · have core : (client (t.fire rules task)).core =
        (t.state.run t.now task.work).state.client.core := by
      rw [client, Schedule.Timeline.state_fire]
      rfl
    rw [core, is, proceed_client]

/-- Other actions leave a task as it is. -/
theorem task?_act (given : number < t.issued) (other : a ≠ .turn number) :
    (t.act a).task? number = t.task? number := by
  cases a with
  | turn n =>
    cases found : t.task? n with
    | none =>
      rw [act, found]
      rfl
    | some task =>
      obtain ⟨_, rfl⟩ := task?_spec found
      have differs : number ≠ task.id := fun same => other (congrArg Action.turn same.symm)
      rw [act_turn found]
      exact Schedule.Timeline.find?_fire_other t rules given differs
  | ask errand =>
    have differs : t.issued ≠ number := Nat.ne_of_gt given
    simp [act, Timeline.start, Schedule.Timeline.spawn, task?, List.find?_append, differs]
  | pass | cancel | listen | unlisten | publish | adjust => rfl

/-- Replies stay, and so do the numbers that have been given. -/
theorem act_ended (t : Timeline π) (a : Action π) :
    t.ended <:+ (t.act a).ended ∧ t.issued ≤ (t.act a).issued := by
  cases a with
  | turn n =>
    cases found : t.task? n with
    | none =>
      rw [act, found]
      exact ⟨List.suffix_refl _, Nat.le_refl _⟩
    | some task =>
      rw [act_turn found]
      refine ⟨?_, Schedule.Timeline.issued_fire rules t task⟩
      rw [Schedule.Timeline.ended_fire]
      split
      · exact List.suffix_refl _
      · exact List.suffix_cons _ _
  | ask errand => exact ⟨List.suffix_refl _, Nat.le_succ _⟩
  | pass | cancel | listen | unlisten | publish | adjust =>
    exact ⟨List.suffix_refl _, Nat.le_refl _⟩

/-- A task that has ended takes no more turns. -/
theorem act_gone (allowed : t.Allows e a) (gone : t.Gone number reply) :
    a ≠ .turn number ∧ (t.act a).Gone number reply := by
  obtain ⟨none, given, entry, mem, is⟩ := gone
  have other : a ≠ .turn number := by
    rintro rfl
    obtain ⟨task, found, _⟩ := allowed
    rw [none] at found
    cases found
  obtain ⟨kept, issued⟩ := act_ended t a
  exact ⟨other, (task?_act given other).trans none, Nat.lt_of_lt_of_le given issued, entry,
    kept.subset mem, is⟩

/-- How the attempts of the hand-off of this task end, one after the other. -/
def outcomes (number : Nat) (t : Timeline π) (actions : List (Action π)) :
    List (Except Failure Unit) :=
  recorded act (outcome number) actions t

/-- How far a hand-off of the session at hand has got whose attempts have ended so. -/
inductive Tried (limit number : Nat) (past : List (Except Failure Unit)) (t : Timeline π) : Prop
  | trying (h : Handoff) (s : Stage) {due : Option Nat} {pending : Pending π s.Signal}
      (found : t.task? number = some ⟨number, due, .operation s pending⟩)
      (wants : s.purpose? = some (.recovering h))
      (own : h.generation = t.client.session.generation)
      (all : ∀ outcome ∈ past, NetworkLoss outcome)
      (attempts : t.client.budget.attempts = past.length) (left : past.length < limit)
  | ended {reply : Reply} (gone : t.Gone number reply) (verdict : Verdict π limit past reply)

section Turns

variable {s : Stage} {h : Handoff} {due : Option Nat} {pending : Pending π s.Signal}

/-- The turn of an operation resumes it. -/
theorem turn_operation (numbered : t.Numbered)
    (found : t.task? number = some ⟨number, due, .operation s pending⟩) :
    ∃ c : Client, c.core = t.client.core ∧
      (t.act (.turn number)).Attends number
        (c.resume s (pending.finish t.state.provider).result).2 ∧
      (t.act (.turn number)).client.core =
        (c.resume s (pending.finish t.state.provider).result).1.core := by
  have finished : (t.state.finish t.now pending).2.1.client.core = t.client.core :=
    finish_core t.now pending t.state
  have proceeds : t.state.run t.now (.operation s pending) =
      World.proceed t.now (t.state.finish t.now pending).2.2 (t.state.finish t.now pending).2.1
        ((t.state.finish t.now pending).2.1.client.resume s
          (pending.finish t.state.provider).result) := rfl
  obtain ⟨attends, core⟩ := fire_attends numbered (task?_spec found).1 proceeds
  rw [← act_turn found] at attends core
  exact ⟨_, finished, attends, core⟩

/-- The turn of a hand-off of the session at hand: its provider panics, or its attempt goes on or
ends. -/
theorem turn_recovering (sound : Sound t)
    (found : t.task? number = some ⟨number, due, .operation s pending⟩)
    (wants : s.purpose? = some (.recovering h))
    (own : h.generation = t.client.session.generation) :
    ((t.event (.turn number)).outcome? = none ∧ ¬Provider.Steady π ∧
      (t.act (.turn number)).client.budget = t.client.budget ∧
      (t.act (.turn number)).Attends number .lost) ∨
    ∃ progress,
      t.client.Tries h (t.event (.turn number)).outcome? (t.act (.turn number)).client progress ∧
      (t.act (.turn number)).Attends number progress := by
  obtain ⟨mem, _⟩ := task?_spec found
  obtain ⟨c, finished, attends, core⟩ := turn_operation sound.numbered found
  rw [event_operation found, Event.outcome?]
  cases panics : s.panicked (pending.finish t.state.provider).result with
  | true =>
    have unsteady : ¬Provider.Steady π := by
      intro steady
      have began := sound.issued _ (List.mem_map_of_mem mem)
      rw [Stage.Began.calm steady began] at panics
      cases panics
    rw [Client.resume_panicked panics] at attends core
    have budget := (Client.core_eq_iff.mp (core.trans finished)).2.2.2.2.1
    exact Or.inl ⟨Stage.outcome?_panicked panics, unsteady, budget, attends⟩
  | false =>
    obtain ⟨current, timely⟩ | ⟨stale, _⟩ := sound.aligned.current_or_stale (mem_stages found) wants
    · have tries :=
        Client.resume_recovering wants (current.congr finished.symm) timely _ panics
      exact Or.inr ⟨_, tries.congr finished core, attends⟩
    · exact absurd own.symm stale.generation

/-- Beside a hand-off of the session at hand there is no other. -/
theorem sole_handoff (sound : Sound t) (budgeted : Budgeted t.client t.stages)
    (found : t.task? number = some ⟨number, due, .operation s pending⟩)
    (wants : s.purpose? = some (.recovering h))
    (own : h.generation = t.client.session.generation) (allowed : t.Allows e a)
    (other : a ≠ .turn number) :
    t.client.guards = 1 ∧ t.client.handoffs (t.event a).stage?.toList = 0 := by
  have single := budgeted.single
  have guarded := t.client.guards_le
  have mine : t.client.handoffs [s] = 1 := by
    simp [Client.handoffs, Stage.recovers_of wants own]
  obtain ⟨rest, split⟩ : ∃ rest, t.stages.Perm ((t.event a).stage?.toList ++ s :: rest) := by
    cases a with
    | turn n =>
      obtain ⟨task, there, _⟩ := allowed
      obtain ⟨mem, rfl⟩ := task?_spec there
      have differs : number ≠ task.id := fun same => other (congrArg Action.turn same.symm)
      obtain ⟨rest, split⟩ := Schedule.Timeline.works_split sound.numbered mem
        (task?_spec found).1 differs
      refine ⟨stagesOf rest, (stagesOf_perm split).trans (.of_eq ?_)⟩
      rw [stagesOf_cons, stagesOf_cons, event, work?, there]
      exact congrArg (·.toList ++ _) (Work.event_stage? _ _).symm
    | pass | ask | cancel | listen | unlisten | publish | adjust =>
      exact ⟨_, List.perm_cons_erase (mem_stages found)⟩
  have count : t.client.handoffs t.stages =
      t.client.handoffs ((t.event a).stage?.toList ++ s :: rest) := split.countP_eq _
  rw [count, Client.handoffs_append, ← List.singleton_append, Client.handoffs_append, mine]
    at single
  omega

/-- Beside a hand-off of the session at hand nothing spends its budget. -/
theorem act_kept (sound : Sound t) (budgeted : Budgeted t.client t.stages)
    (found : t.task? number = some ⟨number, due, .operation s pending⟩)
    (wants : s.purpose? = some (.recovering h))
    (own : h.generation = t.client.session.generation) (allowed : t.Allows e a)
    (other : a ≠ .turn number)
    (lasts : (t.act a).client.session.generation = t.client.session.generation) :
    (t.act a).client.budget.attempts = t.client.budget.attempts := by
  obtain ⟨up, none⟩ := sole_handoff sound budgeted found wants own allowed other
  obtain ⟨new, rest, before, after, course⟩ := act_course allowed sound
  have open_still : t.event a ≠ .closeSession := by
    intro closes
    rw [closes] at course
    have next := course.closed_generation
    omega
  cases course.spends open_still with
  | nothing same => exact same
  | begins _ down => omega
  | retries _ one | settles _ one | exhausts _ one => omega

/-- In its turn a hand-off of the session at hand takes its attempt on, or begins the next one, or
ends. -/
theorem turn_tried (sound : Sound t) (limits : t.client.limit = limit)
    (lasts : (t.act (.turn number)).client.session.generation = t.client.session.generation)
    (found : t.task? number = some ⟨number, due, .operation s pending⟩)
    (wants : s.purpose? = some (.recovering h))
    (own : h.generation = t.client.session.generation)
    (all : ∀ outcome ∈ past, NetworkLoss outcome)
    (attempts : t.client.budget.attempts = past.length) (left : past.length < limit) :
    (t.act (.turn number)).Tried limit number (past ++ t.outcome number (.turn number)) := by
  simp only [outcome, if_true]
  rcases turn_recovering sound found wants own with
    ⟨none, unsteady, _, attends⟩ | ⟨progress, tries, attends⟩
  · rw [none, Option.toList_none, List.append_nil]
    exact .ended attends (.breaks past all left unsteady)
  · generalize (t.event (.turn number)).outcome? = ending at tries ⊢
    cases tries with
    | goesOn s' budget wants' =>
      obtain ⟨due', pending', found'⟩ := attends
      rw [Option.toList_none, List.append_nil]
      exact .trying h s' found' wants' (own.trans lasts.symm) all (budget ▸ attempts) left
    | @ends b _ _ _ _ counted config attempt budget =>
      have so_far : b.budget.attempts = past.length := by rw [counted, attempts]
      have most : b.config.reconnection.maxAttempts = limit := by rw [config]; exact limits
      rw [Option.toList_some]
      cases attempt with
      | succeeds => exact .ended attends (.succeeds past all left)
      | aborts e abort => exact .ended attends (.aborts past all left e abort)
      | retries e duration network more =>
        obtain ⟨due', pending', found'⟩ := attends
        have length : (past ++ [Except.error e]).length = past.length + 1 := by
          rw [List.length_append, List.length_singleton]
        refine .trying _ _ found' rfl (own.trans lasts.symm) (.concat all network) ?_ ?_
        · rw [budget, length, ← so_far]
          rfl
        · omega
      | exhausted e network spent =>
        have length : (past ++ [Except.error e]).length = limit := by
          rw [List.length_append, List.length_singleton]
          omega
        have told : b.budget.attempts + 1 = limit := by
          rw [so_far, ← length, List.length_append, List.length_singleton]
        rw [told] at attends
        exact .ended attends (.exhausts _ (.concat all network) length)

end Turns

/-- Whatever happens next in a session, its hand-off goes on as it should. -/
theorem act_tried (sound : Sound t) (budgeted : Budgeted t.client t.stages)
    (limits : t.client.limit = limit) (allowed : t.Allows e a)
    (lasts : (t.act a).client.session.generation = t.client.session.generation)
    (tried : t.Tried limit number past) :
    (t.act a).Tried limit number (past ++ t.outcome number a) := by
  cases tried with
  | ended gone verdict =>
    obtain ⟨other, gone⟩ := act_gone allowed gone
    rw [outcome_other other, List.append_nil]
    exact .ended gone verdict
  | @trying h s due pending found wants own all attempts left =>
    by_cases turn : a = .turn number
    · subst turn
      exact turn_tried sound limits lasts found wants own all attempts left
    · have given := sound.numbered.2 _ (task?_spec found).1
      have kept := act_kept sound budgeted found wants own allowed turn lasts
      rw [outcome_other turn, List.append_nil]
      exact .trying h s ((task?_act given turn).trans found) wants (own.trans lasts.symm) all
        (kept.trans attempts) left

end Timeline

end World

end RandomBeacon
