import RandomBeacon.Client.World
import RandomBeacon.Proofs.Client.Delivery
import RandomBeacon.Proofs.Schedule

/-!
What the turn of a task is to the session: an operation begins or goes on, or the session is only
served (`Work.event`), and the client and the stages that the turn leaves behind are those of that
event (`run_move`).
-/

namespace RandomBeacon

variable {π : Type}

/-- The stage in which a task waits. -/
def Work.stage? : Work π → Option Stage
  | operation stage _ => some stage
  | _ => none

/-- The stages in which tasks wait. -/
def stagesOf (works : List (Work π)) : List Stage := works.filterMap Work.stage?

@[simp] theorem stagesOf_nil : stagesOf ([] : List (Work π)) = [] := rfl

theorem stagesOf_cons (work : Work π) (rest : List (Work π)) :
    stagesOf (work :: rest) = work.stage?.toList ++ stagesOf rest := by
  cases stage : work.stage? <;> simp [stagesOf, stage]

@[simp] theorem stagesOf_append (a b : List (Work π)) :
    stagesOf (a ++ b) = stagesOf a ++ stagesOf b :=
  List.filterMap_append

theorem stagesOf_errands (errands : List Errand) :
    stagesOf (errands.map (Work.errand (π := π))) = [] := by
  simp [stagesOf, List.filterMap_map, Function.comp_def, Work.stage?]

theorem stagesOf_perm {a b : List (Work π)} (perm : a.Perm b) : (stagesOf a).Perm (stagesOf b) :=
  perm.filterMap _

/-- What a turn is to the session. -/
inductive Event where
  | openSession
  | closeSession
  | recoverSession (generation : Nat)
  | resume (s : Stage) (signal : s.Signal)
  /-- A turn of a request, a query, a waiter or the provider. -/
  | serve

def Event.stage? : Event → Option Stage
  | resume s _ => some s
  | _ => none

/-- The subscription that an event brings to the client. -/
def Event.received? : Event → Option SubscriptionId
  | resume s signal => s.received? signal
  | _ => none

/-- What an event makes of a client, told apart from its notices and counts, and the stages that
it leaves behind. -/
inductive Move (c : Client) : Event → Client → List Stage → Prop
  | openSession {d : Client} (after : d.core = c.openSession.1.core) :
      Move c .openSession d c.openSession.2.stages
  | closeSession {d : Client} (after : d.core = c.closeSession.1.core) :
      Move c .closeSession d c.closeSession.2.stages
  | recoverSession (generation : Nat) {d : Client}
      (after : d.core = (c.recoverSession generation).1.core) :
      Move c (.recoverSession generation) d (c.recoverSession generation).2.stages
  | resume (s : Stage) (signal : s.Signal) {b d : Client} (same : b.core = c.core)
      (after : d.core = (b.resume s signal).1.core) :
      Move c (.resume s signal) d (b.resume s signal).2.stages
  | serve {d : Client} (same : d.standing = c.standing) : Move c .serve d []

theorem Move.congr {c d b : Client} {event : Event} {new : List Stage} (move : Move c event d new)
    (same : b.core = d.core) : Move c event b new := by
  cases move with
  | openSession after => exact .openSession (same.trans after)
  | closeSession after => exact .closeSession (same.trans after)
  | recoverSession generation after => exact .recoverSession generation (same.trans after)
  | resume s signal before after => exact .resume s signal before (same.trans after)
  | serve standing => exact .serve ((Client.standing_of_core same).trans standing)

/-- What the turn of a task is to the session. -/
def Work.event (w : World π) : Work π → Event
  | .errand .openSession => .openSession
  | .errand .closeSession => .closeSession
  | .recovery generation => .recoverSession generation
  | .operation s pending => .resume s (pending.finish w.provider).result
  | _ => .serve

theorem Work.event_stage? (w : World π) (work : Work π) : (work.event w).stage? = work.stage? := by
  cases work with
  | errand e => cases e <;> rfl
  | operation | recovery | submitting | querying | calling | inFlight | publishing | watching
  | askingChain | askingAccount => rfl

/-- Only an operation waits in a stage. -/
theorem Work.of_stage? {work : Work π} {s : Stage} (waits : work.stage? = some s) :
    ∃ pending, work = .operation s pending := by
  cases work with
  | operation stage pending =>
    obtain rfl := Option.some.inj waits
    exact ⟨pending, rfl⟩
  | errand | recovery | submitting | querying | calling | inFlight | publishing | watching
  | askingChain | askingAccount => cases waits

theorem Work.of_event_resume {w : World π} {work : Work π} {s : Stage} {signal : s.Signal}
    (is : work.event w = .resume s signal) :
    ∃ pending, work = .operation s pending ∧ signal = (pending.finish w.provider).result := by
  have waits : work.stage? = some s := by rw [← Work.event_stage? w, is, Event.stage?]
  obtain ⟨pending, rfl⟩ := Work.of_stage? waits
  cases is
  exact ⟨pending, rfl, rfl⟩

theorem Work.of_event_recoverSession {w : World π} {work : Work π} {generation : Nat}
    (is : work.event w = .recoverSession generation) : work = .recovery generation := by
  cases work with
  | recovery g =>
    cases is
    rfl
  | errand e => cases e <;> cases is
  | operation | submitting | querying | calling | inFlight | publishing | watching | askingChain
  | askingAccount => cases is

namespace World

@[simp] theorem journalAt_core (now : Nat) (w : World π) :
    (w.journalAt now).client.core = w.client.core := rfl

theorem finish_core {β : Type} (now : Nat) (pending : Pending π β) (w : World π) :
    (w.finish now pending).2.1.client.core = w.client.core :=
  Client.noteAll_core _ _

/-- All that a wait leaves behind is a publication. -/
theorem finish_spawned {β : Type} {now : Nat} {pending : Pending π β} {w : World π} {work : Work π}
    (mem : work ∈ (w.finish now pending).2.2.map (·.2)) :
    ∃ p, (pending.finish w.provider).publication = some p ∧ work = .publishing p.draw := by
  unfold finish at mem
  cases h : (pending.finish w.provider).publication with
  | none => simp [h] at mem
  | some p => exact ⟨p, rfl, by simpa [h] using mem⟩

theorem finish_stages {β : Type} (now : Nat) (pending : Pending π β) (w : World π) :
    stagesOf ((w.finish now pending).2.2.map (·.2)) = [] := by
  apply List.filterMap_eq_nil_iff.mpr
  intro work mem
  obtain ⟨p, _, rfl⟩ := finish_spawned mem
  rfl

/-- All that a lost call leaves behind is a recovery. -/
theorem recoveries_spawned {α : Type} {now generation : Nat} {result : Except Failure α}
    {work : Work π} (mem : work ∈ (recoveries now generation result).map (·.2)) :
    work = .recovery generation := by
  unfold recoveries at mem
  split at mem
  · exact List.mem_singleton.mp mem
  · cases mem

theorem recoveries_stages {α : Type} (now generation : Nat) (result : Except Failure α) :
    stagesOf ((recoveries (π := π) now generation result).map (·.2)) = [] := by
  apply List.filterMap_eq_nil_iff.mpr
  intro work mem
  obtain rfl := recoveries_spawned mem
  rfl

theorem concludeRequest_core (id : RequestId) (op : Operation) (raced : Raced Receipt)
    (c : Client) : (c.concludeRequest id op raced).2.core = c.core := by
  have noted := Client.noteAll_core c raced.notices
  unfold Client.concludeRequest
  simp only
  split <;> exact noted

theorem concludeQuery_core (q : Query) (raced : Raced Lookup) (c : Client) :
    (c.concludeQuery q raced).2.core = c.core := by
  have noted := Client.noteAll_core c raced.notices
  unfold Client.concludeQuery
  simp only
  split <;> exact noted

/-- Whoever waits for the client to be ready changes nothing. -/
theorem watchReady_state (now deadline : Nat) (w : World π) :
    (w.watchReady now deadline).state = w := by
  unfold watchReady
  split
  · rfl
  · rfl
  · split <;> rfl

/-- All that is left behind is the wait itself. -/
theorem watchReady_works {now deadline : Nat} {w : World π} {work : Work π}
    (mem : work ∈ (w.watchReady now deadline).works) :
    work = .watching deadline w.client.watch.version := by
  unfold watchReady at mem
  split at mem
  · cases mem
  · cases mem
  · split at mem
    · cases mem
    · exact List.mem_singleton.mp mem

theorem watchReady_move (now deadline : Nat) (w : World π) :
    Move w.client .serve (w.watchReady now deadline).state.client
      (stagesOf (w.watchReady now deadline).works) := by
  have stages : stagesOf (w.watchReady now deadline).works = [] := by
    apply List.filterMap_eq_nil_iff.mpr
    intro work mem
    obtain rfl := watchReady_works mem
    rfl
  rw [watchReady_state, stages]
  exact .serve rfl

variable [Provider π]

theorem enter_client (now : Nat) (s : Stage) (w : World π) :
    (w.enter now s).2.client = w.client := by
  cases s <;> rfl

theorem proceed_client (now : Nat) (spawned : List (Option Nat × Work π)) (w : World π)
    (step : Client × Progress) : (w.proceed now spawned step).state.client = step.1 := by
  obtain ⟨c, progress⟩ := step
  cases progress with
  | wait stage => exact enter_client now stage (w.withClient c)
  | ended | lost => rfl

theorem proceed_spawned (now : Nat) (spawned : List (Option Nat × Work π)) (w : World π)
    (step : Client × Progress) : (w.proceed now spawned step).spawned = spawned := by
  obtain ⟨c, progress⟩ := step
  cases progress <;> rfl

theorem proceed_stages (now : Nat) (spawned : List (Option Nat × Work π)) (w : World π)
    (step : Client × Progress) :
    stagesOf (w.proceed now spawned step).works =
      step.2.stages ++ stagesOf (spawned.map (·.2)) := by
  obtain ⟨c, progress⟩ := step
  cases progress <;> rfl

theorem publish_standing (r : Round) (w : World π) :
    (w.publish r).2.client.standing = w.client.standing := by
  have delivered (held : List SubscriptionId) (s : Scene) :
      (held.foldl (fun s _ => s.deliver r) s).client.standing = s.client.standing := by
    induction held generalizing s with
    | nil => rfl
    | cons id rest ih => exact (ih _).trans (Scene.deliver_standing r s)
  exact (delivered _ _).trans (Client.standing_of_core (Client.noteAll_core _ _))

theorem request_move (now : Nat) (w : World π) (handler : ClientHandler) :
    Move w.client .serve (w.begin now (.request handler)).state.client
      (stagesOf (w.begin now (.request handler)).works) := by
  unfold begin Client.admitRequest Client.readyGeneration
  by_cases ready : w.client.session.lifecycle = .ready
  · have named : (w.nameRequest now).2.client = w.client := rfl
    simp only [named, if_pos ready, Except.map]
    exact .serve rfl
  · have named : (w.nameRequest now).2.client = w.client := rfl
    simp only [named, if_neg ready, Except.map]
    exact .serve rfl

theorem query_move (now : Nat) (w : World π) (q : Query) :
    Move w.client .serve (w.begin now (.query q)).state.client
      (stagesOf (w.begin now (.query q)).works) := by
  unfold begin
  cases w.client.readyGeneration with
  | error e => exact .serve rfl
  | ok generation => exact .serve rfl

/-- The turn of a task is the event that `Work.event` says it is. -/
theorem run_move (now : Nat) (w : World π) (work : Work π) :
    Move w.client (work.event w) (w.run now work).state.client
      (stagesOf (w.run now work).works) := by
  have ended {β : Type} (pending : Pending π β) :=
    Client.standing_of_core (finish_core now pending w)
  cases work with
  | errand e =>
    cases e with
    | openSession =>
      rw [run, begin, proceed_client, proceed_stages, List.map_nil, stagesOf_nil, List.append_nil]
      exact .openSession rfl
    | closeSession =>
      rw [run, begin, proceed_client, proceed_stages, List.map_nil, stagesOf_nil, List.append_nil]
      exact .closeSession rfl
    | request handler => exact request_move now w handler
    | query q => exact query_move now w q
    | awaitReady limit => exact watchReady_move now (now + limit) w
    | chain | account => exact .serve rfl
  | recovery generation =>
    rw [run, proceed_client, proceed_stages, List.map_nil, stagesOf_nil, List.append_nil]
    exact .recoverSession generation rfl
  | operation s pending =>
    have stages := finish_stages now pending w
    simp only [run]
    rw [proceed_client, proceed_stages, stages, List.append_nil]
    exact .resume s _ (finish_core now pending w) rfl
  | submitting name id op generation exchange =>
    have same := Client.standing_of_core
      (concludeRequest_core id op (raced (w.submissionOutcome? exchange)) w.client)
    have stages (result : Except Failure Unit) :=
      recoveries_stages (π := π) now generation result
    simp only [run, Schedule.Turn.works, Schedule.Next.works, List.nil_append, stages]
    split <;> exact .serve same
  | querying q generation exchange =>
    have same := Client.standing_of_core
      (concludeQuery_core q (raced (w.queryOutcome? exchange)) w.client)
    have stages (result : Except Failure (Option Randomness)) :=
      recoveries_stages (π := π) now generation result
    simp only [run, Schedule.Turn.works, Schedule.Next.works, List.nil_append, stages]
    exact .serve same
  | calling d exchange => cases d <;> exact .serve rfl
  | inFlight d exchange pending =>
    simp only [run, Schedule.Turn.works, Schedule.Next.works, List.nil_append,
      finish_stages now pending w]
    exact .serve (ended pending)
  | publishing draw => exact .serve (publish_standing _ _)
  | watching deadline seen => exact watchReady_move now deadline w
  | askingChain pending | askingAccount pending =>
    simp only [run, Schedule.Turn.works, Schedule.Next.works, List.nil_append,
      finish_stages now pending w]
    exact .serve (ended pending)

end World

end RandomBeacon
