import RandomBeacon.Proofs.Actions
import RandomBeacon.Proofs.Client.Mute

/-!
Failures of handlers over whole runs. A timeline is muted like a client: its handlers never fail,
and no failure of one is told or counted. To mute it before an action or after it makes no
difference once it is muted again (`act_mute`), so two runs whose actions are the same once they are
muted cannot be told apart but by what is told of failed handlers (`handler_failures_isolated`).
-/

namespace RandomBeacon

namespace Schedule

variable {σ τ ρ : Type} (f : σ → σ) (g : τ → τ)

def Task.map (task : Task τ) : Task τ := { task with work := g task.work }

def Next.map : Next τ ρ → Next τ ρ
  | wait due work => wait due (g work)
  | ended result => ended result

def Turn.map (turn : Turn σ τ ρ) : Turn σ τ ρ where
  state := f turn.state
  next := turn.next.map g
  spawned := turn.spawned.map fun x => (x.1, g x.2)

namespace Timeline

/-- A timeline with its state and its works changed. -/
def map (t : Timeline σ τ ρ) : Timeline σ τ ρ :=
  { t with state := f t.state, tasks := t.tasks.map (·.map g) }

variable (t : Timeline σ τ ρ)

theorem map_spawn (due : Option Nat) (work : τ) :
    (t.spawn due work).map f g = (t.map f g).spawn due (g work) := by
  simp [map, spawn, Task.map]

theorem map_spawnAll (spawned : List (Option Nat × τ)) :
    (t.spawnAll spawned).map f g =
      (t.map f g).spawnAll (spawned.map fun x => (x.1, g x.2)) := by
  induction spawned generalizing t with
  | nil => rfl
  | cons x rest ih => rw [spawnAll_cons, ih, map_spawn, List.map_cons, spawnAll_cons]

theorem map_settleTask (task : Task τ) (next : Next τ ρ) :
    (t.settleTask task next).map f g = (t.map f g).settleTask (task.map g) (next.map g) := by
  cases next with
  | wait due work =>
    have replaced (other : Task τ) :
        (if other.id = task.id then (⟨task.id, due, work⟩ : Task τ) else other).map g =
          if (other.map g).id = task.id then ⟨task.id, due, g work⟩ else other.map g := by
      unfold Task.map
      split <;> rfl
    simp only [map, settleTask, Next.map, List.map_map, Function.comp_def, replaced]
    rfl
  | ended result =>
    simp only [map, settleTask, Next.map, List.filter_map, Function.comp_def]
    rfl

/-- What a turn makes of a timeline that is changed depends on the changed turn alone. -/
theorem map_fire (rules : Rules σ τ ρ) (task : Task τ) :
    (t.fire rules task).map f g =
      ((({ t.map f g with state := ((rules.resume t.now task t.state).map f g).state } :
        Timeline σ τ ρ).settleTask (task.map g) ((rules.resume t.now task t.state).map f g).next
        ).spawnAll ((rules.resume t.now task t.state).map f g).spawned) := by
  rw [fire_eq, map_spawnAll, map_settleTask]
  rfl

end Timeline

end Schedule

variable {π : Type}

def Errand.mute : Errand → Errand
  | request handler => request handler.mute
  | e => e

def Work.mute : Work π → Work π
  | errand e => errand e.mute
  | work => work

def Action.mute : Action π → Action π
  | ask errand => ask errand.mute
  | listen handler => listen handler.mute
  | a => a

theorem Errand.mute_mute (e : Errand) : e.mute.mute = e.mute := by
  cases e with
  | request handler => rw [mute, mute, handler.mute_mute]
  | openSession | closeSession | query | awaitReady | chain | account => rfl

theorem Work.mute_mute (work : Work π) : work.mute.mute = work.mute := by
  cases work with
  | errand e => rw [mute, mute, e.mute_mute]
  | recovery | operation | submitting | querying | calling | inFlight | publishing | watching
  | askingChain | askingAccount => rfl

namespace World

/-- A world whose handlers never fail, and in which none has been told of that has. -/
def mute (w : World π) : World π :=
  { w with scene := w.scene.mute, journal := w.journal.filter (!·.2.ofHandler) }

/-- A turn that leaves a muted world and muted works. -/
def Turn.mute (turn : Turn π) : Turn π := turn.map World.mute Work.mute

variable (w : World π) (now : Nat)

theorem mute_mute : w.mute.mute = w.mute := by
  simp [mute, w.scene.mute_mute, List.filter_filter]

theorem withClient_mute {c d : Client} (same : d.mute = c.mute) :
    (w.mute.withClient d).mute = (w.withClient c).mute := by
  simp [mute, withClient, Scene.mute, same, List.filter_filter]

theorem noteAll_mute (ns : List Notice) : (w.mute.noteAll ns).mute = (w.noteAll ns).mute :=
  w.withClient_mute (w.client.noteAll_mute ns).symm

theorem journalAt_mute : (w.mute.journalAt now).mute = (w.journalAt now).mute := by
  have scene : ({ w.client.mute with journal := [] } : Client).mute =
      ({ w.client with journal := [] } : Client).mute :=
    congrArg (fun c : Client => { c with journal := [] }) w.client.mute_mute
  have journal : ((w.client.journal.filter (!·.ofHandler)).map (now, ·) ++
      w.journal.filter (!·.2.ofHandler)).filter (!·.2.ofHandler) =
        (w.client.journal.map (now, ·) ++ w.journal).filter (!·.2.ofHandler) := by
    simp [List.filter_map, List.filter_filter, Function.comp_def]
  exact congrArg₂ (fun scene journal => { w with scene, journal })
    (congrArg (Scene.mk · w.scene.host) scene) journal

theorem finish_mute {β : Type} (pending : Pending π β) :
    (w.mute.finish now pending).1 = (w.finish now pending).1 ∧
    (w.mute.finish now pending).2.1.mute = (w.finish now pending).2.1.mute ∧
    (w.mute.finish now pending).2.2 = (w.finish now pending).2.2 :=
  ⟨rfl, noteAll_mute { w with provider := (pending.finish w.provider).provider } _, rfl⟩

theorem watchReady_mute (deadline : Nat) :
    (w.mute.watchReady now deadline).map World.mute Work.mute =
      (w.watchReady now deadline).map World.mute Work.mute := by
  have watch : w.mute.client.watch = w.client.watch := rfl
  have same := w.mute_mute
  unfold watchReady
  rw [watch]
  split
  · rw [Schedule.Turn.map, same]; rfl
  · rw [Schedule.Turn.map, same]; rfl
  · split
    · rw [Schedule.Turn.map, same]; rfl
    · rw [Schedule.Turn.map, same]; rfl

theorem detach_mute (d : Detached) (wait : Nat → Work π) :
    (w.mute.detach now d wait).map World.mute Work.mute =
      (w.detach now d wait).map World.mute Work.mute := by
  have same := mute_mute { w with exchanges := w.exchanges + 1 }
  rw [Schedule.Turn.map, Schedule.Turn.map, detach, detach]
  simp only
  rw [← same]
  rfl

variable [Provider π]

theorem call_mute (c : Call) :
    (w.mute.call now c).1 = (w.call now c).1 ∧
      (w.mute.call now c).2.mute = (w.call now c).2.mute := by
  exact ⟨rfl, mute_mute { w with
    provider := (Provider.start c w.provider).2, calls := (now, c) :: w.calls }⟩

theorem enter_mute (s : Stage) :
    (w.mute.enter now s).1 = (w.enter now s).1 ∧
    (w.mute.enter now s).2.mute = (w.enter now s).2.mute := by
  cases s with
  | subscribing | releasing | dropping | closing => exact w.call_mute now _
  | pausing | scheduled => exact ⟨rfl, w.mute_mute⟩

/-- An operation of the session goes on in the same way. -/
theorem proceed_mute (spawned : List (Option Nat × Work π)) (step : Client × Progress) :
    (w.mute.proceed now spawned (Veil.mute.step step)).map World.mute Work.mute =
      (w.proceed now spawned step).map World.mute Work.mute := by
  obtain ⟨c, progress⟩ := step
  have same : w.mute.withClient c.mute = (w.withClient c).mute := rfl
  cases progress with
  | wait stage =>
    obtain ⟨waits, state⟩ := (w.withClient c).enter_mute now stage
    simp only [proceed, Veil.step, Schedule.Turn.map]
    rw [← Client.mute, same, waits, state]
  | ended | lost =>
    simp only [proceed, Veil.step, Schedule.Turn.map]
    rw [← Client.mute, same, mute_mute]

theorem resume_mute (spawned : List (Option Nat × Work π)) (s : Stage) (signal : s.Signal) :
    (w.mute.proceed now spawned (w.mute.client.resume s signal)).map World.mute Work.mute =
      (w.proceed now spawned (w.client.resume s signal)).map World.mute Work.mute := by
  have resumes : w.mute.client.resume s signal = Veil.mute.step (w.client.resume s signal) :=
    Veil.mute.resume w.client s signal
  rw [resumes, proceed_mute]

/-- A publication reaches the same handlers, whichever of them fail. -/
theorem publish_mute (r : Round) :
    (w.mute.publish r).1 = (w.publish r).1 ∧ (w.mute.publish r).2.mute = (w.publish r).2.mute := by
  have delivers (held : List SubscriptionId) (s : Scene) :
      held.foldl (fun s _ => s.deliver r) s.mute =
        (held.foldl (fun s _ => s.deliver r) s).mute := by
    induction held generalizing s with
    | nil => rfl
    | cons id rest ih => rw [List.foldl_cons, s.deliver_mute, ih, List.foldl_cons]
  have published (w : World π) (held : List SubscriptionId) :
      ({ w with scene := held.foldl (fun s _ => s.deliver r) w.scene } : World π).mute =
        { w.mute with scene := held.foldl (fun s _ => s.deliver r) w.mute.scene } :=
    congrArg (fun scene => { w.mute with scene }) (delivers held w.scene).symm
  have announced := noteAll_mute { w with provider := (Provider.store r w.provider).2 }
    (Provider.store r w.provider).1
  refine ⟨rfl, ?_⟩
  unfold publish
  simp only
  rw [published, published]
  exact congrArg (fun v : World π => { v with scene :=
    (Provider.held (Provider.store r w.provider).2).foldl (fun s _ => s.deliver r) v.scene })
    announced

theorem begin_mute (errand : Errand) :
    (w.mute.begin now errand.mute).map World.mute Work.mute =
      (w.begin now errand).map World.mute Work.mute := by
  cases errand with
  | openSession =>
    have opened : w.mute.client.openSession = Veil.mute.step w.client.openSession :=
      Veil.mute.openSession w.client
    have begun : w.mute.begin now .openSession =
        w.mute.proceed now [] (Veil.mute.step w.client.openSession) := by
      rw [begin, opened]
    exact (congrArg _ begun).trans (w.proceed_mute now [] _)
  | closeSession =>
    have closed : w.mute.client.closeSession = Veil.mute.step w.client.closeSession :=
      w.client.closeSession_mute
    have begun : w.mute.begin now .closeSession =
        w.mute.proceed now [] (Veil.mute.step w.client.closeSession) := by
      rw [begin, closed]
    exact (congrArg _ begun).trans (w.proceed_mute now [] _)
  | request handler =>
    have named : w.mute.nameRequest now = ((w.nameRequest now).1, (w.nameRequest now).2.mute) := rfl
    have unchanged : (w.nameRequest now).2.client = w.client := rfl
    have veiled : (w.nameRequest now).2.mute.client = w.client.mute := rfl
    have session : w.client.mute.session = w.client.session := rfl
    have admitted :=
      Client.recordPending_mute (w.client.insertCallback (w.nameRequest now).1 handler)
    rw [Client.insertCallback_mute] at admitted
    simp only [Errand.mute, begin, named, Client.admitRequest, Client.readyGeneration, unchanged,
      veiled, session, handler.mute_name]
    by_cases ready : w.client.session.lifecycle = .ready
    · simp only [if_pos ready, Except.map, ← admitted]
      exact detach_mute ((w.nameRequest now).2.withClient
        (w.client.insertCallback (w.nameRequest now).1 handler).recordPending) now _ _
    · simp only [if_neg ready, Except.map, Schedule.Turn.map, mute_mute]
  | query q =>
    have session : w.mute.client.session = w.client.session := rfl
    simp only [Errand.mute, begin, Client.readyGeneration, session]
    by_cases ready : w.client.session.lifecycle = .ready
    · simp only [if_pos ready]
      exact w.detach_mute now _ _
    · simp only [if_neg ready, Schedule.Turn.map, mute_mute]
  | awaitReady limit => exact w.watchReady_mute now (now + limit)
  | chain =>
    obtain ⟨waits, state⟩ := w.call_mute now .chain
    simp only [Errand.mute, begin, Schedule.Turn.map, waits, state]
  | account =>
    obtain ⟨waits, state⟩ := w.call_mute now .account
    simp only [Errand.mute, begin, Schedule.Turn.map, waits, state]

/-- The turn of a task takes the same course when handlers are muted. -/
theorem run_mute (work : Work π) :
    (w.mute.run now work.mute).map World.mute Work.mute =
      (w.run now work).map World.mute Work.mute := by
  cases work with
  | errand e => exact w.begin_mute now e
  | recovery generation =>
    have recovers : w.mute.client.recoverSession generation =
        Veil.mute.step (w.client.recoverSession generation) :=
      Veil.mute.handOff w.client .lostCall generation
    simp only [Work.mute, run, recovers]
    exact w.proceed_mute now [] _
  | operation s pending =>
    obtain ⟨signal, state, spawned⟩ := w.finish_mute now pending
    simp only [Work.mute, run]
    rw [signal, spawned, ← resume_mute, state, resume_mute]
  | submitting name id op generation exchange =>
    obtain ⟨result, client⟩ := w.client.concludeRequest_mute id op
      (raced (w.submissionOutcome? exchange))
    have told := w.withClient_mute client
    have outcome : w.mute.submissionOutcome? exchange = w.submissionOutcome? exchange := rfl
    have veiled : w.mute.client = w.client.mute := rfl
    simp only [Work.mute, run, Schedule.Turn.map, outcome, veiled, result]
    cases (w.client.concludeRequest id op (raced (w.submissionOutcome? exchange))).1 with
    | error e => simp only [told]
    | ok =>
      exact congrArg (fun v : World π => (⟨{ v with scene := { v.scene with host :=
        { v.scene.host with requests := (name, id) :: v.scene.host.requests } } },
        .ended (.requested (.ok id)), []⟩ : Turn π)) told
  | querying q generation exchange =>
    obtain ⟨result, client⟩ := w.client.concludeQuery_mute q (raced (w.queryOutcome? exchange))
    have told := w.withClient_mute client
    have outcome : w.mute.queryOutcome? exchange = w.queryOutcome? exchange := rfl
    have veiled : w.mute.client = w.client.mute := rfl
    simp only [Work.mute, run, Schedule.Turn.map, outcome, veiled, result, told]
  | calling d exchange =>
    cases d with
    | submit op =>
      obtain ⟨waits, state⟩ := w.call_mute now (.submit op w.address)
      exact congrArg₂ (fun (pending : Pending π (Outcome Receipt)) v => (⟨v,
        .wait (some (now + pending.delay)) (.inFlight (.submit op) exchange pending), []⟩ : Turn π))
        waits state
    | query q =>
      obtain ⟨waits, state⟩ := w.call_mute now (.query q w.address)
      exact congrArg₂ (fun (pending : Pending π (Outcome Lookup)) v => (⟨v,
        .wait (some (now + pending.delay)) (.inFlight (.query q) exchange pending), []⟩ : Turn π))
        waits state
  | inFlight d exchange pending =>
    obtain ⟨outcome, state, spawned⟩ := w.finish_mute now pending
    have answered (v : World π) (answer : Nat × Answer) :
        ({ v with answers := answer :: v.answers } : World π).mute =
          { v.mute with answers := answer :: v.mute.answers } := rfl
    simp only [Work.mute, run]
    rw [Schedule.Turn.map, Schedule.Turn.map, answered, answered, outcome, spawned, state]
  | publishing draw =>
    obtain ⟨_, state⟩ := publish_mute { w with provider := (draw w.provider).2 } (draw w.provider).1
    exact congrArg (fun v => (⟨v, .ended .unheard, []⟩ : Turn π)) state
  | watching deadline seen => exact w.watchReady_mute now deadline
  | askingChain pending | askingAccount pending =>
    obtain ⟨outcome, state, spawned⟩ := w.finish_mute now pending
    simp only [Work.mute, run, Schedule.Turn.map, outcome, state, spawned]

namespace Timeline

/-- A timeline whose handlers never fail. -/
def mute (t : Timeline π) : Timeline π := t.map World.mute Work.mute

section Mute

variable (t : Timeline π)

omit [Provider π] in
theorem mute_mute : t.mute.mute = t.mute := by
  have works (task : Schedule.Task (Work π)) :
      (task.map Work.mute).map Work.mute = task.map Work.mute := by
    rw [Schedule.Task.map, Schedule.Task.map, task.work.mute_mute]
  have state : t.state.mute.mute = t.state.mute := t.state.mute_mute
  simp [mute, Schedule.Timeline.map, state, works]

omit [Provider π] in
theorem task?_mute (number : Nat) :
    t.mute.task? number = (t.task? number).map (·.map Work.mute) :=
  List.find?_map

theorem resume_mute (task : Schedule.Task (Work π)) :
    (rules.resume t.now (task.map Work.mute) t.state.mute).map World.mute Work.mute =
      (rules.resume t.now task t.state).map World.mute Work.mute := by
  have turned := t.state.run_mute t.now task.work
  rw [Schedule.Turn.map, Schedule.Turn.map, Schedule.Turn.mk.injEq] at turned
  obtain ⟨state, next, spawned⟩ := turned
  have journaled : (journalAt t.now (t.state.mute.run t.now task.work.mute).state).mute =
      (journalAt t.now (t.state.run t.now task.work).state).mute := by
    rw [← journalAt_mute, state, journalAt_mute]
  rw [Schedule.Turn.map, Schedule.Turn.map, Schedule.Turn.mk.injEq]
  exact ⟨journaled, next, spawned⟩

theorem fire_mute (task : Schedule.Task (Work π)) :
    mute (t.mute.fire rules (task.map Work.mute)) = mute (t.fire rules task) := by
  have fired := Schedule.Timeline.map_fire World.mute Work.mute t rules task
  have muted := Schedule.Timeline.map_fire World.mute Work.mute t.mute rules (task.map Work.mute)
  have work : (task.map Work.mute).map Work.mute = task.map Work.mute := by
    rw [Schedule.Task.map, Schedule.Task.map, task.work.mute_mute]
  have now : t.mute.now = t.now := rfl
  have state : t.mute.state = t.state.mute := rfl
  rw [now, state, t.resume_mute task, work, ← mute, ← mute, t.mute_mute] at muted
  exact muted.trans fired.symm

omit [Provider π] in
/-- What surroundings do between two turns they do to a muted world. -/
theorem alter_mute {f g : World π → World π} (same : (g t.state.mute).mute = (f t.state).mute) :
    (t.mute.alter g).mute = (t.alter f).mute := by
  have journaled : ((g t.state.mute).journalAt t.now).mute =
      ((f t.state).journalAt t.now).mute := by
    rw [← journalAt_mute, same, journalAt_mute]
  exact congrArg₂ (fun (u : Timeline π) state => { u with state }) t.mute_mute journaled

/-- To mute a timeline before an action makes no difference to the muted timeline after it. -/
theorem act_mute (a : Action π) : (t.mute.act a.mute).mute = (t.act a).mute := by
  cases a with
  | turn number =>
    have found := t.task?_mute number
    simp only [Action.mute, act, found]
    cases t.task? number with
    | none => exact t.mute_mute
    | some task => exact t.fire_mute task
  | pass instant => exact congrArg (fun u : Timeline π => { u with now := instant }) t.mute_mute
  | ask errand =>
    have asked := Schedule.Timeline.map_spawn World.mute Work.mute t.mute (some t.now)
      (.errand errand.mute)
    rw [← mute, ← mute, t.mute_mute, Work.mute, errand.mute_mute] at asked
    exact asked.trans
      (Schedule.Timeline.map_spawn World.mute Work.mute t (some t.now) (.errand errand)).symm
  | cancel id =>
    apply alter_mute
    apply withClient_mute
    have cancelled : t.state.mute.client.cancel id = _ := t.client.cancel_mute id
    rw [cancelled]
    exact Client.mute_mute _
  | listen handler =>
    apply alter_mute
    have listened : t.state.mute.scene.listen handler.mute = (t.state.scene.listen handler).mute :=
      (t.state.scene.listen_mute handler).symm
    rw [listened]
    exact World.mute_mute { t.state with scene := t.state.scene.listen handler }
  | unlisten number =>
    apply alter_mute
    apply withClient_mute
    have removed : t.state.mute.client.unsubscribeListener number = _ :=
      t.client.unsubscribeListener_mute number
    rw [removed]
    exact Client.mute_mute _
  | publish r => exact t.alter_mute (t.state.publish_mute r).2
  | adjust provider => exact t.alter_mute (World.mute_mute { t.state with provider })

theorem isReady_mute (task : Schedule.Task (Work π)) :
    t.mute.isReady rules (task.map Work.mute) = t.isReady rules task := by
  have woken : woken t.state.mute task.work.mute = woken t.state task.work := by
    cases task.work with
    | operation s pending => cases s <;> rfl
    | errand | recovery | submitting | querying | calling | inFlight | publishing | watching
    | askingChain | askingAccount => rfl
  exact congrArg (task.due.any (· ≤ t.now) || ·) woken

/-- What may happen next does not depend on whether handlers fail. -/
theorem allows_mute (adjusts : π → π → Prop) (a : Action π) :
    t.mute.Allows { adjusts } a.mute ↔ t.Allows { adjusts } a := by
  cases a with
  | turn number =>
    have found := t.task?_mute number
    simp only [Action.mute, Allows, found]
    constructor
    · rintro ⟨task, is, ready, _⟩
      obtain ⟨own, mem, rfl⟩ := Option.map_eq_some_iff.mp is
      exact ⟨own, mem, (t.isReady_mute own).symm.trans ready, trivial⟩
    · rintro ⟨task, is, ready, _⟩
      rw [is]
      exact ⟨_, rfl, (t.isReady_mute task).trans ready, trivial⟩
  | pass | ask | cancel | listen | unlisten | publish | adjust => exact Iff.rfl

end Mute

variable {t u : Timeline π} {a b : Action π} {actions others : List (Action π)}
  {adjusts : π → π → Prop}

theorem act_alike (states : t.mute = u.mute) (same : a.mute = b.mute) :
    (t.act a).mute = (u.act b).mute := by
  rw [← act_mute, states, same, act_mute]

theorem allows_alike (states : t.mute = u.mute) (same : a.mute = b.mute) :
    t.Allows { adjusts } a ↔ u.Allows { adjusts } b := by
  rw [← allows_mute, states, same, allows_mute]

/-- Actions that are the same once they are muted lead to timelines that are. -/
theorem play_alike (states : t.mute = u.mute)
    (same : actions.map Action.mute = others.map Action.mute) :
    (t.play actions).mute = (u.play others).mute := by
  induction actions generalizing t u others with
  | nil =>
    obtain rfl := List.map_eq_nil_iff.mp same.symm
    exact states
  | cons a rest ih =>
    obtain ⟨b, more, rfl, first, later⟩ := List.map_eq_cons_iff.mp same.symm
    change ((t.act a).play rest).mute = ((u.act b).play more).mute
    exact ih (act_alike states first.symm) later.symm

theorem performs_alike (states : t.mute = u.mute)
    (same : actions.map Action.mute = others.map Action.mute) :
    t.Performs { adjusts } actions ↔ u.Performs { adjusts } others := by
  induction actions generalizing t u others with
  | nil =>
    obtain rfl := List.map_eq_nil_iff.mp same.symm
    exact Iff.rfl
  | cons a rest ih =>
    obtain ⟨b, more, rfl, first, later⟩ := List.map_eq_cons_iff.mp same.symm
    exact and_congr (allows_alike states first.symm)
      (ih (act_alike states first.symm) later.symm)

/-- Two timelines that differ in nothing but what is counted and told of failed handlers. -/
structure Indistinct (adjusts : π → π → Prop) (t u : Timeline π) : Prop where
  now : t.now = u.now
  session : t.client.session = u.client.session
  watch : t.client.watch = u.client.watch
  budget : t.client.budget = u.client.budget
  callbacks : t.client.callbacks.map (fun callback => (callback.1, callback.2.mute)) =
    u.client.callbacks.map fun callback => (callback.1, callback.2.mute)
  listeners : t.client.registry.entries.map (·.alter Handler.mute) =
    u.client.registry.entries.map (·.alter Handler.mute)
  issued : t.client.registry.issued = u.client.registry.issued
  metrics : { t.client.metrics with callbackFailures := 0 } =
    { u.client.metrics with callbackFailures := 0 }
  journal : t.state.journal.filter (!·.2.ofHandler) = u.state.journal.filter (!·.2.ofHandler)
  provider : t.state.provider = u.state.provider
  calls : t.state.calls = u.state.calls
  answers : t.state.answers = u.state.answers
  /-- What handlers have heard, in this order, and the names that they go by. -/
  host : t.state.scene.host = u.state.scene.host
  /-- What has been replied to whom, and when. -/
  ended : t.ended = u.ended
  tasks : t.tasks.map (·.map Work.mute) = u.tasks.map (·.map Work.mute)
  cancels : ∀ id, (t.client.cancel id).1 = (u.client.cancel id).1
  removes : ∀ number, (t.client.unsubscribeListener number).1 =
    (u.client.unsubscribeListener number).1
  publishes : ∀ r, (t.state.publish r).1 = (u.state.publish r).1
  /-- What may happen next. -/
  allows : ∀ a b : Action π, a.mute = b.mute →
    (t.Allows { adjusts } a ↔ u.Allows { adjusts } b)

theorem indistinct_of_mute (same : t.mute = u.mute) : Indistinct adjusts t u := by
  have agree {α : Type} (f : Timeline π → α) : f t.mute = f u.mute := congrArg f same
  constructor
  case now => exact agree (·.now)
  case session => exact agree (·.client.session)
  case watch => exact agree (·.client.watch)
  case budget => exact agree (·.client.budget)
  case callbacks => exact agree (·.client.callbacks)
  case listeners => exact agree (·.client.registry.entries)
  case issued => exact agree (·.client.registry.issued)
  case metrics => exact agree (·.client.metrics)
  case journal => exact agree (·.state.journal)
  case provider => exact agree (·.state.provider)
  case calls => exact agree (·.state.calls)
  case answers => exact agree (·.state.answers)
  case host => exact agree (·.state.scene.host)
  case ended => exact agree (·.ended)
  case tasks => exact agree (·.tasks)
  case cancels =>
    intro id
    have found (t : Timeline π) : (t.mute.client.cancel id).1 = (t.client.cancel id).1 :=
      (Prod.ext_iff.mp (t.client.cancel_mute id)).1
    rw [← found, same, found]
  case removes =>
    intro number
    have found (t : Timeline π) : (t.mute.client.unsubscribeListener number).1 =
        (t.client.unsubscribeListener number).1 :=
      (Prod.ext_iff.mp (t.client.unsubscribeListener_mute number)).1
    rw [← found, same, found]
  case publishes => exact fun r => agree (fun t => (t.state.publish r).1)
  case allows => exact fun _ _ muted => allows_alike same muted

/-- Two runs of the same client whose actions differ in nothing but how the invocations of handlers
end cannot be told apart at any point but by what is counted and told of failed handlers, and what
is possible in the one is possible in the other. -/
theorem handler_failures_isolated (adjusts : π → π → Prop) (config : Config)
    (factors : Nat → Binary64) (provider : π) (suffixes : Nat → Suffix)
    (same : actions.map Action.mute = others.map Action.mute) :
    ((fresh config factors provider suffixes).Performs { adjusts } actions ↔
      (fresh config factors provider suffixes).Performs { adjusts } others) ∧
    ∀ count, Indistinct adjusts ((fresh config factors provider suffixes).play (actions.take count))
      ((fresh config factors provider suffixes).play (others.take count)) := by
  refine ⟨performs_alike rfl same, fun count => indistinct_of_mute (play_alike rfl ?_)⟩
  rw [List.map_take, same, List.map_take]

/-- A listener and a callback hear a round; their invocations end so. -/
def aired (first second : Ending) : List (Action Simulated) := [
  .ask .openSession, .turn 0, .turn 0, .listen (.steady "ear" [] first),
  .ask (.request (.steady "request" [] second)), .turn 1,
  .publish ⟨1, .replicate 32 0, .replicate 16 0, []⟩]

theorem handler_failures_isolated_aired :
    ((trial 1 (.trial {})).play
      (aired (.failed "deaf") (.panicked none))).client.metrics.callbackFailures = 2 ∧
    ((trial 1 (.trial {})).play (aired .completed .completed)).client.metrics.callbackFailures = 0 ∧
    ((trial 1 (.trial {})).play (aired (.failed "deaf") (.panicked none))).state.scene.host.heard =
      ((trial 1 (.trial {})).play (aired .completed .completed)).state.scene.host.heard := by
  have same : (aired (.failed "deaf") (.panicked none)).map Action.mute =
      (aired .completed .completed).map Action.mute := rfl
  have isolated := (handler_failures_isolated Simulated.Adjusts (.trial 1) (fun _ => .one)
    (Simulated.trial {}) (fun _ => .replicate 9 (Suffix.pick 0)) same).2 7
  exact ⟨by decide +kernel, by decide +kernel, congrArg Host.heard isolated.host⟩

end Timeline

end World

end RandomBeacon
