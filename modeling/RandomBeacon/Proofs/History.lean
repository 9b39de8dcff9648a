import RandomBeacon.Proofs.Actions
import RandomBeacon.Proofs.Broadcast
import RandomBeacon.Proofs.Client.Changes
import RandomBeacon.Proofs.Client.Veil

/-!
The roster of a client over a whole run. What each action changes is written down (`changes`), so a
run has a history; a turn that is neither a cleanup nor an accepted request nor a publication has no
part in it. The roster is what the history makes of an empty one (`Runs.amends`), and a request
reaches the provider only after its callback has come in (`Runs.pledged`).
-/

namespace RandomBeacon

open Provider

namespace Scene

variable {s t u : Scene} {changes : List Change} {d : Client}

/-- What is only told does not matter. -/
theorem Amends.told (amends : s.Amends changes t) (tells : Tells t u) : s.Amends changes u := by
  have both := amends.trans (amends.wired.tells_handles tells).toAmends
  rwa [List.append_nil] at both

namespace Wired

/-- An accepted request brings its callback. -/
theorem admitted_amends (wired : Wired s) (ready : s.client.session.lifecycle = .ready)
    (id : RequestId) (handler : ClientHandler) : s.Amends [.admits id handler]
      { s with client := (s.client.insertCallback id handler).recordPending } := by
  refine ⟨wired.admitted id handler, .single trivial, Nat.le_refl _, .nil, ?_, ?_, ?_⟩
  · rintro number ⟨⟩
  · intro _ count reads
    exact (Option.some.inj reads).symm
  · intro _ _
    exact wired.ready ready

/-- Only a dispatch handler gives way to a new one. -/
theorem listeners_reinstalled (wired : Wired s) (same : d.registry = s.client.reinstalled) :
    d.listeners = s.client.listeners := by
  rw [Client.listeners, same, Client.reinstalled_entries, List.filterMap_append, Client.listeners]
  refine (List.append_nil _).trans ?_
  rw [List.filterMap_filter]
  apply List.filterMap_congr
  intro entry mem
  by_cases old : s.client.session.dispatch = some entry.number
  · have only : .ofDispatch entry.number ∈ s.client.registry.entries.filter (·.dispatches) := by
      rw [wired.dispatch, old]
      exact List.mem_singleton.mpr rfl
    have is := List.inj_on_of_nodup_map wired.numbers mem (List.mem_of_mem_filter only) rfl
    rw [is]
    split <;> rfl
  · simp [old]

/-- An operation of the session that closes nothing leaves the roster as it is. -/
theorem rewired_amends (wired : Wired s) (rewires : s.client.Rewires d)
    (gauge : d.metrics.pendingCallbacks = s.client.metrics.pendingCallbacks)
    (lasts : d.session.generation = s.client.session.generation) :
    s.Amends [] { s with client := d } := by
  have kept (roster : d.roster = s.client.roster)
      (issued : s.client.registry.issued ≤ d.registry.issued)
      (dispatches : s.client.Dispatches → d.Dispatches) : s.Amends [] { s with client := d } := by
    have callbacks : d.callbacks = s.client.callbacks := congrArg Roster.callbacks roster
    refine ⟨wired.rewired rewires, ?_, issued, .nil, ?_, ?_, dispatches⟩
    · rw [roster]
      exact .same _
    · rintro number ⟨⟩
    · intro gauged count reads
      rw [callbacks]
      exact gauged count (gauge ▸ reads)
  cases rewires with
  | kept same _ =>
    simp only [Client.wiring, Prod.mk.injEq] at same
    obtain ⟨registry, dispatch, callbacks⟩ := same
    refine kept ?_ (Nat.le_of_eq (congrArg Registry.issued registry.symm)) ?_
    · rw [Client.roster, callbacks, Client.listeners, registry]
      rfl
    · intro dispatches
      rw [Client.Dispatches, callbacks, dispatch]
      exact dispatches
  | installed new =>
    simp only [Client.wiring, Prod.mk.injEq] at new
    obtain ⟨registry, dispatch, callbacks⟩ := new
    refine kept ?_ ?_ ?_
    · rw [Client.roster, callbacks, wired.listeners_reinstalled registry]
      rfl
    · rw [registry, Client.reinstalled_issued]
      exact Nat.le_succ _
    · intro _ _
      rw [dispatch]
      rfl
  | cleared _ _ next => omega

/-- A cleanup empties the roster. -/
theorem closed_amends (wired : Wired s) (after : d.core = s.client.reset.core)
    (gauge : d.metrics.pendingCallbacks = some 0) : s.Amends [.closes] { s with client := d } := by
  obtain ⟨_, _, session, _, _, registry, callbacks⟩ := Client.core_eq_iff.mp after
  have idle : d.session.lifecycle ≠ .ready := by
    rw [session]
    simp [Client.reset, Client.recordPending]
  have emptied : d.roster = {} := by
    rw [Client.roster, callbacks, Client.listeners, registry]
    rfl
  have none : d.callbacks = [] := congrArg Roster.callbacks emptied
  have issued : d.registry.issued = s.client.registry.issued := by
    rw [registry]
    rfl
  refine ⟨wired.reset registry (congrArg Session.dispatch session) none idle, ?_, ?_, .nil, ?_, ?_,
    ?_⟩
  · rw [emptied]
    exact .single trivial
  · exact Nat.le_of_eq issued.symm
  · rintro number ⟨⟩
  · intro _ count reads
    rw [none]
    exact Option.some.inj (reads.symm.trans gauge)
  · exact fun _ waiting => absurd none waiting

/-- Whoever is pending when a delivery of a publication begins can count on the dispatch handler. -/
theorem deliveries_dispatch (wired : Wired s) (dispatches : s.client.Dispatches) (r : Round)
    (count : Nat) : ∀ scene ∈ s.deliveries r count, scene.Wired ∧ scene.client.Dispatches := by
  induction count generalizing s with
  | zero => rintro scene ⟨⟩
  | succ count ih =>
    intro scene mem
    rcases List.mem_cons.mp mem with rfl | later
    · exact ⟨wired, dispatches⟩
    · have delivered := wired.deliver_handles r
      exact ih delivered.wired (delivered.dispatches dispatches) scene later

end Wired

end Scene

namespace World

variable {π : Type} [Provider π] {w : World π}

/-- What a publication changes, delivery after delivery. -/
def publishChanges (r : Round) (w : World π) : List Change :=
  recorded (fun s (_ : SubscriptionId) => s.deliver r) (fun s _ => s.deliverChanges r)
    (held (store r w.provider).2) (w.announced r)

/-- What the turn of a task changes. -/
def changes (now : Nat) (w : World π) : Work π → List Change
  | .errand .closeSession => [.closes]
  | .errand (.request handler) =>
    if w.client.session.lifecycle = .ready then [.admits (w.nameRequest now).1 handler] else []
  | .publishing draw =>
    ({ w with provider := (draw w.provider).2 } : World π).publishChanges (draw w.provider).1
  | _ => []

theorem changes_calm {work : Work π} (calm : work.Calm w) (opens : work.event w ≠ .closeSession)
    (now : Nat) : w.changes now work = [] := by
  cases work with
  | errand e =>
    cases e with
    | request handler => exact if_neg calm
    | closeSession => exact absurd rfl opens
    | openSession | query | awaitReady | chain | account => rfl
  | publishing draw => exact calm.elim
  | recovery | operation | submitting | querying | calling | inFlight | watching | askingChain
  | askingAccount => rfl

theorem publish_handles (wired : w.scene.Wired) (r : Round) :
    w.scene.Handles (w.publishChanges r) (w.publish r).2.scene := by
  have told := wired.tells_handles (t := w.announced r)
    ⟨announced_core r w, Client.noteAll_gauge _ _, rfl⟩
  exact told.trans
    (Scene.Wired.recorded_handles (fun _ _ _ wired => wired.deliver_handles r) told.wired)

/-- The operations of the session that close nothing leave the gauge alone. -/
theorem run_gauge {work : Work π} (other : work.event w ≠ .serve)
    (opens : work.event w ≠ .closeSession) (now : Nat) :
    (w.run now work).state.client.metrics.pendingCallbacks =
      w.client.metrics.pendingCallbacks := by
  cases work with
  | errand e =>
    cases e with
    | openSession =>
      rw [run, begin, proceed_client]
      exact Veil.kept w.client fun v => v.openSession w.client
    | closeSession => exact absurd rfl opens
    | request | query | awaitReady | chain | account => exact absurd rfl other
  | recovery generation =>
    rw [run, proceed_client]
    exact Veil.kept w.client fun v => v.handOff w.client .lostCall generation
  | operation s pending =>
    simp only [run]
    rw [proceed_client]
    exact (Veil.kept _ fun v => v.resume _ s _).trans (finish_tells now pending w).gauge
  | submitting | querying | calling | inFlight | publishing | watching | askingChain
  | askingAccount => exact absurd rfl other

/-- What the turn of a task makes of the scene. -/
theorem run_amends (wired : w.scene.Wired) {work : Work π} {rest : List Stage}
    (aligned : Aligned w.client ((work.event w).stage?.toList ++ rest)) (now : Nat) :
    w.scene.Amends (w.changes now work) (w.run now work).state.scene := by
  by_cases serves : work.event w = .serve
  · have serving := run_serving serves now
    generalize (w.run now work).state.scene = turned at serving ⊢
    cases serving with
    | tells calm tells =>
      rw [changes_calm calm (by simp [serves])]
      exact (Scene.Amends.refl wired).told tells
    | admits handler ready =>
      rw [changes, if_pos ready]
      exact wired.admitted_amends ready _ handler
    | publishes draw =>
      exact (publish_handles (w := { w with provider := (draw w.provider).2 }) wired _).toAmends
  · have course := (run_move now w work).course aligned
    have same : (w.run now work).state.scene =
        { w.scene with client := (w.run now work).state.client } :=
      congrArg (Scene.mk _) (run_host serves now)
    rw [same]
    by_cases closes : work.event w = .closeSession
    · have is : work = .errand .closeSession := by
        cases work with
        | errand e => cases e <;> first | rfl | cases closes
        | recovery | operation | submitting | querying | calling | inFlight | publishing
        | watching | askingChain | askingAccount => cases closes
      subst is
      have gauge : (w.run now (.errand .closeSession)).state.client.metrics.pendingCallbacks =
          some 0 := by
        rw [run, begin, proceed_client, Client.closeSession]
        split <;> rfl
      exact wired.closed_amends course.closed_core gauge
    · have lasts := course.generation.resolve_right fun closing => closes closing.1
      have calm : work.Calm w := by
        cases work with
        | errand e =>
          cases e with
          | request => exact absurd rfl serves
          | openSession | closeSession | query | awaitReady | chain | account => trivial
        | publishing draw => exact absurd rfl serves
        | recovery | operation | submitting | querying | calling | inFlight | watching
        | askingChain | askingAccount => trivial
      rw [changes_calm calm closes]
      exact wired.rewired_amends (course.rewires serves) (run_gauge serves closes now) lasts

namespace Timeline

variable {e : Surroundings π} {s t : Timeline π} {a : Action π} {actions : List (Action π)}
  {past : List Change}

/-- What an action changes. -/
def changes (t : Timeline π) : Action π → List Change
  | .turn number => (t.work? (.turn number)).elim [] (t.state.changes t.now)
  | .cancel id => [.cancels id (t.client.cancel id).1]
  | .listen handler => [.adds t.client.registry.issued handler]
  | .unlisten number => [.removes number (t.client.unsubscribeListener number).1]
  | .publish r => t.state.publishChanges r
  | .pass _ | .ask _ | .adjust _ => []

/-- What the actions of a run change, one after the other. -/
def history (t : Timeline π) (actions : List (Action π)) : List Change :=
  recorded act changes actions t

theorem changes_turn {number : Nat} {task : Schedule.Task (Work π)}
    (found : t.task? number = some task) :
    t.changes (.turn number) = t.state.changes t.now task.work := by
  rw [changes, work?, found]
  rfl

theorem act_amends (allowed : t.Allows e a) (sound : Sound t) (wired : t.state.scene.Wired) :
    t.state.scene.Amends (t.changes a) (t.act a).state.scene := by
  have journaled {w : World π} {changes : List Change}
      (amends : t.state.scene.Amends changes w.scene) :
      t.state.scene.Amends changes (w.journalAt t.now).scene :=
    amends.told ⟨rfl, rfl, rfl⟩
  cases a with
  | turn number =>
    obtain ⟨task, found, _, _⟩ := allowed
    obtain ⟨new, rest, before, _, _⟩ := fire_move sound.numbered (task?_spec found).1
    rw [act_turn found, changes_turn found, Schedule.Timeline.state_fire]
    exact journaled (run_amends wired (sound.aligned.perm before) t.now)
  | pass | ask => exact .refl wired
  | adjust provider => exact journaled (w := { t.state with provider }) (.refl wired)
  | cancel id => exact journaled (wired.cancel_handles id).toAmends
  | listen handler => exact journaled (wired.listen_handles handler).toAmends
  | unlisten number => exact journaled (wired.unlisten_handles allowed).toAmends
  | publish r => exact journaled (publish_handles wired r).toAmends

/-- The roster is what the history makes of it. -/
theorem Runs.amends (run : Runs e s actions t) (sound : Sound s) (wired : s.state.scene.Wired) :
    s.state.scene.Amends (s.history actions) t.state.scene :=
  run.carries changes (P := fun past u => s.state.scene.Amends past u.state.scene) sound
    (.refl wired) fun _ _ _ allowed sound before =>
      before.trans (act_amends allowed sound before.wired)

/-- Between two turns every notice has gone to the journal. -/
theorem Reachable.silent (run : Reachable e s t) (silent : s.client.journal = []) :
    t.client.journal = [] := by
  induction run with
  | start => exact silent
  | next run step ih =>
    cases step with
    | turn task =>
      rw [client, Schedule.Timeline.state_fire]
      rfl
    | pass | ask => exact ih
    | cancel | listen | unlisten | publish | adjust => rfl

/-- An operation whose callback has come in. -/
def Admitted (history : List Change) (op : Operation) : Prop :=
  ∃ id handler instant, op = .requestRandomness (RequestId.text id) instant ∧
    .admits id handler ∈ history

/-- What is to be submitted, or has been, has a callback that has come in before. -/
structure Pledged (history : List Change) (t : Timeline π) : Prop where
  waiting : ∀ work ∈ t.works, ∀ op, work.submits? = some op → Admitted history op
  sent : ∀ op ∈ t.state.submitted, Admitted history op

omit [Provider π] in
theorem Pledged.mono {more : List Change} (pledged : t.Pledged past) :
    t.Pledged (past ++ more) := by
  have later {op : Operation} : Admitted past op → Admitted (past ++ more) op := by
    rintro ⟨id, handler, instant, is, mem⟩
    exact ⟨id, handler, instant, is, List.mem_append_left _ mem⟩
  exact ⟨fun work mem op submits => later (pledged.waiting work mem op submits),
    fun op mem => later (pledged.sent op mem)⟩

/-- Only an accepted request leaves a submission behind. -/
theorem run_admitted {w : World π} {work new : Work π} {now : Nat} {op : Operation}
    (mem : new ∈ (w.run now work).works) (submits : new.submits? = some op) :
    Admitted (w.changes now work) op := by
  cases run_follows now w work new mem with
  | submit handler exchange asked ready =>
    subst asked
    cases submits
    refine ⟨_, handler, _, rfl, ?_⟩
    rw [World.changes, if_pos ready]
    exact List.mem_singleton.mpr rfl
  | stage | publication | recovery | request | query | ask | submission | lookup | watch | chain
  | account => cases submits

theorem act_pledged (allowed : t.Allows e a) (numbered : t.Numbered) (pledged : t.Pledged past) :
    (t.act a).Pledged (past ++ t.changes a) := by
  have kept : t.Pledged (past ++ t.changes a) := pledged.mono
  cases a with
  | turn number =>
    obtain ⟨task, found, _, _⟩ := allowed
    obtain ⟨rest, before, after⟩ :=
      Schedule.Timeline.works_fire rules numbered (task?_spec found).1
    rw [act_turn found]
    constructor
    · intro work mem op submits
      rcases List.mem_append.mp (after.mem_iff.mp mem) with new | old
      · obtain ⟨id, handler, instant, is, inside⟩ := run_admitted new submits
        rw [changes_turn found]
        exact ⟨id, handler, instant, is, List.mem_append_right _ inside⟩
      · exact kept.waiting work (before.mem_iff.mpr (List.mem_cons_of_mem _ old)) op submits
    · intro op mem
      have sent : (Schedule.Timeline.state (t.fire rules task)).submitted =
          task.work.submits?.toList ++ t.state.submitted := by
        rw [Schedule.Timeline.state_fire]
        exact submitted_run t.now t.state task.work
      rw [sent] at mem
      rcases List.mem_append.mp mem with new | old
      · exact kept.waiting task.work (before.mem_iff.mpr List.mem_cons_self) op
          (Option.mem_toList.mp new)
      · exact kept.sent op old
  | ask errand =>
    refine ⟨?_, kept.sent⟩
    intro work mem op submits
    have works : (t.act (.ask errand)).works = t.works ++ [.errand errand] :=
      Schedule.Timeline.works_spawn t _ _
    rw [works] at mem
    rcases List.mem_append.mp mem with old | new
    · exact kept.waiting work old op submits
    · rw [List.mem_singleton.mp new] at submits
      cases submits
  | pass | cancel | listen | unlisten | publish | adjust => exact ⟨kept.waiting, kept.sent⟩

theorem Runs.pledged (run : Runs e s actions t) (sound : Sound s) (pledged : s.Pledged past) :
    t.Pledged (past ++ s.history actions) :=
  run.carries changes (P := Pledged) sound pledged
    fun _ _ _ allowed sound before => act_pledged allowed sound.numbered before

omit [Provider π] in
theorem journalAt_silent {w : World π} (silent : w.client.journal = []) (now : Nat) :
    w.journalAt now = w := by
  obtain ⟨⟨client, host⟩, _⟩ := w
  obtain ⟨config, factors, session, watch, budget, registry, callbacks, metrics, journal⟩ := client
  obtain rfl : journal = [] := silent
  rfl

/-- A refused request takes its name and tells why, and that is all. -/
theorem act_refused {number : Nat} {due : Option Nat} {handler : ClientHandler}
    (silent : t.client.journal = [])
    (found : t.task? number = some ⟨number, due, .errand (.request handler)⟩)
    (idle : t.client.session.lifecycle ≠ .ready) :
    t.act (.turn number) = { t with
      state := (t.state.nameRequest t.now).2
      tasks := t.tasks.filter (·.id ≠ number)
      ended := ⟨number, t.now, .requested (.error (.notReady t.client.session.lifecycle))⟩ ::
        t.ended } := by
  have refused : t.state.run t.now (.errand (.request handler)) =
      ⟨(t.state.nameRequest t.now).2,
        .ended (.requested (.error (.notReady t.client.session.lifecycle))), []⟩ := by
    have named : (t.state.nameRequest t.now).2.client = t.client := rfl
    simp only [run, begin, Client.admitRequest, Client.readyGeneration, named, if_neg idle,
      Except.map]
  have resumed : rules.resume t.now ⟨number, due, .errand (.request handler)⟩ t.state =
      ⟨(t.state.nameRequest t.now).2,
        .ended (.requested (.error (.notReady t.client.session.lifecycle))), []⟩ := by
    have kept := journalAt_silent (w := (t.state.nameRequest t.now).2) silent t.now
    simp only [rules, refused, kept]
  rw [act_turn found, Schedule.Timeline.fire, resumed]
  rfl

omit [Provider π] in
/-- A listener is removed if it is there. -/
theorem unsubscribe_iff (wired : t.state.scene.Wired) {number : Nat}
    (known : number ∈ t.state.scene.host.listeners.map (·.2)) :
    (t.client.unsubscribeListener number).1 = true ↔ number ∈ t.client.listeners.map (·.1) := by
  have truthful : (t.client.unsubscribeListener number).1 =
      t.client.listeners.any (·.1 = number) := by
    cases (wired.unlisten_handles known).becomes with
    | change truthful _ => exact truthful
  rw [truthful]
  simp [List.any_eq_true]

/-- A publication changes no roster before its deliveries, and each of these finds the pending
callbacks on its roll but for those that are cancelled before their turn. -/
theorem publish_reaches (wired : t.state.scene.Wired) (dispatches : t.client.Dispatches)
    {w : World π} (same : w.scene = t.state.scene) (r : Round) :
    (w.announced r).client.roster = t.client.roster ∧
    ∀ s ∈ (w.announced r).deliveries r (w.publish r).1, ∀ id handler,
      (id, handler) ∈ s.client.callbacks →
      (.callback id, handler) ∈ s.roll r.result ∨ .cancels id true ∈ s.foreChanges r := by
  have announced : (w.announced r).client.core = t.client.core := by
    rw [w.announced_core r, World.client, same]
    rfl
  have wired' : (w.announced r).Wired :=
    wired.congr announced (congrArg (·.host.listeners) same)
  have dispatches' : (w.announced r).client.Dispatches := by
    obtain ⟨_, _, session, _, _, _, callbacks⟩ := Client.core_eq_iff.mp announced
    rw [Client.Dispatches, callbacks, session]
    exact dispatches
  refine ⟨Client.roster_of_core announced, ?_⟩
  intro s mem id handler pending
  obtain ⟨wired, dispatches⟩ := wired'.deliveries_dispatch dispatches' r _ s mem
  exact wired.hears_or_cancelled dispatches r pending

/-- The roster of a client agrees with the history of its run. -/
structure Accords (e : Surroundings π) (history : List Change) (t : Timeline π) : Prop where
  /-- Pending are the callbacks that have come in with an accepted request and since then have
  neither been cancelled nor given way to another of the same name, with no cleanup since. -/
  callbacks : ∀ id handler, (id, handler) ∈ t.client.callbacks ↔
    Stands history (.admits id handler) (·.DropsCallback id)
  /-- Registered are the listeners that have been added and not removed since, with no cleanup
  since. -/
  listeners : ∀ number handler, (number, handler) ∈ t.client.listeners ↔
    Stands history (.adds number handler) (·.DropsListener number)
  /-- Whatever happens next changes the roster in this way and in no other. -/
  changes : ∀ a, t.Allows e a → t.client.roster.Becomes (t.changes a) (t.act a).client.roster
  /-- No turn changes it but that of a cleanup, an accepted request or a publication: not the end of
  a request, however it ends, and no step of an opening or of a hand-off. -/
  spares : ∀ number task, t.Allows e (.turn number) → t.task? number = some task →
    task.work.Calm t.state → task.work.event t.state ≠ .closeSession →
    (t.act (.turn number)).client.roster = t.client.roster
  cancels : ∀ id, (t.client.cancel id).1 = true ↔ id ∈ t.client.callbacks.map (·.1)
  removes : ∀ number ∈ t.state.scene.host.listeners.map (·.2),
    (t.client.unsubscribeListener number).1 = true ↔ number ∈ t.client.listeners.map (·.1)
  cancelled : (history.filterMap Change.admitted?).Nodup →
    (history.filterMap Change.cancelled?).Nodup
  removed : (history.filterMap Change.removed?).Nodup
  /-- A request that is refused takes its name and tells why, and that is all. -/
  refuses : ∀ number due handler,
    t.task? number = some ⟨number, due, .errand (.request handler)⟩ →
    t.client.session.lifecycle ≠ .ready →
    t.act (.turn number) = { t with
      state := (t.state.nameRequest t.now).2
      tasks := t.tasks.filter (·.id ≠ number)
      ended := ⟨number, t.now, .requested (.error (.notReady t.client.session.lifecycle))⟩ ::
        t.ended }
  gauge : t.client.Gauged
  /-- What has been submitted has a callback that had come in before. -/
  submitted : ∀ op ∈ t.state.submitted, Admitted history op
  /-- A round that is published now is heard by those on the rolls of its deliveries, and a callback
  that is pending when a delivery begins is on its roll, unless it is cancelled before the turn of
  the dispatch handler. -/
  reaches : ∀ w : World π, w.scene = t.state.scene → ∀ r,
    (w.announced r).client.roster = t.client.roster ∧
    (w.publish r).2.scene.host.heard =
      ((((w.announced r).deliveries r (w.publish r).1).flatMap (·.roll r.result)).map
        fun x => (x.2.name, r.result)).reverse ++ t.state.scene.host.heard ∧
    ∀ s ∈ (w.announced r).deliveries r (w.publish r).1, ∀ id handler,
      (id, handler) ∈ s.client.callbacks →
      (.callback id, handler) ∈ s.roll r.result ∨ .cancels id true ∈ s.foreChanges r

variable {config : Config} {factors : Nat → Binary64} {provider : π} {suffixes : Nat → Suffix}

/-- In every run and for every interleaving the roster of the client agrees with the history. -/
theorem roster_follows_history (run : Runs e (fresh config factors provider suffixes) actions t) :
    Accords e ((fresh config factors provider suffixes).history actions) t := by
  have fresh_sound := sound_fresh config factors provider suffixes
  have sound := run.reachable.sound fresh_sound
  have amends := run.amends fresh_sound (wired_fresh config factors provider suffixes)
  have becomes : Roster.Becomes {} ((fresh config factors provider suffixes).history actions)
      t.client.roster := amends.becomes
  have wired : t.state.scene.Wired := amends.wired
  have dispatches : t.client.Dispatches := amends.dispatches fun waiting => absurd rfl waiting
  have pledged : t.Pledged ([] ++ (fresh config factors provider suffixes).history actions) := by
    refine run.pledged fresh_sound ⟨?_, ?_⟩
    · rintro work ⟨⟩
    · rintro op ⟨⟩
  rw [List.nil_append] at pledged
  constructor
  case callbacks => exact fun _ _ => becomes.callback_iff
  case listeners => exact fun _ _ => becomes.listener_iff
  case changes => exact fun a allowed => (act_amends allowed sound wired).becomes
  case spares =>
    intro number task allowed found calm opens
    have turned := (act_amends allowed sound wired).becomes
    rw [changes_turn found, changes_calm calm opens] at turned
    exact turned.of_nil
  case cancels =>
    intro id
    simp [Client.cancel, Client.hasCallback, List.any_eq_true]
  case removes => exact fun _ known => unsubscribe_iff wired known
  case cancelled => exact becomes.cancelled_nodup
  case removed =>
    have distinct := amends.numbers.imp fun lt => Nat.ne_of_lt lt
    exact becomes.removed_nodup distinct
  case refuses =>
    intro number due handler found idle
    exact act_refused (run.reachable.silent rfl) found idle
  case gauge => exact amends.gauged fun count reads => by cases reads
  case submitted => exact pledged.sent
  case reaches =>
    intro w same r
    obtain ⟨roster, reached⟩ := publish_reaches wired dispatches same r
    refine ⟨roster, ?_, reached⟩
    rw [publish_heard, same]

/-- A session whose request was lost and whose budget is spent. -/
def lapsed : Timeline Simulated :=
  (trial 1 (.trial {})).replay (fun _ _ => true) [
    .ask .openSession, .turns 9, .listen (.plain "ear"),
    .behave { submitTransportFailure := true, subscribeFailure := .always },
    .ask (.request (.plain "lost")), .turns 9,
    .pass 100, .turns 9, .pass 1000, .turns 9, .pass 2000, .turns 9]

/-- Its callback and its listener are still there. -/
theorem roster_follows_history_lapsed :
    lapsed.client.session.lifecycle = .failed ∧
    ∃ actions,
      Runs (.limited Simulated.Adjusts fun _ _ => true) (trial 1 (.trial {})) actions lapsed ∧
      (∃ id handler, Stands ((trial 1 (Simulated.trial {})).history actions) (.admits id handler)
        (·.DropsCallback id)) ∧
      ∃ number handler,
        Stands ((trial 1 (Simulated.trial {})).history actions) (.adds number handler)
          (·.DropsListener number) := by
  have failed : lapsed.client.session.lifecycle = .failed := by decide +kernel
  have waits : 0 < lapsed.client.callbacks.length := by decide +kernel
  have listens : 0 < lapsed.client.listeners.length := by decide +kernel
  have before : Reachable (.limited Simulated.Adjusts fun _ _ => true) (trial 1 (.trial {}))
      lapsed := reachable_replay _ _
  obtain ⟨actions, run⟩ := before.runs (numbered_fresh _ _ _ _)
  have accords := roster_follows_history run
  obtain ⟨⟨id, handler⟩, pending⟩ := List.exists_mem_of_length_pos waits
  obtain ⟨⟨number, listener⟩, registered⟩ := List.exists_mem_of_length_pos listens
  exact ⟨failed, actions, run, ⟨id, handler, (accords.callbacks id handler).mp pending⟩,
    number, listener, (accords.listeners number listener).mp registered⟩

end Timeline

end World

end RandomBeacon
