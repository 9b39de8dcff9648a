import RandomBeacon.Proofs.Actions
import RandomBeacon.Proofs.Guard

/-!
Panics of the provider. A panic of a subscribe or unsubscribe call takes the operation that waits
for it along and leaves the session as it is, so for the guard and the lifecycle the operation
counts as if it were still under way (`panics_count_as_under_way`): a session none of whose
operations has broken down comes to rest when they have ended, and one whose hand-off has broken
down keeps its guard until it is closed. Panics of other calls, of the end of a cleanup and of
operations of closed sessions do no harm.
-/

namespace RandomBeacon

variable {π : Type}

/-- The stage in which a panic of the provider takes an operation along. -/
def Event.broken : Event → List Stage
  | resume s signal => if s.panicked signal then [s] else []
  | _ => []

theorem Event.broken_eq {event : Event} (broke : event.broken ≠ []) :
    event.broken = event.stage?.toList := by
  cases event with
  | resume s signal =>
    simp only [broken] at broke ⊢
    split at broke
    · rename_i panicked
      rw [if_pos panicked]
      rfl
    · exact absurd rfl broke
  | openSession | closeSession | recoverSession | serve => exact absurd rfl broke

/-- A panic leaves the session as it is, and nothing of the operation. -/
theorem Move.broke {c d : Client} {event : Event} {new : List Stage} (move : Move c event d new)
    (broke : event.broken ≠ []) : d.core = c.core ∧ new = [] := by
  cases move with
  | resume s signal same after =>
    have panicked : s.panicked signal = true := by
      by_contra calm
      exact broke (if_neg calm)
    rw [Client.resume_panicked panicked] at after ⊢
    exact ⟨after.trans same, rfl⟩
  | openSession | closeSession | recoverSession | serve => exact absurd rfl broke

/-- An operation of a generation opens its session or recovers it. -/
theorem Stage.current_eq (generation : Nat) (s : Stage) :
    s.current generation = (s.recovers generation || s.initializes generation) := by
  unfold current recovers initializes
  cases s.purpose? with
  | none => rfl
  | some p =>
    cases p with
    | opening g => rfl
    | recovering h => by_cases same : h.generation = generation <;>
        simp [Purpose.recovers, Purpose.initializes, Purpose.generation, same]

/-- A session that is reconnecting, with its guard up and nobody at it. -/
structure Stranded (c : Client) (stages : List Stage) : Prop where
  guard : c.session.reconnecting = some c.session.generation
  lifecycle : c.session.lifecycle = .reconnecting
  abandoned : ∀ s ∈ stages, s.current c.session.generation = false

theorem Stranded.of_session {c d : Client} {stages others : List Stage}
    (stranded : Stranded c stages) (same : d.session = c.session)
    (abandoned : ∀ s ∈ others, s.current c.session.generation = false) : Stranded d others := by
  obtain ⟨guard, lifecycle, _⟩ := stranded
  constructor <;> rwa [same]

theorem Stranded.perm {c : Client} {stages others : List Stage} (stranded : Stranded c stages)
    (perm : stages.Perm others) : Stranded c others :=
  ⟨stranded.guard, stranded.lifecycle,
    fun s mem => stranded.abandoned s (perm.mem_iff.mpr mem)⟩

/-- Nothing but a cleanup gets such a session going again. -/
theorem Course.stranded {c d : Client} {event : Event} {new rest : List Stage}
    (stranded : Stranded c (event.stage?.toList ++ rest)) (course : Course c event d new)
    (lasts : d.session.generation = c.session.generation) : Stranded d (new ++ rest) := by
  have core {b : Client} (after : d.core = b.core) : d.session = b.session :=
    (Client.core_eq_iff.mp after).2.2.1
  have old : ∀ s ∈ rest, s.current c.session.generation = false :=
    fun s mem => stranded.abandoned s (List.mem_append_right _ mem)
  cases course with
  | opens idle after =>
    rw [stranded.lifecycle] at idle
    cases idle
  | declines after | passes other after | closed after | breaks panicked after =>
    exact stranded.of_session (core after) old
  | serves same => exact stranded.of_session (congrArg (·.2.1) same) old
  | closes after =>
    have next : d.session.generation = c.session.generation + 1 :=
      congrArg Session.generation (core after)
    omega
  | hands handed after =>
    cases handed with
    | busy => exact stranded.of_session (core after) old
    | skips _ _ down | begins _ _ down | spent _ _ down => exact absurd stranded.guard down
  | @advances s _ _ _ _ _ wants current =>
    have mine : s.current c.session.generation = true :=
      Stage.current_iff.mpr ⟨_, wants, current.generation.symm⟩
    rw [stranded.abandoned s (List.mem_append_left _ (by simp [Event.stage?]))] at mine
    cases mine
  | fades wants stale fade after =>
    refine stranded.of_session (core after) fun s mem => ?_
    rcases List.mem_append.mp mem with late | waits
    · simp [Stage.current, (fade.late s late).1, Ne.symm stale.generation]
    · exact old s waits

namespace World.Timeline

variable [Provider π] {e : Surroundings π} {t u : Timeline π} {a : Action π}
  {actions more : List (Action π)}

/-- The operation that an action breaks down, by its stage. -/
def breakdown (t : Timeline π) (a : Action π) : List Stage := (t.event a).broken

/-- The operations that panics of the provider have taken along. -/
def breakdowns (t : Timeline π) (actions : List (Action π)) : List Stage :=
  recorded act breakdown actions t

/-- The stages of operations under way, and those in which operations have broken down. -/
structure Haunted (broken : List Stage) (t : Timeline π) : Prop where
  aligned : Aligned t.client (t.stages ++ broken)
  guarded : Guarded t.client (t.stages ++ broken)

/-- An operation that breaks down is still counted. -/
theorem act_broke (allowed : t.Allows e a) (sound : Sound t) (broke : t.breakdown a ≠ []) :
    (t.act a).client.core = t.client.core ∧ t.stages.Perm (t.breakdown a ++ (t.act a).stages) := by
  cases a with
  | turn number =>
    obtain ⟨task, found, _, _⟩ := allowed
    obtain ⟨new, rest, before, after, move⟩ := fire_move sound.numbered (task?_spec found).1
    rw [breakdown, event_turn found] at broke ⊢
    rw [act_turn found]
    obtain ⟨core, rfl⟩ := move.broke broke
    exact ⟨core, Event.broken_eq broke ▸ before.trans (after.symm.append_left _)⟩
  | pass | ask | cancel | listen | unlisten | publish | adjust => exact absurd rfl broke

theorem act_haunted (allowed : t.Allows e a) (sound : Sound t) {broken : List Stage}
    (haunted : Haunted broken t) : Haunted (broken ++ t.breakdown a) (t.act a) := by
  obtain ⟨aligned, guarded⟩ := haunted
  by_cases broke : t.breakdown a = []
  · obtain ⟨new, rest, before, after, course⟩ := act_course allowed sound
    have before := (before.append_right broken).trans (.of_eq (List.append_assoc _ _ _))
    have after := (after.append_right broken).trans (.of_eq (List.append_assoc _ _ _))
    have calm : ∀ s signal, t.event a = .resume s signal → s.panicked signal = false := by
      intro s signal is
      by_contra panicked
      simp [breakdown, is, Event.broken, panicked] at broke
    rw [broke, List.append_nil]
    exact ⟨(course.aligned (aligned.perm before)).perm after.symm,
      (course.guarded (aligned.perm before) (guarded.perm before) calm).perm after.symm⟩
  · obtain ⟨core, left⟩ := act_broke allowed sound broke
    have same : (t.stages ++ broken).Perm ((t.act a).stages ++ (broken ++ t.breakdown a)) := by
      refine (left.append_right broken).trans ?_
      refine (List.perm_append_comm.append_right broken).trans ?_
      rw [List.append_assoc]
      exact List.perm_append_comm.append_left _
    exact ⟨(aligned.perm same).congr (Client.standing_of_core core),
      (guarded.perm same).congr (Client.standing_of_core core)⟩

theorem Runs.haunted {config : Config} {factors : Nat → Binary64} {provider : π}
    {suffixes : Nat → Suffix} (run : Runs e (fresh config factors provider suffixes) actions t) :
    Haunted ((fresh config factors provider suffixes).breakdowns actions) t := by
  have start : Haunted [] (fresh config factors provider suffixes) :=
    ⟨aligned_fresh config factors provider suffixes,
      guarded_fresh config factors provider suffixes⟩
  exact run.carries breakdown (sound_fresh config factors provider suffixes) start
    fun _ _ _ allowed sound haunted => act_haunted allowed sound haunted

/-- A provider whose calls return breaks no operation down. -/
theorem Runs.breakdowns_steady (steady : Provider.Steady π) (run : Runs e t actions u)
    (sound : Sound t) : t.breakdowns actions = [] := by
  refine run.carries breakdown (P := fun past _ => past = []) sound rfl ?_
  rintro past u a allowed sound rfl
  cases a with
  | turn number =>
    obtain ⟨task, found, _, permitted⟩ := allowed
    rw [List.nil_append, breakdown, event_turn found]
    cases is : task.work.event u.state with
    | resume s signal =>
      have calm : s.panicked signal = false :=
        calm_event steady sound.issued
          (Or.inr ⟨task, (task?_spec found).1, permitted, is.symm⟩) s signal rfl
      exact if_neg (by simp [calm])
    | openSession | closeSession | recoverSession | serve => rfl
  | pass | ask | cancel | listen | unlisten | publish | adjust => rfl

/-- A stranded session stays so until it is closed. -/
theorem Runs.stranded (run : Runs e t more u) (sound : Sound t)
    (lasts : u.client.session.generation = t.client.session.generation)
    (stranded : Stranded t.client t.stages) : Stranded u.client u.stages := by
  obtain ⟨performs, rfl⟩ := run
  induction more generalizing t with
  | nil => exact stranded
  | cons a rest ih =>
    obtain ⟨allowed, performs⟩ := performs
    have after := (step_act allowed).sound sound
    have later : Runs e (t.act a) rest ((t.act a).play rest) := ⟨performs, rfl⟩
    -- generations only grow, so the session is the same in between
    have same : (t.act a).client.session.generation = t.client.session.generation :=
      Nat.le_antisymm (Nat.le_trans (later.reachable.generation_le after) (Nat.le_of_eq lasts))
        ((step_act allowed).generation_le sound)
    obtain ⟨new, others, before, left, course⟩ := act_course allowed sound
    have stranded' := (course.stranded (stranded.perm before) same).perm left.symm
    exact ih after stranded' performs (lasts.trans same.symm)

/-- In every run, panics included, an operation that has broken down counts as if it were still
under way: the guard is up for the session at hand or down, and it is up exactly if a hand-off of
that session is under way or has broken down. A session none of whose operations is under way or
has broken down is at rest, with its guard down; an operation that has broken down is of no later
generation, so a cleanup begins such a session. Once a hand-off of a session has broken down, no
other takes its place, and if the session is left reconnecting it stays so until it is closed. -/
theorem panics_count_as_under_way {config : Config} {factors : Nat → Binary64} {provider : π}
    {suffixes : Nat → Suffix} {broken : List Stage}
    (run : Runs e (fresh config factors provider suffixes) actions t)
    (told : broken = (fresh config factors provider suffixes).breakdowns actions) :
    (t.client.session.reconnecting = none ∨
      t.client.session.reconnecting = some t.client.session.generation) ∧
    (t.client.session.reconnecting = some t.client.session.generation ↔
      ∃ s ∈ t.stages ++ broken, s.recovers t.client.session.generation) ∧
    ((∀ s ∈ t.stages ++ broken, s.recovers t.client.session.generation = false ∧
        s.initializes t.client.session.generation = false) →
      (t.client.session.lifecycle = .uninitialized ∨ t.client.session.lifecycle = .ready ∨
        t.client.session.lifecycle = .failed) ∧
      t.client.session.reconnecting = none) ∧
    (∀ s ∈ broken, ∀ p, s.purpose? = some p → p.generation ≤ t.client.session.generation) ∧
    (∀ s ∈ broken, s.recovers t.client.session.generation →
      ∀ s' ∈ t.stages, s'.recovers t.client.session.generation = false) ∧
    (t.client.session.lifecycle = .reconnecting →
      (∀ s ∈ t.stages, s.recovers t.client.session.generation = false ∧
        s.initializes t.client.session.generation = false) →
      ∀ more u, Runs e t more u →
        u.client.session.generation = t.client.session.generation →
        u.client.session.lifecycle = .reconnecting ∧
        u.client.session.reconnecting = some u.client.session.generation) := by
  subst told
  obtain ⟨aligned, guarded⟩ := run.haunted
  have only : t.client.session.reconnecting = none ∨
      t.client.session.reconnecting = some t.client.session.generation := by
    cases up : t.client.session.reconnecting with
    | none => exact Or.inl rfl
    | some g => exact Or.inr (congrArg some (aligned.guard g up))
  refine ⟨only, guarded.up_iff, ?_, ?_, ?_, ?_⟩
  · intro idle
    refine ⟨guarded.settled idle, only.resolve_right fun up => ?_⟩
    obtain ⟨s, mem, recovers⟩ := guarded.up_iff.mp up
    rw [(idle s mem).1] at recovers
    cases recovers
  · exact fun s mem => aligned.begun s (List.mem_append_right _ mem)
  · intro s mem recovers s' under
    -- two hand-offs would count for one guard
    have books := guarded.exact
    have up := t.client.guards_le
    rw [Client.handoffs_append] at books
    have lost : 0 < t.client.handoffs (breakdowns _ actions) :=
      List.countP_pos_iff.mpr ⟨s, mem, recovers⟩
    by_contra also
    have another : 0 < t.client.handoffs t.stages :=
      List.countP_pos_iff.mpr ⟨s', under, by simpa using also⟩
    omega
  · intro lifecycle idle more u later lasts
    have sound := run.reachable.sound (sound_fresh config factors provider suffixes)
    have up : t.client.session.reconnecting = some t.client.session.generation :=
      guarded.up_iff.mpr (guarded.reconnects lifecycle)
    have stranded := later.stranded sound lasts ⟨up, lifecycle, fun s mem => by
      rw [Stage.current_eq, (idle s mem).1, (idle s mem).2]
      rfl⟩
    exact ⟨stranded.lifecycle, stranded.guard⟩

section Trials

/-- A provider that panics when it is first asked for a subscription and when it is first asked to
take one back. -/
def faltering : Timeline Scripted :=
  trial 3 { script := {
    subscribe := [⟨0, .panicked none⟩, ⟨0, .returned ()⟩]
    unsubscribe := [⟨0, .panicked none⟩, ⟨0, .returned ()⟩] } }

/-- Its session is opened and closed, the one after it as well, and then it is opened again. -/
def perseverance : List (Action Scripted) := [
  .ask .openSession, .turn 0, .turn 0, .ask .closeSession, .turn 1,
  .ask .openSession, .turn 2, .turn 2, .ask .closeSession, .turn 3, .turn 3,
  .ask .openSession, .turn 4, .turn 4]

theorem panics_count_as_under_way_perseverance :
    faltering.breakdowns perseverance = [.subscribing (.opening 0) 0, .closing ⟨"sub1"⟩] ∧
    (faltering.play perseverance).client.session.reconnecting = none := by
  let surroundings : Surroundings Scripted := .limited Scripted.Adjusts fun _ _ => true
  have all : ∀ w work, surroundings.permits w work := fun _ _ => rfl
  have turns {t : Timeline Scripted} {number : Nat}
      (up : (t.task? number).any (t.isReady rules) = true) :
      t.Allows surroundings (.turn number) := allows_turn all up
  have performs : faltering.Performs surroundings perseverance :=
    ⟨trivial, turns (by decide +kernel), turns (by decide +kernel), trivial,
      turns (by decide +kernel), trivial, turns (by decide +kernel), turns (by decide +kernel),
      trivial, turns (by decide +kernel), turns (by decide +kernel), trivial,
      turns (by decide +kernel), turns (by decide +kernel), trivial⟩
  have broken : faltering.breakdowns perseverance =
      [.subscribing (.opening 0) 0, .closing ⟨"sub1"⟩] := by decide +kernel
  refine ⟨broken, ((panics_count_as_under_way ⟨performs, rfl⟩ broken.symm).2.2.1 ?_).2⟩
  decide +kernel

/-- A session that has lost a call, and whose provider panics when it is asked for another
subscription. Nothing is under way any more. -/
def stranded : Timeline Scripted :=
  (trial 3 {}).replay (fun _ _ => true) [
    .script {
      submit := [⟨0, .failed (.transport "connection reset")⟩]
      subscribe := [⟨0, .returned ()⟩, ⟨0, .panicked (some "provider bug")⟩, ⟨0, .returned ()⟩] },
    .ask .openSession, .turns 9, .ask (.request (.plain "lost")), .turns 9, .pass 100, .turns 9]

/-- A panic in a hand-off can leave a client with nothing under way, its guard up and reconnecting,
and so it stays, refusing to open and to take requests, until it is closed. -/
theorem panic_strands_session :
    ∃ provider t, Reachable (.limited Scripted.Adjusts fun _ _ => true) (trial 3 provider) t ∧
      t.tasks = [] ∧ t.client.session.reconnecting = some t.client.session.generation ∧
      ∀ more u, Runs (.limited Scripted.Adjusts fun _ _ => true) t more u →
        u.client.session.generation = t.client.session.generation →
        u.client.session.lifecycle = .reconnecting := by
  have run : Reachable (.limited Scripted.Adjusts fun _ _ => true) (trial 3 {}) stranded :=
    reachable_replay _ _
  have idle : stranded.tasks = [] := List.isEmpty_iff.mp (by decide +kernel)
  have guard : stranded.client.session.reconnecting = some stranded.client.session.generation := by
    decide +kernel
  have stays : Stranded stranded.client stranded.stages := ⟨guard, by decide +kernel, by
    decide +kernel⟩
  exact ⟨{}, stranded, run, idle, guard, fun more u later lasts =>
    (later.stranded (run.sound (sound_fresh _ _ _ _)) lasts stays).lifecycle⟩

end Trials

end World.Timeline

end RandomBeacon
