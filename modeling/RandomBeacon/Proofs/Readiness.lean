import RandomBeacon.Proofs.Attempts
import RandomBeacon.Proofs.Lifecycle
import RandomBeacon.Proofs.Replay
import RandomBeacon.Proofs.Timely

/-!
Waiting until a client is ready. Whoever watches the lifecycle sees the session's
(`Reachable.mirrors`), and a state that has not been seen wakes them. So the verdict of one who
waits is sound, and a verdict that the session keeps until nothing can run is not missed
(`wait_ready_verdict`).
-/

namespace RandomBeacon

/-- The verdict that a state of the lifecycle is to one who waits for the client to be ready. -/
def Lifecycle.verdict? : Lifecycle → Option Bool
  | ready => some true
  | failed => some false
  | uninitialized | initializing | reconnecting => none

theorem Lifecycle.verdict?_eq_true {l : Lifecycle} : l.verdict? = some true ↔ l = ready := by
  cases l <;> simp [verdict?]

theorem Lifecycle.verdict?_eq_false {l : Lifecycle} : l.verdict? = some false ↔ l = failed := by
  cases l <;> simp [verdict?]

namespace Client

/-- What was sent last to those who watch the lifecycle is the lifecycle. -/
def Mirrors (c : Client) : Prop := c.watch.value = c.session.lifecycle

variable {c d : Client}

theorem Mirrors.congr (mirrors : c.Mirrors) (session : d.session = c.session)
    (watch : d.watch = c.watch) : d.Mirrors := by
  rw [Mirrors, session, watch]
  exact mirrors

theorem Mirrors.of_core (mirrors : c.Mirrors) (same : d.core = c.core) : d.Mirrors := by
  obtain ⟨_, _, session, watch, _⟩ := core_eq_iff.mp same
  exact mirrors.congr session watch

theorem mirrors_setLifecycle (l : Lifecycle) (c : Client) : (c.setLifecycle l).Mirrors := rfl

theorem mirrors_givenUp (generation : Nat) (l : Lifecycle) (c : Client) :
    (c.givenUp generation l).Mirrors := rfl

theorem mirrors_install (id : SubscriptionId) (c : Client) : (c.install id).Mirrors := rfl

theorem Mirrors.transition (mirrors : c.Mirrors) (generation : Nat) (source target : Lifecycle) :
    (c.transition generation source target).Mirrors := by
  unfold Client.transition
  split
  · rfl
  · exact mirrors

theorem Mirrors.clearReconnecting (mirrors : c.Mirrors) (generation : Nat) :
    (c.clearReconnecting generation).Mirrors := by
  rw [Mirrors, clearReconnecting_watch, clearReconnecting_session]
  exact mirrors

theorem HandOff.mirrors {generation : Nat} {starter : Starter} {progress : Progress}
    (handed : c.HandOff generation starter d progress) (mirrors : c.Mirrors) : d.Mirrors := by
  cases handed with
  | busy | skips => exact mirrors
  | joins => exact mirrors.transition _ _ _
  | begins => rfl
  | spent => exact mirrors_givenUp _ _ _

theorem Advance.mirrors {s : Stage} {received : Option SubscriptionId} {progress : Progress}
    (advance : c.Advance s received d progress) (mirrors : c.Mirrors) : d.Mirrors := by
  cases advance with
  | pauses | asks | takes | asksAtOnce | asksAnew | retries => exact mirrors
  | opens generation failed id => exact mirrors_install id c
  | refused => rfl
  | handsOff generation failed handed => exact handed.mirrors mirrors
  | recovers h failed id =>
    have installed : ((c.install id).withAttempts 0).Mirrors := mirrors_install id c
    exact installed.clearReconnecting _
  | exhausted | aborts => exact mirrors_givenUp _ _ _

/-- Nothing was sent, so nothing has changed. -/
theorem Passes.quiet {states : List Lifecycle} (passes : c.Passes states d)
    (same : d.watch.version = c.watch.version) : d.session.lifecycle = c.session.lifecycle := by
  have none : states = [] := by
    have sent := passes.sent
    exact List.length_eq_zero_iff.mp (by omega)
  rw [passes.last, none, List.getLastD_nil]

end Client

theorem Course.mirrors {c d : Client} {event : Event} {new : List Stage}
    (course : Course c event d new) (serves : event ≠ .serve) (mirrors : c.Mirrors) :
    d.Mirrors := by
  cases course with
  | opens idle after => exact (c.mirrors_setLifecycle .initializing).of_core after
  | declines after | passes other after | closed after | breaks panicked after
  | fades wants stale fade after => exact mirrors.of_core after
  | closes after =>
    have reset : c.reset.Mirrors := rfl
    exact reset.of_core after
  | hands handed after => exact (handed.mirrors mirrors).of_core after
  | advances wants current advance after => exact (advance.mirrors mirrors).of_core after
  | serves same => exact absurd rfl serves

namespace World

variable {π : Type}

/-- The verdict of the lifecycle, as those who watch it see it. -/
theorem watchReady_verdict {now deadline : Nat} {w : World π} {verdict : Bool}
    (is : w.client.watch.value.verdict? = some verdict) :
    (w.watchReady now deadline).next = .ended (.ready verdict) := by
  cases verdict with
  | true => rw [watchReady, Lifecycle.verdict?_eq_true.mp is]
  | false => rw [watchReady, Lifecycle.verdict?_eq_false.mp is]

theorem watchReady_undecided {now deadline : Nat} {w : World π}
    (undecided : w.client.watch.value.verdict? = none) :
    (w.watchReady now deadline).next =
      if deadline ≤ now then .ended (.ready false)
      else .wait (some deadline) (.watching deadline w.client.watch.version) := by
  unfold watchReady
  cases value : w.client.watch.value with
  | ready | failed =>
    rw [value] at undecided
    cases undecided
  | uninitialized | initializing | reconnecting =>
    simp only
    split <;> rfl

namespace Timeline

variable [Provider π] {e : Surroundings π} {s t u : Timeline π} {a : Action π}
  {actions before more : List (Action π)} {number deadline : Nat}

def lifecycle (t : Timeline π) : Lifecycle := t.client.session.lifecycle

section Watch

theorem act_mirrors (allowed : t.Allows e a) (sound : Sound t) (mirrors : t.client.Mirrors) :
    (t.act a).client.Mirrors := by
  obtain ⟨_, _, _, _, course⟩ := act_course allowed sound
  by_cases serves : t.event a = .serve
  · have watch := act_watch serves
    rw [serves] at course
    cases course with
    | serves same => exact mirrors.congr (congrArg (·.2.1) same) watch
  · exact course.mirrors serves mirrors

/-- Those who watch the lifecycle are sent every state that it goes through. -/
theorem act_passes (allowed : t.Allows e a) (sound : Sound t) :
    ∃ states, t.client.Passes states (t.act a).client := by
  by_cases closes : t.event a = .closeSession
  · obtain ⟨_, _, _, _, course⟩ := act_course allowed sound
    rw [closes] at course
    exact ⟨_, course.closed_passes.2⟩
  · obtain ⟨_, states, goes⟩ := act_goes allowed sound closes
    exact ⟨states, goes.toPasses⟩

theorem Reachable.mirrors (run : Reachable e s t) (sound : Sound s) (mirrors : s.client.Mirrors) :
    t.client.Mirrors := by
  induction run with
  | start => exact mirrors
  | next run step ih =>
    have here := run.sound sound
    obtain ⟨a, allowed, rfl⟩ := step.action here.numbered
    exact act_mirrors allowed here ih

end Watch

/-- The states of a run, the first one and one after each action. -/
def moments (t : Timeline π) (actions : List (Action π)) : List (Timeline π) :=
  t :: recorded act (fun t a => [t.act a]) actions t

theorem mem_moments {m : Timeline π} :
    m ∈ t.moments actions ↔ ∃ front rest, actions = front ++ rest ∧ m = t.play front := by
  induction actions generalizing t with
  | nil =>
    constructor
    · intro mem
      exact ⟨[], [], rfl, List.mem_singleton.mp mem⟩
    · rintro ⟨front, rest, empty, rfl⟩
      obtain ⟨rfl, _⟩ := List.append_eq_nil_iff.mp empty.symm
      exact List.mem_cons_self
  | cons a later ih =>
    have told : t.moments (a :: later) = t :: (t.act a).moments later := rfl
    rw [told, List.mem_cons, ih]
    constructor
    · rintro (rfl | ⟨front, rest, rfl, rfl⟩)
      · exact ⟨[], a :: later, rfl, rfl⟩
      · exact ⟨a :: front, rest, rfl, rfl⟩
    · rintro ⟨front, rest, split, rfl⟩
      cases front with
      | nil => exact Or.inl rfl
      | cons b front =>
        obtain ⟨rfl, rfl⟩ := List.cons.inj split
        exact Or.inr ⟨front, rest, rfl, rfl⟩

theorem Runs.now_le (run : Runs e s actions t) : s.now ≤ t.now := by
  obtain ⟨performs, rfl⟩ := run
  induction actions generalizing s with
  | nil => exact Nat.le_refl _
  | cons a rest ih =>
    obtain ⟨allowed, performs⟩ := performs
    exact Nat.le_trans (act_now_le allowed) (ih performs)

theorem Runs.issued_le (run : Runs e s actions t) : s.issued ≤ t.issued := by
  obtain ⟨performs, rfl⟩ := run
  induction actions generalizing s with
  | nil => exact Nat.le_refl _
  | cons a rest ih => exact Nat.le_trans (act_ended s a).2 (ih performs.2)

/-- The clock does not go back. -/
theorem Runs.now_between {m : Timeline π} (run : Runs e s actions t) (mem : m ∈ s.moments actions) :
    s.now ≤ m.now ∧ m.now ≤ t.now := by
  obtain ⟨front, rest, rfl, rfl⟩ := mem_moments.mp mem
  obtain ⟨first, second⟩ := run.split
  exact ⟨first.now_le, second.now_le⟩

/-- One who waits for the client to be ready, and the states that have been since. -/
inductive Waiter (number deadline : Nat) (past : List (Timeline π)) (t : Timeline π) : Prop
  | waits (seen : Nat)
      (found : t.task? number = some ⟨number, some deadline, .watching deadline seen⟩)
      (early : t.now ≤ deadline) (sent : seen ≤ t.client.watch.version)
      (news : seen = t.client.watch.version → t.lifecycle.verdict? = none)
  | decided (m : Timeline π) (verdict : Bool) (mem : m ∈ past)
      (told : ⟨number, m.now, .ready verdict⟩ ∈ t.ended)
      (is : m.lifecycle.verdict? = some verdict) (early : m.now ≤ deadline)
  | expired (told : ⟨number, deadline, .ready false⟩ ∈ t.ended) (late : deadline ≤ t.now)

section Waiter

variable {past : List (Timeline π)}

/-- In a turn of its own the one who waits takes the verdict that there is. -/
theorem turn_waiter {task : Schedule.Task (Work π)} (numbered : t.Numbered)
    (mirrors : t.client.Mirrors) (found : t.task? number = some task)
    (watches : t.state.run t.now task.work = t.state.watchReady t.now deadline)
    (early : t.now ≤ deadline) :
    (t.act (.turn number)).client.session = t.client.session ∧
    Waiter number deadline (past ++ [t.act (.turn number)]) (t.act (.turn number)) := by
  have goes := task?_turn found numbered
  have state := state_turn found
  have ended := ended_turn found
  have now := act_now_turn t number
  have next : (rules.resume t.now task t.state).next =
      (t.state.watchReady t.now deadline).next := by
    rw [← watches]
    rfl
  have same : (rules.resume t.now task t.state).state = t.state.journalAt t.now := by
    have turned : (rules.resume t.now task t.state).state =
        (t.state.run t.now task.work).state.journalAt t.now := rfl
    rw [turned, watches, watchReady_state]
  have session : (t.act (.turn number)).client.session = t.client.session := by
    rw [client, state, same]
    rfl
  have version : (t.act (.turn number)).client.watch.version = t.client.watch.version := by
    rw [client, state, same]
    rfl
  have lifecycle : (t.act (.turn number)).lifecycle = t.state.client.watch.value :=
    (congrArg Session.lifecycle session).trans mirrors.symm
  refine ⟨session, ?_⟩
  cases verdict : t.state.client.watch.value.verdict? with
  | some v =>
    rw [next, watchReady_verdict verdict] at ended
    refine .decided (t.act (.turn number)) v (List.mem_append_right _ List.mem_cons_self) ?_ ?_ ?_
    · rw [ended, now]
      exact List.mem_cons_self
    · rw [lifecycle, verdict]
    · exact now ▸ early
  | none =>
    rw [next, watchReady_undecided verdict] at ended goes
    by_cases late : deadline ≤ t.now
    · rw [if_pos late] at ended
      have deadline_now : t.now = deadline := Nat.le_antisymm early late
      refine .expired ?_ (now ▸ late)
      rw [ended, deadline_now]
      exact List.mem_cons_self
    · rw [if_neg late] at goes
      refine .waits _ goes (now ▸ early) (Nat.le_of_eq version.symm) fun _ => ?_
      rw [lifecycle, verdict]

/-- Whatever happens next, the one who waits goes on or has its verdict. -/
theorem Waiter.act (waiter : Waiter number deadline past t) (known : number < t.issued)
    (mirrors : t.client.Mirrors) (sound : Sound t) (allowed : t.Allows e a)
    (timely : t.OnTime a) : Waiter number deadline (past ++ [t.act a]) (t.act a) := by
  obtain ⟨kept, _⟩ := act_ended t a
  cases waiter with
  | waits seen found early sent news =>
    by_cases own : a = .turn number
    · subst own
      exact (turn_waiter sound.numbered mirrors found rfl early).2
    · obtain ⟨states, passes⟩ := act_passes allowed sound
      have grown : t.client.watch.version ≤ (t.act a).client.watch.version := by
        rw [passes.sent]
        exact Nat.le_add_right _ _
      refine .waits seen ((task?_act known own).trans found)
        (act_punctual timely (task?_spec found).1 rfl early) (Nat.le_trans sent grown)
        fun current => ?_
      have same : (t.act a).client.watch.version = t.client.watch.version := by omega
      rw [lifecycle, passes.quiet same]
      exact news (current.trans same)
  | decided m verdict mem told is early =>
    exact .decided m verdict (List.mem_append_left _ mem) (kept.subset told) is early
  | expired told late => exact .expired (kept.subset told) (Nat.le_trans late (act_now_le allowed))

theorem Runs.waiter (run : Runs e s actions t) (timely : s.Timely actions) (sound : Sound s)
    (known : number < s.issued) (mirrors : s.client.Mirrors)
    (waiter : Waiter number deadline past s) :
    Waiter number deadline (past ++ recorded Timeline.act (fun t a => [t.act a]) actions s) t := by
  have carried := run.carries_timely (fun t a => [t.act a])
    (P := fun past u => number < u.issued ∧ u.client.Mirrors ∧ Waiter number deadline past u)
    timely sound ⟨known, mirrors, waiter⟩ ?_
  · exact carried.2.2
  · rintro past u a allowed timely sound ⟨known, mirrors, waiter⟩
    exact ⟨Nat.lt_of_lt_of_le known (act_ended u a).2, act_mirrors allowed sound mirrors,
      waiter.act known mirrors sound allowed timely⟩

/-- Where nothing can run, no verdict has been missed. -/
theorem Waiter.not_missed (waiter : Waiter number deadline past t) {verdict : Bool}
    (held : t.lifecycle.verdict? = some verdict)
    (still : ∀ task ∈ t.tasks, t.isReady rules task = false) :
    (∃ m ∈ past, ∃ v, ⟨number, m.now, .ready v⟩ ∈ t.ended ∧ m.lifecycle.verdict? = some v) ∨
    deadline ≤ t.now := by
  cases waiter with
  | waits seen found early sent news =>
    have differs : t.client.watch.version ≠ seen := by
      intro same
      rw [news same.symm] at held
      cases held
    have woken : rules.woken t.state (.watching deadline seen) = true := decide_eq_true differs
    have asleep := still _ (task?_spec found).1
    rw [Schedule.Timeline.isReady, woken, Bool.or_true] at asleep
    cases asleep
  | decided m v mem told is => exact Or.inl ⟨m, mem, v, told, is⟩
  | expired told late => exact Or.inr late

end Waiter

/-- The lifecycle comes to its first verdict with the last of these actions. -/
structure Settles (t : Timeline π) (actions : List (Action π)) (verdict : Bool) : Prop where
  taken : (t.play actions).lifecycle.verdict? = some verdict
  first : ∀ front rest, actions = front ++ rest → rest ≠ [] →
    (t.play front).lifecycle.verdict? = none

/-- What one who waits for the client to be ready is told, from a state on in which it has begun to
wait. -/
structure ReadyVerdict (e : Surroundings π) (t : Timeline π) (number deadline : Nat) : Prop where
  /-- Ready is told only of a client that was ready, and failed before the deadline only of one that
  had failed. -/
  sound : ∀ actions u, Runs e t actions u → t.Timely actions → ∀ entry ∈ u.ended,
    entry.id = number → t.now ≤ entry.instant ∧ entry.instant ≤ deadline ∧
      ∃ verdict, entry.result = .ready verdict ∧
        (verdict = true → ∃ m ∈ t.moments actions,
          m.lifecycle = .ready ∧ t.now ≤ m.now ∧ m.now ≤ deadline) ∧
        (verdict = false → entry.instant < deadline → ∃ m ∈ t.moments actions,
          m.lifecycle = .failed ∧ t.now ≤ m.now ∧ m.now ≤ deadline)
  /-- When the deadline has passed, the wait is over. -/
  told : ∀ actions u, Runs e t actions u → t.Timely actions → deadline < u.now →
    ∃ entry ∈ u.ended, entry.id = number
  /-- The first verdict before the deadline is told at its instant, if no task can run there before
  the lifecycle has come to the other one, and it is the verdict still. -/
  prompt : ∀ before more u verdict, Runs e t (before ++ more) u → t.Timely (before ++ more) →
    t.Settles before verdict → (t.play before).now < deadline →
    (∀ m ∈ (t.play before).moments more, m.lifecycle.verdict? ≠ some !verdict) →
    u.now = (t.play before).now → u.lifecycle.verdict? = some verdict →
    (∀ task ∈ u.tasks, u.isReady rules task = false) →
    ⟨number, (t.play before).now, .ready verdict⟩ ∈ u.ended

theorem Waiter.ready_verdict (waiter : Waiter number deadline [t] t) (early : t.now ≤ deadline)
    (known : number < t.issued) (sound : Sound t) (retired : t.Retired)
    (mirrors : t.client.Mirrors) : ReadyVerdict e t number deadline where
  sound actions u run timely entry ended is := by
    have once := run.reachable.retired sound.numbered retired
    cases run.waiter timely sound known mirrors waiter with
    | waits seen found =>
      obtain ⟨mem, _⟩ := task?_spec found
      exact absurd is.symm (once.gone entry ended _ mem)
    | decided m verdict mem told verdict_is soon =>
      obtain rfl : entry = ⟨number, m.now, .ready verdict⟩ := once.unique ended told is
      have mem : m ∈ t.moments actions := mem
      have since := (run.now_between mem).1
      refine ⟨since, soon, verdict, rfl, ?_, ?_⟩
      · rintro rfl
        exact ⟨m, mem, Lifecycle.verdict?_eq_true.mp verdict_is, since, soon⟩
      · rintro rfl _
        exact ⟨m, mem, Lifecycle.verdict?_eq_false.mp verdict_is, since, soon⟩
    | expired told =>
      obtain rfl : entry = ⟨number, deadline, .ready false⟩ := once.unique ended told is
      exact ⟨early, Nat.le_refl _, false, rfl, nofun,
        fun _ before => absurd before (Nat.lt_irrefl _)⟩
  told actions u run timely past := by
    cases run.waiter timely sound known mirrors waiter with
    | waits seen found soon => exact absurd past (Nat.not_lt.mpr soon)
    | decided m verdict mem told => exact ⟨_, told, rfl⟩
    | expired told => exact ⟨_, told, rfl⟩
  prompt before more u verdict run timely settles soon constant now held still := by
    obtain ⟨first, second⟩ := run.split
    obtain ⟨timely_first, timely_second⟩ := timely_append.mp timely
    have begun := first.waiter timely_first sound known mirrors waiter
    have here := first.reachable.sound sound
    have later := second.waiter timely_second here
      (Nat.lt_of_lt_of_le known first.issued_le) (first.reachable.mirrors sound mirrors) begun
    rcases later.not_missed held still with ⟨m, mem, v, told, is⟩ | late
    · rcases List.mem_append.mp mem with old | new
      · -- before its first verdict the lifecycle gave none, so this is the state that took it
        obtain ⟨front, rest, split, rfl⟩ := mem_moments.mp old
        cases rest with
        | nil =>
          obtain rfl : before = front := by simpa using split
          obtain rfl := Option.some.inj (is.symm.trans settles.taken)
          exact told
        | cons a rest =>
          rw [settles.first front _ split (List.cons_ne_nil a rest)] at is
          cases is
      · have since : m ∈ (t.play before).moments more := List.mem_cons_of_mem _ new
        have between := second.now_between since
        have instant : m.now = (t.play before).now := by omega
        have same : v = verdict := by
          have never := constant m since
          rw [is] at never
          cases v <;> cases verdict <;> simp_all
        rwa [instant, same] at told
    · omega

variable {config : Config} {factors : Nat → Binary64} {provider : π} {suffixes : Nat → Suffix}

/-- In every run, what those who watch the lifecycle see is the lifecycle, and one who begins to
wait for the client to be ready, for `limit` milliseconds, is told a sound verdict and does not
miss one. -/
theorem wait_ready_verdict (run : Reachable e (fresh config factors provider suffixes) t) :
    t.client.watch.value = t.client.session.lifecycle ∧
    ∀ number due limit, t.task? number = some ⟨number, due, .errand (.awaitReady limit)⟩ →
      t.Allows e (.turn number) →
      (t.act (.turn number)).now = t.now ∧
      (t.act (.turn number)).lifecycle = t.lifecycle ∧
      ReadyVerdict e (t.act (.turn number)) number (t.now + limit) := by
  have fresh_sound := sound_fresh config factors provider suffixes
  have sound := run.sound fresh_sound
  have mirrors : t.client.Mirrors := run.mirrors fresh_sound rfl
  refine ⟨mirrors, fun number due limit found allowed => ?_⟩
  have step := step_act allowed
  have retired := run.retired fresh_sound.numbered (retired_fresh config factors provider suffixes)
  have waits : (t.act (.turn number)).client.session = t.client.session ∧
      Waiter number (t.now + limit) ([] ++ [t.act (.turn number)]) (t.act (.turn number)) :=
    turn_waiter sound.numbered mirrors found rfl (Nat.le_add_right _ _)
  obtain ⟨session, waiter⟩ := waits
  have now := act_now_turn t number
  have known : number < t.issued := sound.numbered.2 _ (task?_spec found).1
  exact ⟨now, congrArg Session.lifecycle session,
    waiter.ready_verdict (now ▸ Nat.le_add_right _ _)
      (Nat.lt_of_lt_of_le known (act_ended t (.turn number)).2) (step.sound sound)
      (step.retired sound.numbered retired) (act_mirrors allowed sound mirrors)⟩

section Trials

/-- A client that nobody has opened, and one who is about to wait for it. -/
def expectant : Timeline Simulated :=
  (trial 3 (.trial {})).play [.ask (.awaitReady 500), .ask .openSession]

/-- The wait has begun. -/
def expecting : Timeline Simulated := expectant.act (.turn 0)

/-- The session has been opened, and nothing can run any more. -/
def welcomed : Timeline Simulated := expecting.play [.turn 1, .turn 1, .turn 0]

theorem wait_ready_verdict_welcomed :
    ⟨0, 0, .ready true⟩ ∈ welcomed.ended ∧
    ∃ m ∈ expecting.moments [.turn 1, .turn 1, .turn 0], m.lifecycle = .ready := by
  let surroundings : Surroundings Simulated := .limited Simulated.Adjusts fun _ _ => true
  have all : ∀ w work, surroundings.permits w work := fun _ _ => rfl
  have asked : Runs surroundings (trial 3 (.trial {})) [.ask (.awaitReady 500), .ask .openSession]
      expectant := ⟨⟨trivial, trivial, trivial⟩, rfl⟩
  have found : expectant.task? 0 = some ⟨0, some 0, .errand (.awaitReady 500)⟩ := rfl
  have allowed : expectant.Allows surroundings (.turn 0) := allows_turn all (by decide +kernel)
  have run : Runs surroundings expecting ([.turn 1, .turn 1] ++ [.turn 0]) welcomed :=
    ⟨⟨allows_turn all (by decide +kernel), allows_turn all (by decide +kernel),
      allows_turn all (by decide +kernel), trivial⟩, rfl⟩
  have timely : expecting.Timely [.turn 1, .turn 1, .turn 0] := ⟨trivial, trivial, trivial, trivial⟩
  have settles : expecting.Settles [.turn 1, .turn 1] true := by
    refine ⟨by decide +kernel, ?_⟩
    rintro (_ | ⟨a, _ | ⟨b, front⟩⟩) rest split more
    · decide +kernel
    · obtain ⟨rfl, _⟩ := List.cons.inj split
      decide +kernel
    · obtain ⟨_, split⟩ := List.cons.inj split
      obtain ⟨_, split⟩ := List.cons.inj split
      exact absurd (List.append_eq_nil_iff.mp split.symm).2 more
  obtain ⟨_, waits⟩ := wait_ready_verdict asked.reachable
  obtain ⟨_, _, verdict⟩ := waits 0 _ 500 found allowed
  have told := verdict.prompt [.turn 1, .turn 1] [.turn 0] welcomed true run timely settles
    (by decide +kernel) (by decide +kernel) (by decide +kernel) (by decide +kernel)
    (by decide +kernel)
  obtain ⟨_, _, answer, is, ready, _⟩ := verdict.sound _ welcomed run timely _ told rfl
  cases is
  obtain ⟨m, mem, held, _⟩ := ready rfl
  exact ⟨told, m, mem, held⟩

end Trials

end Timeline

end World

end RandomBeacon
