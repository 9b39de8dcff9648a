import RandomBeacon.Proofs.Actions
import RandomBeacon.Proofs.Holdings

/-!
What becomes of the subscriptions that a client receives. At every moment of a run each of them is
the session's, has been released, or has been overwritten by another one (`Accounts`), and it is
accounted for as often as it has been received. So a subscription that the provider returns once is
released once at most and is not the session's from then on, and one that comes too late is never
the session's (`released_once`). Providers that name each subscription once return it once
(`Runs.receipts_nodup`).
-/

namespace RandomBeacon

open Provider

variable {π : Type}

/-- The subscription that a call releases. -/
def Call.released? : Call → Option SubscriptionId
  | unsubscribe id => some id
  | _ => none

/-- The subscription that an event brings to an operation of a session that has been closed. -/
def Event.belated? (c : Client) : Event → Option SubscriptionId
  | resume s signal => if s.current c.session.generation then none else s.received? signal
  | _ => none

section Belated

variable {c d : Client} {event : Event} {new : List Stage} {id : SubscriptionId}

theorem Event.received?_of_belated (belated : event.belated? c = some id) :
    event.received? = some id := by
  cases event with
  | resume s signal =>
    by_cases mine : s.current c.session.generation = true
    · rw [belated?, if_pos mine] at belated
      cases belated
    · rwa [belated?, if_neg mine] at belated
  | openSession | closeSession | recoverSession | serve => cases belated

/-- A subscription that comes too late is released at once. -/
theorem Course.belated (course : Course c event d new) (belated : event.belated? c = some id) :
    new.filterMap Stage.released? = [id] := by
  cases course with
  | opens | declines | closes | hands | passes | closed | serves => cases belated
  | advances wants current =>
    have mine := Stage.current_iff.mpr ⟨_, wants, current.generation.symm⟩
    rw [Event.belated?, if_pos mine] at belated
    cases belated
  | fades wants stale fade after =>
    have received := Event.received?_of_belated belated
    rw [Event.received?] at received
    rw [received] at fade
    cases fade
    rfl
  | breaks panicked after =>
    rename_i s signal
    have received := Event.received?_of_belated belated
    cases s with
    | subscribing =>
      cases signal with
      | panicked => cases received
      | returned | failed => cases panicked
    | pausing | releasing | scheduled | dropping | closing => cases received

end Belated

namespace World

/-- The subscriptions whose release has been asked for, newest first and as often as it has been. -/
def releases (w : World π) : List SubscriptionId := w.calls.filterMap (·.2.released?)

theorem mem_releases {w : World π} {id : SubscriptionId} :
    id ∈ w.releases ↔ w.asked id = true := by
  have calls (c : Call) : c.released? = some id ↔ c = .unsubscribe id := by
    cases c <;> simp [Call.released?]
  simp [releases, asked, calls]

theorem releases_watchReady (now deadline : Nat) (w : World π) :
    (w.watchReady now deadline).state.releases = w.releases :=
  congrArg (List.filterMap _) (calls_watchReady now deadline w)

variable [Provider π]

theorem releases_proceed (now : Nat) (spawned : List (Option Nat × Work π)) (w : World π)
    (step : Client × Progress) : (w.proceed now spawned step).state.releases =
      step.2.stages.filterMap Stage.released? ++ w.releases := by
  obtain ⟨c, progress⟩ := step
  cases progress with
  | wait stage => cases stage <;> rfl
  | ended | lost => rfl

/-- A turn releases what the stages that it begins release. -/
theorem releases_run (now : Nat) (w : World π) (work : Work π) :
    (w.run now work).state.releases =
      (stagesOf (w.run now work).works).filterMap Stage.released? ++ w.releases := by
  have proceeds (spawned : List (Option Nat × Work π)) (w : World π) (step : Client × Progress)
      (quiet : stagesOf (spawned.map (·.2)) = []) :
      (w.proceed now spawned step).state.releases =
        (stagesOf (w.proceed now spawned step).works).filterMap Stage.released? ++ w.releases := by
    rw [releases_proceed, proceed_stages, quiet, List.append_nil]
  have serves (serves : work.event w = .serve)
      (same : (w.run now work).state.releases = w.releases) :
      (w.run now work).state.releases =
        (stagesOf (w.run now work).works).filterMap Stage.released? ++ w.releases := by
    have move := run_move now w work
    rw [serves] at move
    generalize stagesOf (w.run now work).works = new at move
    cases move
    exact same
  cases work with
  | errand e =>
    cases e with
    | openSession | closeSession => exact proceeds [] w _ rfl
    | request handler =>
      apply serves rfl
      simp only [World.run, World.begin]
      split <;> rfl
    | query q =>
      apply serves rfl
      simp only [World.run, World.begin]
      split <;> rfl
    | awaitReady limit => exact serves rfl (releases_watchReady now _ w)
    | chain | account => exact serves rfl rfl
  | recovery generation => exact proceeds [] w _ rfl
  | operation s pending =>
    exact proceeds _ (w.finish now pending).2.1 _ (finish_stages now pending w)
  | submitting name id op generation exchange =>
    apply serves rfl
    simp only [World.run]
    split <;> rfl
  | querying | inFlight | publishing | askingChain | askingAccount => exact serves rfl rfl
  | calling d exchange => cases d <;> exact serves rfl rfl
  | watching deadline seen => exact serves rfl (releases_watchReady now _ w)

/-- A subscription is nobody's before it is received, and its release has not been asked for. -/
theorem Books.receives {given : π → SubscriptionId → Prop} {adjusts : π → π → Prop}
    {reliable : Prop} {w : World π} {work : Work π} {id : SubscriptionId}
    {owned : List SubscriptionId} (custodian : Custodian given adjusts reliable)
    (issued : work.Issued) (received : (work.event w).received? = some id)
    (books : w.Books given (work.promised?.toList ++ owned)) :
    id ∉ owned ∧ w.asked id = false := by
  obtain ⟨s, pending, rfl⟩ : ∃ s pending, work = .operation s pending := by
    cases event : work.event w with
    | resume s signal =>
      obtain ⟨pending, rfl, _⟩ := Work.of_event_resume event
      exact ⟨s, pending, rfl⟩
    | openSession | closeSession | recoverSession | serve =>
      rw [event] at received
      cases received
  have received : s.received? (pending.finish w.provider).result = some id := received
  obtain ⟨now, v, rfl⟩ := issued
  cases s with
  | pausing | releasing | scheduled | dropping | closing => cases received
  | subscribing p failed =>
    have result : ((v.enter now (.subscribing p failed)).1.finish w.provider).result =
        ((start (.subscribe .randomnessPublished v.address) v.provider).1.finish
          w.provider).result := rfl
    rw [result] at received
    rcases custodian.subscribes .randomnessPublished v.address v.provider with
      ⟨other, _, prompt⟩ | ⟨_, late⟩
    · obtain ⟨returned, _⟩ := prompt w.provider
      rw [returned] at received
      obtain rfl := Option.some.inj received
      have promise : (Work.operation (.subscribing p failed)
          (v.enter now (.subscribing p failed)).1).promised? = some other :=
        promised_prompt prompt w.provider
      rw [promise] at books
      exact ⟨(List.nodup_cons.mp (Balanced.owned_nodup books)).1,
        ((Balanced.mem_owned books).mp List.mem_cons_self).2⟩
    · rcases late w.provider with ⟨other, returned, grants⟩ | ⟨never, _⟩
      · rw [returned] at received
        obtain rfl := Option.some.inj received
        constructor
        · intro mem
          have held := ((Balanced.mem_owned books).mp (List.mem_append_right _ mem)).1
          exact grants.fresh (books.named other held)
        · cases was : w.asked other with
          | false => rfl
          | true => exact absurd (books.known other was) grants.fresh
      · rw [Stage.received?_eq_none never] at received
        cases received

namespace Timeline

variable {e : Surroundings π} {s t : Timeline π} {a : Action π} {actions : List (Action π)}
  {past lost : List SubscriptionId} {config : Config} {factors : Nat → Binary64} {provider : π}
  {suffixes : Nat → Suffix}

/-- The subscription that an action brings to the client, as a list. -/
def receipt (t : Timeline π) (a : Action π) : List SubscriptionId := (t.event a).received?.toList

/-- The subscriptions that actions bring to the client, oldest first. -/
def receipts (t : Timeline π) (actions : List (Action π)) : List SubscriptionId :=
  recorded act receipt actions t

/-- What the client has received is the session's, has been released, or is `lost`. -/
def Accounts (past lost : List SubscriptionId) (t : Timeline π) : Prop :=
  past.Perm (t.client.session.subscription.toList ++ (t.state.releases ++ lost))

/-- What an action does to the session is a course, and it releases what the course does. -/
theorem act_releases (allowed : t.Allows e a) (sound : Sound t) :
    ∃ new, Course t.client (t.event a) (t.act a).client new ∧
      (t.act a).state.releases = new.filterMap Stage.released? ++ t.state.releases := by
  have quiet (serves : t.event a = .serve)
      (standing : (t.act a).client.standing = t.client.standing)
      (same : (t.act a).state.releases = t.state.releases) :
      ∃ new, Course t.client (t.event a) (t.act a).client new ∧
        (t.act a).state.releases = new.filterMap Stage.released? ++ t.state.releases := by
    rw [serves]
    exact ⟨[], .serves standing, same⟩
  cases a with
  | turn number =>
    obtain ⟨task, found, _, _⟩ := allowed
    obtain ⟨mem, _⟩ := task?_spec found
    obtain ⟨rest, before, _⟩ := Schedule.Timeline.works_fire rules sound.numbered mem
    have split : t.stages.Perm ((task.work.event t.state).stage?.toList ++ stagesOf rest) := by
      rw [Work.event_stage?, ← stagesOf_cons]
      exact stagesOf_perm before
    have fired : (t.fire rules task).state = (t.state.run t.now task.work).state.journalAt t.now :=
      Schedule.Timeline.state_fire rules t task
    have move : Move t.client (task.work.event t.state) (client (t.fire rules task))
        (stagesOf (t.state.run t.now task.work).works) := by
      refine (run_move t.now t.state task.work).congr ?_
      rw [client, fired]
      rfl
    rw [act_turn found, event_turn found, fired]
    exact ⟨_, move.course (sound.aligned.perm split), releases_run t.now t.state task.work⟩
  | ask | pass | cancel | adjust => exact quiet rfl rfl rfl
  | listen handler => exact quiet rfl (Scene.listen_standing _ handler) rfl
  | unlisten number => exact quiet rfl (Client.unsubscribeListener_standing number _) rfl
  | publish r => exact quiet rfl (publish_standing r t.state) rfl

/-- Every action accounts for what it brings and for what the session had. -/
theorem act_accounts (allowed : t.Allows e a) (sound : Sound t) (accounts : t.Accounts past lost) :
    (t.act a).Accounts (past ++ t.receipt a) (((t.event a).overwritten? t.client).toList ++ lost) := by
  obtain ⟨new, course, releases⟩ := act_releases allowed sound
  apply List.perm_iff_count.mpr
  intro id
  have conserves := course.conserves.count_eq id
  have counted := List.Perm.count_eq accounts id
  rw [releases]
  simp only [receipt, List.count_append] at conserves counted ⊢
  omega

/-- In every run all that has been received is accounted for, as often as it has been received. -/
theorem Runs.accounts (run : Runs e s actions t) (sound : Sound s)
    (accounts : s.Accounts past lost) :
    ∃ lost, t.Accounts (past ++ s.receipts actions) lost :=
  run.carries receipt (P := fun past t => ∃ lost, Accounts past lost t) sound ⟨lost, accounts⟩
    fun _ _ _ allowed sound ⟨_, accounts⟩ => ⟨_, act_accounts allowed sound accounts⟩

theorem receipts_append (t : Timeline π) (first rest : List (Action π)) :
    t.receipts (first ++ rest) = t.receipts first ++ (t.play first).receipts rest := by
  induction first generalizing t with
  | nil => rfl
  | cons a first ih =>
    have later : t.play (a :: first) = (t.act a).play first := rfl
    rw [List.cons_append, receipts, recorded, later, receipts, recorded, List.append_assoc]
    exact congrArg (t.receipt a ++ ·) (ih (t.act a))

/-- What has been released stays so. -/
theorem Runs.releases_suffix (run : Runs e s actions t) (sound : Sound s) :
    s.state.releases <:+ t.state.releases := by
  obtain ⟨performs, rfl⟩ := run
  induction actions generalizing s with
  | nil => exact List.suffix_refl _
  | cons a rest ih =>
    obtain ⟨allowed, performs⟩ := performs
    obtain ⟨new, _, releases⟩ := act_releases allowed sound
    have later := ih ((step_act allowed).sound sound) performs
    rw [releases] at later
    exact (List.suffix_append _ _).trans later

/-- What comes too late is released in the same turn. -/
theorem Runs.returned {first rest : List (Action π)} {id : SubscriptionId} (sound : Sound s)
    (run : Runs e s (first ++ a :: rest) t)
    (late : ((s.play first).event a).belated? (s.play first).client = some id) :
    id ∈ (s.play (first ++ [a])).state.releases := by
  obtain ⟨early, ⟨allowed, _⟩, _⟩ := run.split
  obtain ⟨new, course, releases⟩ := act_releases allowed (early.reachable.sound sound)
  have moment : s.play (first ++ [a]) = (s.play first).act a := by simp [play]
  rw [moment, releases, course.belated late]
  exact List.mem_cons_self

section Distinct

variable {first more rest : List (Action π)} {id : SubscriptionId} (sound : Sound s)
  (start : s.Accounts [] [])
include sound start

/-- The session's subscription has been received, and so has all that has been released. -/
theorem Runs.received (run : Runs e s actions t)
    (mine : t.client.session.subscription = some id ∨ id ∈ t.state.releases) :
    id ∈ s.receipts actions := by
  obtain ⟨lost, accounts⟩ := run.accounts sound start
  apply (List.Perm.mem_iff accounts).mpr
  rcases mine with own | released
  · simp [own]
  · simp [released]

/-- Where no subscription is received twice, none is released twice, and the session's is not
released. -/
theorem Runs.apart (run : Runs e s actions t) (distinct : (s.receipts actions).Nodup) :
    t.state.releases.Nodup ∧
    ∀ id ∈ t.state.releases, t.client.session.subscription ≠ some id := by
  obtain ⟨lost, accounts⟩ := run.accounts sound start
  have nodup := (List.Perm.nodup_iff accounts).mp distinct
  obtain ⟨_, others, apart⟩ := List.nodup_append.mp nodup
  refine ⟨(List.nodup_append.mp others).1, ?_⟩
  intro id released own
  exact apart id (by simp [own]) id (List.mem_append_left _ released) rfl

/-- What has been released is not the session's, then or later. -/
theorem Runs.forsaken (run : Runs e s (first ++ more ++ rest) t)
    (distinct : (s.receipts (first ++ more ++ rest)).Nodup)
    (released : id ∈ (s.play first).state.releases) :
    (s.play (first ++ more)).client.session.subscription ≠ some id := by
  obtain ⟨before, _⟩ := run.split
  obtain ⟨early, late⟩ := before.split
  rw [receipts_append] at distinct
  have still := (late.releases_suffix (early.reachable.sound sound)).subset released
  exact (before.apart sound start (List.nodup_append.mp distinct).1).2 id still

/-- What comes too late is the session's at no moment of the run. -/
theorem Runs.never_installed (run : Runs e s (first ++ a :: rest) t)
    (distinct : (s.receipts (first ++ a :: rest)).Nodup)
    (late : ((s.play first).event a).belated? (s.play first).client = some id)
    {before after : List (Action π)} (split : first ++ a :: rest = before ++ after) :
    (s.play before).client.session.subscription ≠ some id := by
  have early {more : List (Action π)} (is : first = before ++ more) :
      (s.play before).client.session.subscription ≠ some id := by
    -- up to this action it has not been received
    intro own
    subst is
    have brings : (s.play (before ++ more)).receipt a = [id] := by
      rw [receipt, Event.received?_of_belated late]
      rfl
    have whole : s.receipts (before ++ more ++ a :: rest) = s.receipts before ++
        ((s.play before).receipts more ++
          (id :: ((s.play (before ++ more)).act a).receipts rest)) := by
      rw [receipts_append, receipts_append, List.append_assoc]
      congr 2
      rw [receipts, recorded, brings]
      rfl
    rw [whole] at distinct
    have had := run.split.1.split.1.received sound start (Or.inl own)
    exact (List.nodup_append.mp distinct).2.2 id had id (by simp) rfl
  rcases List.append_eq_append_iff.mp split with ⟨more, is, left⟩ | ⟨more, is, _⟩
  · cases more with
    | nil => exact early (by simpa using is.symm : first = before ++ [])
    | cons b more =>
      -- from this action on it has been released
      obtain ⟨rfl, (rfl : rest = more ++ after)⟩ := List.cons.inj left
      have released := Runs.returned sound run late
      subst is
      have regroup : first ++ a :: (more ++ after) = first ++ [a] ++ more ++ after := by simp
      rw [regroup] at run distinct
      have forsaken := run.forsaken sound start distinct released
      simpa using forsaken
  · exact early is

end Distinct

/-- What a run does with the subscriptions that it receives. -/
structure ReleasesOnce (start : Timeline π) (actions : List (Action π)) (t : Timeline π) : Prop where
  /-- No release is asked for twice. -/
  once : t.state.releases.Nodup
  /-- What is released has been received before. -/
  received : ∀ first rest, actions = first ++ rest →
    ∀ id ∈ (start.play first).state.releases, id ∈ start.receipts first
  /-- What has been released is not the session's, then or later. -/
  forsaken : ∀ first more rest, actions = first ++ more ++ rest →
    ∀ id ∈ (start.play first).state.releases,
      (start.play (first ++ more)).client.session.subscription ≠ some id
  /-- What comes too late is released once and is never the session's. -/
  belated : ∀ first a rest id, actions = first ++ a :: rest →
    ((start.play first).event a).belated? (start.play first).client = some id →
    t.state.releases.count id = 1 ∧
    ∀ before after, actions = before ++ after →
      (start.play before).client.session.subscription ≠ some id

section Custody

variable {given : π → SubscriptionId → Prop} {reliable : Prop}

/-- An action loses the subscription that it overwrites. -/
theorem act_holdings (custodian : Custodian given e.adjusts reliable) (allowed : t.Allows e a)
    (sound : Sound t) (holdings : Holdings given t lost) :
    Holdings given (t.act a) (((t.event a).overwritten? t.client).toList ++ lost) := by
  have quiet {u : Timeline π} (alike : Alike given t.state u.state)
      (standing : u.client.standing = t.client.standing) (works : u.works = t.works) :
      Holdings given u lost :=
    holdings.alike alike standing ⟨[], by simp [works]⟩
  cases a with
  | turn number =>
    obtain ⟨task, found, _, _⟩ := allowed
    rw [act_turn found, event_turn found]
    exact holdings.fire custodian sound.numbered (task?_spec found).1 sound.issued sound.aligned
  | ask errand =>
    exact holdings.alike ⟨keeps_refl _, rfl⟩ rfl ⟨[errand], by simp [act, Timeline.start]⟩
  | pass | cancel => exact quiet ⟨keeps_refl _, rfl⟩ rfl rfl
  | listen handler => exact quiet ⟨keeps_refl _, rfl⟩ (Scene.listen_standing _ handler) rfl
  | unlisten number =>
    exact quiet ⟨keeps_refl _, rfl⟩ (Client.unsubscribeListener_standing number _) rfl
  | publish r => exact quiet ⟨custodian.stores r _, rfl⟩ (publish_standing r t.state) rfl
  | adjust provider => exact quiet ⟨custodian.adjusts _ _ allowed, rfl⟩ rfl rfl

/-- What is received has not been received before. -/
theorem receipt_fresh (custodian : Custodian given e.adjusts reliable) (allowed : t.Allows e a)
    (sound : Sound t) (holdings : Holdings given t lost) (accounts : t.Accounts past lost)
    {id : SubscriptionId} (received : (t.event a).received? = some id) : id ∉ past := by
  cases a with
  | ask | pass | cancel | listen | unlisten | publish | adjust => cases received
  | turn number =>
    obtain ⟨task, found, _, _⟩ := allowed
    obtain ⟨mem, _⟩ := task?_spec found
    rw [event_turn found] at received
    obtain ⟨rest, before, _⟩ := Schedule.Timeline.works_fire rules sound.numbered mem
    have issued := sound.issued _ (List.mem_map_of_mem mem)
    obtain ⟨nobody, unasked⟩ := Books.receives custodian issued received (holdings.owned before)
    intro old
    rcases List.mem_append.mp ((List.Perm.mem_iff accounts).mp old) with own | old
    · exact nobody (List.mem_append_left _ own)
    rcases List.mem_append.mp old with released | overwritten
    · rw [mem_releases, unasked] at released
      cases released
    · exact nobody (List.mem_append_right _ (List.mem_append_left _ overwritten))

/-- A provider that names each subscription once returns it once. -/
theorem Runs.receipts_nodup (custodian : Custodian given e.adjusts reliable)
    (empty : held provider = [])
    (run : Runs e (fresh config factors provider suffixes) actions t) :
    ((fresh config factors provider suffixes).receipts actions).Nodup := by
  have carried := run.carries receipt
    (P := fun past t => ∃ lost, Holdings given t lost ∧ t.Accounts past lost ∧ past.Nodup)
    (sound_fresh config factors provider suffixes)
    ⟨[], holdings_fresh empty config factors suffixes, .refl _, List.nodup_nil⟩ ?_
  · exact carried.choose_spec.2.2
  · rintro past u a allowed sound ⟨lost, holdings, accounts, nodup⟩
    refine ⟨_, act_holdings custodian allowed sound holdings, act_accounts allowed sound accounts,
      ?_⟩
    apply List.nodup_append.mpr
    refine ⟨nodup, ?_, ?_⟩
    · unfold receipt
      cases (u.event a).received? <;> simp
    · rintro id old other new rfl
      have received : (u.event a).received? = some id := Option.mem_toList.mp new
      exact receipt_fresh custodian allowed sound holdings accounts received old

end Custody

/-- However openings, closings, hand-offs and lost calls interleave, and whichever calls fail, are
late or panic: if the provider returns no subscription twice in a run, the client asks for no
release twice, only after it has received the subscription, and never of one that is the session's
or will be; and it releases what an operation of a closed session receives, once, without ever
making it the session's. -/
theorem released_once (run : Runs e (fresh config factors provider suffixes) actions t)
    (distinct : ((fresh config factors provider suffixes).receipts actions).Nodup) :
    ReleasesOnce (fresh config factors provider suffixes) actions t := by
  have sound := sound_fresh config factors provider suffixes
  have start : Accounts [] [] (fresh config factors provider suffixes) := .refl _
  generalize fresh config factors provider suffixes = s at run distinct sound start ⊢
  have once := (run.apart sound start distinct).1
  constructor
  case once => exact once
  case received =>
    rintro first rest rfl id released
    exact run.split.1.received sound start (Or.inr released)
  case forsaken =>
    rintro first more rest rfl id released
    exact run.forsaken sound start distinct released
  case belated =>
    rintro first a rest id rfl late
    refine ⟨?_, fun before after => run.never_installed sound start distinct late⟩
    have here := Runs.returned sound run late
    have regroup : first ++ a :: rest = first ++ [a] ++ rest := by simp
    rw [regroup] at run
    obtain ⟨early, later⟩ := run.split
    have released := (later.releases_suffix (early.reachable.sound sound)).subset here
    exact List.count_eq_one_of_mem once released

/-- A provider that takes a second for its first subscription and refuses to release any. -/
def grudging : Scripted where
  script := {
    submit := [⟨0, .failed (.transport "connection reset")⟩]
    subscribe := [⟨1000, .returned ()⟩, ⟨0, .returned ()⟩]
    unsubscribe := [⟨0, .failed (.transport "connection reset")⟩] }

/-- A session that has been closed while task 0 was opening it, and is about to receive the
subscription. -/
def tardy : Timeline Scripted :=
  (trial 3 grudging).replay (fun _ _ => true)
    ([.ask .openSession, .turns 9, .ask .closeSession, .turns 9, .pass 1000] :
      List (Cue Scripted.Adjusts))

/-- The same client after another session, which has been recovered and closed. -/
def retired : Timeline Scripted :=
  (tardy.act (.turn 0)).replay (fun _ _ => true)
    ([.turns 9, .ask .openSession, .turns 9, .ask (.request (.plain "lost")), .turns 9, .pass 100,
      .turns 9, .ask .closeSession, .turns 9] : List (Cue Scripted.Adjusts))

/-- Three subscriptions are released: one that came too late, one in a hand-off and one at the
end. -/
theorem released_once_retired :
    retired.state.releases = [⟨"sub3"⟩, ⟨"sub2"⟩, ⟨"sub1"⟩] ∧
    ∃ first rest,
      Runs (.limited Scripted.Adjusts fun _ _ => true) (trial 3 grudging)
        (first ++ .turn 0 :: rest) retired ∧
      ((trial 3 grudging).receipts (first ++ .turn 0 :: rest)).Nodup ∧
      (trial 3 grudging).play first = tardy ∧
      (tardy.event (.turn 0)).belated? tardy.client = some ⟨"sub1"⟩ ∧
      retired.state.releases.count ⟨"sub1"⟩ = 1 := by
  have numbered := numbered_fresh (.trial 3) (fun _ => .one) grudging
    fun _ => .replicate 9 (Suffix.pick 0)
  have before : Reachable (.limited Scripted.Adjusts fun _ _ => true) (trial 3 grudging) tardy :=
    reachable_replay _ _
  obtain ⟨first, early⟩ := before.runs numbered
  have due : (tardy.task? 0).any (tardy.isReady rules) = true := by decide +kernel
  obtain ⟨task, found, ready⟩ := Option.any_eq_true _ _ |>.mp due
  have allowed : tardy.Allows (.limited Scripted.Adjusts fun _ _ => true) (.turn 0) :=
    ⟨task, found, ready, rfl⟩
  have onwards : Reachable (.limited Scripted.Adjusts fun _ _ => true) (tardy.act (.turn 0))
      retired := reachable_replay _ _
  obtain ⟨rest, later⟩ := onwards.runs ((step_act allowed).numbered (before.numbered numbered))
  have turn : Runs (.limited Scripted.Adjusts fun _ _ => true) tardy [.turn 0]
      (tardy.act (.turn 0)) := ⟨⟨allowed, trivial⟩, rfl⟩
  have run := early.append (turn.append later)
  have distinct := run.receipts_nodup Scripted.custodian rfl
  have late : (tardy.event (.turn 0)).belated? tardy.client = some ⟨"sub1"⟩ := by decide +kernel
  have releases : ReleasesOnce (trial 3 grudging) (first ++ .turn 0 :: rest) retired :=
    released_once run distinct
  have once := (releases.belated first (.turn 0) rest ⟨"sub1"⟩ rfl (by rwa [early.leads])).1
  exact ⟨by decide +kernel, first, rest, run, distinct, early.leads, late, once⟩

end Timeline

end World

end RandomBeacon
