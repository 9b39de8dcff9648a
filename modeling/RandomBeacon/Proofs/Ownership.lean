import RandomBeacon.Proofs.Order
import RandomBeacon.Proofs.Release
import RandomBeacon.Proofs.Replay

/-!
The subscriptions that a reliable provider holds while nothing is asked of it: the session's, and
those that a commit has overwritten (`held_at_rest`). Where no lost call intrudes on an opening,
nothing is ever overwritten, and the session has a subscription when it is ready and none before it
is opened and after it has failed (`subscription_owned`).
-/

namespace RandomBeacon

open Provider

/-- Whether an operation waits for a subscribe or an unsubscribe call. -/
def Stage.calling : Stage → Bool
  | subscribing _ _ | releasing _ _ | dropping _ _ | closing _ => true
  | pausing _ _ | scheduled _ _ => false

theorem Orderly.overwrites_none {c : Client} {event : Event} {rest : List Stage}
    (orderly : Orderly c (event.stage?.toList ++ rest)) : event.overwritten? c = none := by
  cases event with
  | openSession | closeSession | recoverSession | serve => rfl
  | resume s signal =>
    by_cases commits : s.current c.session.generation ∧ (s.received? signal).isSome
    · have unscheduled (h : Handoff) (duration : Nat) : s ≠ .scheduled h duration := by
        rintro rfl
        exact absurd commits.2 (by simp [Stage.received?])
      rw [Event.overwritten?, if_pos commits]
      exact orderly.vacant s List.mem_cons_self commits.1 unscheduled
    · rw [Event.overwritten?, if_neg commits]

namespace World.Timeline

variable {π : Type}

/-- No subscribe or unsubscribe call is in flight. -/
def AtRest (t : Timeline π) : Prop := ∀ s ∈ t.stages, s.calling = false

instance (t : Timeline π) : Decidable t.AtRest :=
  inferInstanceAs (Decidable (∀ s ∈ t.stages, s.calling = false))

theorem AtRest.promises_nothing {t : Timeline π} (rest : t.AtRest) :
    t.works.filterMap Work.promised? = [] := by
  apply List.filterMap_eq_nil_iff.mpr
  intro work mem
  cases waits : work.stage? with
  | none => exact Work.promised?_of_stage waits
  | some s =>
    have idle := rest s (List.mem_filterMap.mpr ⟨work, mem, waits⟩)
    obtain ⟨pending, rfl⟩ := Work.of_stage? waits
    cases s with
    | subscribing | releasing | dropping | closing => cases idle
    | pausing | scheduled => rfl

variable [Provider π] {given : π → SubscriptionId → Prop} {reliable : Prop}
  {e : Surroundings π} {s t : Timeline π} {lost : List SubscriptionId}

theorem Reachable.reclaimed (custodian : Custodian given e.adjusts reliable) (run : Reachable e s t)
    (sound : Sound s) (holdings : Holdings given s lost) (none : ∀ id, ¬s.state.Lingers id) :
    Reclaimed reliable t fun id => ¬reliable ∧ Refused e s t id := by
  induction run with
  | start => exact fun id lingers => absurd lingers (none id)
  | next run step ih =>
    obtain ⟨_, holdings, _⟩ := run.holdings custodian sound holdings
    exact step.reclaimed custodian run (run.sound sound) holdings.books.known ih

/-- Nothing is overwritten where no lost call intrudes on an opening. -/
theorem not_overwritten (apart : e.Apart) (sound : Sound s) (orderly : Orderly s.client s.stages)
    (id : SubscriptionId) : ¬Overwritten e s t id := by
  rintro ⟨u, task, before, mem, _, _, overwritten, _⟩
  have aligned := before.aligned sound.numbered sound.aligned
  have orderly := before.orderly apart sound.numbered sound.aligned orderly
  obtain ⟨new, rest, split, _, _⟩ := fire_move (before.numbered sound.numbered) mem
  rw [(orderly.perm split).overwrites_none] at overwritten
  cases overwritten

theorem AtRest.reclaims_nothing (rest : t.AtRest) {work : Work π} (mem : work ∈ t.works)
    (id : SubscriptionId) : ¬work.Reclaims reliable id := by
  rintro ⟨releases, _, _⟩
  rename_i s pending _ _
  have idle := rest s (List.mem_filterMap.mpr ⟨_, mem, rfl⟩)
  cases s with
  | subscribing | releasing | dropping | closing => cases idle
  | pausing | scheduled => cases releases

variable {config : Config} {factors : Nat → Binary64} {provider : π} {suffixes : Nat → Suffix}

/-- What has been overwritten is lost. -/
theorem lost_of_overwritten (custodian : Custodian given e.adjusts reliable) (sound : Sound s)
    (holdings : Holdings given s lost) {id : SubscriptionId} (overwritten : Overwritten e s t id) :
    ∃ lost, Holdings given t lost ∧ id ∈ lost := by
  obtain ⟨u, task, before, mem, ready, permitted, overwrites, after⟩ := overwritten
  obtain ⟨more, holdings, _⟩ := before.holdings custodian sound holdings
  have sound := before.sound sound
  have fired := holdings.fire custodian sound.numbered mem sound.issued sound.aligned
  have sound := (Step.turn task mem ready permitted).sound sound
  obtain ⟨newer, holdings, _⟩ := after.holdings custodian sound fired
  refine ⟨_, holdings, List.mem_append_right _ (List.mem_append_left _ ?_)⟩
  exact Option.mem_toList.mpr overwrites

/-- The books of a state tell what has been lost. -/
theorem Holdings.unique {others : List SubscriptionId} (holdings : Holdings given t lost)
    (again : Holdings given t others) : lost.Perm others := by
  have same := holdings.books.books.symm.trans again.books.books
  exact (List.perm_append_left_iff _).mp ((List.perm_append_left_iff _).mp same)

/-- While nothing is asked of the provider, it holds the session's subscription, what has been
overwritten, and what it has refused to release. -/
theorem held_at_rest (custodian : Custodian given e.adjusts reliable) (empty : held provider = [])
    (run : Reachable e (fresh config factors provider suffixes) t) (rest : t.AtRest) :
    ∃ lost left,
      (held t.state.provider).Perm (t.client.session.subscription.toList ++ lost ++ left) ∧
      (∀ id, id ∈ lost ↔ Overwritten e (fresh config factors provider suffixes) t id) ∧
      ∀ id ∈ left, t.state.asked id = true ∧ ¬reliable ∧
        Refused e (fresh config factors provider suffixes) t id := by
  have sound := sound_fresh config factors provider suffixes
  have start : Holdings given (fresh config factors provider suffixes) [] :=
    holdings_fresh empty config factors suffixes
  obtain ⟨lost, holdings, overwritten⟩ := run.holdings custodian sound start
  have reclaimed := run.reclaimed custodian sound start (by rintro id ⟨_, ⟨⟩⟩)
  rw [List.append_nil] at holdings
  refine ⟨lost, (held t.state.provider).filter t.state.asked, ?_, ?_, ?_⟩
  · have books := holdings.books.books
    rw [rest.promises_nothing, List.nil_append] at books
    have split := List.filter_append_perm t.state.asked (held t.state.provider)
    exact split.symm.trans (List.perm_append_comm.trans (books.append_right _))
  · intro id
    refine ⟨overwritten id, ?_⟩
    intro overwritten
    obtain ⟨others, again, mem⟩ := lost_of_overwritten custodian sound start overwritten
    exact (again.unique holdings).mem_iff.mp mem
  · intro id mem
    obtain ⟨held, asked⟩ := List.mem_filter.mp mem
    refine ⟨asked, ?_⟩
    rcases reclaimed id ⟨held, asked⟩ with ⟨work, waits, reclaims⟩ | refused
    · exact absurd reclaims (rest.reclaims_nothing waits id)
    · exact refused

/-- Where no lost call intrudes on an opening, nothing has been overwritten, and the session is
consistent. -/
theorem held_at_rest_apart (custodian : Custodian given e.adjusts reliable)
    (empty : held provider = [])
    (run : Reachable e (fresh config factors provider suffixes) t) (rest : t.AtRest)
    (apart : e.Apart) :
    Consistent t.client ∧ ∃ left,
      (held t.state.provider).Perm (t.client.session.subscription.toList ++ left) ∧
      ∀ id ∈ left, t.state.asked id = true ∧ ¬reliable ∧
        Refused e (fresh config factors provider suffixes) t id := by
  have sound := sound_fresh config factors provider suffixes
  have orderly := orderly_fresh config factors provider suffixes
  obtain ⟨lost, left, held_perm, overwritten, refused⟩ := held_at_rest custodian empty run rest
  have none_lost : lost = [] :=
    List.eq_nil_iff_forall_not_mem.mpr fun id mem =>
      not_overwritten apart sound orderly id ((overwritten id).mp mem)
  rw [none_lost, List.append_nil] at held_perm
  exact ⟨(run.orderly apart sound.numbered sound.aligned orderly).toConsistent, left, held_perm,
    refused⟩

/-- While nothing is asked of a reliable provider, it holds the session's subscription and what has
been overwritten. Where no lost call intrudes on an opening it holds the session's subscription
alone; a session that is ready has one, and one that is not open or has failed has none, unless it
may make no attempt to reconnect. -/
theorem subscription_owned (custodian : Custodian given e.adjusts True) (empty : held provider = [])
    (run : Reachable e (fresh config factors provider suffixes) t) (rest : t.AtRest) :
    (∀ id, id ∈ held t.state.provider ↔ t.client.session.subscription = some id ∨
      Overwritten e (fresh config factors provider suffixes) t id) ∧
    (e.Apart →
      held t.state.provider = t.client.session.subscription.toList ∧
      (t.client.session.lifecycle = .ready → ∃ id, t.client.session.subscription = some id) ∧
      (t.client.session.lifecycle = .uninitialized → t.client.session.subscription = none) ∧
      (t.client.session.lifecycle = .failed → 0 < config.reconnection.maxAttempts →
        t.client.session.subscription = none)) := by
  have sound := sound_fresh config factors provider suffixes
  have none_left {left : List SubscriptionId} (refused : ∀ id ∈ left, t.state.asked id = true ∧
      ¬True ∧ Refused e (fresh config factors provider suffixes) t id) : left = [] :=
    List.eq_nil_iff_forall_not_mem.mpr fun id mem => (refused id mem).2.1 trivial
  constructor
  · obtain ⟨lost, left, held_perm, overwritten, refused⟩ := held_at_rest custodian empty run rest
    intro id
    rw [none_left refused, List.append_nil] at held_perm
    rw [held_perm.mem_iff, List.mem_append, overwritten id, Option.mem_toList]
  · intro apart
    obtain ⟨consistent, left, held_perm, refused⟩ :=
      held_at_rest_apart custodian empty run rest apart
    rw [none_left refused, List.append_nil] at held_perm
    refine ⟨?_, consistent.ready, fun idle => consistent.unopened (Or.inl idle), ?_⟩
    · cases session : t.client.session.subscription with
      | none =>
        rw [session] at held_perm
        exact held_perm.eq_nil
      | some id =>
        rw [session] at held_perm
        exact held_perm.eq_singleton
    · intro failed attempts
      have config := run.config sound.numbered sound.aligned
      refine (consistent.failed failed).resolve_right ?_
      rw [config]
      exact Nat.ne_of_gt attempts

/-- A session that loses a call and is recovered. -/
def recovered : Timeline Simulated :=
  (trial 3 (.trial {})).replay (fun w work => !work.intrudes w) [
    .ask .openSession, .turns 9,
    .behave { submitTransportFailure := true }, .ask (.request (.plain "lost")), .turns 9,
    .pass 100, .turns 9]

theorem subscription_owned_recovered :
    recovered.client.session.subscription = some (Simulated.subscriptionName 1) ∧
    held recovered.state.provider = recovered.client.session.subscription.toList :=
  ⟨by decide +kernel,
    ((subscription_owned Simulated.custodian rfl (reachable_replay _ _)
      (by decide +kernel)).2 (Surroundings.apart_limited _)).1⟩

/-- A call that times out after its session has been given up and is being opened anew. -/
def intruded : Timeline Simulated :=
  (trial 3 (.trial { submitDelay := 10000 })).replay (fun _ _ => true) [
    .ask .openSession, .turns 9,
    .ask (.request (.plain "early")), .turns 9,
    .behave { submitTransportFailure := true, subscribeFailure := .rejected },
    .ask (.request (.plain "late")), .turns 9,
    .pass 100, .turns 9,
    .pass 4400, .behave { subscribeFailure := .times 1 }, .ask .openSession, .turns 9,
    .pass 500, .turns 9,
    .pass 100, .turns 9,
    .pass 400, .turns 9]

/-- A session that loses a call and may make no attempt to reconnect. -/
def unattempted : Timeline Simulated :=
  (trial 0 (.trial {})).replay (fun _ _ => true) [
    .ask .openSession, .turns 9,
    .behave { submitTransportFailure := true }, .ask (.request (.plain "lost")), .turns 9]

/-- An intrusion can make a ready session lose a subscription for good, and without attempts a
failed session keeps its subscription. -/
theorem subscription_kept_too_long :
    (∃ provider t, held provider = [] ∧
      Reachable (.limited Simulated.Adjusts fun _ _ => true) (trial 3 provider) t ∧ t.AtRest ∧
      t.client.session.lifecycle = .ready ∧
      t.client.session.subscription = some (Simulated.subscriptionName 2) ∧
      held t.state.provider = [Simulated.subscriptionName 1, Simulated.subscriptionName 2]) ∧
    (∃ provider t, held provider = [] ∧
      Reachable (.limited Simulated.Adjusts fun _ _ => true) (trial 0 provider) t ∧ t.AtRest ∧
      t.client.session.lifecycle = .failed ∧
      t.client.session.subscription = some (Simulated.subscriptionName 0) ∧
      held t.state.provider = [Simulated.subscriptionName 0]) :=
  ⟨⟨_, intruded, rfl, reachable_replay _ _, by decide +kernel⟩,
    ⟨_, unattempted, rfl, reachable_replay _ _, by decide +kernel⟩⟩

end World.Timeline

end RandomBeacon
