import RandomBeacon.Proofs.Holdings

/-!
What becomes of subscriptions whose release has been asked for. One that the provider still holds
is waited for by the task that asked, unless its release has been refused (`Reclaimed`); a reliable
provider refuses none.
-/

namespace RandomBeacon

open Provider

variable {π : Type}

/-- The subscription that the provider keeps, as the end of its release shows. -/
def Outcome.refused? (id : SubscriptionId) : Outcome Unit → Option SubscriptionId
  | returned _ => none
  | failed _ | panicked _ => some id

theorem Outcome.refused?_eq_none {id : SubscriptionId} {outcome : Outcome Unit} :
    outcome.refused? id = none ↔ outcome = .returned () := by
  cases outcome <;> simp [refused?]

/-- The subscription whose release a stage waited for, if it was refused. -/
def Stage.refused? : (s : Stage) → s.Signal → Option SubscriptionId
  | releasing _ id, outcome | dropping _ id, outcome | closing id, outcome => outcome.refused? id
  | subscribing _ _, _ | pausing _ _, _ | scheduled _ _, _ => none

/-- The subscription whose release an event shows to be refused. -/
def Event.refused? : Event → Option SubscriptionId
  | resume s signal => s.refused? signal
  | _ => none

theorem Stage.refused?_of_released {s : Stage} {id : SubscriptionId}
    (releases : s.released? = some id) (signal : s.Signal) :
    s.refused? signal = none ∨ s.refused? signal = some id := by
  cases s with
  | subscribing | pausing | scheduled => cases releases
  | releasing | dropping | closing =>
    obtain rfl := Option.some.inj releases
    cases signal with
    | returned => exact Or.inl rfl
    | failed | panicked => exact Or.inr rfl

namespace Provider

variable [Provider π] (given : π → SubscriptionId → Prop)

/-- No subscription comes back: a name that was given and is held afterwards was held before. -/
structure Recedes (p q : π) : Prop where
  held : ∀ id, given p id → id ∈ held q → id ∈ held p
  names : ∀ id, given p id → given q id

variable {given} {p q : π} {id : SubscriptionId}

theorem Keeps.recedes (keeps : Keeps given p q) : Recedes given p q :=
  ⟨fun _ _ mem => keeps.held ▸ mem, keeps.names⟩

theorem Grants.recedes (grants : Grants given id p q) : Recedes given p q := by
  refine ⟨?_, grants.names⟩
  intro other named mem
  rcases List.mem_cons.mp (grants.held.mem_iff.mp mem) with rfl | old
  · exact absurd named grants.fresh
  · exact old

theorem Parts.recedes (parts : Parts given id p q) : Recedes given p q := by
  refine ⟨?_, parts.names⟩
  intro other _ mem
  rcases parts.held with same | fewer
  · exact same ▸ mem
  · rw [fewer] at mem
    exact List.mem_of_mem_filter mem

theorem Late.recedes {pending : Pending π (Outcome SubscriptionId)} (late : Late given pending)
    (p : π) : Recedes given p (pending.finish p).provider := by
  rcases late p with ⟨_, _, grants⟩ | ⟨_, keeps⟩
  · exact grants.recedes
  · exact keeps.recedes

end Provider

variable [Provider π]

/-- A task that waits for the release of a subscription: once it has succeeded, the provider holds
the subscription no longer, and a reliable provider's is sure to succeed. -/
inductive Work.Reclaims (reliable : Prop) (id : SubscriptionId) : Work π → Prop
  | releases {s : Stage} {pending : Pending π s.Signal} (releases : s.released? = some id)
      (ends : ∀ q, s.refused? (pending.finish q).result = none →
        id ∉ held (pending.finish q).provider)
      (sure : reliable → ∀ q, s.refused? (pending.finish q).result = none) :
      Reclaims reliable id (.operation s pending)

/-- A reliable provider refuses no release. -/
theorem Work.Reclaims.unrefused {reliable : Prop} {id : SubscriptionId} {work : Work π}
    (reclaims : work.Reclaims reliable id) (sure : reliable) (w : World π) :
    (work.event w).refused? = none := by
  obtain ⟨_, _, never⟩ := reclaims
  exact never sure w.provider

namespace World

/-- A subscription that is held though its release has been asked for. -/
def Lingers (w : World π) (id : SubscriptionId) : Prop :=
  id ∈ held w.provider ∧ w.asked id = true

variable {given : π → SubscriptionId → Prop} {adjusts : π → π → Prop} {reliable : Prop}
  {w : World π} {id : SubscriptionId}

theorem enter_recedes (custodian : Custodian given adjusts reliable) (now : Nat) (s : Stage)
    (w : World π) : Recedes given w.provider (w.enter now s).2.provider := by
  cases s with
  | pausing | scheduled => exact (keeps_refl _).recedes
  | releasing _ id | dropping _ id | closing id =>
    exact (custodian.unsubscribes id w.provider).1.recedes
  | subscribing =>
    rcases custodian.subscribes .randomnessPublished w.address w.provider with
      ⟨id, grants, _⟩ | ⟨keeps, _⟩
    · exact grants.recedes
    · exact keeps.recedes

theorem finish_recedes (custodian : Custodian given adjusts reliable) {s : Stage}
    {pending : Pending π s.Signal} (began : s.Began pending) (now : Nat) (w : World π) :
    Recedes given w.provider (w.finish now pending).2.1.provider := by
  obtain ⟨then', v, rfl⟩ := began
  cases s with
  | pausing | scheduled => exact (keeps_refl _).recedes
  | releasing _ id | dropping _ id | closing id =>
    exact ((custodian.unsubscribes id v.provider).2 w.provider).recedes
  | subscribing =>
    rcases custodian.subscribes .randomnessPublished v.address v.provider with
      ⟨id, _, prompt⟩ | ⟨_, late⟩
    · exact (prompt w.provider).2.recedes
    · exact late.recedes w.provider

/-- A stage that begins to release a subscription waits for it, or the provider has let go of it
at once. -/
theorem enter_reclaims (custodian : Custodian given adjusts reliable) {s : Stage}
    (releases : s.released? = some id) (now : Nat) {w : World π} (mine : id ∈ held w.provider)
    (still : id ∈ held (w.enter now s).2.provider) :
    (Work.operation s (w.enter now s).1).Reclaims reliable id := by
  have gone := custodian.releases id w.provider
  have complies (sure : reliable) := custodian.complies sure id w.provider mine
  cases s with
  | subscribing | pausing | scheduled => cases releases
  | releasing _ other | dropping _ other | closing other =>
    obtain rfl := Option.some.inj releases
    refine .releases rfl ?_ ?_
    · intro q returned
      exact gone.resolve_left (fun gone => gone still) q (Outcome.refused?_eq_none.mp returned)
    · intro sure q
      exact Outcome.refused?_eq_none.mpr (complies sure q)

/-- What lingers after a stage has begun lingered before, or the stage waits for its release. -/
theorem enter_lingers (custodian : Custodian given adjusts reliable) (now : Nat) {s : Stage}
    (known : ∀ id, w.asked id = true → given w.provider id)
    (lingers : (w.enter now s).2.Lingers id) :
    w.Lingers id ∨ (Work.operation s (w.enter now s).1).Reclaims reliable id := by
  obtain ⟨mem, asked⟩ := lingers
  have recedes := enter_recedes custodian now s w
  by_cases was : w.asked id = true
  · exact Or.inl ⟨recedes.held id (known id was) mem, was⟩
  · have releases : s.released? = some id := by
      cases s with
      | pausing | scheduled => exact absurd asked was
      | subscribing =>
        have same := congrFun (asked_call_other (c := .subscribe .randomnessPublished w.address)
          (by simp) now w) id
        exact absurd (same ▸ asked) was
      | releasing _ other | dropping _ other | closing other =>
        have now_asked := congrFun (asked_call_unsubscribe now other w) id
        have same : id = other := by
          have asked : (w.call now (.unsubscribe other)).2.asked id = true := asked
          simpa [now_asked, was] using asked
        exact congrArg some same.symm
    have parts : id ∈ held w.provider := by
      cases s with
      | subscribing | pausing | scheduled => cases releases
      | releasing _ other | dropping _ other | closing other =>
        rcases (custodian.unsubscribes other w.provider).1.held with same | fewer
        · exact same ▸ mem
        · have mem : id ∈ held (start (.unsubscribe other) w.provider).2 := mem
          rw [fewer] at mem
          exact List.mem_of_mem_filter mem
    exact Or.inr (enter_reclaims custodian releases now parts mem)

theorem proceed_lingers (custodian : Custodian given adjusts reliable) (now : Nat)
    {spawned : List (Option Nat × Work π)} {step : Client × Progress}
    (known : ∀ id, w.asked id = true → given w.provider id)
    (lingers : (w.proceed now spawned step).state.Lingers id) :
    w.Lingers id ∨ ∃ new ∈ (w.proceed now spawned step).works, new.Reclaims reliable id := by
  obtain ⟨c, progress⟩ := step
  cases progress with
  | ended | lost => exact Or.inl lingers
  | wait stage =>
    refine (enter_lingers (w := w.withClient c) custodian now known lingers).imp_right ?_
    exact fun reclaims => ⟨_, List.mem_append_left _ List.mem_cons_self, reclaims⟩

/-- What lingers after a turn lingered before and was not released by it, or one of the tasks that
the turn leaves behind waits for its release. -/
theorem run_lingers (custodian : Custodian given adjusts reliable) {work : Work π}
    (issued : work.Issued) (now : Nat) (known : ∀ id, w.asked id = true → given w.provider id)
    (lingers : (w.run now work).state.Lingers id) :
    (w.Lingers id ∧ (work.Reclaims reliable id → (work.event w).refused? = some id)) ∨
    ∃ new ∈ (w.run now work).works, new.Reclaims reliable id := by
  have serves (serves : work.event w = .serve) (other : ¬work.Reclaims reliable id) :
      w.Lingers id ∧ (work.Reclaims reliable id → (work.event w).refused? = some id) := by
    obtain ⟨keeps, asked⟩ := alike_run w custodian issued serves now
    exact ⟨⟨keeps.held ▸ lingers.1, asked ▸ lingers.2⟩, fun reclaims => absurd reclaims other⟩
  cases work with
  | errand e =>
    have other : ¬(Work.errand e : Work π).Reclaims reliable id := by rintro ⟨⟩
    cases e with
    | openSession | closeSession =>
      exact (proceed_lingers custodian now known lingers).imp_left fun before =>
        ⟨before, fun reclaims => absurd reclaims other⟩
    | request | query | awaitReady | chain | account => exact Or.inl (serves rfl other)
  | recovery generation =>
    exact (proceed_lingers custodian now known lingers).imp_left fun before =>
      ⟨before, by rintro ⟨⟩⟩
  | operation s pending =>
    have recedes := finish_recedes custodian issued now w
    have known' (id : SubscriptionId) (was : (w.finish now pending).2.1.asked id = true) :
        given (w.finish now pending).2.1.provider id :=
      recedes.names id (known id was)
    refine (proceed_lingers custodian now known' lingers).imp_left ?_
    rintro ⟨mem, asked⟩
    refine ⟨⟨recedes.held id (known id asked) mem, asked⟩, ?_⟩
    rintro ⟨releases, ends, _⟩
    exact (Stage.refused?_of_released releases _).resolve_left fun none => ends _ none mem
  | submitting | querying | calling | inFlight | publishing | watching | askingChain
  | askingAccount => exact Or.inl (serves rfl (by rintro ⟨⟩))

namespace Timeline

variable {e : Surroundings π} {s t : Timeline π}

/-- On the way from `start` to `t` the release of this subscription has been refused. -/
def Refused (e : Surroundings π) (start t : Timeline π) (id : SubscriptionId) : Prop :=
  Happened e start t fun _ event => event.refused? = some id

/-- The subscriptions that linger are waited for, or have been `refused`. -/
def Reclaimed (reliable : Prop) (t : Timeline π) (refused : SubscriptionId → Prop) : Prop :=
  ∀ id, t.state.Lingers id → (∃ work ∈ t.works, work.Reclaims reliable id) ∨ refused id

theorem Step.reclaimed {start : Timeline π} (custodian : Custodian given e.adjusts reliable)
    (before : Reachable e start s) (step : Step e s t) (sound : Sound s)
    (known : ∀ id, s.state.asked id = true → given s.state.provider id)
    (reclaimed : Reclaimed reliable s fun id => ¬reliable ∧ Refused e start s id) :
    Reclaimed reliable t fun id => ¬reliable ∧ Refused e start t id := by
  have later {id : SubscriptionId} (refused : ¬reliable ∧ Refused e start s id) :
      ¬reliable ∧ Refused e start t id :=
    ⟨refused.1, refused.2.next step⟩
  intro id lingers
  rcases step.turns_or_alike custodian with
    ⟨task, mem, ready, permitted, rfl⟩ | ⟨alike, _, errands, works⟩
  · obtain ⟨rest, split, left⟩ :=
      Schedule.Timeline.works_fire rules sound.numbered mem
    have present : task.work ∈ s.works := split.mem_iff.mpr List.mem_cons_self
    rw [Schedule.Timeline.state_fire] at lingers
    rcases run_lingers custodian (sound.issued _ present) s.now known lingers with
      ⟨lingered, unreleased⟩ | ⟨new, new_mem, reclaims⟩
    · rcases reclaimed id lingered with ⟨work, work_mem, reclaims⟩ | refused
      · rcases List.mem_cons.mp (split.mem_iff.mp work_mem) with rfl | other
        · have refuses := unreleased reclaims
          refine Or.inr ⟨?_, s, task, before, mem, ready, permitted, refuses, .start⟩
          intro sure
          rw [reclaims.unrefused sure] at refuses
          cases refuses
        · exact Or.inl ⟨work, left.mem_iff.mpr (List.mem_append_right _ other), reclaims⟩
      · exact Or.inr (later refused)
    · exact Or.inl ⟨new, left.mem_iff.mpr (List.mem_append_left _ new_mem), reclaims⟩
  · have lingered : s.state.Lingers id := ⟨alike.keeps.held ▸ lingers.1, alike.asked ▸ lingers.2⟩
    rcases reclaimed id lingered with ⟨work, mem, reclaims⟩ | refused
    · exact Or.inl ⟨work, by rw [works]; exact List.mem_append_left _ mem, reclaims⟩
    · exact Or.inr (later refused)

end Timeline

end World

end RandomBeacon
