import RandomBeacon.Proofs.Calls
import RandomBeacon.Proofs.Ledger.Books
import RandomBeacon.Proofs.Waits

/-!
The books of a world. A turn of an operation passes a subscription on in three moves: its wait ends
and brings it, the client takes it or lets it go, and the next wait begins. Each keeps the books in
balance, so a turn does if the client loses nothing (`Books.turn`).
-/

namespace RandomBeacon

open Provider

variable {π : Type}

/-- The subscription that a task is sure to receive. -/
noncomputable def Work.promised? : Work π → Option SubscriptionId
  | .operation (.subscribing _ _) pending => promised pending
  | _ => none

theorem Work.promised?_of_stage {work : Work π} (idle : work.stage? = none) :
    work.promised? = none := by
  cases work with
  | operation => cases idle
  | errand | recovery | submitting | querying | calling | inFlight | publishing | watching
  | askingChain | askingAccount => rfl

theorem filterMap_cons_promised? (work : Work π) (rest : List (Work π)) :
    (work :: rest).filterMap Work.promised? =
      work.promised?.toList ++ rest.filterMap Work.promised? := by
  cases promise : work.promised? <;> simp [promise]

theorem promised?_errands (errands : List Errand) :
    (errands.map (Work.errand (π := π))).filterMap Work.promised? = [] := by
  simp [List.filterMap_map, Function.comp_def, Work.promised?]

theorem promised?_of_stages {works : List (Work π)} (idle : stagesOf works = []) :
    works.filterMap Work.promised? = [] := by
  apply List.filterMap_eq_nil_iff.mpr
  intro work mem
  exact Work.promised?_of_stage (List.filterMap_eq_nil_iff.mp idle work mem)

theorem Stage.received?_eq_none {p : Purpose} {failed : Nat} {outcome : Outcome SubscriptionId}
    (never : ∀ id, outcome ≠ .returned id) :
    Stage.received? (.subscribing p failed) outcome = none := by
  cases outcome with
  | returned id => exact absurd rfl (never id)
  | failed | panicked => rfl

namespace World

variable [Provider π]

/-- The books of a world: what the provider holds, what was asked for, and what is owned. -/
abbrev Books (given : π → SubscriptionId → Prop) (w : World π) (owned : List SubscriptionId) :
    Prop :=
  Balanced given w.provider w.asked owned

variable {given : π → SubscriptionId → Prop} {adjusts : π → π → Prop} {reliable : Prop}
  {w : World π} {owned : List SubscriptionId}

theorem Books.unsubscribe (custodian : Custodian given adjusts reliable) {id : SubscriptionId}
    (books : w.Books given (id :: owned)) (now : Nat) :
    (w.call now (.unsubscribe id)).2.Books given owned := by
  have parts := (custodian.unsubscribes id w.provider).1
  unfold Books
  rw [asked_call_unsubscribe]
  exact books.asks.parts (by simp) parts

/-- A stage begins: it is promised a subscription, or takes over the one to be released. -/
theorem Books.enter (custodian : Custodian given adjusts reliable) (s : Stage)
    (books : w.Books given (s.released?.toList ++ owned)) (now : Nat) :
    (w.enter now s).2.Books given
      ((Work.operation s (w.enter now s).1).promised?.toList ++ owned) := by
  cases s with
  | pausing | scheduled => exact books
  | releasing _ id | dropping _ id | closing id => exact books.unsubscribe custodian now
  | subscribing p failed =>
    have asked : (w.call now (.subscribe .randomnessPublished w.address)).2.asked = w.asked :=
      asked_call_other (by simp) now w
    simp only [Books, World.enter, asked]
    rcases custodian.subscribes .randomnessPublished w.address w.provider with
      ⟨id, grants, prompt⟩ | ⟨keeps, late⟩
    · have sure : (Work.operation (.subscribing p failed)
          (w.call now (.subscribe .randomnessPublished w.address)).1).promised? = some id :=
        promised_prompt prompt w.provider
      rw [sure]
      exact Balanced.grants books grants
    · have none : (Work.operation (.subscribing p failed)
          (w.call now (.subscribe .randomnessPublished w.address)).1).promised? = none :=
        promised_late late w.provider
      rw [none]
      exact Balanced.keeps books keeps

/-- The wait of a stage ends: what was promised, or is granted now, has been received. -/
theorem Books.finish (custodian : Custodian given adjusts reliable) {s : Stage}
    {pending : Pending π s.Signal} (began : s.Began pending)
    (known : ∀ id, s.released? = some id → w.asked id = true)
    (books : w.Books given ((Work.operation s pending).promised?.toList ++ owned)) (now : Nat) :
    (w.finish now pending).2.1.Books given
      ((s.received? (w.finish now pending).1).toList ++ owned) := by
  obtain ⟨then', v, rfl⟩ := began
  have released (id : SubscriptionId) (was : w.asked id = true)
      (books : w.Books given owned) :
      Balanced given (((v.call then' (.unsubscribe id)).1.finish w.provider).provider) w.asked
        owned :=
    books.parts was ((custodian.unsubscribes id v.provider).2 w.provider)
  cases s with
  | pausing | scheduled => exact books
  | releasing _ id | dropping _ id | closing id => exact released id (known id rfl) books
  | subscribing p failed =>
    have result : (w.finish now (v.enter then' (.subscribing p failed)).1).1 =
        ((Provider.start (.subscribe .randomnessPublished v.address) v.provider).1.finish
          w.provider).result := rfl
    rcases custodian.subscribes .randomnessPublished v.address v.provider with
      ⟨id, _, prompt⟩ | ⟨_, late⟩
    · have sure : (Work.operation (.subscribing p failed)
          (v.enter then' (.subscribing p failed)).1).promised? = some id :=
        promised_prompt prompt w.provider
      obtain ⟨returned, keeps⟩ := prompt w.provider
      rw [sure] at books
      rw [result, returned]
      exact Balanced.keeps books keeps
    · have none : (Work.operation (.subscribing p failed)
          (v.enter then' (.subscribing p failed)).1).promised? = none :=
        promised_late late w.provider
      rw [none] at books
      rw [result]
      rcases late w.provider with ⟨id, returned, grants⟩ | ⟨never, keeps⟩
      · rw [returned]
        exact Balanced.grants books grants
      · rw [Stage.received?_eq_none never]
        exact Balanced.keeps books keeps

/-- An operation goes on: the subscriptions that its next stage is to release leave the books. -/
theorem Books.proceed (custodian : Custodian given adjusts reliable)
    {spawned : List (Option Nat × Work π)} {step : Client × Progress}
    (quiet : stagesOf (spawned.map (·.2)) = [])
    (books : w.Books given (step.2.stages.filterMap Stage.released? ++ owned)) (now : Nat) :
    (w.proceed now spawned step).state.Books given
      ((w.proceed now spawned step).works.filterMap Work.promised? ++ owned) := by
  obtain ⟨c, progress⟩ := step
  have none := promised?_of_stages quiet
  cases progress with
  | ended | lost =>
    simp only [World.proceed, Schedule.Turn.works, Schedule.Next.works, List.nil_append, none]
    exact books
  | wait stage =>
    have owes : (w.withClient c).Books given (stage.released?.toList ++ owned) := by
      cases stage <;> exact books
    have entered := Books.enter custodian stage owes now
    simp only [World.proceed, Schedule.Turn.works, Schedule.Next.works, List.filterMap_append, none,
      List.append_nil]
    rw [filterMap_cons_promised?, List.filterMap_nil, List.append_nil]
    exact entered

theorem keeps_refl (p : π) : Keeps given p p := ⟨rfl, fun _ named => named⟩

/-- A world that differs in nothing that bears on subscriptions. -/
structure Alike (given : π → SubscriptionId → Prop) (w v : World π) : Prop where
  keeps : Keeps given w.provider v.provider
  asked : v.asked = w.asked

theorem Books.alike {v : World π} (books : w.Books given owned) (alike : Alike given w v) :
    v.Books given owned := by
  unfold Books
  rw [alike.asked]
  exact Balanced.keeps books alike.keeps

section Alike

variable (w)

/-- A call about something else bears on no subscription. -/
theorem alike_call (custodian : Custodian given adjusts reliable) {c : Call}
    (other : c.isSession = false) (now : Nat) : Alike given w (w.call now c).2 := by
  refine ⟨(custodian.serves c other w.provider).1, ?_⟩
  apply asked_call_other
  rintro id rfl
  cases other

theorem alike_finish (custodian : Custodian given adjusts reliable) {c : Call}
    {pending : Pending π (Outcome c.Reply)} (other : c.isSession = false)
    (gave : Gave c pending) (now : Nat) : Alike given w (w.finish now pending).2.1 := by
  obtain ⟨p, rfl⟩ := gave
  exact ⟨(custodian.serves c other p).2 w.provider, rfl⟩

theorem alike_watchReady (now deadline : Nat) :
    Alike given w (w.watchReady now deadline).state := by
  unfold World.watchReady
  split
  · exact ⟨keeps_refl _, rfl⟩
  · exact ⟨keeps_refl _, rfl⟩
  · split <;> exact ⟨keeps_refl _, rfl⟩

/-- A turn that is no operation's bears on no subscription. -/
theorem alike_run (custodian : Custodian given adjusts reliable) {work : Work π}
    (issued : work.Issued) (serves : work.event w = .serve) (now : Nat) :
    Alike given w (w.run now work).state := by
  have same {v : World π} (provider : v.provider = w.provider) (asked : v.asked = w.asked) :
      Alike given w v :=
    ⟨provider ▸ keeps_refl _, asked⟩
  cases work with
  | errand e =>
    cases e with
    | openSession | closeSession => cases serves
    | request handler =>
      simp only [World.run, World.begin]
      split <;> exact same rfl rfl
    | query q =>
      simp only [World.run, World.begin]
      split <;> exact same rfl rfl
    | awaitReady limit => exact alike_watchReady w now _
    | chain => exact alike_call w custodian (c := .chain) rfl now
    | account => exact alike_call w custodian (c := .account) rfl now
  | recovery | operation => cases serves
  | submitting name id op generation exchange =>
    simp only [World.run]
    split <;> exact same rfl rfl
  | querying q generation exchange => exact same rfl rfl
  | calling d exchange =>
    cases d with
    | submit op => exact alike_call w custodian (c := .submit op w.address) rfl now
    | query q => exact alike_call w custodian (c := .query q w.address) rfl now
  | inFlight d exchange pending =>
    cases d with
    | submit op =>
      obtain ⟨address, gave⟩ := issued
      obtain ⟨keeps, asked⟩ := alike_finish w custodian (c := .submit op address) rfl gave now
      exact ⟨keeps, asked⟩
    | query q =>
      obtain ⟨address, gave⟩ := issued
      obtain ⟨keeps, asked⟩ := alike_finish w custodian (c := .query q address) rfl gave now
      exact ⟨keeps, asked⟩
  | publishing draw =>
    have drawn := custodian.draws draw issued w.provider
    have stored := custodian.stores (draw w.provider).1 (draw w.provider).2
    exact ⟨⟨stored.held.trans drawn.held, fun id named => stored.names id (drawn.names id named)⟩,
      rfl⟩
  | watching deadline seen => exact alike_watchReady w now _
  | askingChain pending => exact alike_finish w custodian (c := .chain) rfl issued now
  | askingAccount pending => exact alike_finish w custodian (c := .account) rfl issued now

end Alike

/-- An operation goes on with the subscriptions that its wait has brought. -/
theorem Books.goOn (custodian : Custodian given adjusts reliable)
    {spawned : List (Option Nat × Work π)} {step : Client × Progress}
    {before after : List SubscriptionId} (now : Nat) (quiet : stagesOf (spawned.map (·.2)) = [])
    (conserves : before.Perm ((stagesOf (w.proceed now spawned step).works).filterMap
      Stage.released? ++ after))
    (books : w.Books given (before ++ owned)) :
    (w.proceed now spawned step).state.Books given
      ((w.proceed now spawned step).works.filterMap Work.promised? ++ (after ++ owned)) := by
  rw [proceed_stages, quiet, List.append_nil] at conserves
  have split := conserves.append_right owned
  rw [List.append_assoc] at split
  exact Books.proceed custodian quiet (Balanced.perm books split) now

/-- A turn keeps the books in balance: what was promised to its task or was the session's is
promised to the tasks that it leaves behind, is the session's, has been overwritten, or is being
released. -/
theorem Books.turn (custodian : Custodian given adjusts reliable) {work : Work π}
    (issued : work.Issued)
    (known : ∀ id, work.stage?.bind Stage.released? = some id → w.asked id = true) (now : Nat)
    {lost : List SubscriptionId}
    (conserves : ((work.event w).received?.toList ++ w.client.session.subscription.toList).Perm
      ((stagesOf (w.run now work).works).filterMap Stage.released? ++
        ((w.run now work).state.client.session.subscription.toList ++ lost)))
    (books : w.Books given
      (work.promised?.toList ++ (w.client.session.subscription.toList ++ owned))) :
    (w.run now work).state.Books given ((w.run now work).works.filterMap Work.promised? ++
      ((w.run now work).state.client.session.subscription.toList ++ (lost ++ owned))) := by
  rw [← List.append_assoc _ lost]
  have serves (serves : work.event w = .serve) :
      (w.run now work).state.Books given ((w.run now work).works.filterMap Work.promised? ++
        ((w.run now work).state.client.session.subscription.toList ++ lost ++ owned)) := by
    have move := run_move now w work
    have stages : stagesOf (w.run now work).works = [] := by
      rw [serves] at move
      generalize stagesOf (w.run now work).works = new at move
      cases move
      rfl
    have none : work.promised? = none :=
      Work.promised?_of_stage (by rw [← Work.event_stage? w work, serves]; rfl)
    rw [serves, stages] at conserves
    rw [none] at books
    rw [promised?_of_stages stages]
    exact Books.alike (Balanced.perm books (conserves.append_right owned))
      (alike_run w custodian issued serves now)
  cases work with
  | errand e =>
    cases e with
    | openSession | closeSession => exact Books.goOn custodian now rfl conserves books
    | request | query | awaitReady | chain | account => exact serves rfl
  | recovery generation => exact Books.goOn custodian now rfl conserves books
  | operation s pending =>
    have received := Books.finish custodian issued known books now
    rw [← List.append_assoc] at received
    exact Books.goOn custodian now (finish_stages now pending w) conserves received
  | submitting | querying | calling | inFlight | publishing | watching | askingChain
  | askingAccount => exact serves rfl

/-- A step is a turn, or it bears on no subscription and begins an errand at most. -/
theorem Timeline.Step.turns_or_alike {e : Surroundings π} {s t : Timeline π}
    (custodian : Custodian given e.adjusts reliable) (step : Timeline.Step e s t) :
    (∃ task ∈ s.tasks, s.isReady rules task = true ∧ e.permits s.state task.work ∧
      t = s.fire rules task) ∨
    (Alike given s.state t.state ∧ t.client.standing = s.client.standing ∧
      ∃ errands : List Errand, t.works = s.works ++ errands.map .errand) := by
  have same {t : Timeline π} (alike : Alike given s.state t.state) (works : t.works = s.works)
      (standing : t.client.standing = s.client.standing) :
      Alike given s.state t.state ∧ t.client.standing = s.client.standing ∧
        ∃ errands : List Errand, t.works = s.works ++ errands.map .errand :=
    ⟨alike, standing, [], by simp [works]⟩
  cases step with
  | turn task mem ready permitted => exact Or.inl ⟨task, mem, ready, permitted, rfl⟩
  | ask errand => exact Or.inr ⟨⟨keeps_refl _, rfl⟩, rfl, [errand], by simp [Timeline.start]⟩
  | pass | cancel => exact Or.inr (same ⟨keeps_refl _, rfl⟩ rfl rfl)
  | listen handler =>
    exact Or.inr (same ⟨keeps_refl _, rfl⟩ rfl (Scene.listen_standing _ handler))
  | unlisten number =>
    exact Or.inr (same ⟨keeps_refl _, rfl⟩ rfl (Client.unsubscribeListener_standing number _))
  | publish r =>
    exact Or.inr (same ⟨custodian.stores r _, rfl⟩ rfl (publish_standing r s.state))
  | adjust provider adjusted =>
    exact Or.inr (same ⟨custodian.adjusts _ _ adjusted, rfl⟩ rfl rfl)

end World

end RandomBeacon
