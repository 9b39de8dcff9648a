import RandomBeacon.Proofs.Turns

/-!
What the turn of a task leaves behind: whatever goes on after the turn or starts with it is one of
the tasks of `Follows`, and has its wait and its generation from that turn (`run_follows`).
-/

namespace RandomBeacon

variable {π : Type}

/-- The generation in which a task began, if it keeps one. -/
def Work.generation? : Work π → Option Nat
  | recovery generation => some generation
  | operation s _ => s.purpose?.map Purpose.generation
  | submitting _ _ _ generation _ => some generation
  | querying _ generation _ => some generation
  | errand _ | calling _ _ | inFlight _ _ _ | publishing _ | watching _ _ | askingChain _
  | askingAccount _ => none

/-- The round that the end of a task's wait leaves to be published. -/
def Work.publication? (p : π) : Work π → Option (Publication π)
  | operation _ pending => (pending.finish p).publication
  | inFlight _ _ pending => (pending.finish p).publication
  | askingChain pending => (pending.finish p).publication
  | askingAccount pending => (pending.finish p).publication
  | errand _ | recovery _ | submitting _ _ _ _ _ | querying _ _ _ | calling _ _ | publishing _
  | watching _ _ => none

namespace World

variable [Provider π]

/-- What the turn of a task may leave behind. -/
inductive Follows (now : Nat) (w : World π) (work : Work π) : Work π → Prop where
  | stage (s : Stage) (v : World π) : Follows now w work (.operation s (v.enter now s).1)
  | publication (p : Publication π) (leaves : work.publication? w.provider = some p) :
      Follows now w work (.publishing p.draw)
  | recovery (generation : Nat) (began : work.generation? = some generation) :
      Follows now w work (.recovery generation)
  | request (name : String) (id : RequestId) (op : Operation) (exchange : Nat)
      (ready : w.client.session.lifecycle = .ready) :
      Follows now w work (.submitting name id op w.client.session.generation exchange)
  | query (q : Query) (exchange : Nat) (ready : w.client.session.lifecycle = .ready) :
      Follows now w work (.querying q w.client.session.generation exchange)
  | submit (handler : ClientHandler) (exchange : Nat) (asked : work = .errand (.request handler))
      (ready : w.client.session.lifecycle = .ready) :
      Follows now w work (.calling (.submit
        (.requestRandomness (w.nameRequest now).1.text (UInt64.ofNat now))) exchange)
  | ask (q : Query) (exchange : Nat) : Follows now w work (.calling (.query q) exchange)
  | submission (op : Operation) (exchange : Nat) :
      Follows now w work
        (.inFlight (.submit op) exchange (w.call now (.submit op w.address)).1)
  | lookup (q : Query) (exchange : Nat) :
      Follows now w work (.inFlight (.query q) exchange (w.call now (.query q w.address)).1)
  | watch (deadline seen : Nat) : Follows now w work (.watching deadline seen)
  | chain : Follows now w work (.askingChain (w.call now .chain).1)
  | account : Follows now w work (.askingAccount (w.call now .account).1)

section Parts

variable {now : Nat} {w : World π} {work : Work π}

theorem finish_follows {β : Type} (pending : Pending π β)
    (waits : work.publication? w.provider = (pending.finish w.provider).publication) :
    ∀ new ∈ (w.finish now pending).2.2.map (·.2), Follows now w work new := by
  intro new mem
  obtain ⟨p, leaves, rfl⟩ := finish_spawned mem
  exact .publication p (waits.trans leaves)

theorem proceed_follows {v : World π} {spawned : List (Option Nat × Work π)}
    {step : Client × Progress} (left : ∀ new ∈ spawned.map (·.2), Follows now w work new) :
    ∀ new ∈ (v.proceed now spawned step).works, Follows now w work new := by
  obtain ⟨c, progress⟩ := step
  intro new mem
  cases progress with
  | wait stage =>
    rcases List.mem_append.mp mem with goes | spawned
    · obtain rfl := List.mem_singleton.mp goes
      exact .stage stage (v.withClient c)
    · exact left new spawned
  | ended | lost => exact left new mem

theorem recoveries_follows {α : Type} (generation : Nat)
    (began : work.generation? = some generation) (result : Except Failure α) :
    ∀ new ∈ (recoveries (π := π) now generation result).map (·.2), Follows now w work new := by
  intro new mem
  obtain rfl := recoveries_spawned mem
  exact .recovery generation began

theorem watchReady_follows (deadline : Nat) :
    ∀ new ∈ (w.watchReady now deadline).works, Follows now w work new := by
  intro new mem
  obtain rfl := watchReady_works mem
  exact .watch deadline w.client.watch.version

theorem detach_follows {v : World π} {d : Detached} {wait : Nat → Work π}
    (waits : ∀ exchange, Follows now w work (wait exchange))
    (calls : ∀ exchange, Follows now w work (.calling d exchange)) :
    ∀ new ∈ (v.detach now d wait).works, Follows now w work new := by
  intro new mem
  rcases List.mem_append.mp mem with goes | spawned
  · obtain rfl := List.mem_singleton.mp goes
    exact waits v.exchanges
  · obtain rfl := List.mem_singleton.mp spawned
    exact calls v.exchanges

theorem begin_follows (errand : Errand) :
    ∀ new ∈ (w.begin now errand).works, Follows now w (.errand errand) new := by
  cases errand with
  | openSession | closeSession => exact proceed_follows (by rintro new ⟨⟩)
  | request handler =>
    have named : (w.nameRequest now).2.client = w.client := rfl
    unfold begin Client.admitRequest Client.readyGeneration
    by_cases ready : w.client.session.lifecycle = .ready
    · simp only [named, if_pos ready, Except.map]
      exact detach_follows (fun exchange => .request _ _ _ exchange ready)
        fun exchange => .submit handler exchange rfl ready
    · simp only [named, if_neg ready, Except.map]
      rintro new ⟨⟩
  | query q =>
    unfold begin Client.readyGeneration
    by_cases ready : w.client.session.lifecycle = .ready
    · simp only [if_pos ready]
      exact detach_follows (fun exchange => .query q exchange ready) fun exchange => .ask q exchange
    · simp only [if_neg ready]
      rintro new ⟨⟩
  | awaitReady limit => exact watchReady_follows (now + limit)
  | chain =>
    intro new mem
    obtain rfl := List.mem_singleton.mp mem
    exact .chain
  | account =>
    intro new mem
    obtain rfl := List.mem_singleton.mp mem
    exact .account

end Parts

/-- Whatever a turn leaves behind follows from it. -/
theorem run_follows (now : Nat) (w : World π) (work : Work π) :
    ∀ new ∈ (w.run now work).works, Follows now w work new := by
  cases work with
  | errand e => exact begin_follows e
  | recovery generation => exact proceed_follows (by rintro new ⟨⟩)
  | operation s pending => exact proceed_follows (finish_follows pending rfl)
  | submitting name id op generation exchange =>
    exact recoveries_follows generation rfl _
  | querying q generation exchange => exact recoveries_follows generation rfl _
  | calling d exchange =>
    intro new mem
    cases d with
    | submit op =>
      obtain rfl := List.mem_singleton.mp mem
      exact .submission op exchange
    | query q =>
      obtain rfl := List.mem_singleton.mp mem
      exact .lookup q exchange
  | inFlight d exchange pending => exact finish_follows pending rfl
  | publishing draw => rintro new ⟨⟩
  | watching deadline seen => exact watchReady_follows deadline
  | askingChain pending | askingAccount pending => exact finish_follows pending rfl

end World

end RandomBeacon
