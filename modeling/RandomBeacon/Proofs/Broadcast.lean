import RandomBeacon.Proofs.Dispatch
import RandomBeacon.Proofs.Ownership

/-!
How often a published round is heard. A provider delivers a round once for each subscription that
it holds, and in each delivery everyone hears it once. Where no lost call intrudes on an opening, a
ready session holds its own subscription and none besides but those that the provider has refused to
release (`kept_when_ready`). So everyone hears a round once, and once more for each refusal
(`heard_once_per_subscription`).
-/

namespace RandomBeacon

open Provider

/-- The scenes in which the deliveries of a round begin, so many of them. -/
def Scene.deliveries (r : Round) : Nat → Scene → List Scene
  | 0, _ => []
  | more + 1, s => s :: (s.deliver r).deliveries r more

theorem Scene.Wired.deliveries {s : Scene} (wired : s.Wired) (r : Round) (count : Nat) :
    ∀ scene ∈ s.deliveries r count,
      scene.Wired ∧ scene.client.session = s.client.session := by
  induction count generalizing s with
  | zero => rintro scene ⟨⟩
  | succ count ih =>
    intro scene mem
    rcases List.mem_cons.mp mem with rfl | later
    · exact ⟨wired, rfl⟩
    · obtain ⟨wired', same⟩ := ih (wired.deliver r) scene later
      have standing := Scene.deliver_standing r s
      simp only [Client.standing, Prod.mk.injEq] at standing
      exact ⟨wired', same.trans standing.2.1⟩

namespace World

variable {π : Type} [Provider π]

/-- The scene in which the deliveries of a round begin: the provider has taken it. -/
def announced (r : Round) (w : World π) : Scene :=
  (({ w with provider := (store r w.provider).2 } : World π).noteAll (store r w.provider).1).scene

theorem announced_core (r : Round) (w : World π) : (w.announced r).client.core = w.client.core :=
  Client.noteAll_core _ _

/-- A published round is heard in as many deliveries as the provider holds subscriptions. -/
theorem publish_heard (r : Round) (w : World π) :
    (w.publish r).2.scene.host.heard =
      ((((w.announced r).deliveries r (w.publish r).1).flatMap (·.roll r.result)).map
        fun x => (x.2.name, r.result)).reverse ++ w.scene.host.heard := by
  have delivered (held : List SubscriptionId) (s : Scene) :
      (held.foldl (fun s _ => s.deliver r) s).host.heard =
        (((s.deliveries r held.length).flatMap (·.roll r.result)).map
          fun x => (x.2.name, r.result)).reverse ++ s.host.heard := by
    induction held generalizing s with
    | nil => rfl
    | cons id rest ih =>
      rw [List.foldl_cons, ih, Scene.deliver_heard]
      simp [Scene.deliveries, List.append_assoc]
  exact delivered _ _

namespace Timeline

variable {given : π → SubscriptionId → Prop} {reliable : Prop} {e : Surroundings π}
  {t : Timeline π} {config : Config} {factors : Nat → Binary64} {provider : π}
  {suffixes : Nat → Suffix}

/-- Where no lost call intrudes on an opening, the provider of a ready client that has no call in
flight holds the session's subscription and what it has refused to release. -/
theorem kept_when_ready (custodian : Custodian given e.adjusts reliable)
    (empty : held provider = [])
    (run : Reachable e (fresh config factors provider suffixes) t) (rest : t.AtRest)
    (ready : t.client.session.lifecycle = .ready) (apart : e.Apart) :
    ∃ own left, t.client.session.subscription = some own ∧
      (held t.state.provider).Perm (own :: left) ∧
      ∀ id ∈ left, t.state.asked id = true ∧ ¬reliable ∧
        Refused e (fresh config factors provider suffixes) t id := by
  obtain ⟨consistent, left, holds, refused⟩ := held_at_rest_apart custodian empty run rest apart
  obtain ⟨own, owned⟩ := consistent.ready ready
  rw [owned] at holds
  exact ⟨own, left, owned, holds, refused⟩

/-- A round that is published to a ready client with no call in flight is delivered once for each
subscription that the provider holds, and each delivery is heard once by every listener and by every
callback that is pending when the turn of the dispatch handler comes. Where no lost call intrudes on
an opening, these subscriptions are the session's and those that the provider has refused to
release. -/
theorem heard_once_per_subscription (custodian : Custodian given e.adjusts reliable)
    (empty : held provider = [])
    (run : Reachable e (fresh config factors provider suffixes) t) (rest : t.AtRest)
    (ready : t.client.session.lifecycle = .ready) (r : Round) :
    (e.Apart → ∃ own left, t.client.session.subscription = some own ∧
      (held t.state.provider).Perm (own :: left) ∧
      ∀ id ∈ left, t.state.asked id = true ∧ ¬reliable ∧
        Refused e (fresh config factors provider suffixes) t id) ∧
    (t.state.publish r).1 = (held t.state.provider).length ∧
    (t.state.publish r).2.scene.host.heard =
      ((((t.state.announced r).deliveries r (held t.state.provider).length).flatMap
        (·.roll r.result)).map fun x => (x.2.name, r.result)).reverse ++
      t.state.scene.host.heard ∧
    (t.state.announced r).client.core = t.client.core ∧
    ∀ s ∈ (t.state.announced r).deliveries r (held t.state.provider).length,
      s.HearsOnce r.result := by
  have count : (t.state.publish r).1 = (held t.state.provider).length := by
    have stored := (custodian.stores r t.state.provider).held
    have same : (t.state.publish r).1 = (held (store r t.state.provider).2).length := rfl
    rw [same, stored]
  have announced := announced_core r t.state
  have wired := run.wired (sound_fresh config factors provider suffixes)
    (wired_fresh config factors provider suffixes)
  refine ⟨kept_when_ready custodian empty run rest ready, count, ?_, announced, ?_⟩
  · rw [publish_heard, count]
  · intro s mem
    obtain ⟨wired', same⟩ := (wired.congr announced rfl).deliveries r _ s mem
    refine wired'.hearsOnce ?_ r.result
    rw [same, (Client.core_eq_iff.mp announced).2.2.1]
    exact wired.ready ready

/-- A session that is recovered while its provider refuses to release the old subscription. -/
def burdened : Timeline Scripted :=
  (trial 3 {}).replay (fun w work => !work.intrudes w) [
    .ask .openSession, .turns 9, .listen (.plain "ear"),
    .script {
      submit := [⟨0, .failed (.transport "connection reset")⟩]
      unsubscribe := [⟨0, .failed (.transport "connection reset")⟩] },
    .ask (.request (.plain "request")), .turns 9,
    .pass 100, .turns 9]

def blank : Round := ⟨1, .replicate 32 0, .replicate 16 0, []⟩

theorem heard_once_per_subscription_burdened :
    (∃ own left, burdened.client.session.subscription = some own ∧
      (held burdened.state.provider).Perm (own :: left) ∧
      ∀ id ∈ left, burdened.state.asked id = true) ∧
    (burdened.state.publish blank).1 = 2 := by
  have run : Reachable (.limited Scripted.Adjusts fun w work => !work.intrudes w) (trial 3 {})
      burdened := reachable_replay _ _
  have rest : burdened.AtRest := by decide +kernel
  have ready : burdened.client.session.lifecycle = .ready := by decide +kernel
  obtain ⟨opened, count, _⟩ :=
    heard_once_per_subscription Scripted.custodian rfl run rest ready blank
  obtain ⟨own, left, owned, holds, refused⟩ := opened (Surroundings.apart_limited _)
  refine ⟨⟨own, left, owned, holds, fun id mem => (refused id mem).1⟩, ?_⟩
  rw [count]
  decide +kernel

/-- A round that is published to a ready client with no call in flight may be heard twice. -/
theorem heard_twice :
    ∃ provider t, held provider = [] ∧
      Reachable (.limited Scripted.Adjusts fun w work => !work.intrudes w) (trial 3 provider) t ∧
      t.AtRest ∧ t.client.session.lifecycle = .ready ∧
      t.client.callbacks.map (·.2.name) = ["request"] ∧
      (t.state.publish blank).2.scene.host.heard.map (·.1) =
        ["request", "ear", "request", "ear"] :=
  ⟨_, burdened, rfl, reachable_replay _ _, by decide +kernel⟩

end Timeline

end World

end RandomBeacon
