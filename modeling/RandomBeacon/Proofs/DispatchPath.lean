import RandomBeacon.Proofs.History

/-!
The one path from a delivery to the callbacks. In every state of a run the registry holds the
listeners that have been added and not removed since, and at most one dispatch handler, which is the
session's (`OnePath`). So whatever has been opened, lost, recovered or closed before, a delivery
runs each callback that is pending when the turn of the dispatch handler comes, and runs it once.
-/

namespace RandomBeacon

open Provider

/-- The entry of the registry that a listener is. -/
def Registration.ofListener (listener : Nat × ClientHandler) : Registration Listener :=
  ⟨listener.1, .randomnessPublished, .user listener.2⟩

namespace Client

/-- Every entry of the registry is a listener or a dispatch handler. -/
theorem entries_perm (c : Client) : c.registry.entries.Perm
    (c.listeners.map .ofListener ++ c.registry.entries.filter (·.dispatches)) := by
  rw [listeners]
  induction c.registry.entries with
  | nil => exact .nil
  | cons entry rest ih =>
    obtain ⟨number, topic, handler⟩ := entry
    cases topic
    cases handler with
    | user handler => exact ih.cons _
    | dispatch => exact (ih.cons _).trans List.perm_middle.symm

theorem hearers_listeners (c : Client) : c.registry.entries.filterMap Registration.hearer? =
    c.listeners.map fun listener => (.listener listener.1, listener.2) := by
  rw [listeners, List.map_filterMap]
  apply List.filterMap_congr
  rintro ⟨number, topic, handler⟩ _
  cases handler <;> rfl

end Client

namespace Scene

/-- In a delivery of a round that begins in this scene those on the roll hear its result, and nobody
else does. On the roll stands, once each, whoever is a listener when the delivery begins and
whoever's callback is pending when the turn of the dispatch handler comes. -/
structure DeliversOnce (round : Round) (s : Scene) : Prop where
  heard : (s.deliver round).host.heard =
    ((s.roll round.result).map fun x => (x.2.name, round.result)).reverse ++ s.host.heard
  roll : (s.roll round.result).Perm
    ((s.atDispatch round.result).client.callbacks.map (fun callback =>
        (.callback callback.1, callback.2)) ++
      s.client.listeners.map fun listener => (.listener listener.1, listener.2))
  once : ((s.roll round.result).map (·.1)).Nodup

namespace Wired

variable {s : Scene}

/-- Where there is no dispatch handler, listeners take all the turns. -/
theorem roll_undispatched (wired : Wired s) (undispatched : s.client.session.dispatch = none)
    (r : Randomness) : s.roll r = s.client.registry.entries.filterMap Registration.hearer? := by
  have nobody := wired.dispatch
  rw [undispatched] at nobody
  rw [Scene.roll, Registry.audience_eq]
  exact rollOf_listeners r (by simpa using List.filter_eq_nil_iff.mp nobody) s

/-- What listeners do before the turn of the dispatch handler leaves the session alone, and whoever
is pending then can count on it. -/
theorem handles_atDispatch (wired : Wired s) (r : Round) :
    s.Handles (s.foreChanges r) (s.atDispatch r.result) :=
  recorded_handles (fun _ entry _ wired => wired.attendListener_handles r.result entry) wired

theorem deliversOnce (wired : Wired s) (dispatches : s.client.Dispatches) (r : Round) :
    s.DeliversOnce r := by
  cases dispatch : s.client.session.dispatch with
  | some number =>
    have dispatched : s.client.session.dispatch.isSome = true := by rw [dispatch]; rfl
    refine ⟨deliver_heard r s, ?_, (wired.hearsOnce dispatched r.result).once⟩
    rw [← s.client.hearers_listeners]
    exact wired.roll dispatched r.result
  | none =>
    have roll := wired.roll_undispatched dispatch r.result
    have handled := wired.handles_atDispatch r
    have idle : (s.atDispatch r.result).client.callbacks = [] := by
      by_contra waiting
      have served := handled.dispatches dispatches waiting
      rw [handled.session, dispatch] at served
      cases served
    refine ⟨deliver_heard r s, ?_, ?_⟩
    · rw [roll, idle, s.client.hearers_listeners]
      exact .refl _
    · have distinct : (s.client.registry.entries.map fun entry =>
          Hearer.listener entry.number).Nodup := by
        have once := wired.numbers.map (fun _ _ => Hearer.listener.inj)
        rwa [List.map_map] at once
      rw [roll]
      exact distinct.sublist (hearer?_sublist _)

end Wired

end Scene

namespace World.Timeline

variable {π : Type} [Provider π] {e : Surroundings π} {t : Timeline π} {actions : List (Action π)}
  {config : Config} {factors : Nat → Binary64} {provider : π} {suffixes : Nat → Suffix}

/-- The registry of a client after this history, and what deliveries make of it. -/
structure OnePath (history : List Change) (t : Timeline π) : Prop where
  /-- Besides the listeners there is the dispatch handler of the session, if it has one. -/
  entries : t.client.registry.entries.Perm (t.client.listeners.map .ofListener ++
    t.client.session.dispatch.toList.map .ofDispatch)
  /-- The listeners are those that have been added and not removed since, with no cleanup since. -/
  listeners : ∀ number handler, (number, handler) ∈ t.client.listeners ↔
    Stands history (.adds number handler) (·.DropsListener number)
  numbers : (t.client.registry.entries.map (·.number)).Nodup
  dispatch : t.client.callbacks ≠ [] ∨ t.client.session.lifecycle = .ready →
    t.client.session.dispatch.isSome = true
  /-- Every delivery reaches everyone once, however many have come right before. -/
  delivers : ∀ r count, ∀ s ∈ t.state.scene.deliveries r count, s.DeliversOnce r
  /-- A publication is such a delivery for each subscription that the provider holds. -/
  publishes : ∀ w : World π, w.scene = t.state.scene → ∀ r,
    (w.announced r).client.core = t.client.core ∧
    (w.publish r).2.scene =
      (held (store r w.provider).2).foldl (fun s _ => s.deliver r) (w.announced r) ∧
    ∀ s ∈ (w.announced r).deliveries r (w.publish r).1, s.DeliversOnce r

/-- In every run and for every interleaving there is one path from a delivery to the callbacks. -/
theorem one_path_of_dispatch (run : Runs e (fresh config factors provider suffixes) actions t) :
    OnePath ((fresh config factors provider suffixes).history actions) t := by
  have amends := run.amends (sound_fresh config factors provider suffixes)
    (wired_fresh config factors provider suffixes)
  have becomes : Roster.Becomes {} ((fresh config factors provider suffixes).history actions)
      t.client.roster := amends.becomes
  have wired : t.state.scene.Wired := amends.wired
  have dispatches : t.client.Dispatches := amends.dispatches fun waiting => absurd rfl waiting
  have delivers {s : Scene} (wired : s.Wired) (dispatches : s.client.Dispatches) (r : Round)
      (count : Nat) : ∀ later ∈ s.deliveries r count, later.DeliversOnce r := by
    intro later mem
    obtain ⟨wired, dispatches⟩ := wired.deliveries_dispatch dispatches r count later mem
    exact wired.deliversOnce dispatches r
  constructor
  case entries =>
    have own : t.client.registry.entries.filter (·.dispatches) =
        t.client.session.dispatch.toList.map .ofDispatch := wired.dispatch
    exact own ▸ t.client.entries_perm
  case listeners => exact fun _ _ => becomes.listener_iff
  case numbers => exact wired.numbers
  case dispatch => exact fun serves => serves.elim dispatches wired.ready
  case delivers => exact delivers wired dispatches
  case publishes =>
    intro w same r
    have announced : (w.announced r).client.core = t.client.core := by
      rw [w.announced_core r, World.client, same]
      rfl
    refine ⟨announced, rfl, ?_⟩
    refine delivers (wired.congr announced (congrArg (·.host.listeners) same)) ?_ r _
    obtain ⟨_, _, session, _, _, _, callbacks⟩ := Client.core_eq_iff.mp announced
    rw [Client.Dispatches, callbacks, session]
    exact dispatches

/-- A session that has been recovered has a new dispatch handler and not the old one. -/
theorem one_path_of_dispatch_burdened :
    burdened.client.session.dispatch = some 2 ∧ burdened.client.registry.size = 2 ∧
    0 < burdened.client.callbacks.length ∧
    ∃ actions,
      Runs (.limited Scripted.Adjusts fun w work => !work.intrudes w) (trial 3 {}) actions burdened ∧
      ∀ s ∈ burdened.state.scene.deliveries blank 2, s.DeliversOnce blank := by
  have before : Reachable (.limited Scripted.Adjusts fun w work => !work.intrudes w) (trial 3 {})
      burdened := reachable_replay _ _
  obtain ⟨actions, run⟩ := before.runs (numbered_fresh _ _ _ _)
  have path := one_path_of_dispatch run
  exact ⟨by decide +kernel, by decide +kernel, by decide +kernel, actions, run,
    path.delivers blank 2⟩

end World.Timeline

end RandomBeacon
