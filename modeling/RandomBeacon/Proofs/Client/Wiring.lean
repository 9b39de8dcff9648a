import Mathlib.Data.List.Nodup
import RandomBeacon.Proofs.Client.Resume
import RandomBeacon.Proofs.Client.Roll
import RandomBeacon.Proofs.Registry.Numbering

/-!
How the registry is wired to the requests. The dispatch handler of the session stands in the
registry once and under a number that no listener has had, and every request has one callback
(`Wired`); so a delivery that finds a dispatch handler reaches everyone once (`Wired.hearsOnce`).
-/

namespace RandomBeacon

theorem Registry.audience_eq {η : Type} (r : Registry η) (topic : Topic) :
    r.audience topic = r.entries := by
  apply List.filter_eq_self.mpr
  intro entry _
  cases topic
  cases entry.topic
  rfl

namespace Client

variable (c : Client)

theorem reinstalled_issued : c.reinstalled.issued = c.registry.issued + 1 := by
  rw [reinstalled]
  cases c.session.dispatch <;> rfl

/-- The old dispatch handler goes and a new one comes in at the end. -/
theorem reinstalled_entries : c.reinstalled.entries =
    c.registry.entries.filter (fun entry => c.session.dispatch ≠ some entry.number) ++
      [.ofDispatch c.registry.issued] := by
  rw [reinstalled]
  cases is : c.session.dispatch with
  | none => simp [Registry.subscribe, Registration.ofDispatch]
  | some old => simp [Registry.subscribe, Registry.unsubscribe, Registration.ofDispatch, eq_comm]

end Client

namespace Scene

/-- The registry and the callbacks of a client agree with its session. -/
structure Wired (s : Scene) : Prop where
  numbers : (s.client.registry.entries.map (·.number)).Nodup
  given : ∀ entry ∈ s.client.registry.entries, entry.number < s.client.registry.issued
  named : ∀ listener ∈ s.host.listeners, listener.2 < s.client.registry.issued
  dispatch : s.client.registry.entries.filter (·.dispatches) =
    s.client.session.dispatch.toList.map .ofDispatch
  apart : ∀ listener ∈ s.host.listeners, s.client.session.dispatch ≠ some listener.2
  callbacks : (s.client.callbacks.map (·.1)).Nodup
  ready : s.client.session.lifecycle = .ready → s.client.session.dispatch.isSome = true

/-- Each listener hears a round once, as does each callback that is pending when the turn of the
dispatch handler comes, and nobody else hears it. -/
structure HearsOnce (r : Randomness) (s : Scene) : Prop where
  once : ((s.roll r).map (·.1)).Nodup
  listeners : ∀ entry ∈ s.client.registry.entries, ∀ handler, entry.handler = .user handler →
    (.listener entry.number, handler) ∈ s.roll r
  callbacks : ∀ callback ∈ (s.atDispatch r).client.callbacks,
    (.callback callback.1, callback.2) ∈ s.roll r
  kept : (∀ entry ∈ s.client.registry.entries, ∀ handler, entry.handler = .user handler →
    ¬handler.cancels r) → (s.atDispatch r).client.callbacks = s.client.callbacks
  only : ∀ x ∈ s.roll r,
    (∃ entry ∈ s.client.registry.entries, entry.handler = .user x.2 ∧
      x.1 = .listener entry.number) ∨
    ∃ callback ∈ (s.atDispatch r).client.callbacks, x = (.callback callback.1, callback.2)

namespace Wired

variable {s t : Scene}

theorem congr (wired : Wired s) (core : t.client.core = s.client.core)
    (listeners : t.host.listeners = s.host.listeners) : Wired t := by
  obtain ⟨_, _, session, _, _, registry, callbacks⟩ := Client.core_eq_iff.mp core
  obtain ⟨numbers, given, named, dispatch, apart, pending, ready⟩ := wired
  constructor <;> simpa only [session, registry, callbacks, listeners]

theorem listen (wired : Wired s) (handler : ClientHandler) : Wired (s.listen handler) := by
  obtain ⟨numbers, given, named, dispatch, apart, callbacks, ready⟩ := wired
  have fresh : ∀ number, s.client.session.dispatch = some number →
      number < s.client.registry.issued := by
    intro number is
    have mem : .ofDispatch number ∈ s.client.registry.entries.filter (·.dispatches) := by
      rw [dispatch, is]
      exact List.mem_singleton.mpr rfl
    exact given _ (List.mem_of_mem_filter mem)
  refine ⟨numbers_snoc numbers given, given_snoc given, ?_, ?_, ?_, callbacks, ready⟩
  · intro listener mem
    rcases List.mem_cons.mp mem with rfl | old
    · exact Nat.lt_succ_self _
    · exact Nat.lt_succ_of_lt (named listener old)
  · change (s.client.registry.entries ++ [_]).filter _ = _
    rw [List.filter_append]
    exact (List.append_nil _).trans dispatch
  · intro listener mem
    rcases List.mem_cons.mp mem with rfl | old
    · exact fun is => Nat.lt_irrefl _ (fresh _ is)
    · exact apart listener old

theorem cancel (wired : Wired s) (id : RequestId) :
    Wired { s with client := (s.client.cancel id).2 } := by
  obtain ⟨numbers, given, named, dispatch, apart, callbacks, ready⟩ := wired
  exact ⟨numbers, given, named, dispatch, apart,
    callbacks.sublist (List.filter_sublist.map _), ready⟩

/-- To remove a listener is to leave the dispatch handler alone. -/
theorem unlisten (wired : Wired s) {number : Nat} (known : number ∈ s.host.listeners.map (·.2)) :
    Wired { s with client := (s.client.unsubscribeListener number).2 } := by
  obtain ⟨listener, mem, rfl⟩ := List.mem_map.mp known
  have frame := Client.unsubscribeListener_frame listener.2 s.client
  suffices removed : Wired { s with client :=
      { s.client with registry := s.client.registry.unsubscribe listener.2 } } from
    removed.congr frame rfl
  obtain ⟨numbers, given, named, dispatch, apart, callbacks, ready⟩ := wired
  refine ⟨numbers.sublist (List.filter_sublist.map _), ?_, named, ?_, apart, callbacks, ready⟩
  · exact fun entry inside => given entry (List.mem_of_mem_filter inside)
  · change (s.client.registry.entries.filter _).filter _ = _
    rw [List.filter_comm, dispatch]
    apply List.filter_eq_self.mpr
    intro entry inside
    obtain ⟨number, is, rfl⟩ := List.mem_map.mp inside
    have other := apart listener mem
    rw [Option.mem_toList.mp is] at other
    exact decide_eq_true fun same => other (congrArg some same)

theorem perform (wired : Wired s) (act : Act Randomness ClientOrder) : Wired (s.perform act) := by
  cases act with
  | register handler => exact wired.listen handler
  | command order =>
    cases order with
    | cancel name =>
      simp only [Scene.perform, Scene.cancel]
      split
      · exact wired.cancel _
      · exact wired
    | unlisten name =>
      simp only [Scene.perform, Scene.unlisten]
      split
      · rename_i number found
        obtain ⟨later, earlier, split, _⟩ := List.lookup_eq_some_iff.mp found
        refine wired.unlisten (List.mem_map.mpr ⟨(name, number), ?_, rfl⟩)
        rw [split]
        exact List.mem_append_right _ List.mem_cons_self
      · exact wired

theorem attend (wired : Wired s) (r : Randomness) (entries : List (Registration Listener)) :
    Wired (entries.foldl (attendListener r) s) :=
  attendListener_preserves (fun _ act wired => wired.perform act)
    (fun _ _ tells wired => wired.congr tells.core tells.listeners) r entries wired

theorem deliver (wired : Wired s) (round : Round) : Wired (s.deliver round) := by
  rw [deliver_eq]
  exact wired.attend round.result _

/-- A commit puts a new dispatch handler in the place of the old one. -/
theorem install (wired : Wired s) {d : Client} (registry : d.registry = s.client.reinstalled)
    (dispatch : d.session.dispatch = some s.client.registry.issued)
    (callbacks : d.callbacks = s.client.callbacks) : Wired { s with client := d } := by
  let left := s.client.registry.entries.filter fun entry =>
    s.client.session.dispatch ≠ some entry.number
  have entries : d.registry.entries = left ++ [.ofDispatch s.client.registry.issued] := by
    rw [registry]
    exact Client.reinstalled_entries s.client
  have issued : d.registry.issued = s.client.registry.issued + 1 := by
    rw [registry]
    exact Client.reinstalled_issued s.client
  have given : ∀ entry ∈ left, entry.number < s.client.registry.issued :=
    fun entry mem => wired.given entry (List.mem_of_mem_filter mem)
  have none_left : left.filter (·.dispatches) = [] := by
    rw [List.filter_comm, wired.dispatch]
    apply List.filter_eq_nil_iff.mpr
    intro entry mem
    obtain ⟨number, is, rfl⟩ := List.mem_map.mp mem
    simp [Option.mem_toList.mp is, Registration.ofDispatch]
  refine ⟨?_, ?_, ?_, ?_, ?_, ?_, ?_⟩
  · change (d.registry.entries.map _).Nodup
    rw [entries]
    exact numbers_snoc (wired.numbers.sublist (List.filter_sublist.map _)) given
  · change ∀ entry ∈ d.registry.entries, entry.number < d.registry.issued
    rw [entries, issued]
    exact given_snoc given
  · intro listener mem
    change listener.2 < d.registry.issued
    rw [issued]
    exact Nat.lt_succ_of_lt (wired.named listener mem)
  · change d.registry.entries.filter _ = d.session.dispatch.toList.map _
    rw [entries, dispatch, List.filter_append, none_left]
    rfl
  · intro listener mem
    change d.session.dispatch ≠ some listener.2
    rw [dispatch]
    exact fun same => Nat.ne_of_gt (wired.named listener mem) (Option.some.inj same)
  · change (d.callbacks.map _).Nodup
    rw [callbacks]
    exact wired.callbacks
  · intro _
    change d.session.dispatch.isSome = true
    rw [dispatch]
    rfl

/-- A cleanup takes everything out. -/
theorem reset (wired : Wired s) {d : Client} (registry : d.registry = s.client.registry.clear)
    (dispatch : d.session.dispatch = none) (callbacks : d.callbacks = [])
    (idle : d.session.lifecycle ≠ .ready) : Wired { s with client := d } := by
  refine ⟨?_, ?_, ?_, ?_, ?_, ?_, fun ready => absurd ready idle⟩
  · simp [registry, Registry.clear]
  · simp [registry, Registry.clear]
  · intro listener mem
    rw [registry]
    exact wired.named listener mem
  · simp [registry, dispatch, Registry.clear]
  · intro listener _
    simp [dispatch]
  · simp [callbacks]

/-- On the roll of a delivery that finds a dispatch handler stand the callbacks that are pending
when its turn comes, and the listeners. -/
theorem roll (wired : Wired s) (dispatches : s.client.session.dispatch.isSome = true)
    (r : Randomness) : (s.roll r).Perm
      ((s.atDispatch r).client.callbacks.map (fun callback =>
        (Hearer.callback callback.1, callback.2)) ++
      s.client.registry.entries.filterMap Registration.hearer?) := by
  obtain ⟨number, is⟩ := Option.isSome_iff_exists.mp dispatches
  have one := wired.dispatch
  rw [is] at one
  obtain ⟨before, after, split, users, _, none⟩ := List.filter_eq_cons_iff.mp one
  have users : ∀ entry ∈ before, entry.dispatches = false := by simpa using users
  have others : ∀ entry ∈ after, entry.dispatches = false := by
    simpa using List.filter_eq_nil_iff.mp none
  have reached : s.atDispatch r = before.foldl (attendListener r) s := by
    rw [atDispatch, Registry.audience_eq, split,
      List.takeWhile_append_of_pos (by simpa using users)]
    simp [Registration.dispatches, Registration.ofDispatch]
  have listeners : s.client.registry.entries.filterMap Registration.hearer? =
      before.filterMap Registration.hearer? ++ after.filterMap Registration.hearer? := by
    rw [split, List.filterMap_append, List.filterMap_cons_none rfl]
  rw [listeners, Scene.roll, Registry.audience_eq, split, rollOf_append, rollOf,
    rollOf_listeners r users, rollOf_listeners r others, ← reached]
  exact List.perm_append_comm_assoc _ _ _

/-- A delivery that finds a dispatch handler reaches everyone once. -/
theorem hearsOnce (wired : Wired s) (dispatches : s.client.session.dispatch.isSome = true)
    (r : Randomness) : HearsOnce r s := by
  have roll := wired.roll dispatches r
  have listeners := hearer?_sublist s.client.registry.entries
  refine ⟨?_, ?_, ?_, callbacks_atDispatch, ?_⟩
  · have pending : ((s.atDispatch r).client.callbacks.map
        fun callback => Hearer.callback callback.1).Nodup := by
      have once := (wired.attend r _ : Wired (s.atDispatch r)).callbacks.map
        (fun _ _ => Hearer.callback.inj)
      rwa [List.map_map] at once
    have distinct : (s.client.registry.entries.map fun entry =>
        Hearer.listener entry.number).Nodup := by
      have once := wired.numbers.map (fun _ _ => Hearer.listener.inj)
      rwa [List.map_map] at once
    rw [(roll.map _).nodup_iff, List.map_append, List.map_map]
    refine List.nodup_append.mpr ⟨pending, distinct.sublist listeners, ?_⟩
    rintro callback waits hearer hears rfl
    obtain ⟨_, _, rfl⟩ := List.mem_map.mp waits
    obtain ⟨_, _, same⟩ := List.mem_map.mp (listeners.subset hears)
    cases same
  · intro entry mem handler is
    refine roll.mem_iff.mpr (List.mem_append_right _ (List.mem_filterMap.mpr ⟨entry, mem, ?_⟩))
    exact Registration.hearer?_eq_some.mpr ⟨is, rfl⟩
  · intro callback mem
    exact roll.mem_iff.mpr (List.mem_append_left _ (List.mem_map.mpr ⟨callback, mem, rfl⟩))
  · intro x mem
    rcases List.mem_append.mp (roll.mem_iff.mp mem) with pending | hears
    · obtain ⟨callback, inside, rfl⟩ := List.mem_map.mp pending
      exact Or.inr ⟨callback, inside, rfl⟩
    · obtain ⟨entry, inside, hearer⟩ := List.mem_filterMap.mp hears
      exact Or.inl ⟨entry, inside, Registration.hearer?_eq_some.mp hearer⟩

end Wired

end Scene

end RandomBeacon
