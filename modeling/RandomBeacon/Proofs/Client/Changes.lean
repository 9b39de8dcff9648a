import RandomBeacon.Proofs.Client.Roster

/-!
How handlers change the roster while they run. What each of their acts changes is written down
(`Scene.change`), through invocations, dispatches and deliveries; so a delivery amends the roster
with its changes and in no other way, whichever invocations fail (`Wired.deliver_handles`).
-/

namespace RandomBeacon

/-- The listener that an entry of the registry is, if it is one. -/
def Registration.listener? (entry : Registration Listener) : Option (Nat × ClientHandler) :=
  match entry.handler with
  | .user handler => some (entry.number, handler)
  | .dispatch => none

/-- Whether handlers bring a change about. -/
def Change.ByHandler : Change → Prop
  | admits _ _ | closes => False
  | cancels _ _ | adds _ _ | removes _ _ => True

namespace Client

def listeners (c : Client) : List (Nat × ClientHandler) :=
  c.registry.entries.filterMap Registration.listener?

def roster (c : Client) : Roster := ⟨c.callbacks, c.listeners⟩

/-- The gauge shows the callbacks that are pending, if it shows anything. -/
def Gauged (c : Client) : Prop :=
  ∀ count, c.metrics.pendingCallbacks = some count → count = c.callbacks.length

/-- Whoever waits for a round has a dispatch handler to hand it over. -/
def Dispatches (c : Client) : Prop := c.callbacks ≠ [] → c.session.dispatch.isSome = true

variable {c d : Client}

theorem listeners_unsubscribe (number : Nat) (c : Client) :
    ({ c with registry := c.registry.unsubscribe number } : Client).listeners =
      c.listeners.filter (·.1 ≠ number) := by
  simp only [listeners, Registry.unsubscribe, List.filterMap_filter, List.filter_filterMap]
  apply List.filterMap_congr
  intro entry _
  unfold Registration.listener?
  by_cases same : entry.number = number
  · cases entry.handler <;> simp [same, Option.filter]
  · cases entry.handler <;> simp [same, Option.filter]

theorem roster_of_core (same : c.core = d.core) : c.roster = d.roster := by
  obtain ⟨_, _, _, _, _, registry, callbacks⟩ := core_eq_iff.mp same
  rw [roster, roster, listeners, registry, callbacks, listeners]

end Client

namespace Scene

/-- What an act of a handler changes. -/
def change (s : Scene) : Act Randomness ClientOrder → List Change
  | .register handler => [.adds s.client.registry.issued handler]
  | .command (.cancel name) =>
    (s.host.requests.lookup name).toList.map fun id => .cancels id (s.client.cancel id).1
  | .command (.unlisten name) =>
    (s.host.listeners.lookup name).toList.map fun number =>
      .removes number (s.client.unsubscribeListener number).1

/-- What an invocation of a handler changes. -/
def invokeChanges (r : Randomness) (handler : ClientHandler) (s : Scene) : List Change :=
  recorded perform change (handler.acts s.host.invocations r) (s.hearing r handler)

/-- What a run of the dispatch handler changes. -/
def dispatchChanges (r : Randomness) (s : Scene) : List Change :=
  recorded (attendCallback r) (fun s entry => s.invokeChanges r entry.2) s.client.callbacks
    { s with client := s.client.recordDispatch r }

/-- What the turn of an entry of the registry changes. -/
def attendChanges (r : Randomness) (s : Scene) (entry : Registration Listener) : List Change :=
  match entry.handler with
  | .user handler => s.invokeChanges r handler
  | .dispatch => s.dispatchChanges r

/-- What a delivery changes. -/
def deliverChanges (r : Round) (s : Scene) : List Change :=
  recorded (attendListener r.result) (attendChanges r.result)
    (s.client.registry.audience .randomnessPublished) s

/-- What the listeners change whose turns come before that of the dispatch handler. -/
def foreChanges (r : Round) (s : Scene) : List Change :=
  recorded (attendListener r.result) (attendChanges r.result)
    ((s.client.registry.audience .randomnessPublished).takeWhile (!·.dispatches)) s

/-- A scene becomes another with these changes: its roster does, numbers are given upwards, and the
gauge and the dispatch handler keep up with the callbacks. -/
structure Amends (s : Scene) (changes : List Change) (t : Scene) : Prop where
  wired : t.Wired
  becomes : s.client.roster.Becomes changes t.client.roster
  issued : s.client.registry.issued ≤ t.client.registry.issued
  numbers : (changes.filterMap Change.added?).Pairwise (· < ·)
  within : ∀ number ∈ changes.filterMap Change.added?,
    s.client.registry.issued ≤ number ∧ number < t.client.registry.issued
  gauged : s.client.Gauged → t.client.Gauged
  dispatches : s.client.Dispatches → t.client.Dispatches

/-- What handlers make of a scene: they leave the session alone. -/
structure Handles (s : Scene) (changes : List Change) (t : Scene) : Prop
    extends Amends s changes t where
  session : t.client.session = s.client.session
  own : ∀ change ∈ changes, change.ByHandler

section Closure

variable {s t u : Scene} {changes more : List Change}

theorem Amends.refl (wired : s.Wired) : s.Amends [] s :=
  ⟨wired, .same _, Nat.le_refl _, .nil, by rintro number ⟨⟩, id, id⟩

theorem Amends.trans (before : s.Amends changes t) (after : t.Amends more u) :
    s.Amends (changes ++ more) u := by
  obtain ⟨_, becomes, issued, numbers, within, gauged, dispatches⟩ := before
  obtain ⟨wired, becomes', issued', numbers', within', gauged', dispatches'⟩ := after
  refine ⟨wired, becomes.trans becomes', Nat.le_trans issued issued', ?_, ?_, gauged' ∘ gauged,
    dispatches' ∘ dispatches⟩
  · rw [List.filterMap_append]
    refine List.pairwise_append.mpr ⟨numbers, numbers', ?_⟩
    intro earlier old later new
    exact Nat.lt_of_lt_of_le (within earlier old).2 (within' later new).1
  · intro number mem
    rw [List.filterMap_append] at mem
    rcases List.mem_append.mp mem with old | new
    · have := within number old
      omega
    · have := within' number new
      omega

theorem Handles.refl (wired : s.Wired) : s.Handles [] s :=
  ⟨.refl wired, rfl, by rintro change ⟨⟩⟩

theorem Handles.trans (before : s.Handles changes t) (after : t.Handles more u) :
    s.Handles (changes ++ more) u := by
  refine ⟨before.toAmends.trans after.toAmends, after.session.trans before.session, ?_⟩
  intro change mem
  rcases List.mem_append.mp mem with old | new
  · exact before.own change old
  · exact after.own change new

end Closure

namespace Wired

variable {s t : Scene}

/-- The registry finds a listener if it stands on the roster. -/
theorem contains_listener (wired : Wired s) {number : Nat}
    (apart : s.client.session.dispatch ≠ some number) :
    s.client.registry.contains number = s.client.listeners.any (·.1 = number) := by
  rw [Bool.eq_iff_iff, Registry.contains, List.any_eq_true, List.any_eq_true]
  constructor
  · rintro ⟨entry, mem, same⟩
    have same : entry.number = number := by simpa using same
    cases handler : entry.handler with
    | user h =>
      refine ⟨(entry.number, h), List.mem_filterMap.mpr ⟨entry, mem, ?_⟩, by simpa using same⟩
      rw [Registration.listener?, handler]
    | dispatch =>
      have dispatches : entry.dispatches = true := by rw [Registration.dispatches, handler]
      have only := List.mem_filter.mpr ⟨mem, dispatches⟩
      rw [wired.dispatch] at only
      obtain ⟨own, is, rfl⟩ := List.mem_map.mp only
      exact absurd ((Option.mem_toList.mp is).trans (congrArg some same)) apart
  · rintro ⟨listener, mem, same⟩
    obtain ⟨entry, inside, is⟩ := List.mem_filterMap.mp mem
    refine ⟨entry, inside, ?_⟩
    unfold Registration.listener? at is
    cases handler : entry.handler with
    | user h =>
      rw [handler] at is
      rw [← Option.some.inj is] at same
      exact same
    | dispatch =>
      rw [handler] at is
      cases is

/-- What is only told changes nothing. -/
theorem tells_handles (wired : Wired s) (tells : Tells s t) : s.Handles [] t := by
  obtain ⟨_, _, session, _, _, registry, callbacks⟩ := Client.core_eq_iff.mp tells.core
  refine ⟨⟨wired.congr tells.core tells.listeners, ?_, ?_, .nil, ?_, ?_, ?_⟩, session, ?_⟩
  · rw [Client.roster_of_core tells.core]
    exact .same _
  · rw [registry]
  · rintro number ⟨⟩
  · intro gauged count reads
    rw [callbacks]
    exact gauged count (tells.gauge ▸ reads)
  · intro dispatches
    rw [Client.Dispatches, callbacks, session]
    exact dispatches
  · rintro change ⟨⟩

theorem cancel_handles (wired : Wired s) (id : RequestId) :
    s.Handles [.cancels id (s.client.cancel id).1] { s with client := (s.client.cancel id).2 } := by
  refine ⟨⟨wired.cancel id, .single rfl, Nat.le_refl _, .nil, ?_, ?_, ?_⟩, rfl, ?_⟩
  · rintro number ⟨⟩
  · intro _ count reads
    exact (Option.some.inj reads).symm
  · intro dispatches waiting
    refine dispatches fun none => waiting ?_
    change s.client.callbacks.filter _ = []
    rw [none, List.filter_nil]
  · intro change mem
    rw [List.mem_singleton.mp mem]
    trivial

theorem listen_handles (wired : Wired s) (handler : ClientHandler) :
    s.Handles [.adds s.client.registry.issued handler] (s.listen handler) := by
  have roster : (s.listen handler).client.roster =
      s.client.roster.next (.adds s.client.registry.issued handler) := by
    simp [Scene.listen, Client.roster, Client.listeners, Roster.next, Client.subscribeListener,
      Client.note, Registry.subscribe, Registration.listener?]
  refine ⟨⟨wired.listen handler, ?_, Nat.le_succ _, List.pairwise_singleton _ _, ?_, id, id⟩,
    rfl, ?_⟩
  · rw [roster]
    exact .single trivial
  · intro number mem
    rw [List.mem_singleton.mp mem]
    exact ⟨Nat.le_refl _, Nat.lt_succ_self _⟩
  · intro change mem
    rw [List.mem_singleton.mp mem]
    trivial

theorem unlisten_handles (wired : Wired s) {number : Nat}
    (known : number ∈ s.host.listeners.map (·.2)) :
    s.Handles [.removes number (s.client.unsubscribeListener number).1]
      { s with client := (s.client.unsubscribeListener number).2 } := by
  obtain ⟨listener, mem, same⟩ := List.mem_map.mp known
  have apart : s.client.session.dispatch ≠ some number := same ▸ wired.apart listener mem
  have frame := Client.unsubscribeListener_frame number s.client
  obtain ⟨_, _, session, _, _, registry, callbacks⟩ := Client.core_eq_iff.mp frame
  have gauge := Client.unsubscribeListener_metrics number s.client
  have found : (s.client.unsubscribeListener number).1 = s.client.registry.contains number := by
    unfold Client.unsubscribeListener
    split
    · rename_i there
      exact there.symm
    · rename_i absent
      exact (Bool.not_eq_true _ ▸ absent).symm
  have roster : (s.client.unsubscribeListener number).2.roster =
      s.client.roster.next (.removes number (s.client.unsubscribeListener number).1) := by
    rw [Client.roster_of_core frame, Client.roster, Client.listeners_unsubscribe]
    rfl
  refine ⟨⟨wired.unlisten known, ?_, ?_, .nil, ?_, ?_, ?_⟩, session, ?_⟩
  · rw [roster]
    exact .single (found.trans (wired.contains_listener apart))
  · rw [registry]
    exact Nat.le_refl _
  · rintro n ⟨⟩
  · intro gauged count reads
    rw [callbacks]
    exact gauged count (gauge ▸ reads)
  · intro dispatches
    rw [Client.Dispatches, callbacks, session]
    exact dispatches
  · intro change mem
    rw [List.mem_singleton.mp mem]
    trivial

theorem perform_handles (wired : Wired s) (act : Act Randomness ClientOrder) :
    s.Handles (s.change act) (s.perform act) := by
  cases act with
  | register handler => exact wired.listen_handles handler
  | command order =>
    cases order with
    | cancel name =>
      simp only [change, Scene.perform, Scene.cancel]
      cases s.host.requests.lookup name with
      | none => exact .refl wired
      | some id => exact wired.cancel_handles id
    | unlisten name =>
      simp only [change, Scene.perform, Scene.unlisten]
      cases found : s.host.listeners.lookup name with
      | none => exact .refl wired
      | some number =>
        obtain ⟨later, earlier, split, _⟩ := List.lookup_eq_some_iff.mp found
        refine wired.unlisten_handles (List.mem_map.mpr ⟨(name, number), ?_, rfl⟩)
        rw [split]
        exact List.mem_append_right _ List.mem_cons_self

/-- Acts, invocations and turns that are handled one after the other are handled together. -/
theorem recorded_handles {α : Type} {act : Scene → α → Scene} {record : Scene → α → List Change}
    {actions : List α} (step : ∀ s, ∀ a ∈ actions, Wired s → s.Handles (record s a) (act s a))
    (wired : Wired s) : s.Handles (recorded act record actions s) (actions.foldl act s) :=
  recorded_relates (P := Wired) (R := Handles) (fun _ wired => .refl wired)
    (fun _ _ _ _ _ before after => before.trans after) (fun _ _ _ handles => handles.wired) step
    wired

theorem invoke_handles (wired : Wired s) (r : Randomness) (handler : ClientHandler) :
    s.Handles (s.invokeChanges r handler) (invoke r handler s).2 := by
  have hears := wired.tells_handles (t := s.hearing r handler) ⟨rfl, rfl, rfl⟩
  exact hears.trans (recorded_handles (fun _ act _ wired => wired.perform_handles act) hears.wired)

/-- A failed invocation is told of, and no more. -/
theorem attend_handles {η : Type} {invoke : η → Scene → Ending × Scene}
    {report : η → String → Scene → Scene} (reports : ∀ h reason s, Tells s (report h reason s))
    {h : η} {changes : List Change} (invoked : s.Handles changes (invoke h s).2) :
    s.Handles changes (RandomBeacon.attend invoke report s h) := by
  unfold RandomBeacon.attend
  split
  · exact invoked
  · rename_i reason _
    have told := invoked.trans (invoked.wired.tells_handles (reports h reason _))
    rwa [List.append_nil] at told

theorem dispatch_handles (wired : Wired s) (r : Randomness) :
    s.Handles (s.dispatchChanges r) (Scene.dispatch r s) := by
  have counts := wired.tells_handles
    (t := { s with client := s.client.recordDispatch r }) ⟨rfl, rfl, rfl⟩
  rw [dispatch_eq]
  refine counts.trans (recorded_handles ?_ counts.wired)
  intro s entry _ wired
  have reports (entry : RequestId × ClientHandler) (reason : String) (s : Scene) :
      Tells s (reportCallback r entry.1 reason s) := ⟨rfl, rfl, rfl⟩
  exact attend_handles reports (wired.invoke_handles r entry.2)

theorem attendListener_handles (wired : Wired s) (r : Randomness) (entry : Registration Listener) :
    s.Handles (s.attendChanges r entry) (attendListener r s entry) := by
  have reports (entry : Registration Listener) (reason : String) (s : Scene) :
      Tells s (reportListener entry reason s) := ⟨rfl, rfl, rfl⟩
  refine attend_handles reports ?_
  unfold attendChanges invokeListener
  cases entry.handler with
  | user handler => exact wired.invoke_handles r handler
  | dispatch => exact wired.dispatch_handles r

/-- A delivery changes the roster as the acts of the handlers do that it invokes. -/
theorem deliver_handles (wired : Wired s) (r : Round) :
    s.Handles (s.deliverChanges r) (s.deliver r) := by
  rw [deliver_eq]
  exact recorded_handles (fun _ entry _ wired => wired.attendListener_handles r.result entry) wired

/-- A callback that is pending when a delivery begins hears it, unless it is cancelled before the
turn of the dispatch handler. -/
theorem hears_or_cancelled (wired : Wired s) (dispatches : s.client.Dispatches) (r : Round)
    {id : RequestId} {handler : ClientHandler} (pending : (id, handler) ∈ s.client.callbacks) :
    (.callback id, handler) ∈ s.roll r.result ∨ .cancels id true ∈ s.foreChanges r := by
  have handled : s.Handles (s.foreChanges r) (s.atDispatch r.result) :=
    recorded_handles (fun _ entry _ wired => wired.attendListener_handles r.result entry) wired
  have kept : ∀ change ∈ s.foreChanges r,
      (∀ handler, change ≠ .admits id handler) ∧ change ≠ .closes := by
    intro change mem
    have own := handled.own change mem
    constructor
    · rintro handler rfl
      exact own
    · rintro rfl
      exact own
  have waits : s.client.session.dispatch.isSome = true :=
    dispatches (List.ne_nil_of_mem pending)
  rcases handled.becomes.stays_or_cancelled kept pending with stays | cancelled
  · left
    exact (wired.roll waits r.result).mem_iff.mpr
      (List.mem_append_left _ (List.mem_map.mpr ⟨(id, handler), stays, rfl⟩))
  · exact Or.inr cancelled

end Wired

end Scene

end RandomBeacon
