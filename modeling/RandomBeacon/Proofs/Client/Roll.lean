import Mathlib.Data.List.TakeWhile
import RandomBeacon.Proofs.Client.Delivery

/-!
Who hears a published round. A delivery has a roll: those whose handlers it invokes, in this order
(`deliver_heard`). While a client is wired, its registry has one dispatch handler, so nobody stands
on the roll twice: every listener stands there, and so does every callback that is pending when the
turn of the dispatch handler comes (`Wired.roll`).
-/

namespace RandomBeacon

/-- One who hears a round: a listener, known by its number, or the callback of a request. -/
inductive Hearer where
  | listener (number : Nat)
  | callback (id : RequestId)
  deriving DecidableEq, Repr

/-- Whether a handler may cancel a request when it hears a round. -/
def Handler.cancels (handler : ClientHandler) (r : Randomness) : Prop :=
  ∃ turn name, .command (.cancel name) ∈ handler.acts turn r

/-- Whether an entry of the registry is a dispatch handler. -/
def Registration.dispatches (entry : Registration Listener) : Bool :=
  match entry.handler with
  | .user _ => false
  | .dispatch => true

/-- The dispatch handler that stands in a registry under this number. -/
def Registration.ofDispatch (number : Nat) : Registration Listener :=
  ⟨number, .randomnessPublished, .dispatch⟩

/-- The listener that an entry of the registry is, if it is one. -/
def Registration.hearer? (entry : Registration Listener) : Option (Hearer × ClientHandler) :=
  match entry.handler with
  | .user handler => some (.listener entry.number, handler)
  | .dispatch => none

theorem Registration.hearer?_eq_some {entry : Registration Listener} {x : Hearer × ClientHandler} :
    entry.hearer? = some x ↔ entry.handler = .user x.2 ∧ x.1 = .listener entry.number := by
  unfold hearer?
  cases entry.handler with
  | user handler =>
    constructor
    · rintro ⟨⟩
      exact ⟨rfl, rfl⟩
    · rintro ⟨same, is⟩
      rw [Listener.user.inj same, ← is]
  | dispatch => simp

theorem hearer?_sublist (entries : List (Registration Listener)) :
    ((entries.filterMap Registration.hearer?).map (·.1)).Sublist
      (entries.map fun entry => Hearer.listener entry.number) := by
  induction entries with
  | nil => exact .slnil
  | cons entry rest ih =>
    cases hearer : entry.hearer? with
    | none =>
      rw [List.filterMap_cons_none hearer]
      exact ih.cons _
    | some x =>
      rw [List.filterMap_cons_some hearer, List.map_cons, List.map_cons,
        (Registration.hearer?_eq_some.mp hearer).2]
      exact ih.cons_cons _

namespace Scene

/-- Those who hear a round in the turn of an entry. -/
def hearers (s : Scene) (entry : Registration Listener) : List (Hearer × ClientHandler) :=
  match entry.handler with
  | .user handler => [(.listener entry.number, handler)]
  | .dispatch => s.client.callbacks.map fun callback => (.callback callback.1, callback.2)

/-- Those who hear a round while these entries take their turns. -/
def rollOf (r : Randomness) : List (Registration Listener) → Scene → List (Hearer × ClientHandler)
  | [], _ => []
  | entry :: rest, s => s.hearers entry ++ rollOf r rest (attendListener r s entry)

/-- Those who hear a round in one delivery. -/
def roll (r : Randomness) (s : Scene) : List (Hearer × ClientHandler) :=
  rollOf r (s.client.registry.audience .randomnessPublished) s

section Heard

variable (r : Randomness) (s : Scene)

theorem perform_heard (act : Act Randomness ClientOrder) :
    (perform s act).host.heard = s.host.heard := by
  cases act with
  | register handler => rfl
  | command order =>
    cases order with
    | cancel name =>
      simp only [perform, cancel]
      split <;> rfl
    | unlisten name =>
      simp only [perform, unlisten]
      split <;> rfl

theorem invoke_heard (handler : ClientHandler) :
    (invoke r handler s).2.host.heard = (handler.name, r) :: s.host.heard := by
  have performs (acts : List (Act Randomness ClientOrder)) (s : Scene) :
      (acts.foldl perform s).host.heard = s.host.heard := by
    induction acts generalizing s with
    | nil => rfl
    | cons act rest ih => exact (ih _).trans (perform_heard s act)
  exact performs _ _

theorem dispatch_heard : (dispatch r s).host.heard =
    (s.client.callbacks.map fun callback => (callback.2.name, r)).reverse ++ s.host.heard := by
  have attends (callbacks : List (RequestId × ClientHandler)) (s : Scene) :
      (callbacks.foldl (attendCallback r) s).host.heard =
        (callbacks.map fun callback => (callback.2.name, r)).reverse ++ s.host.heard := by
    induction callbacks generalizing s with
    | nil => rfl
    | cons callback rest ih =>
      have attended : (attendCallback r s callback).host.heard =
          (callback.2.name, r) :: s.host.heard := by
        unfold attendCallback attend
        split <;> exact invoke_heard r s callback.2
      rw [List.foldl_cons, ih, attended]
      simp
  rw [dispatch_eq]
  exact attends _ _

theorem attendListener_heard (entry : Registration Listener) :
    (attendListener r s entry).host.heard =
      ((s.hearers entry).map fun x => (x.2.name, r)).reverse ++ s.host.heard := by
  have invoked : (invokeListener r entry s).2.host.heard =
      ((s.hearers entry).map fun x => (x.2.name, r)).reverse ++ s.host.heard := by
    unfold invokeListener hearers
    cases entry.handler with
    | user handler => exact invoke_heard r s handler
    | dispatch =>
      simp only [List.map_map]
      exact dispatch_heard r s
  unfold attendListener attend
  split <;> exact invoked

end Heard

/-- A delivery invokes those on its roll, in this order, and nobody else. -/
theorem deliver_heard (round : Round) (s : Scene) :
    (deliver round s).host.heard =
      ((s.roll round.result).map fun x => (x.2.name, round.result)).reverse ++ s.host.heard := by
  have attends (entries : List (Registration Listener)) (s : Scene) :
      (entries.foldl (attendListener round.result) s).host.heard =
        ((rollOf round.result entries s).map fun x => (x.2.name, round.result)).reverse ++
          s.host.heard := by
    induction entries generalizing s with
    | nil => rfl
    | cons entry rest ih =>
      rw [List.foldl_cons, ih, attendListener_heard, rollOf]
      simp [List.append_assoc]
  rw [deliver_eq]
  exact attends _ _

/-- The scene in which the turn of the dispatch handler comes. -/
def atDispatch (r : Randomness) (s : Scene) : Scene :=
  ((s.client.registry.audience .randomnessPublished).takeWhile (!·.dispatches)).foldl
    (attendListener r) s

section Pending

theorem perform_callbacks {act : Act Randomness ClientOrder}
    (keeps : ∀ name, act ≠ .command (.cancel name)) (s : Scene) :
    (perform s act).client.callbacks = s.client.callbacks := by
  cases act with
  | register handler => rfl
  | command order =>
    cases order with
    | cancel name => exact absurd rfl (keeps name)
    | unlisten name =>
      simp only [perform, unlisten]
      split
      · unfold Client.unsubscribeListener
        split <;> rfl
      · rfl

theorem attendListener_callbacks {entry : Registration Listener} {handler : ClientHandler}
    (user : entry.handler = .user handler) {r : Randomness} (keeps : ¬handler.cancels r)
    (s : Scene) :
    (attendListener r s entry).client.callbacks = s.client.callbacks := by
  have performs {acts : List (Act Randomness ClientOrder)}
      (keep : ∀ act ∈ acts, ∀ name, act ≠ .command (.cancel name)) (s : Scene) :
      (acts.foldl perform s).client.callbacks = s.client.callbacks := by
    induction acts generalizing s with
    | nil => rfl
    | cons act rest ih =>
      have first := perform_callbacks (keep act List.mem_cons_self) s
      exact (ih (fun act mem => keep act (List.mem_cons_of_mem _ mem)) _).trans first
  have invoked : (invokeListener r entry s).2.client.callbacks = s.client.callbacks := by
    rw [invokeListener, user]
    refine performs ?_ _
    rintro act mem name rfl
    exact keeps ⟨_, name, mem⟩
  unfold attendListener attend
  split <;> exact invoked

/-- Where no listener cancels a request, the callbacks that are pending when the turn of the
dispatch handler comes are those that were pending when the delivery began. -/
theorem callbacks_atDispatch {r : Randomness} {s : Scene}
    (keeps : ∀ entry ∈ s.client.registry.entries, ∀ handler, entry.handler = .user handler →
      ¬handler.cancels r) :
    (s.atDispatch r).client.callbacks = s.client.callbacks := by
  have attends {entries : List (Registration Listener)}
      (users : ∀ entry ∈ entries, ∃ handler, entry.handler = .user handler ∧ ¬handler.cancels r)
      (s : Scene) : (entries.foldl (attendListener r) s).client.callbacks = s.client.callbacks := by
    induction entries generalizing s with
    | nil => rfl
    | cons entry rest ih =>
      obtain ⟨handler, user, keep⟩ := users entry List.mem_cons_self
      exact (ih (fun entry mem => users entry (List.mem_cons_of_mem _ mem)) _).trans
        (attendListener_callbacks user keep s)
  refine attends ?_ s
  intro entry mem
  have inside := (List.mem_filter.mp ((List.takeWhile_prefix _).subset mem)).1
  have user : entry.dispatches = false := by simpa using List.mem_takeWhile_imp mem
  unfold Registration.dispatches at user
  cases handler : entry.handler with
  | user h => exact ⟨h, rfl, keeps entry inside h handler⟩
  | dispatch => rw [handler] at user; cases user

end Pending

theorem rollOf_append (r : Randomness) (before after : List (Registration Listener)) (s : Scene) :
    rollOf r (before ++ after) s =
      rollOf r before s ++ rollOf r after (before.foldl (attendListener r) s) := by
  induction before generalizing s with
  | nil => rfl
  | cons entry rest ih =>
    rw [List.cons_append, rollOf, ih, rollOf, List.append_assoc, List.foldl_cons]

/-- Listeners are on the roll as they stand in the registry. -/
theorem rollOf_listeners (r : Randomness) {entries : List (Registration Listener)}
    (users : ∀ entry ∈ entries, entry.dispatches = false) (s : Scene) :
    rollOf r entries s = entries.filterMap Registration.hearer? := by
  induction entries generalizing s with
  | nil => rfl
  | cons entry rest ih =>
    have user := users entry List.mem_cons_self
    rw [rollOf, ih fun entry mem => users entry (List.mem_cons_of_mem _ mem)]
    unfold Registration.dispatches at user
    unfold hearers
    cases handler : entry.handler with
    | user handler' =>
      have hearer : entry.hearer? = some (.listener entry.number, handler') :=
        Registration.hearer?_eq_some.mpr ⟨handler, rfl⟩
      rw [List.filterMap_cons_some hearer]
      rfl
    | dispatch => rw [handler] at user; cases user

end Scene

end RandomBeacon
