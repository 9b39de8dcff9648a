import RandomBeacon.Client.Exchange
import RandomBeacon.Proofs.Client.Delivery
import RandomBeacon.Proofs.Client.Veil

/-!
Handlers that never fail. A muted handler does what it did, and so do those that it registers, but
every invocation completes. Whether handlers fail is told and counted, and no more: a delivery to
muted handlers is the muted delivery (`Scene.deliver_mute`).
-/

namespace RandomBeacon

section Handlers

variable {ε κ : Type}

mutual

/-- A handler that acts in the same way and never fails. -/
def Handler.mute : Handler ε κ → Handler ε κ
  | .mk name acts _ =>
    .mk name (fun turn event => Act.muteAll (acts turn event)) fun _ _ => .completed

def Act.mute : Act ε κ → Act ε κ
  | .register handler => .register handler.mute
  | .command order => .command order

def Act.muteAll : List (Act ε κ) → List (Act ε κ)
  | [] => []
  | act :: rest => act.mute :: Act.muteAll rest

end

theorem Act.muteAll_eq (acts : List (Act ε κ)) : Act.muteAll acts = acts.map Act.mute := by
  induction acts with
  | nil => rw [Act.muteAll, List.map_nil]
  | cons act rest ih => rw [Act.muteAll, ih, List.map_cons]

mutual

theorem Handler.mute_mute : (handler : Handler ε κ) → handler.mute.mute = handler.mute
  | .mk name acts ends => by
    simp only [Handler.mute, Handler.mk.injEq, and_true, true_and]
    funext turn event
    exact Act.muteAll_muteAll (acts turn event)

theorem Act.mute_mute : (act : Act ε κ) → act.mute.mute = act.mute
  | .register handler => by rw [Act.mute, Act.mute, handler.mute_mute]
  | .command order => by rw [Act.mute, Act.mute]

theorem Act.muteAll_muteAll : (acts : List (Act ε κ)) →
    Act.muteAll (Act.muteAll acts) = Act.muteAll acts
  | [] => by rw [Act.muteAll, Act.muteAll]
  | act :: rest => by
    rw [Act.muteAll, Act.muteAll, act.mute_mute, Act.muteAll_muteAll rest]

end

theorem Handler.mute_name (handler : Handler ε κ) : handler.mute.name = handler.name := by
  cases handler
  rw [Handler.mute, Handler.name, Handler.name]

theorem Handler.mute_acts (handler : Handler ε κ) (turn : Nat) (event : ε) :
    handler.mute.acts turn event = (handler.acts turn event).map Act.mute := by
  cases handler
  rw [Handler.mute, Handler.acts, Handler.acts, Act.muteAll_eq]

theorem Handler.mute_ends (handler : Handler ε κ) (turn : Nat) (event : ε) :
    handler.mute.ends turn event = .completed := by
  cases handler
  rw [Handler.mute, Handler.ends]

end Handlers

/-- All handlers muted, and their failures neither counted nor told. -/
def Veil.mute : Veil where
  handler := Handler.mute
  metrics m := { m with callbackFailures := 0 }
  journal ns := ns.filter (!·.ofHandler)
  reconnection _ _ := rfl
  attempt _ := rfl
  noted n ns plain := List.filter_cons_of_pos (by simp [plain])

namespace Client

def mute (c : Client) : Client := Veil.mute.client c

variable (c : Client)

theorem mute_mute : c.mute.mute = c.mute := by
  have altered (entry : Registration Listener) :
      (entry.alter Handler.mute).alter Handler.mute = entry.alter Handler.mute := by
    obtain ⟨number, topic, handler⟩ := entry
    cases handler with
    | user handler => simp only [Registration.alter, handler.mute_mute]
    | dispatch => rfl
  have entries : (c.registry.entries.map (·.alter Handler.mute)).map (·.alter Handler.mute) =
      c.registry.entries.map (·.alter Handler.mute) := by simp [altered]
  simp [mute, Veil.client, Veil.mute, altered, Handler.mute_mute]

theorem note_mute (n : Notice) :
    (c.note n).mute = if n.ofHandler then c.mute else c.mute.note n := by
  cases of : n.ofHandler with
  | false =>
    rw [mute, Veil.mute.note c n of]
    rfl
  | true =>
    have hidden : (n :: c.journal).filter (!·.ofHandler) = c.journal.filter (!·.ofHandler) :=
      List.filter_cons_of_neg (by simp [of])
    simp only [mute, Veil.client, Veil.mute, note, hidden, if_true]

/-- Notices are muted alike, whatever they are of. -/
theorem noteAll_mute (ns : List Notice) : (c.noteAll ns).mute = (c.mute.noteAll ns).mute := by
  induction ns generalizing c with
  | nil => exact (mute_mute c).symm
  | cons n rest ih =>
    have first : (c.note n).mute = (c.mute.note n).mute := by
      rw [note_mute, note_mute, mute_mute]
    have later := congrArg (fun d : Client => (d.noteAll rest).mute) first
    exact (ih _).trans (later.trans (ih _).symm)

theorem recordFailure_mute {n : Notice} (of : n.ofHandler = true) :
    (c.recordFailure n).mute = c.mute := by
  rw [recordFailure, note_mute, if_pos of]
  rfl

theorem recordDispatch_mute (r : Randomness) :
    (c.recordDispatch r).mute = c.mute.recordDispatch r := by
  rw [recordDispatch, note_mute]
  simp [mute, Veil.client, recordDispatch, Notice.ofHandler, Veil.mute, Metrics.recordDispatch]

theorem recordPending_mute : c.recordPending.mute = c.mute.recordPending := by
  simp [mute, Veil.client, recordPending, Veil.mute, Metrics.recordPending]

theorem cancel_mute (id : RequestId) :
    c.mute.cancel id = ((c.cancel id).1, (c.cancel id).2.mute) := by
  rw [cancel, cancel, recordPending_mute]
  simp [mute, Veil.client, hasCallback, List.any_map, List.filter_map, Function.comp_def]

theorem unsubscribeListener_mute (number : Nat) :
    c.mute.unsubscribeListener number =
      ((c.unsubscribeListener number).1, (c.unsubscribeListener number).2.mute) :=
  Veil.mute.unsubscribeListener c number

theorem subscribeListener_mute (handler : ClientHandler) :
    (c.subscribeListener (.user handler)).mute = c.mute.subscribeListener (.user handler.mute) := by
  rw [subscribeListener, note_mute]
  simp [mute, Veil.client, subscribeListener, Notice.ofHandler, Registry.subscribe,
    Registration.alter, Veil.mute, note]

theorem insertCallback_mute (id : RequestId) (handler : ClientHandler) :
    (c.insertCallback id handler).mute = c.mute.insertCallback id handler.mute := by
  simp [mute, Veil.client, insertCallback, Veil.mute, List.filter_map, Function.comp_def]

theorem reset_mute : c.reset.mute = c.mute.reset := by
  rw [reset, recordPending_mute]
  rfl

theorem closeSession_mute : c.mute.closeSession = Veil.mute.step c.closeSession := by
  have same : c.mute.session = c.session := rfl
  unfold closeSession
  rw [same, ← reset_mute]
  cases c.session.subscription with
  | some id => rfl
  | none => rw [Veil.step, Veil.mute.note c.reset _ rfl]; rfl

theorem recordRequest_mute {α : Type} (measured : Measured) (result : Except Failure α) :
    (c.recordRequest measured result).mute = c.mute.recordRequest measured result := rfl

/-- The end of a call is told and counted in the same way. -/
theorem concludeRequest_mute (id : RequestId) (op : Operation) (raced : Raced Receipt) :
    (c.mute.concludeRequest id op raced).1 = (c.concludeRequest id op raced).1 ∧
    (c.mute.concludeRequest id op raced).2.mute = (c.concludeRequest id op raced).2.mute := by
  have noted := c.noteAll_mute raced.notices
  refine ⟨rfl, ?_⟩
  unfold concludeRequest
  have config : c.mute.config = c.config := rfl
  simp only [config]
  split <;> rw [note_mute, note_mute, recordRequest_mute, recordRequest_mute, noted]

theorem concludeQuery_mute (q : Query) (raced : Raced Lookup) :
    (c.mute.concludeQuery q raced).1 = (c.concludeQuery q raced).1 ∧
    (c.mute.concludeQuery q raced).2.mute = (c.concludeQuery q raced).2.mute := by
  have noted := c.noteAll_mute raced.notices
  refine ⟨rfl, ?_⟩
  unfold concludeQuery
  have config : c.mute.config = c.config := rfl
  simp only [config]
  split
  · rw [recordRequest_mute, recordRequest_mute, noted]
  · rw [note_mute, note_mute, recordRequest_mute, recordRequest_mute, noted]

end Client

namespace Scene

def mute (s : Scene) : Scene := { s with client := s.client.mute }

variable (s : Scene)

theorem mute_mute : s.mute.mute = s.mute := by
  rw [mute, mute, s.client.mute_mute]

theorem listen_mute (handler : ClientHandler) :
    (s.listen handler).mute = s.mute.listen handler.mute := by
  rw [listen, mute, s.client.subscribeListener_mute, listen, handler.mute_name]
  rfl

theorem perform_mute (act : Act Randomness ClientOrder) :
    (s.perform act).mute = s.mute.perform act.mute := by
  cases act with
  | register handler =>
    rw [Act.mute]
    exact s.listen_mute handler
  | command order =>
    rw [Act.mute]
    have host : s.mute.host = s.host := rfl
    cases order with
    | cancel name =>
      simp only [perform, cancel, host]
      cases s.host.requests.lookup name with
      | none => rfl
      | some id => simp only [mute, s.client.cancel_mute id]
    | unlisten name =>
      simp only [perform, unlisten, host]
      cases s.host.listeners.lookup name with
      | none => rfl
      | some number => simp only [mute, s.client.unsubscribeListener_mute number]

theorem foldl_mute {α : Type} {act : Scene → α → Scene} {change : α → α}
    (step : ∀ (s : Scene) (a : α), act s.mute (change a) = (act s a).mute) (list : List α) :
    (list.map change).foldl act s.mute = (list.foldl act s).mute := by
  induction list generalizing s with
  | nil => rfl
  | cons a rest ih => rw [List.map_cons, List.foldl_cons, step, ih, List.foldl_cons]

/-- A muted handler acts as it does otherwise, and completes. -/
theorem invoke_mute (r : Randomness) (handler : ClientHandler) :
    invoke r handler.mute s.mute = (.completed, (invoke r handler s).2.mute) := by
  have hearing : s.mute.hearing r handler.mute = (s.hearing r handler).mute := by
    rw [Scene.hearing, handler.mute_name]
    rfl
  have acts := foldl_mute (s.hearing r handler) (fun s act => (s.perform_mute act).symm)
    (handler.acts s.host.invocations r)
  rw [← hearing, ← handler.mute_acts] at acts
  exact Prod.ext (handler.mute_ends s.host.invocations r) acts

/-- The turn of a muted handler is the muted turn: its failure is only told. -/
theorem attend_mute {η : Type} {invoke invoke' : η → Scene → Ending × Scene}
    {report report' : η → String → Scene → Scene} {h h' : η}
    (invokes : invoke' h' s.mute = (.completed, (invoke h s).2.mute))
    (reports : ∀ reason t, (report h reason t).mute = t.mute) :
    attend invoke' report' s.mute h' = (attend invoke report s h).mute := by
  have completes : attend invoke' report' s.mute h' = (invoke h s).2.mute := by
    rw [attend, invokes]
    rfl
  rw [completes, attend]
  split
  · rfl
  · rw [reports]

theorem dispatch_mute (r : Randomness) : dispatch r s.mute = (dispatch r s).mute := by
  have turns (s : Scene) (entry : RequestId × ClientHandler) :
      attendCallback r s.mute (entry.1, entry.2.mute) = (attendCallback r s entry).mute := by
    refine s.attend_mute (s.invoke_mute r entry.2) fun reason t => ?_
    rw [reportCallback, mute, t.client.recordFailure_mute rfl]
    rfl
  rw [dispatch_eq, dispatch_eq]
  have counted : ({ s.mute with client := s.mute.client.recordDispatch r } : Scene) =
      mute { s with client := s.client.recordDispatch r } :=
    congrArg (Scene.mk · s.host) (s.client.recordDispatch_mute r).symm
  rw [counted]
  exact foldl_mute _ turns _

theorem deliver_mute (round : Round) : deliver round s.mute = (deliver round s).mute := by
  have turns (s : Scene) (entry : Registration Listener) :
      attendListener round.result s.mute (entry.alter Handler.mute) =
        (attendListener round.result s entry).mute := by
    refine s.attend_mute ?_ fun reason t => ?_
    · unfold invokeListener Registration.alter
      cases entry.handler with
      | user handler => exact s.invoke_mute round.result handler
      | dispatch => exact congrArg _ (s.dispatch_mute round.result)
    · rw [reportListener, mute, t.client.recordFailure_mute rfl]
      rfl
  have audience : s.mute.client.registry.audience .randomnessPublished =
      (s.client.registry.audience .randomnessPublished).map (·.alter Handler.mute) := by
    simp [Registry.audience, mute, Client.mute, Veil.client, Veil.mute, List.filter_map,
      Registration.alter, Function.comp_def]
  rw [deliver_eq, deliver_eq, audience]
  exact foldl_mute _ turns _

end Scene

end RandomBeacon
