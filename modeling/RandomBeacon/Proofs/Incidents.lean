import Mathlib.Algebra.GroupWithZero.Nat
import RandomBeacon.Handler
import RandomBeacon.Metrics

/-!
What the metrics of a client are about. Counters say how often something has happened, so what a
stretch of a run does to them is told by what happens in it (`Metrics.Counts`). The number of
measured durations is the sum of the outcomes (`Metrics.durationCount_eq`), as that of the hand-offs
that have ended is (`Metrics.reconnections_length`).
-/

namespace RandomBeacon

/-- What happens to a client, as far as it is measured. -/
inductive Incident where
  /-- A call is admitted. -/
  | admits (op : Measured)
  /-- An admitted call ends; without a failure it has succeeded. -/
  | concludes (op : Measured) (failure : Option FailureKind)
  /-- A session is handed to reconnection. -/
  | handsOver
  /-- An attempt to subscribe anew begins. -/
  | resubscribes
  /-- A hand-off ends. -/
  | settles (result : ReconnectionEnd)
  /-- The dispatch handler runs. -/
  | dispatches
  /-- A listener or a callback is invoked. -/
  | invokes (ending : Ending)
  deriving DecidableEq

namespace Incident

/-- Whether a call of this operation ends. -/
def endsCall (op : Measured) : Incident → Bool
  | concludes other _ => other = op
  | _ => false

/-- Whether a hand-off ends. -/
def endsHandoff : Incident → Bool
  | settles _ => true
  | _ => false

/-- Whether an invocation has failed. -/
def fails : Incident → Bool
  | invokes ending => ending.failure?.isSome
  | _ => false

def isInvocation : Incident → Bool
  | invokes _ => true
  | _ => false

/-- Whether it happens in the delivery of a round. -/
def ofDelivery : Incident → Bool
  | dispatches | invokes _ => true
  | _ => false

end Incident

namespace Metrics

/-- Counters go from those of `m` to those of `n` while this happens. -/
structure Counts (m : Metrics) (incidents : List Incident) (n : Metrics) : Prop where
  requests : ∀ op failure, n.requestCount op failure =
    m.requestCount op failure + incidents.count (.concludes op failure)
  durations : ∀ op,
    n.durationCount op = m.durationCount op + incidents.countP (Incident.endsCall op)
  attempts : n.reconnectAttempts = m.reconnectAttempts + incidents.count .resubscribes
  reconnections : ∀ result,
    n.reconnectionCount result = m.reconnectionCount result + incidents.count (.settles result)
  handoffs : n.reconnections.length = m.reconnections.length + incidents.countP Incident.endsHandoff
  dispatched : n.eventsDispatched = m.eventsDispatched + incidents.count .dispatches
  failures : n.callbackFailures = m.callbackFailures + incidents.countP Incident.fails

namespace Counts

variable {m n k : Metrics} {incidents more : List Incident}

theorem refl (m : Metrics) : m.Counts [] m :=
  ⟨fun _ _ => rfl, fun _ => rfl, rfl, fun _ => rfl, rfl, rfl, rfl⟩

theorem trans (before : m.Counts incidents n) (after : n.Counts more k) :
    m.Counts (incidents ++ more) k := by
  constructor
  · intro op failure
    rw [after.requests, before.requests, List.count_append, Nat.add_assoc]
  · intro op
    rw [after.durations, before.durations, List.countP_append, Nat.add_assoc]
  · rw [after.attempts, before.attempts, List.count_append, Nat.add_assoc]
  · intro result
    rw [after.reconnections, before.reconnections, List.count_append, Nat.add_assoc]
  · rw [after.handoffs, before.handoffs, List.countP_append, Nat.add_assoc]
  · rw [after.dispatched, before.dispatched, List.count_append, Nat.add_assoc]
  · rw [after.failures, before.failures, List.countP_append, Nat.add_assoc]

end Counts

section Records

variable (m : Metrics)

/-- The gauge is no counter. -/
theorem counts_pending (count : Nat) : m.Counts [] (m.recordPending count) :=
  ⟨fun _ _ => rfl, fun _ => rfl, rfl, fun _ => rfl, rfl, rfl, rfl⟩

/-- A call is counted when it ends, not when it is admitted. -/
theorem counts_admission (op : Measured) : m.Counts [.admits op] m :=
  ⟨fun _ _ => rfl, fun _ => rfl, rfl, fun _ => rfl, rfl, rfl, rfl⟩

/-- A hand-off is counted when it ends, not when it begins. -/
theorem counts_handover : m.Counts [.handsOver] m :=
  ⟨fun _ _ => rfl, fun _ => rfl, rfl, fun _ => rfl, rfl, rfl, rfl⟩

theorem counts_request (op : Measured) (failure : Option FailureKind) :
    m.Counts [.concludes op failure] (m.recordRequest op failure) := by
  refine ⟨?_, ?_, rfl, fun _ => rfl, rfl, rfl, rfl⟩
  · intro other kind
    simp only [requestCount, recordRequest, List.count_cons, List.count_nil, beq_iff_eq,
      Prod.mk.injEq, Incident.concludes.injEq, Nat.zero_add]
  · intro other
    by_cases own : op = other <;>
      simp [durationCount, recordRequest, Incident.endsCall, own]

theorem counts_attempt : m.Counts [.resubscribes] m.recordReconnectAttempt :=
  ⟨fun _ _ => rfl, fun _ => rfl, rfl, fun _ => rfl, rfl, rfl, rfl⟩

theorem counts_reconnection (result : ReconnectionEnd) :
    m.Counts [.settles result] (m.recordReconnection result) := by
  refine ⟨fun _ _ => rfl, fun _ => rfl, rfl, ?_, rfl, rfl, rfl⟩
  intro other
  simp only [reconnectionCount, recordReconnection, List.count_cons, List.count_nil, beq_iff_eq,
    Incident.settles.injEq, Nat.zero_add]

theorem counts_dispatch : m.Counts [.dispatches] m.recordDispatch :=
  ⟨fun _ _ => rfl, fun _ => rfl, rfl, fun _ => rfl, rfl, rfl, rfl⟩

/-- An invocation that has failed is counted. -/
theorem counts_failed {ending : Ending} (failed : ending.failure?.isSome = true) :
    m.Counts [.invokes ending] m.recordCallbackFailure := by
  refine ⟨fun _ _ => rfl, fun _ => rfl, rfl, fun _ => rfl, rfl, rfl, ?_⟩
  simp [recordCallbackFailure, Incident.fails, failed]

/-- One that has completed is not. -/
theorem counts_completed {ending : Ending} (completed : ending.failure? = none) :
    m.Counts [.invokes ending] m := by
  refine ⟨fun _ _ => rfl, fun _ => rfl, rfl, fun _ => rfl, rfl, rfl, ?_⟩
  simp [Incident.fails, completed]

/-- Every operation that is measured has one outcome. -/
theorem durationCount_eq (op : Measured) :
    m.durationCount op =
      ((none :: FailureKind.all.map some).map (m.requestCount op)).sum := by
  have counted (requests : List (Measured × Option FailureKind)) :
      (requests.filter (·.1 = op)).length =
        ((none :: FailureKind.all.map some).map fun outcome =>
          requests.count (op, outcome)).sum := by
    induction requests with
    | nil => rfl
    | cons request rest ih =>
      obtain ⟨measured, outcome⟩ := request
      by_cases own : measured = op
      · subst own
        rw [List.filter_cons_of_pos (by simp), List.length_cons, ih]
        simp only [FailureKind.all, List.map_cons, List.map_nil, List.sum_cons, List.sum_nil,
          List.count_cons, beq_iff_eq, Prod.mk.injEq, true_and]
        cases outcome with
        | none => simp only [if_true, reduceCtorEq, if_false]; omega
        | some kind =>
          cases kind <;> simp only [Option.some.injEq, reduceCtorEq, if_true, if_false] <;> omega
      · rw [List.filter_cons_of_neg (by simpa using own), ih]
        simp [own]
  exact counted m.requests

/-- Every hand-off that has ended has ended in one way. -/
theorem reconnections_length :
    m.reconnections.length =
      m.reconnectionCount .success + m.reconnectionCount .exhausted +
        m.reconnectionCount .aborted := by
  simp only [reconnectionCount]
  induction m.reconnections with
  | nil => rfl
  | cons result rest ih => cases result <;> simp [ih] <;> omega

end Records

end Metrics

end RandomBeacon
