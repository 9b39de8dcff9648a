import RandomBeacon.Client.Basic
import RandomBeacon.Race

/-!
Requests and queries: when a client takes them, and what the end of the provider's call means.
-/

namespace RandomBeacon

namespace Client

/-- Takes a request if the client is ready. Its callback is registered before the operation can
reach the provider. The result names the generation that the request belongs to. -/
def admitRequest (id : RequestId) (handler : ClientHandler) (c : Client) :
    Except Failure (Nat × Client) :=
  c.readyGeneration.map fun generation => (generation, (c.insertCallback id handler).recordPending)

/-- What the end of a submission means. -/
def submissionResult (op : Operation) :
    Except Failure (Except Fault Receipt) → Except Failure Unit
  | .error e => .error e
  | .ok (.error fault) => .error (.ofFault fault (.operation op))
  | .ok (.ok receipt) =>
    if receipt.success then .ok ()
    else .error (.request (.operation op) (some receipt)
      (receipt.error.getD "provider reported failure"))

/-- What the end of a query means. -/
def queryResult (q : Query) :
    Except Failure (Except Fault Lookup) → Except Failure (Option Randomness)
  | .error e => .error e
  | .ok (.error fault) => .error (.ofFault fault (.query q))
  | .ok (.ok lookup) => .ok (lookup.round.map Round.result)

/-- The kind of failure that a result shows. -/
def failureKind? {α : Type} : Except Failure α → Option FailureKind
  | .ok _ => none
  | .error e => some e.kind

/-- Counts a measured call. -/
def recordRequest {α : Type} (measured : Measured) (result : Except Failure α) (c : Client) :
    Client :=
  { c with metrics := c.metrics.recordRequest measured (failureKind? result) }

/-- The end of a request. -/
def concludeRequest (id : RequestId) (op : Operation) (raced : Raced Receipt) (c : Client) :
    Except Failure Unit × Client :=
  let result := submissionResult op (raced.answer c.config.requestTimeout)
  let c := (c.noteAll raced.notices).recordRequest .requestRandomness result
  (result, match result with
    | .ok () => c.note (.randomnessRequested id)
    | .error e => c.note (.requestFailed id e))

/-- The end of a query. -/
def concludeQuery (q : Query) (raced : Raced Lookup) (c : Client) :
    Except Failure (Option Randomness) × Client :=
  let result := queryResult q (raced.answer c.config.requestTimeout)
  let c := (c.noteAll raced.notices).recordRequest .getRandomness result
  (result, match q, result with
    | _, .ok _ => c
    | .getRandomness round, .error e => c.note (.queryFailed round e))

/-- Whether a result shows a lost call, over which the session has to be recovered. -/
def isLost {α : Type} : Except Failure α → Bool
  | .ok _ => false
  | .error e => e.triggersReconnect

end Client

end RandomBeacon
