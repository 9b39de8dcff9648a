import RandomBeacon.Ledger.Fault
import RandomBeacon.Ledger.Message
import RandomBeacon.Lifecycle

/-!
The failures a client reports.
-/

namespace RandomBeacon

inductive FailureKind where
  | network
  | timeout
  | connection
  | reconnection
  | subscription
  | request
  deriving DecidableEq, Repr

namespace FailureKind

def label : FailureKind → String
  | network => "network"
  | timeout => "timeout"
  | connection => "connection"
  | reconnection => "reconnection"
  | subscription => "subscription"
  | request => "request"

def all : List FailureKind := [network, timeout, connection, reconnection, subscription, request]

end FailureKind

inductive Failure where
  /-- The transport failed, or the call was cut short. -/
  | network (cause : Option Fault)
  /-- No answer came within `microseconds`. -/
  | timeout (microseconds : Nat)
  /-- The client is not in a state to do this. -/
  | connection (reason : String)
  /-- The budget of attempts is spent. -/
  | reconnection (attempts : Nat)
  | subscription (id : Option SubscriptionId) (detail : String)
  /-- The beacon answered and refused. -/
  | request (request : Request) (response : Option Receipt) (reason : String)
  deriving DecidableEq, Repr

namespace Failure

def kind : Failure → FailureKind
  | network _ => .network
  | timeout _ => .timeout
  | connection _ => .connection
  | reconnection _ => .reconnection
  | subscription _ _ => .subscription
  | request _ _ _ => .request

def message : Failure → String
  | network none => "network error: unknown cause"
  | network (some cause) => "network error: " ++ cause.message
  | timeout microseconds => s!"operation timed out after {microseconds / 1000} ms"
  | connection reason => "client not connected: " ++ reason
  | reconnection attempts => s!"reconnection failed after {attempts} attempts"
  | subscription none detail => "subscription error: " ++ detail
  | subscription (some id) detail => s!"subscription error ({id.text}): {detail}"
  | request _ _ reason => "request rejected by beacon: " ++ reason

def isNetwork (f : Failure) : Bool := f.kind = .network

def isReconnection (f : Failure) : Bool := f.kind = .reconnection

/-- Lost calls start a reconnection; refusals do not. -/
def triggersReconnect (f : Failure) : Bool := f.kind = .network || f.kind = .timeout

def notReady (l : Lifecycle) : Failure :=
  .connection s!"client is {l.name}, expected ready"

/-- What a failed submission or query means to the client. -/
def ofFault (fault : Fault) (r : Request) : Failure :=
  if fault.isTransport then .network (some fault) else .request r none fault.message

/-- What a failed subscription means to the client. -/
def ofSubscribeFault (fault : Fault) : Failure :=
  if fault.isTransport then .network (some fault) else .subscription none fault.message

end Failure

end RandomBeacon
