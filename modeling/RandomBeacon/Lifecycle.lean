/-!
The lifecycle of a client.
-/

namespace RandomBeacon

inductive Lifecycle where
  | uninitialized
  | initializing
  | ready
  | reconnecting
  /-- The reconnection budget is spent. -/
  | failed
  deriving DecidableEq, Repr

namespace Lifecycle

def name : Lifecycle → String
  | uninitialized => "uninitialized"
  | initializing => "initializing"
  | ready => "ready"
  | reconnecting => "reconnecting"
  | failed => "failed"

/-- The name of the state as a constructor. -/
def title (l : Lifecycle) : String := l.name.capitalize

def all : List Lifecycle := [uninitialized, initializing, ready, reconnecting, failed]

def ofName? (s : String) : Option Lifecycle := all.find? (·.name = s)

end Lifecycle

end RandomBeacon
