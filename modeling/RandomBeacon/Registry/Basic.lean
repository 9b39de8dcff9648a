import RandomBeacon.Ledger.Message

/-!
A registry of handlers. Numbers are never given twice, so a number names at most one handler for
all time.
-/

namespace RandomBeacon

structure Registration (η : Type) where
  number : Nat
  topic : Topic
  handler : η

structure Registry (η : Type) where
  entries : List (Registration η) := []
  /-- How many numbers have been given. -/
  issued : Nat := 0

namespace Registry

variable {η : Type}

/-- Registers a handler under the next number. -/
def subscribe (r : Registry η) (topic : Topic) (handler : η) : Registry η where
  entries := r.entries ++ [⟨r.issued, topic, handler⟩]
  issued := r.issued + 1

def contains (r : Registry η) (number : Nat) : Bool := r.entries.any (·.number = number)

def unsubscribe (r : Registry η) (number : Nat) : Registry η :=
  { r with entries := r.entries.filter (·.number ≠ number) }

def clear (r : Registry η) : Registry η := { r with entries := [] }

def size (r : Registry η) : Nat := r.entries.length

/-- The handlers that an event of a topic reaches. -/
def audience (r : Registry η) (topic : Topic) : List (Registration η) :=
  r.entries.filter (·.topic = topic)

def inspected (r : Registry η) : String :=
  "SubscriptionRegistry \x7b registrations: " ++ toString r.size ++ " \x7d"

end Registry

end RandomBeacon
