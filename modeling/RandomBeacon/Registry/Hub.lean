import RandomBeacon.Handler
import RandomBeacon.Metrics
import RandomBeacon.Notice
import RandomBeacon.Registry.Basic

/-!
A registry together with the handlers' side: the names under which handlers were registered and
what they have heard. Handlers may change the registry and emit in it while they run.
-/

namespace RandomBeacon

/-- The commands of a registry's handlers. -/
inductive RegistryOrder where
  /-- Removes the handler last registered under a name. -/
  | unsubscribe (name : String)
  /-- Removes the handler of a number. -/
  | remove (number : Nat)
  | clear
  | emit (value : String)
  deriving DecidableEq, Repr

abbrev RegistryHandler := Handler String RegistryOrder

structure Hub where
  registry : Registry RegistryHandler := {}
  /-- Names with the numbers registered under them, newest first. -/
  names : List (String × Nat) := []
  /-- Names with the values they have heard, newest first. -/
  heard : List (String × String) := []
  metrics : Metrics := {}
  /-- Newest first. -/
  journal : List Notice := []

namespace Hub

def note (h : Hub) (n : Notice) : Hub := { h with journal := n :: h.journal }

def subscribe (h : Hub) (handler : RegistryHandler) : Hub :=
  let number := h.registry.issued
  { h with
    registry := h.registry.subscribe .randomnessPublished handler
    names := (handler.name, number) :: h.names }
  |>.note (.handlerRegistered number .randomnessPublished)

/-- Removes a handler; tells whether it was there. -/
def unsubscribe (h : Hub) (number : Nat) : Bool × Hub :=
  if h.registry.contains number then
    (true, { h with registry := h.registry.unsubscribe number })
  else (false, h.note (.unknownRegistration number))

/-- Removes the handler last registered under a name, if the name was ever used. -/
def unsubscribeName (h : Hub) (name : String) : Option Bool × Hub :=
  match h.names.lookup name with
  | some number => let (removed, h) := h.unsubscribe number; (some removed, h)
  | none => (none, h)

def clear (h : Hub) : Hub := { h with registry := h.registry.clear }

def reportFailure (r : Registration RegistryHandler) (reason : String) (h : Hub) : Hub :=
  { h with metrics := h.metrics.recordCallbackFailure }
  |>.note (.handlerFailed r.number r.topic reason)

/-- Carries out the acts of a handler one after the other; `emit` is what an emission does. -/
def perform (emit : String → Hub → Option Hub) :
    List (Act String RegistryOrder) → Hub → Option Hub
  | [], h => some h
  | .register handler :: rest, h => perform emit rest (h.subscribe handler)
  | .command (.unsubscribe name) :: rest, h => perform emit rest (h.unsubscribeName name).2
  | .command (.remove number) :: rest, h => perform emit rest (h.unsubscribe number).2
  | .command .clear :: rest, h => perform emit rest h.clear
  | .command (.emit value) :: rest, h => do perform emit rest (← emit value h)

/-- One invocation of a handler. -/
def invoke (emit : String → Hub → Option Hub) (value : String)
    (r : Registration RegistryHandler) (h : Hub) : Option (Ending × Hub) := do
  let turn := h.heard.length
  let h := { h with heard := (r.handler.name, value) :: h.heard }
  let h ← perform emit (r.handler.acts turn value) h
  return (r.handler.ends turn value, h)

/-- Hands a value to every handler registered when the emission starts, and counts those that
complete. A handler's own emissions nest inside; there is no result if they nest deeper than
`depth`. -/
def emit : (depth : Nat) → String → Hub → Option (Nat × Hub)
  | 0, _, _ => none
  | depth + 1, value, h =>
    invokeAll (invoke (fun other h => (emit depth other h).map (·.2)) value) reportFailure
      (h.registry.audience .randomnessPublished) h

/-- How deep emissions nest, if they end at all, where a handler does the same whenever it is handed
the same value and adds none that emits: a deeper nesting would repeat an emission inside itself. -/
def depthLimit (h : Hub) : Nat := (h.registry.size + 2) * (h.registry.size + 2)

end Hub

end RandomBeacon
