import RandomBeacon.Registry.Hub
import RandomBeacon.Scenario.Log

/-!
Scripted runs of a registry.
-/

namespace RandomBeacon.Scenario

inductive RegistryStep where
  | subscribe (handler : RegistryHandler)
  | unsubscribe (name : String)
  | emit (value : String)
  | clear
  | inspect
  | metrics

/-- What a step gives back. -/
inductive RegistryReply where
  | nothing
  | subscribed
  | unknownName
  | removed (found : Bool)
  | delivered (count : Nat)
  | text (s : String)
  | samples (metrics : Metrics)

structure RegistryReport where
  reply : RegistryReply
  heard : List (String × String)
  logs : List String
  size : Nat

namespace RegistryStep

/-- A scripted handler does not emit the value that it is handed. -/
def sparing (handler : RegistryHandler) : RegistryHandler :=
  let echoes (value : String) : Act String RegistryOrder → Bool
    | .command (.emit other) => other = value
    | _ => false
  .mk handler.name (fun turn value => (handler.acts turn value).filter (!echoes value ·))
    handler.ends

def apply (h : Hub) : RegistryStep → RegistryReply × Hub
  | .subscribe handler => (.subscribed, h.subscribe (sparing handler))
  | .unsubscribe name =>
    let (found, h) := h.unsubscribeName name
    (found.elim .unknownName .removed, h)
  | .emit value =>
    match h.emit h.depthLimit value with
    | some (count, h) => (.delivered count, h)
    | none => (.nothing, h)
  | .clear => (.nothing, h.clear)
  | .inspect => (.text h.registry.inspected, h)
  | .metrics => (.samples h.metrics, h)

end RegistryStep

/-- Runs the steps and reports after each what is new. -/
def runRegistry (level : Option Level) : Hub → List RegistryStep → List RegistryReport
  | _, [] => []
  | h, step :: rest =>
    let (reply, after) := step.apply h
    { reply
      heard := newest h.heard after.heard
      logs := logLines level ((newest h.journal after.journal).map (0, ·))
      size := after.registry.size } :: runRegistry level after rest

end RandomBeacon.Scenario
