import RandomBeacon.Config.Basic
import RandomBeacon.Handler
import RandomBeacon.Metrics
import RandomBeacon.Notice
import RandomBeacon.Reconnection.Budget
import RandomBeacon.Registry.Basic
import RandomBeacon.Text.Quoted

/-!
The state of a client and the changes that need no waiting.
-/

namespace RandomBeacon

/-- The commands of a client's handlers. -/
inductive ClientOrder where
  /-- Cancels the last request that was accepted under a name. -/
  | cancel (name : String)
  /-- Removes the listener last added under a name. -/
  | unlisten (name : String)
  deriving DecidableEq, Repr

abbrev ClientHandler := Handler Randomness ClientOrder

/-- What stands in a client's registry. -/
inductive Listener where
  | user (handler : ClientHandler)
  /-- Hands published rounds to the callbacks of requests. -/
  | dispatch

structure Session where
  lifecycle : Lifecycle := .uninitialized
  subscription : Option SubscriptionId := none
  /-- The number of the dispatch handler in the registry. -/
  dispatch : Option Nat := none
  /-- How many cleanups there have been. What began in an earlier generation is stale. -/
  generation : Nat := 0
  /-- The generation whose hand-off to reconnection is running. -/
  reconnecting : Option Nat := none
  deriving DecidableEq, Repr

/-- What those who wait for a lifecycle state can see: the last value, and how many were sent. -/
structure Watch where
  value : Lifecycle := .uninitialized
  version : Nat := 0
  deriving DecidableEq, Repr

structure Client where
  config : Config
  /-- The factors that jitter draws. -/
  factors : Nat → Binary64 := fun _ => .one
  session : Session := {}
  watch : Watch := {}
  budget : Budget := {}
  registry : Registry Listener := {}
  /-- The callbacks of requests. -/
  callbacks : List (RequestId × ClientHandler) := []
  metrics : Metrics := {}
  /-- Newest first. -/
  journal : List Notice := []

namespace Client

def note (c : Client) (n : Notice) : Client := { c with journal := n :: c.journal }

def pacing (c : Client) : Pacing := ⟨c.config.reconnection, c.factors⟩

def noteAll (c : Client) (ns : List Notice) : Client := ns.foldl note c

/-- Every change of the lifecycle is sent to those who watch it. -/
def setLifecycle (c : Client) (l : Lifecycle) : Client :=
  { c with
    session := { c.session with lifecycle := l }
    watch := ⟨l, c.watch.version + 1⟩ }

/-- Changes the lifecycle if the generation has not passed. -/
def setLifecycleIf (c : Client) (generation : Nat) (l : Lifecycle) : Client :=
  if c.session.generation = generation then c.setLifecycle l else c

/-- Moves from one state to another, within one generation only. -/
def transition (c : Client) (generation : Nat) (source target : Lifecycle) : Client :=
  if c.session.generation = generation ∧ c.session.lifecycle = source then c.setLifecycle target
  else c

/-- Brings the gauge up to date. -/
def recordPending (c : Client) : Client :=
  { c with metrics := c.metrics.recordPending c.callbacks.length }

def hasCallback (c : Client) (id : RequestId) : Bool := c.callbacks.any (·.1 = id)

/-- Counts a handler that failed, and gives notice of it. -/
def recordFailure (c : Client) (n : Notice) : Client :=
  { c with metrics := c.metrics.recordCallbackFailure }.note n

/-- Counts a run of the dispatch handler, and gives notice of it. -/
def recordDispatch (c : Client) (r : Randomness) : Client :=
  { c with metrics := c.metrics.recordDispatch }.note (.dispatching r.number c.callbacks.length)

/-- Registers the callback of a request. -/
def insertCallback (c : Client) (id : RequestId) (handler : ClientHandler) : Client :=
  { c with callbacks := c.callbacks.filter (·.1 ≠ id) ++ [(id, handler)] }

/-- Stops the callback of a request; tells whether it was registered. -/
def cancel (c : Client) (id : RequestId) : Bool × Client :=
  (c.hasCallback id,
    { c with callbacks := c.callbacks.filter (·.1 ≠ id) }.recordPending)

/-- Adds an entry to the registry; its number is the one the registry gives next. -/
def subscribeListener (c : Client) (l : Listener) : Client :=
  { c with registry := c.registry.subscribe .randomnessPublished l }
  |>.note (.handlerRegistered c.registry.issued .randomnessPublished)

/-- Removes an entry of the registry; tells whether it was there. -/
def unsubscribeListener (c : Client) (number : Nat) : Bool × Client :=
  if c.registry.contains number then
    (true, { c with registry := c.registry.unsubscribe number })
  else (false, c.note (.unknownRegistration number))

/-- The generation of the session if the client is ready. -/
def readyGeneration (c : Client) : Except Failure Nat :=
  if c.session.lifecycle = .ready then .ok c.session.generation
  else .error (.notReady c.session.lifecycle)

def inspected (c : Client) : String :=
  "BeaconClient \x7b beacon_address: " ++ quoted c.config.beaconAddress ++ ", state: "
    ++ c.session.lifecycle.title ++ ", pending_requests: " ++ toString c.callbacks.length ++ " \x7d"

end Client

end RandomBeacon
