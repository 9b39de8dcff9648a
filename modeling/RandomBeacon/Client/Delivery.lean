import RandomBeacon.Client.Basic

/-!
Delivery of a published round. The registry's handlers run one after the other; one of them is the
dispatch handler, which runs the callbacks of the requests. Handlers may change both while they
run: who is reached is settled when the delivery, or the dispatch, starts. What they cannot do here
is publish a round themselves; emissions within emissions are those of `Hub`.
-/

namespace RandomBeacon

/-- The handlers' side: the names it has given, and what it has heard. -/
structure Host where
  /-- Names with the requests accepted under them, newest first. -/
  requests : List (String × RequestId) := []
  /-- Names with the listeners added under them, newest first. -/
  listeners : List (String × Nat) := []
  /-- Names with the results they have heard, newest first. -/
  heard : List (String × Randomness) := []
  /-- How many invocations of handlers there have been. -/
  invocations : Nat := 0

/-- A client together with the side that hands it handlers. -/
structure Scene where
  client : Client
  host : Host := {}

namespace Scene

/-- Adds a listener under its handler's name. -/
def listen (s : Scene) (handler : ClientHandler) : Scene where
  client := s.client.subscribeListener (.user handler)
  host := { s.host with
    listeners := (handler.name, s.client.registry.issued) :: s.host.listeners }

/-- Cancels the last request accepted under a name, if there was one. -/
def cancel (s : Scene) (name : String) : Option Bool × Scene :=
  match s.host.requests.lookup name with
  | some id => let (found, client) := s.client.cancel id; (some found, { s with client })
  | none => (none, s)

/-- Removes the listener last added under a name, if there was one. -/
def unlisten (s : Scene) (name : String) : Option Bool × Scene :=
  match s.host.listeners.lookup name with
  | some number =>
    let (found, client) := s.client.unsubscribeListener number; (some found, { s with client })
  | none => (none, s)

def perform (s : Scene) : Act Randomness ClientOrder → Scene
  | .register handler => s.listen handler
  | .command (.cancel name) => (s.cancel name).2
  | .command (.unlisten name) => (s.unlisten name).2

/-- One invocation of a handler: it is heard of first, then it acts, then it ends. -/
def invoke (r : Randomness) (handler : ClientHandler) (s : Scene) : Ending × Scene :=
  let turn := s.host.invocations
  let s := { s with host :=
    { s.host with heard := (handler.name, r) :: s.host.heard, invocations := turn + 1 } }
  (handler.ends turn r, (handler.acts turn r).foldl perform s)

def reportCallback (r : Randomness) (id : RequestId) (reason : String) (s : Scene) : Scene :=
  { s with client := s.client.recordFailure (.callbackFailed id r.number reason) }

def reportListener (entry : Registration Listener) (reason : String) (s : Scene) : Scene :=
  { s with client := s.client.recordFailure (.handlerFailed entry.number entry.topic reason) }

/-- Runs the callback of every request that is pending when the dispatch starts. -/
def dispatch (r : Randomness) (s : Scene) : Scene :=
  let callbacks := s.client.callbacks
  let s := { s with client := s.client.recordDispatch r }
  (Id.run (invokeAll (fun entry s => pure (invoke r entry.2 s))
    (fun entry => reportCallback r entry.1) callbacks s)).2

def invokeListener (r : Randomness) (entry : Registration Listener) (s : Scene) : Ending × Scene :=
  match entry.handler with
  | .user handler => invoke r handler s
  | .dispatch => (.completed, dispatch r s)

/-- Hands a round to every handler in the registry when the delivery starts. -/
def deliver (round : Round) (s : Scene) : Scene :=
  (Id.run (invokeAll (fun entry s => pure (invokeListener round.result entry s)) reportListener
    (s.client.registry.audience .randomnessPublished) s)).2

end Scene

end RandomBeacon
