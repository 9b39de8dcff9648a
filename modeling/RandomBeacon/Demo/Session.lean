import RandomBeacon.Client.World
import RandomBeacon.Ledger.Simulated

/-!
The session of the demonstration: a client over a simulated beacon that publishes a round for each
request. The session collects one result for every round, looks the last one up again and ends
when it has as many as requests, or when the next one is overdue.
-/

namespace RandomBeacon.Demo

/-- What the session leaves to chance. -/
structure Chance where
  contents : Nat → RoundContent
  suffixes : Nat → Suffix
  factors : Nat → Binary64

abbrev Timeline := World.Timeline Simulated

/-- How a session comes out. -/
structure Collection where
  /-- The results, one for each round, in the order of the rounds. -/
  rounds : List Randomness
  /-- What the beacon knows of the last of the rounds. -/
  verified : Option Randomness
  /-- How long the session took, in milliseconds. -/
  elapsed : Nat
  deriving DecidableEq, Repr

def begin (config : Config) (publishDelay : Nat) (chance : Chance) : Timeline where
  state :=
    { scene := { client := { config, factors := chance.factors } }
      provider :=
        { behavior := { publishAfter := some publishDelay }, contents := chance.contents }
      suffixes := chance.suffixes }

/-- Opens the session, or tells why that failed. -/
def openSession (t : Timeline) : Except Failure Timeline :=
  match t.complete .openSession with
  | (some (.finished (.error e)), _) => .error e
  | (_, t) => .ok t

/-- The one handler of the session, which listens for every request. -/
def handler : ClientHandler := .plain "demo"

/-- Submits so many requests, one after the other. -/
def submit : Nat → Timeline → Except Failure Timeline
  | 0, t => .ok t
  | n + 1, t =>
    match t.complete (.request handler) with
    | (some (.requested (.error e)), _) => .error e
    | (_, t) => submit n t

/-- Adds results that are heard of for the first time, until there are enough. The newest round
stands first. -/
def gather (wanted : Nat) : List Randomness → List Randomness → List Randomness
  | rounds, [] => rounds
  | rounds, r :: rest =>
    if wanted ≤ rounds.length then rounds
    else if rounds.any (·.number = r.number) then gather wanted rounds rest
    else gather wanted (r :: rounds) rest

/-- Collects results until there are enough or none has come for `patience` milliseconds. So many
have been `taken` before; at most `fuel` times something new is waited for. -/
def collect (wanted patience : Nat) :
    (fuel taken : Nat) → List Randomness → Timeline → List Randomness × Timeline
  | 0, _, rounds, t => (rounds, t)
  | fuel + 1, taken, rounds, t =>
    let host := t.state.scene.host
    let fresh := (host.heard.take (host.invocations - taken)).reverse.map (·.2)
    let rounds := gather wanted rounds fresh
    if wanted ≤ rounds.length then (rounds, t)
    else
      let waited := t.runUntil World.rules
        (fun later => host.invocations < later.state.scene.host.invocations)
        (some (t.now + patience)) t.fuel
      if waited.state.scene.host.invocations ≤ host.invocations then (rounds, waited)
      else collect wanted patience fuel host.invocations rounds waited

/-- Looks a round up again. -/
def verify (r : Randomness) (t : Timeline) : Except Failure (Option Randomness × Timeline) :=
  match t.complete (.query (.getRandomness r.number)) with
  | (some (.found (.ok found)), t) => .ok (found, t)
  | (some (.found (.error e)), _) => .error e
  | (_, t) => .ok (none, t)

/-- The whole session. -/
def session (config : Config) (requests publishDelay : Nat) (chance : Chance) :
    Except Failure Collection := do
  let t ← openSession (begin config publishDelay chance)
  let t ← submit requests (t.complete .chain).2
  let (rounds, t) := collect requests (config.requestTimeout + publishDelay) (requests + 2) 0 [] t
  let rounds := rounds.mergeSort fun a b => a.number ≤ b.number
  let (verified, t) ← match rounds.getLast? with
    | some last => verify last t
    | none => .ok (none, t)
  let t := (t.complete .closeSession).2
  return ⟨rounds, verified, t.now⟩

end RandomBeacon.Demo
