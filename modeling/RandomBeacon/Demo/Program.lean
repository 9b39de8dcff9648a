import RandomBeacon.Config.Document
import RandomBeacon.Demo.Arguments
import RandomBeacon.Demo.Session
import RandomBeacon.Wire.Message

/-!
The demonstration from its command line to its exit: what it prints and the code it ends with.
-/

namespace RandomBeacon.Demo

/-- Where the beacon is if nobody says. -/
def defaultAddress : String := "beacon.local"

/-- The configuration to run with: the one of the file, if there is one, with the address that the
command line gives. Both the file's configuration and the effective one have to be acceptable. -/
def resolve (file : Option Config.File) (address : Option String) :
    Except Config.Error Config := do
  let config ← match file with
    | some file => Config.load file
    | none => .ok { beaconAddress := defaultAddress : Config }
  Config.validate { config with beaconAddress := address.getD config.beaconAddress }

/-- How the program ends. -/
inductive Exit where
  | help
  | mistaken (reason : String)
  | misconfigured (e : Config.Error)
  | failed (e : Failure)
  | finished (c : Collection)
  deriving DecidableEq, Repr

namespace Exit

def code : Exit → Nat
  | help | finished _ => 0
  | misconfigured _ | failed _ => 1
  | mistaken _ => 2

end Exit

/-- One result as the program prints it. -/
def printed (r : Randomness) : String := (Wire.toJson r).pretty

/-- The configuration error as a constructor with its fields. -/
def inspectedError : Config.Error → String
  | .unreadable cause => "Io(" ++ cause ++ ")"
  | .malformed => "Parse"
  | .invalid problems =>
    "Validation([" ++ ", ".intercalate (problems.map ConfigProblem.inspected) ++ "])"

def usage : String :=
  "Request randomness from a simulated beacon

Usage: beacon-demo [OPTIONS]

Options:
  -c, --config <CONFIG>                      TOML configuration file
  -b, --beacon-address <BEACON_ADDRESS>      Beacon routing address (overrides the config file)
  -n, --requests <REQUESTS>                  Number of randomness requests to submit [default: 3]
      --publish-delay-ms <PUBLISH_DELAY_MS>  Delay before the simulated beacon publishes each round [default: 250]
      --metrics                              Expose Prometheus metrics on the configured address
  -h, --help                                 Print help
"

namespace Exit

/-- What goes to standard output. -/
def output : Exit → String
  | help => usage
  | finished c => String.join (c.rounds.map fun r => printed r ++ "\n")
  | _ => ""

/-- What goes to the error output. -/
def complaint : Exit → String
  | mistaken reason => "error: " ++ reason ++ "\n\nFor more information, try '--help'.\n"
  | misconfigured e => "Error: " ++ inspectedError e ++ "\n"
  | failed e => "Error: " ++ e.message ++ "\n"
  | _ => ""

end Exit

/-- Runs the program. `files` tells what is found under a path. -/
def run (files : String → Config.File) (chance : Chance) (arguments : List String) : Exit :=
  match readArguments arguments with
  | .help => .help
  | .mistaken reason => .mistaken reason
  | .run o =>
    match resolve (o.config.map files) o.beaconAddress with
    | .error e => .misconfigured e
    | .ok config =>
      match session config o.requests o.publishDelay chance with
      | .error e => .failed e
      | .ok c => .finished c

end RandomBeacon.Demo
