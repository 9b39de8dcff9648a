import RandomBeacon.Round

/-!
What a client and a ledger provider exchange.
-/

namespace RandomBeacon

structure ChainId where
  text : String
  deriving DecidableEq, Repr

/-- A subscription, named by the provider that holds it. -/
structure SubscriptionId where
  text : String
  deriving DecidableEq, Repr

/-- A request of a client, named by the client. -/
structure RequestId where
  text : String
  deriving DecidableEq, Repr

/-- A handler in a registry, named by the registry. -/
structure RegistrationId where
  text : String
  deriving DecidableEq, Repr

/-- The account a provider signs with. -/
structure Account where
  owner : String
  balance : BitVec 128
  deriving DecidableEq, Repr

/-- The event streams a beacon publishes. -/
inductive Topic where
  | randomnessPublished
  deriving DecidableEq, Repr

def Topic.name : Topic → String
  | randomnessPublished => "RandomnessPublished"

/-- An operation that changes the beacon's state; the timestamp is in milliseconds. -/
inductive Operation where
  | requestRandomness (requestId : String) (timestamp : UInt64)
  deriving DecidableEq, Repr

/-- A question about the beacon's state. -/
inductive Query where
  | getRandomness (round : UInt64)
  deriving DecidableEq, Repr

/-- The call that a refusal answers. -/
inductive Request where
  | operation (op : Operation)
  | query (q : Query)
  deriving DecidableEq, Repr

/-- What comes back for a submitted operation. -/
structure Receipt where
  success : Bool := false
  error : Option String := none
  transaction : Option String := none
  deriving DecidableEq, Repr

def Receipt.accepted (transaction : String) : Receipt :=
  { success := true, transaction := some transaction }

def Receipt.failed (error : String) : Receipt :=
  { success := false, error := some error }

/-- What comes back for a query: nothing if the round is unknown. -/
structure Lookup where
  round : Option Round := none
  deriving DecidableEq, Repr

end RandomBeacon
