import RandomBeacon.Ledger.Call

/-!
A ledger in memory. It answers every call at once and well unless its behavior says otherwise,
and hands published rounds to its subscriptions.
-/

namespace RandomBeacon

inductive SubscribeFailure where
  | never
  /-- The transport fails. -/
  | always
  /-- The ledger refuses. -/
  | rejected
  /-- The transport fails for the next calls, this many. -/
  | times (n : Nat)
  deriving DecidableEq, Repr

structure Behavior where
  submitDelay : Nat := 0
  queryDelay : Nat := 0
  rejectSubmissions : Bool := false
  submitTransportFailure : Bool := false
  queryTransportFailure : Bool := false
  subscribeFailure : SubscribeFailure := .never
  /-- Publish a new round this long after each accepted request. -/
  publishAfter : Option Nat := none
  deriving DecidableEq, Repr

/-- The random content of a round. -/
structure RoundContent where
  value : Vector UInt8 32
  nonce : Vector UInt8 16
  attestation : Vector UInt8 64

structure Simulated where
  behavior : Behavior := {}
  /-- The last round published under each number. -/
  rounds : List Round := []
  nextNumber : UInt64 := 1
  subscriptions : List (SubscriptionId × Topic) := []
  /-- How many subscriptions have been granted. -/
  granted : Nat := 0
  /-- The content of the rounds that the ledger draws, one after the other. -/
  contents : Nat → RoundContent
  /-- How many rounds have been drawn. -/
  drawn : Nat := 0
  -- How often each call has been made. Nothing is decided by these counts, which have no bound.
  submitCalls : Nat := 0
  completedSubmissions : Nat := 0
  queryCalls : Nat := 0
  subscribeCalls : Nat := 0
  unsubscribeCalls : Nat := 0

namespace Simulated

def chainId : ChainId := ⟨"mock-chain"⟩

def account : Account := ⟨"mock-owner", 100⟩

/-- The name of the subscription granted after `n` others. -/
def subscriptionName (n : Nat) : SubscriptionId := ⟨"subscription-" ++ toString n⟩

def find? (l : Simulated) (number : UInt64) : Option Round := l.rounds.find? (·.number = number)

/-- The ledger with a round in place of the one of that number. -/
def insert (l : Simulated) (r : Round) : Simulated :=
  { l with rounds := r :: l.rounds.filter (·.number ≠ r.number) }

/-- Draws the next round. -/
def draw (l : Simulated) : Round × Simulated :=
  let content := l.contents l.drawn
  (⟨l.nextNumber, content.value, content.nonce, content.attestation.toList⟩,
    { l with nextNumber := l.nextNumber + 1, drawn := l.drawn + 1 })

def audience (l : Simulated) : List SubscriptionId :=
  (l.subscriptions.filter (·.2 = .randomnessPublished)).map (·.1)

def store (r : Round) (l : Simulated) : List Notice × Simulated :=
  ([.publishing r.number l.audience.length], l.insert r)

/-- The end of a submission that met `behavior` when it started. -/
def settleSubmission (behavior : Behavior) (requestId : String) (l : Simulated) :
    Settlement Simulated (Outcome Receipt) :=
  let l := { l with completedSubmissions := l.completedSubmissions + 1 }
  if behavior.submitTransportFailure then
    { provider := l, result := .failed (.transport "connection reset by peer") }
  else if behavior.rejectSubmissions then
    { provider := l, result := .returned (.failed "beacon rejected request") }
  else
    { provider := l
      result := .returned (.accepted ("mock_tx_" ++ requestId))
      notices := [.requestAccepted requestId]
      publication := behavior.publishAfter.map (⟨·, draw⟩) }

/-- The end of a query that met `behavior` when it started. -/
def settleQuery (behavior : Behavior) (number : UInt64) (l : Simulated) :
    Settlement Simulated (Outcome Lookup) where
  provider := l
  result :=
    if behavior.queryTransportFailure then .failed (.transport "query endpoint unreachable")
    else .returned ⟨l.find? number⟩

/-- What a subscribe call fails with, if it does, and the behavior that the next one meets. -/
def SubscribeFailure.next : SubscribeFailure → Option Fault × SubscribeFailure
  | .never => (none, .never)
  | .always => (some (.transport "event stream unavailable"), .always)
  | .rejected => (some (.rejected "subscriptions disabled"), .rejected)
  | .times 0 => (none, .never)
  | .times (n + 1) =>
    (some (.transport "event stream unavailable"), if n = 0 then .never else .times n)

def subscribe (topic : Topic) (l : Simulated) : Outcome SubscriptionId × Simulated :=
  let (fault, subscribeFailure) := SubscribeFailure.next l.behavior.subscribeFailure
  let l := { l with
    subscribeCalls := l.subscribeCalls + 1
    behavior := { l.behavior with subscribeFailure } }
  match fault with
  | some fault => (.failed fault, l)
  | none =>
    let id := subscriptionName l.granted
    (.returned id,
      { l with subscriptions := l.subscriptions ++ [(id, topic)], granted := l.granted + 1 })

def unsubscribe (id : SubscriptionId) (l : Simulated) : Outcome Unit × Simulated :=
  let known := l.subscriptions.any (·.1 = id)
  let l := { l with unsubscribeCalls := l.unsubscribeCalls + 1 }
  if known then (.returned (), { l with subscriptions := l.subscriptions.filter (·.1 ≠ id) })
  else (.failed (.rejected ("unknown subscription " ++ id.text)), l)

/-- A call that is settled as soon as it is taken up. -/
def atOnce {β : Type} (result : β) : Pending Simulated β :=
  ⟨0, fun l => { provider := l, result }⟩

def start : (c : Call) → Simulated → Pending Simulated (Outcome c.Reply) × Simulated
  | .submit (.requestRandomness requestId _) _, l =>
    (⟨l.behavior.submitDelay, settleSubmission l.behavior requestId⟩,
      { l with submitCalls := l.submitCalls + 1 })
  | .query (.getRandomness number) _, l =>
    (⟨l.behavior.queryDelay, settleQuery l.behavior number⟩,
      { l with queryCalls := l.queryCalls + 1 })
  | .subscribe topic _, l => let (outcome, l) := l.subscribe topic; (atOnce outcome, l)
  | .unsubscribe id, l => let (outcome, l) := l.unsubscribe id; (atOnce outcome, l)
  | .chain, l => (atOnce (.returned chainId), l)
  | .account, l => (atOnce (.returned account), l)

instance : Provider Simulated := ⟨start, store, audience⟩

def inspected (l : Simulated) : String :=
  "MockProvider \x7b chain_id: ChainId(\"" ++ chainId.text ++ "\"), subscribers: "
    ++ toString l.subscriptions.length ++ ", rounds: " ++ toString l.rounds.length ++ " \x7d"

end Simulated

end RandomBeacon
