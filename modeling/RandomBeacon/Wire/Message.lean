import RandomBeacon.Json.Printer
import RandomBeacon.Json.Reader
import RandomBeacon.Ledger.Message
import RandomBeacon.Lifecycle
import RandomBeacon.Wire.Field

/-!
The JSON forms of what goes over the wire. Each type is written in one form and read from every
form that the rules of `Wire.Field` allow.
-/

namespace RandomBeacon

/-- A type with a JSON form. -/
class Wire (α : Type) where
  toJson : α → Json
  ofJson? : Json → Option α

namespace Wire

/-- The JSON text of a value. -/
def write {α : Type} [Wire α] (a : α) : String := (toJson a).render

/-- The value that a JSON text spells. -/
def read? {α : Type} [Wire α] (s : String) : Option α := (Json.parse? s).bind ofJson?

end Wire

open Json.Field (required optional)

instance : Wire ChainId := ⟨fun id => .text id.text, fun j => j.text?.map ChainId.mk⟩

instance : Wire SubscriptionId :=
  ⟨fun id => .text id.text, fun j => j.text?.map SubscriptionId.mk⟩

instance : Wire RequestId := ⟨fun id => .text id.text, fun j => j.text?.map RequestId.mk⟩

instance : Wire RegistrationId :=
  ⟨fun id => .text id.text, fun j => j.text?.map RegistrationId.mk⟩

instance : Wire Topic where
  toJson topic := .text topic.name
  ofJson? j := do
    if (← j.caseName?) = Topic.name .randomnessPublished then some .randomnessPublished else none

instance : Wire Lifecycle where
  toJson state := .text state.name
  ofJson? j := j.caseName?.bind Lifecycle.ofName?

def byteArray (bytes : List UInt8) : Json := .array (bytes.map fun b => .nat b.toNat)

namespace Round

def fieldNames : List String := ["roundId", "random_number", "nonce", "attestation"]

def toJson (r : Round) : Json :=
  .record [("roundId", .nat r.number.toNat), ("random_number", byteArray r.value.toList),
    ("nonce", byteArray r.nonce.toList), ("attestation", byteArray r.attestation)]

def ofJson? (j : Json) : Option Round := do
  let [number, value, nonce, attestation] ← j.fields? fieldNames | none
  return {
    number := ← required Json.uint64? number
    value := ← required (Json.byteVector? 32) value
    nonce := ← required (Json.byteVector? 16) nonce
    attestation := ← required Json.bytes? attestation }

end Round

instance : Wire Round := ⟨Round.toJson, Round.ofJson?⟩

instance : Wire Randomness where
  toJson r := .record [("roundId", .nat r.number.toNat), ("randomNumber", .text r.value),
    ("nonce", .text r.nonce), ("attestation", .text r.attestation)]
  ofJson? j := do
    let [number, value, nonce, attestation] ←
      j.fields? ["roundId", "randomNumber", "nonce", "attestation"] | none
    return {
      number := ← required Json.uint64? number
      value := ← required Json.text? value
      nonce := ← required Json.text? nonce
      attestation := ← required Json.text? attestation }

instance : Wire Lookup where
  toJson l := .record [("result", l.round.elim .null Round.toJson)]
  ofJson? j := do
    let [round] ← j.fields? ["result"] | none
    return ⟨← optional Round.ofJson? round⟩

instance : Wire Receipt where
  toJson r := .record (("success", .bool r.success)
    :: r.error.toList.map (fun e => ("error", .text e))
    ++ r.transaction.toList.map (fun t => ("transactionId", .text t)))
  ofJson? j := do
    let [success, error, transaction] ← j.fields? ["success", "error", "transactionId"] | none
    return {
      success := ← required Json.bool? success
      error := ← optional Json.text? error
      transaction := ← optional Json.text? transaction }

instance : Wire Account where
  toJson a := .record [("owner", .text a.owner), ("balance", .nat a.balance.toNat)]
  ofJson? j := do
    let [owner, balance] ← j.fields? ["owner", "balance"] | none
    let balance ← required (Json.natBelow? (Nat.pow 2 128)) balance
    return ⟨← required Json.text? owner, BitVec.ofNat 128 balance⟩

namespace Operation

def toJson : Operation → Json
  | requestRandomness requestId timestamp =>
    .record [("type", .text "RequestRandomness"),
      ("data", .record [("requestId", .text requestId), ("timestamp", .nat timestamp.toNat)])]

/-- Reads an operation; its content is an object. -/
def ofJson? (j : Json) : Option Operation := do
  let (tag, data) ← j.tagged? 0
  if tag ≠ "RequestRandomness" then none
  let [requestId, timestamp] ← data.namedFields? ["requestId", "timestamp"] | none
  return .requestRandomness (← required Json.text? requestId)
    (← required Json.uint64? timestamp)

end Operation

instance : Wire Operation := ⟨Operation.toJson, Operation.ofJson?⟩

namespace Query

def toJson : Query → Json
  | getRandomness round =>
    .record [("type", .text "GetRandomness"), ("data", .record [("roundId", .nat round.toNat)])]

/-- Reads a query; its content is an object. -/
def ofJson? (j : Json) : Option Query := do
  let (tag, data) ← j.tagged? 0
  if tag ≠ "GetRandomness" then none
  let [round] ← data.namedFields? ["roundId"] | none
  return .getRandomness (← required Json.uint64? round)

end Query

instance : Wire Query := ⟨Query.toJson, Query.ofJson?⟩

/-- A request carries no tag of its own: it is held back and tried as an operation, then as a
query. -/
instance : Wire Request where
  toJson
    | .operation op => op.toJson
    | .query q => q.toJson
  ofJson? j := do
    let j ← j.hold? 0
    (Operation.ofJson? j).map .operation <|> (Query.ofJson? j).map .query

end RandomBeacon
