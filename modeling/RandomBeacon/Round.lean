import RandomBeacon.Text.Hex

/-!
A published round of randomness, as the ledger emits it and as handlers receive it.
-/

namespace RandomBeacon

/-- A published round in raw bytes. -/
structure Round where
  number : UInt64
  value : Vector UInt8 32
  nonce : Vector UInt8 16
  attestation : List UInt8
  deriving DecidableEq, Repr

/-- A published round with its byte fields as hexadecimal text. -/
structure Randomness where
  number : UInt64
  value : String
  nonce : String
  attestation : String
  deriving DecidableEq, Repr

/-- Hexadecimal text that starts with `0x`. -/
def prefixedHex (bytes : List UInt8) : String :=
  String.ofList ('0' :: 'x' :: Hex.encode bytes)

namespace Round

/-- What a handler receives for a round. -/
def result (r : Round) : Randomness where
  number := r.number
  value := prefixedHex r.value.toList
  nonce := prefixedHex r.nonce.toList
  attestation := prefixedHex r.attestation

end Round

end RandomBeacon
