import RandomBeacon.Backoff
import RandomBeacon.Ledger.Backend
import RandomBeacon.Stamp

/-!
Stand-ins for chance in scripted runs, which show the form of what is random and not its content,
and whether a delay keeps its bounds under a sample of the factors that jitter may draw.
-/

namespace RandomBeacon.Scenario

/-- Bytes that differ from one draw to the next. -/
def sampleBytes (n : Nat) (draw : Nat) : Vector UInt8 n :=
  Vector.ofFn fun i => UInt8.ofNat (draw / Nat.pow 256 (i.val % 8) + 31 * i.val)

def sampleContent (draw : Nat) : RoundContent where
  value := sampleBytes 32 draw
  nonce := sampleBytes 16 draw
  attestation := sampleBytes 64 draw

def sampleSuffix (draw : Nat) : Suffix :=
  Vector.ofFn fun i => Suffix.pick (draw / Nat.pow 36 i.val)

/-- A factor strictly between the least and the greatest that jitter may draw. -/
def sampleFactor (_ : Nat) : Binary64 := .ofRatio false 115 100

/-- A simulated ledger that has seen nothing. -/
def freshLedger (behavior : Behavior) : Simulated := { behavior, contents := sampleContent }

end RandomBeacon.Scenario

namespace RandomBeacon.Backoff

/-- Factors that jitter may draw, spread evenly from 1 to 1.3. -/
def jitterSample : List Binary64 :=
  (List.range 50).map fun k => .ofRatio false (490 + 3 * k) 490

/-- A jittered delay is at most this, the rounding included. -/
def jitterBound (plain : Nat) : Nat := plain + (3 * plain + 9) / 10 + 1

/-- Whether jitter only ever makes this delay longer, and by no more than its bound. -/
def jitterHolds (attempt base cap : Nat) (multiplier : Binary64) : Bool :=
  let plain := delay attempt base cap multiplier
  jitterSample.all fun factor =>
    let jittered := stretched attempt base cap multiplier factor
    plain ≤ jittered && jittered ≤ jitterBound plain

end RandomBeacon.Backoff
