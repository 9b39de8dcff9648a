import RandomBeacon.Demo.Program

/-!
The command line of the demonstration.
-/

namespace RandomBeacon.Demo

/-- What is found under a path. -/
def readFile (path : String) : IO Config.File := do
  try
    return .content (← IO.FS.readBinFile path)
  catch
    | .noFileOrDirectory .. => return .missing
    | _ => return .directory

/-- Random bytes, so many for each draw. -/
def drawBytes (n : Nat) (size : Nat) : IO (Nat → Vector UInt8 size) := do
  let bytes ← IO.getRandomBytes (USize.ofNat (n * size))
  return fun draw => Vector.ofFn fun i => bytes[draw * size + i.val]?.getD 0

/-- What a session of `n` requests needs of chance. -/
def drawChance (n : Nat) : IO Chance := do
  let values ← drawBytes n 32
  let nonces ← drawBytes n 16
  let attestations ← drawBytes n 64
  let tails ← drawBytes n 9
  let stretches ← drawBytes n 2
  return {
    contents := fun draw => ⟨values draw, nonces draw, attestations draw⟩
    suffixes := fun draw => (tails draw).map fun byte => Suffix.pick byte.toNat
    factors := fun draw =>
      let stretch := (stretches draw).toList.foldl (fun n byte => 256 * n + byte.toNat) 0
      .ofRatio false (10 * 65536 + 3 * stretch) (10 * 65536) }

end RandomBeacon.Demo

open RandomBeacon Demo in
def main (arguments : List String) : IO UInt32 := do
  let (file, requests) ← match readArguments arguments with
    | .run o => do pure (← o.config.mapM readFile, o.requests)
    | _ => pure (none, 0)
  let exit := Demo.run (fun _ => file.getD .missing) (← drawChance requests) arguments
  if let .finished c := exit then IO.sleep (UInt32.ofNat c.elapsed)
  IO.print exit.output
  IO.eprint exit.complaint
  return UInt32.ofNat exit.code
