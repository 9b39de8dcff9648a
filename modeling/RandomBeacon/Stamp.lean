import RandomBeacon.Ledger.Message

/-!
Names for requests. A name carries a stamp and a random tail. A stamp is a clock reading in
microseconds, moved past the stamp before it if need be. Callers draw stamps from one cell that
they share: each loads the last stamp and then tries to exchange it for its own, until the cell
still holds what it had seen. The cell holds a word of 64 bits. Loads are relaxed: one may show what
the cell held some exchanges ago, while an exchange compares with what it holds now.
-/

namespace RandomBeacon

/-- Nine digits or lowercase letters. -/
abbrev Suffix := Vector (Fin 36) 9

/-- A digit or lowercase letter. -/
def Suffix.symbol (n : Fin 36) : Char :=
  if n.val < 10 then Char.ofNat ('0'.toNat + n.val) else Char.ofNat ('a'.toNat + n.val - 10)

/-- The symbol on which a number falls. -/
def Suffix.pick (n : Nat) : Fin 36 := Fin.ofNat 36 n

def Suffix.text (s : Suffix) : String := String.ofList (s.toList.map symbol)

/-- The stamp that follows `last` when the clock shows `reading`. -/
def nextStamp (last reading : Nat) : Nat := max reading (last + 1)

/-- What every name of a request starts with. -/
def RequestId.mark : String := "req_"

def RequestId.ofStamp (stamp : Nat) (suffix : Suffix) : RequestId :=
  ⟨mark ++ toString stamp ++ "_" ++ suffix.text⟩

/-- Whether a text has the form of a request's name. -/
def RequestId.isWellFormed (text : String) : Bool :=
  text.startsWith mark &&
    match (text.toList.drop mark.length).span Char.isDigit with
    | (digits, '_' :: tail) =>
      !digits.isEmpty && tail.length = 9 && tail.all fun c => c.isDigit || c.isLower
    | _ => false

/-- What an addition does whose sum is past the last word: where sums are checked it panics, where
they are not it starts again at zero. -/
inductive Overflow where
  | panics
  | wraps
  deriving DecidableEq, Repr

def lastWord : UInt64 := 0xFFFFFFFFFFFFFFFF

/-- The stamp that follows `seen` when the clock shows `reading`; a panic leaves none. -/
def Overflow.stamp? (overflow : Overflow) (seen reading : UInt64) : Option UInt64 :=
  if overflow = .panics ∧ seen = lastWord then none else some (max reading (seen + 1))

/-- One who draws a stamp. -/
inductive Drawer where
  /-- Has read the clock. -/
  | arrived (reading : UInt64)
  /-- Believes that the cell holds `seen`. -/
  | trying (reading seen : UInt64)
  | holding (stamp : UInt64)
  /-- Has panicked. -/
  | lost
  deriving DecidableEq, Repr

def Drawer.stamp? : Drawer → Option UInt64
  | holding stamp => some stamp
  | arrived _ | trying _ _ | lost => none

/-- The cell with the last stamp, and those who draw from it. -/
structure Mint where
  drawers : List Drawer := []
  /-- The exchanges: which drawer has put which stamp into the cell, newest first. -/
  drawn : List (Nat × UInt64) := []
  deriving DecidableEq, Repr

namespace Mint

/-- The stamps drawn, newest first. -/
def stamps (m : Mint) : List UInt64 := m.drawn.map (·.2)

/-- What the cell held before its last `age` exchanges. At first it holds zero. -/
def shows (age : Nat) (m : Mint) : UInt64 := m.stamps.getD age 0

/-- What the cell holds. -/
def last (m : Mint) : UInt64 := m.shows 0

/-- The stamp that drawer number `i` holds. -/
def held? (m : Mint) (i : Nat) : Option UInt64 := m.drawers[i]?.bind Drawer.stamp?

/-- Puts drawer number `i` into another state. -/
def put (i : Nat) (d : Drawer) (m : Mint) : Mint := { m with drawers := m.drawers.set i d }

/-- Another drawer comes with its clock reading. -/
def arrive (reading : UInt64) (m : Mint) : Mint :=
  { m with drawers := m.drawers ++ [.arrived reading] }

/-- Drawer number `i` loads the cell. -/
def load (i age : Nat) (m : Mint) : Mint :=
  match m.drawers[i]? with
  | some (.arrived reading) => m.put i (.trying reading (m.shows age))
  | _ => m

/-- Drawer number `i` tries to exchange what it has seen for its own stamp. A try may fail
without a reason; one that fails loads the cell again. -/
def exchange (overflow : Overflow) (i : Nat) (spurious : Bool) (age : Nat) (m : Mint) : Mint :=
  match m.drawers[i]? with
  | some (.trying reading seen) =>
    match overflow.stamp? seen reading with
    | none => m.put i .lost
    | some stamp =>
      if m.last = seen ∧ ¬spurious then
        { m.put i (.holding stamp) with drawn := (i, stamp) :: m.drawn }
      else m.put i (.trying reading (m.shows age))
  | _ => m

/-- What happens next at a mint. -/
inductive Move where
  | arrive (reading : UInt64)
  | load (drawer age : Nat)
  | exchange (drawer : Nat) (spurious : Bool) (age : Nat)
  deriving DecidableEq, Repr

def move (overflow : Overflow) (m : Mint) : Move → Mint
  | .arrive reading => m.arrive reading
  | .load i age => m.load i age
  | .exchange i spurious age => m.exchange overflow i spurious age

/-- A new mint after these moves, one after the other. -/
def after (overflow : Overflow) (moves : List Move) : Mint := moves.foldl (move overflow) {}

end Mint

end RandomBeacon
