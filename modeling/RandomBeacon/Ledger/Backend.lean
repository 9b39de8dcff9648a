import RandomBeacon.Ledger.Scripted
import RandomBeacon.Ledger.Simulated

/-!
A simulated ledger and a scripted provider side by side; one of the two answers the calls.
-/

namespace RandomBeacon

structure Backend where
  simulated : Simulated
  scripted : Scripted := {}
  /-- Whether the script answers. -/
  isScripted : Bool := false

namespace Backend

def start (c : Call) (b : Backend) : Pending Backend (Outcome c.Reply) × Backend :=
  if b.isScripted then
    let (pending, scripted) := Provider.start c b.scripted
    (pending.within Backend.scripted fun scripted b => { b with scripted }, { b with scripted })
  else
    let (pending, simulated) := Provider.start c b.simulated
    (pending.within Backend.simulated fun simulated b => { b with simulated },
      { b with simulated })

def store (r : Round) (b : Backend) : List Notice × Backend :=
  if b.isScripted then
    let (notices, scripted) := Provider.store r b.scripted
    (notices, { b with scripted })
  else
    let (notices, simulated) := Provider.store r b.simulated
    (notices, { b with simulated })

def held (b : Backend) : List SubscriptionId :=
  if b.isScripted then Provider.held b.scripted else Provider.held b.simulated

instance : Provider Backend := ⟨start, store, held⟩

end Backend

end RandomBeacon
