import LogSieve.Drain

/-!
# Gates

A gate stands between the host's log and one of its targets: it turns entries into records, lets a
logger judge them, and hands those that pass on as the very entries they came from. A failure on the
way ends with the gate and is reported to the host, one for each entry at most; nothing escapes.
-/

namespace LogSieve

/-- A sieve in front of a target of the host's log. -/
structure Gate where
  /-- The number of the gate's logger. -/
  logger : Nat
  sieve : Sieve
  /-- The slot of the target. -/
  target : Nat

/-- Why an entry is not handled. -/
inductive GateFault where
  | entry (fault : EntryFault)
  | log (fault : LogFault)
  deriving DecidableEq, Repr

def GateFault.message : GateFault → Text
  | .entry fault => fault.message
  | .log fault => fault.message

namespace Gate

/-- The logger behind the gate. -/
def drain (g : Gate) : Drain := .logger g.logger g.sieve (.host g.target)

/-- What becomes of an entry: the failure reported to the host, if any, and the store. -/
def handle (thread : Nat) (g : Gate) (e : Entry) (store : Store) : Option GateFault × Store :=
  match Record.ofEntry e with
  | .error fault => (some (.entry fault), store)
  | .ok r =>
    match g.drain.log thread r store with
    | (.error fault, store) => (some (.log fault), store)
    | (.ok _, store) => (none, store)

/-- The least number of an entry that the gate can let through. -/
def lowestNumber (g : Gate) : Int := g.sieve.maxLevel.number

end Gate

/-- Closes a target, which may fail after it has been closed. -/
def Store.close (store : Store) (slot : Nat) : Option Failure × Store :=
  ((store.targets[slot]?).bind Target.closeFailure,
    { store with targets := store.targets.modify slot fun t => { t with closed := true } })

end LogSieve
