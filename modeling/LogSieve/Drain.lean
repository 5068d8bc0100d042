import LogSieve.Logger
import LogSieve.Sieve

/-!
# Drains

A drain takes records. It may drop them, keep them, fail, hand them to a target of the host's log,
or be a logger itself: a sieve in front of another drain. What comes out at the ends of drains is in
`Outlets`: the records kept and what the targets have seen. A `Store` has the desks of the loggers
besides, on which they lay out texts.

A logger is judged and run by the rules of `Logger`; the drain behind it works on the store, in
which its own loggers have their desks.
-/

namespace LogSieve

open Format (MessageFault)

/-! ## 1. Failures -/

/-- The kinds of failures that drains and targets may have by themselves. -/
inductive FailureKind where
  | system
  | state
  | value
  | key
  deriving DecidableEq, Repr

/-- A failure of a drain or of a target. -/
structure Failure where
  kind : FailureKind
  reason : Text
  deriving DecidableEq, Repr

/-- The text of the failure; a missing key is shown in quotes. -/
def Failure.message (f : Failure) : Text :=
  match f.kind with
  | .key => Text.quoted f.reason
  | _ => f.reason

/-- Why a record is not logged. -/
inductive LogFault where
  /-- The drain or the target at the end has failed. -/
  | failed (failure : Failure)
  /-- The text that a filter has to judge cannot be made. -/
  | unwritable (fault : MessageFault)
  /-- The host makes no entry of a mapping with one argument. -/
  | noFirstArgument
  deriving DecidableEq, Repr

def LogFault.message : LogFault → Text
  | .failed failure => failure.message
  | .unwritable fault => fault.message
  | .noFirstArgument => "0"

/-! ## 2. Outlets and stores -/

/-- A target of the host's log. -/
structure Target where
  /-- How the target fails when it gets an entry. -/
  failure : Option Failure := none
  /-- How the target fails when it is closed. -/
  closeFailure : Option Failure := none
  seen : List Entry := []
  closed : Bool := false
  deriving Repr

/-- What comes out at the ends of drains. -/
structure Outlets where
  /-- The records that each recording drain has kept. -/
  recordings : List (List Record) := []
  targets : List Target := []

namespace Outlets

/-- Keeps a record in a recording. -/
def keep (o : Outlets) (slot : Nat) (r : Record) : Outlets :=
  { o with recordings := o.recordings.modify slot (· ++ [r]) }

/-- Gives an entry to a target. -/
def deliver (slot : Nat) (e : Entry) : Action Outlets LogFault Value := fun o =>
  match (o.targets[slot]?).bind Target.failure with
  | some failure => (.error (.failed failure), o)
  | none =>
    (.ok (.bool true), { o with
      targets := o.targets.modify slot fun t => { t with seen := t.seen ++ [e] } })

end Outlets

/-- What drains change. -/
structure Store extends Outlets where
  /-- The desks of each logger. -/
  desks : List (Nat × Desks) := []

/-- The owner of a buffer: a logger and a thread. -/
structure Desk where
  logger : Nat
  thread : Nat
  deriving DecidableEq, Repr

namespace Store

/-- The desks of a logger; a new logger has none yet. -/
def desksOf (s : Store) (logger : Nat) : Desks := (s.desks.lookup logger).getD {}

/-- Gives a logger other desks. -/
def putDesks (s : Store) (logger : Nat) (d : Desks) : Store :=
  { s with desks := Table.put logger d s.desks }

/-- All buffers of all loggers are empty. -/
def IsClean (s : Store) : Prop := ∀ logger, (s.desksOf logger).AreClear

/-- Does something to the outlets only. -/
def atOutlets {α : Type} (act : Action Outlets LogFault α) : Action Store LogFault α := fun s =>
  let (answer, o) := act s.toOutlets
  (answer, { s with toOutlets := o })

/-- Does something to the store with the desks of a logger in hand. -/
def atDesks {α : Type} (logger : Nat) (act : Action (Desks × Store) LogFault α) :
    Action Store LogFault α := fun s =>
  let (answer, desks, s) := act (s.desksOf logger, s)
  (answer, s.putDesks logger desks)

end Store

/-! ## 3. Drains -/

/-- The sieve as a judge of texts. Making a text and judging it change nothing. -/
def Sieve.judge (s : Sieve) (σ : Type) : Judge σ LogFault where
  render r state := (r.render.mapError .unwritable, state)
  filter := s.filter.map fun f t state => (.ok (f.admits t), state)

/-- The text of the record, laid out on a desk, passes the filter of the sieve. -/
def Sieve.admitsAt (s : Sieve) (desk : Desk) (r : Record) : Action Store LogFault Bool :=
  Store.atDesks desk.logger ((s.judge Store).admits desk.thread r)

/-- The sieve in front of whatever takes its records. -/
def Sieve.logger {σ : Type} (s : Sieve) (drain : Record → Action σ LogFault Value) :
    Logger σ LogFault :=
  { s.judge σ with enables := s.enables, drain }

inductive Drain where
  | discard
  /-- Keeps every record and answers with a value. -/
  | recording (slot : Nat) (answer : Value)
  | failing (failure : Failure)
  /-- Hands the entries that records stand for to a target of the host's log. -/
  | host (slot : Nat)
  /-- A sieve in front of a drain; `logger` tells its desks from those of others. -/
  | logger (logger : Nat) (sieve : Sieve) (inner : Drain)

/-- The entry that a record stands for: the one it came from, or a new one with its context. -/
def Record.entryOf? (r : Record) : Option Entry :=
  match r.origin with
  | some e => some e
  | none => (Entry.make? r.module r.level.number r.msg r.args).map (·.update r.context)

/-- Hands the entry of a record to a target. -/
def Record.handOver (slot : Nat) (r : Record) : Action Outlets LogFault Value := fun o =>
  match r.entryOf? with
  | none => (.error .noFirstArgument, o)
  | some e => Outlets.deliver slot e o

/-- What a drain does with a record from a thread: its answer, and the store it leaves. -/
def Drain.log (thread : Nat) (r : Record) (store : Store) : Drain → Except LogFault Value × Store
  | discard => (.ok .none, store)
  | recording slot answer => store.atOutlets fun o => (.ok answer, o.keep slot r)
  | failing failure => (.error (.failed failure), store)
  | host slot => store.atOutlets (r.handOver slot)
  | logger id sieve inner =>
    store.atDesks id ((sieve.logger fun r store => inner.log thread r store).log thread r)

end LogSieve
