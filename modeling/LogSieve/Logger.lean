import LogSieve.Buffer
import LogSieve.Record
import LogSieve.Table

/-!
# Loggers

A logger stands in front of whatever takes its records. It asks its levels first, then has the text
of the record judged, and hands the record on when both let it pass. The text is laid out in a
buffer, of which a logger has one for each thread, and which is emptied on every way out.

Making texts, judging them and taking records are left open: each is an `Action` on a state that the
logger does not look into, and each may fail. A drain built from parts of this library (`Drain`) is
one way to fill them in.
-/

namespace LogSieve

/-- What is done to a state: the answer or the failure, and in either case the state that is left.
-/
abbrev Action (σ ε α : Type) := σ → Except ε α × σ

/-! ## 1. Desks -/

/-- The buffers of a logger, each with the thread it belongs to. -/
structure Desks where
  buffers : List (Nat × Buffer) := []

namespace Desks

/-- The buffer of a thread; a new one is empty. -/
def bufferOf (d : Desks) (thread : Nat) : Buffer := (d.buffers.lookup thread).getD {}

/-- Gives a thread another buffer. -/
def put (d : Desks) (thread : Nat) (b : Buffer) : Desks :=
  ⟨Table.put thread b d.buffers⟩

/-- Empties the buffer of a thread. -/
def clear (d : Desks) (thread : Nat) : Desks := d.put thread (d.bufferOf thread).clear

/-- All buffers are empty and written from the start. -/
def AreClear (d : Desks) : Prop := ∀ thread, d.bufferOf thread = {}

theorem bufferOf_put (d : Desks) (thread other : Nat) (b : Buffer) :
    (d.put thread b).bufferOf other = if other = thread then b else d.bufferOf other := by
  rw [bufferOf, put, Table.lookup_put]
  split
  · rfl
  · rfl

@[simp] theorem bufferOf_put_self (d : Desks) (thread : Nat) (b : Buffer) :
    (d.put thread b).bufferOf thread = b := by
  rw [bufferOf_put, if_pos rfl]

theorem areClear_new : ({} : Desks).AreClear := fun _ => rfl

/-- Emptying the one buffer that has been written to leaves all of them empty. -/
theorem AreClear.clear_put {d : Desks} (h : d.AreClear) (thread : Nat) (b : Buffer) :
    ((d.put thread b).clear thread).AreClear := by
  intro other
  rw [Desks.clear, bufferOf_put, Buffer.clear_eq]
  by_cases ho : other = thread
  · rw [if_pos ho]
  · rw [if_neg ho, bufferOf_put, if_neg ho, h other]

theorem AreClear.clear {d : Desks} (h : d.AreClear) (thread : Nat) : (d.clear thread).AreClear := by
  intro other
  rw [Desks.clear, bufferOf_put, Buffer.clear_eq, h other, ite_self]

end Desks

/-! ## 2. Judging texts -/

/-- What a logger judges texts by. -/
structure Judge (σ ε : Type) where
  /-- Makes the text of a record. -/
  render : Record → Action σ ε Text
  /-- Judges a text. Without a filter no text is made. -/
  filter : Option (Text → Action σ ε Bool)

namespace Judge

variable {σ ε : Type}

/-- Writes the text of the record into the thread's buffer and judges what stands there. -/
def layOut (j : Judge σ ε) (filter : Text → Action σ ε Bool) (thread : Nat) (r : Record) :
    Action (Desks × σ) ε Bool
  | (desks, s) =>
    match j.render r s with
    | (.error fault, s) => (.error fault, desks, s)
    | (.ok t, s) =>
      let desks := desks.put thread ((desks.bufferOf thread).write t)
      let (answer, s) := filter (desks.bufferOf thread).contents s
      (answer, desks, s)

/-- The text of the record passes the filter, if there is one. The buffer is emptied whatever comes
of it. -/
def admits (j : Judge σ ε) (thread : Nat) (r : Record) : Action (Desks × σ) ε Bool
  | (desks, s) =>
    match j.filter with
    | none => (.ok true, desks, s)
    | some filter =>
      let (answer, desks, s) := j.layOut filter thread r (desks, s)
      (answer, desks.clear thread, s)

end Judge

/-! ## 3. Loggers -/

structure Logger (σ ε : Type) extends Judge σ ε where
  /-- The levels let records of the module pass at the level. -/
  enables : Level → Text → Bool
  /-- Takes the records that pass. -/
  drain : Record → Action σ ε Value

/-- What a logger does with a record from a thread. A record that is dropped is answered with
nothing; the answers and failures of the drain are passed on. -/
def Logger.log {σ ε : Type} (l : Logger σ ε) (thread : Nat) (r : Record) :
    Action (Desks × σ) ε Value
  | (desks, s) =>
    if l.enables r.level r.module then
      match l.admits thread r (desks, s) with
      | (.error fault, state) => (.error fault, state)
      | (.ok false, state) => (.ok .none, state)
      | (.ok true, desks, s) =>
        let (answer, s) := l.drain r s
        (answer, desks, s)
    else (.ok .none, desks, s)

end LogSieve
