import LogSieve.Diagnostics

/-!
# The console

Notices and results are written in one place. It has a voice, which says what notices are shown and
where they are written; before it is set up, it is made on its first use. Results go to an output of
their own, and depend on the verbosity alone.

An action leaves its console also when it fails: what it has written and set before stays.

* `use_setUp`: setting up either puts a new voice in place, or fails and does nothing;
* `useAll`: one use after the other.
-/

namespace LogSieve

open Format (TemplateFault)

/-! ## 1. Voices -/

/-- The outputs. -/
inductive Outlet where
  | results
  /-- The output for errors, whichever this is when a line is written. -/
  | errors
  /-- An output that has been given when the voice was set up. -/
  | given (name : Text)
  deriving DecidableEq, Repr

/-- What notices are shown, and where they are written. -/
structure Voice where
  diagnostics : Diagnostics := {}
  outlet : Outlet := .errors
  deriving DecidableEq, Repr

structure Console where
  /-- The voice, once it has been set up or used. -/
  voice? : Option Voice := none
  /-- The lines that have been written, each with its output. -/
  written : List (Outlet × Text) := []
  deriving DecidableEq, Repr

namespace Console

/-- The voice in force. -/
def voice (c : Console) : Voice := c.voice?.getD {}

/-- The console with its voice in place. -/
def withVoice (c : Console) : Console := { c with voice? := some c.voice }

/-! ## 2. Actions -/

/-- Why an action fails. -/
inductive Fault where
  | channel (fault : IntegerFault)
  /-- A notice that is shown cannot be written. -/
  | unwritten (fault : TemplateFault)
  deriving DecidableEq, Repr

abbrev Action (α : Type) : Type := ExceptT Fault (StateM Console) α

/-- Makes a voice if there is none. -/
def useVoice : Action Voice := do
  modify withVoice
  return (← get).voice

def write (outlet : Outlet) (line : Text) : Action Unit :=
  modify fun c => { c with written := c.written ++ [(outlet, line)] }

/-- Sets up a voice with a verbosity and with channel settings. -/
def setUp (verbosity : Int) (channels : List Text) (outlet : Outlet) : Action Diagnostics := do
  match Diagnostics.ofChannels verbosity channels with
  | .error fault => throw (.channel fault)
  | .ok diagnostics => do
    modify fun c => { c with voice? := some { diagnostics, outlet } }
    return diagnostics

/-- Gives a notice: writes its line when it is shown. -/
def say (n : Notice) : Action Unit := do
  let v ← useVoice
  if v.diagnostics.shows n then
    match n.line with
    | .ok line => write v.outlet line
    | .error fault => throw (.unwritten fault)

/-- Writes the line of a result, when results are shown. -/
def print (line : Text) : Action Unit := do
  let v ← useVoice
  if v.diagnostics.showsResults then write .results line

/-- The threshold of a channel. -/
def threshold (channel : Text) : Action Int := do return (← useVoice).diagnostics.threshold channel

theorem run_setUp (verbosity : Int) (channels : List Text) (outlet : Outlet) (c : Console) :
    (setUp verbosity channels outlet).run.run c =
      match Diagnostics.ofChannels verbosity channels with
      | .ok d => (.ok d, { c with voice? := some { diagnostics := d, outlet } })
      | .error fault => (.error (.channel fault), c) := by
  unfold setUp
  cases Diagnostics.ofChannels verbosity channels with
  | ok d => rfl
  | error fault => rfl

/-! ## 3. Uses -/

/-- What a console is used for. A warning or an error is a notice; the lines of a report are results
unless they tell of an error. -/
inductive Use where
  | setUp (verbosity : Int) (channels : List Text) (outlet : Outlet)
  | say (n : Notice)
  | print (line : Text)
  | threshold (channel : Text)

/-- What comes of a use. -/
inductive Reply where
  | done
  | installed (d : Diagnostics)
  | threshold (level : Int)
  deriving DecidableEq, Repr

def Use.action : Use → Action Reply
  | .setUp verbosity channels outlet => do
    return .installed (← Console.setUp verbosity channels outlet)
  | .say n => do
    Console.say n
    return .done
  | .print line => do
    Console.print line
    return .done
  | .threshold channel => return .threshold (← Console.threshold channel)

/-- A use, and the console it leaves. -/
def use (c : Console) (u : Use) : Except Fault Reply × Console := u.action.run.run c

theorem use_setUp (c : Console) (verbosity : Int) (channels : List Text) (outlet : Outlet) :
    c.use (.setUp verbosity channels outlet) =
      match Diagnostics.ofChannels verbosity channels with
      | .ok d => (.ok (.installed d), { c with voice? := some { diagnostics := d, outlet } })
      | .error fault => (.error (.channel fault), c) := by
  rw [use, Use.action, ExceptT.run_bind, StateT.run_bind, run_setUp]
  cases Diagnostics.ofChannels verbosity channels with
  | ok d => rfl
  | error fault => rfl

/-- Uses one after the other. A failure of one of them does not keep the others back. -/
def useAll (c : Console) : List Use → List (Except Fault Reply) × Console
  | [] => ([], c)
  | u :: us =>
    let (reply, c) := c.use u
    let (replies, c) := useAll c us
    (reply :: replies, c)

end Console

end LogSieve
