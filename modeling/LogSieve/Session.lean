import LogSieve.Diagnostics
import LogSieve.Drain
import LogSieve.Settings

/-!
# Sessions

A session is a use of this library from outside: builders are opened and told what to collect,
loggers are built and asked, settings are looked up. Builders, loggers and drains go by names; a
logger may stand in the place of a drain. `Session.perform` is one operation with the notices it
gives; `Session.performUnder` is what comes of it when somebody listens, and `Session.run` is a
sequence of operations.

A notice becomes a message where it is shown. One that cannot be written would end its operation
with a fault, and then only for those who listen to it.

* `written_eq_messages`: the lines that are written are those of the messages;
* `messages_append`: messages follow one another as their notices do.
-/

namespace LogSieve

/-! ## 1. Messages -/

/-- What is written of a notice: a line, and the channel it is written on. -/
structure Message where
  channel : Text
  line : Text
  deriving DecidableEq, Repr

namespace Diagnostics

open Format (TemplateFault)

/-- The messages of the notices that are shown, up to the first one that cannot be written. -/
def messages (d : Diagnostics) : List Notice → List Message × Option TemplateFault
  | [] => ([], none)
  | n :: rest =>
    if d.shows n then
      match n.line with
      | .error fault => ([], some fault)
      | .ok line =>
        let (more, fault) := messages d rest
        (⟨n.channel, line⟩ :: more, fault)
    else messages d rest

theorem written_eq_messages (d : Diagnostics) (ns : List Notice) :
    d.written ns = ((d.messages ns).1.map Message.line, (d.messages ns).2) := by
  induction ns with
  | nil => rfl
  | cons n rest ih =>
    rw [written, messages, ih]
    split
    · split
      · rename_i hline
        rw [hline]
        rfl
      · rename_i hline
        rw [hline]
        rfl
    · rfl

/-- Notices that can all be written leave no fault. -/
theorem messages_complete {d : Diagnostics} {ns : List Notice}
    (h : ∀ n ∈ ns, ∃ line, n.line = .ok line) : (d.messages ns).2 = none := by
  rw [← d.written_eq_none h, written_eq_messages]

/-- Notices that can all be written leave the messages of what follows them as they are. -/
theorem messages_append (d : Diagnostics) {ns : List Notice}
    (h : ∀ n ∈ ns, ∃ line, n.line = .ok line) (more : List Notice) :
    d.messages (ns ++ more) = ((d.messages ns).1 ++ (d.messages more).1, (d.messages more).2) := by
  induction ns with
  | nil => rfl
  | cons n rest ih =>
    obtain ⟨⟨line, hline⟩, hrest⟩ := List.forall_mem_cons.mp h
    rw [List.cons_append, messages, messages, ih hrest, hline]
    split
    · rfl
    · rfl

end Diagnostics

/-! ## 2. Operations -/

inductive Operation where
  /-- Reads a specification, with the name of a strategy. -/
  | readSpec (strategy t : Text)
  /-- Opens a builder in front of a drain, or of none. -/
  | openBuilder (builder : Text) (drain : Option Text)
  | addDirective (builder : Text) (module : Option Text) (level : Value)
  | chooseStrategy (builder strategy : Text)
  | addSpec (builder t : Text)
  | takeSettings (builder : Text) (variableName start : Option Text)
  /-- Builds a logger under a new name. -/
  | build (builder logger : Text)
  /-- Builds a logger from the settings alone. -/
  | buildNew (drain variableName : Option Text) (logger : Text)
  | enables (logger : Text) (level : Level) (module : Text)
  | log (logger : Text) (thread : Nat) (r : Record)
  | findSpec (given variableName start : Option Text)
  | findStrategy (given variableName start : Option Text)
  | loadEntries (path : Text)

/-- What an operation returns. -/
inductive Answer where
  | done
  | spec (s : Spec)
  | sieve (s : Sieve)
  | truth (b : Bool)
  | value (v : Value)
  | text (t : Option Text)
  | entries (entries : List (Text × Value))

/-- Why an operation returns nothing. -/
inductive OperationFault where
  | level (fault : Level.Fault)
  | filter (fault : Filter.Fault)
  | settings (fault : Builder.SettingsFault)
  | log (fault : LogFault)
  /-- Nothing goes by the name. -/
  | unknown (name : Text)
  /-- A notice that is shown cannot be written. -/
  | unwritten (fault : Format.TemplateFault)
  deriving DecidableEq, Repr

/-! ## 3. Sessions -/

structure Session where
  drains : List (Text × Drain) := []
  /-- The builders, each with the drain that its loggers get. -/
  builders : List (Text × Builder × Drain) := []
  /-- The loggers, each with the number of its desks, its sieve and its drain. -/
  sieves : List (Text × Nat × Sieve × Drain) := []
  /-- How many loggers have been built. -/
  loggers : Nat := 0
  store : Store := {}

namespace Session

variable [CharacterNames]

/-- What an operation comes to, and the session it leaves. -/
abbrev Outcome : Type := Except OperationFault Answer × Session

/-- The drain of a name; a logger is a drain as well. No name stands for one that keeps nothing. -/
def drain? (s : Session) : Option Text → Option Drain
  | none => some .discard
  | some name =>
    match s.drains.lookup name with
    | some drain => some drain
    | none => (s.sieves.lookup name).map fun (id, sieve, inner) => .logger id sieve inner

def putBuilder (s : Session) (name : Text) (b : Builder) (drain : Drain) : Session :=
  { s with builders := (name, b, drain) :: s.builders }

/-- A new logger with desks of its own. -/
def putLogger (s : Session) (name : Text) (sieve : Sieve) (drain : Drain) : Session :=
  { s with sieves := (name, s.loggers, sieve, drain) :: s.sieves, loggers := s.loggers + 1 }

/-- Has a builder do something. What the builder has become is kept also on failure. -/
def withBuilder (s : Session) (name : Text)
    (act : Builder → Reported (Except OperationFault Answer × Builder)) : Reported Outcome :=
  match s.builders.lookup name with
  | none => pure (.error (.unknown name), s)
  | some (b, drain) => do
    let (answer, b) ← act b
    return (answer, s.putBuilder name b drain)

/-- An operation in a world, with the notices it gives. -/
def perform (w : World) (s : Session) : Operation → Reported Outcome
  | .readSpec strategy t => do
    let read ← (Spec.parse (.text strategy) t).run
    return ((read.mapError .filter).map .spec, s)
  | .openBuilder name drain =>
    match s.drain? drain with
    | none => pure (.error (.unknown (drain.getD [])), s)
    | some drain => pure (.ok .done, s.putBuilder name {} drain)
  | .addDirective name module level => s.withBuilder name fun b =>
    match b.addNamed module level with
    | .ok b => pure (.ok .done, b)
    | .error fault => pure (.error (.level fault), b)
  | .chooseStrategy name strategy => s.withBuilder name fun b => do
    return (.ok .done, ← b.choose (.text strategy))
  | .addSpec name t => s.withBuilder name fun b => do
    match ← (b.parse t).run with
    | .ok b => return (.ok .done, b)
    | .error fault => return (.error (.filter fault), b)
  | .takeSettings name variableName start => s.withBuilder name fun b => do
    match ← b.takeSettings w variableName start with
    | (b, none) => return (.ok .done, b)
    | (b, some fault) => return (.error (.settings fault), b)
  | .build name logger =>
    match s.builders.lookup name with
    | none => pure (.error (.unknown name), s)
    | some (b, drain) => pure (.ok (.sieve b.build), s.putLogger logger b.build drain)
  | .buildNew drain variableName logger =>
    match s.drain? drain with
    | none => pure (.error (.unknown (drain.getD [])), s)
    | some drain => do
      match ← (Builder.sieveOfSettings w variableName).run with
      | .ok sieve => return (.ok (.sieve sieve), s.putLogger logger sieve drain)
      | .error fault => return (.error (.settings fault), s)
  | .enables logger level module =>
    match s.sieves.lookup logger with
    | none => pure (.error (.unknown logger), s)
    | some (_, sieve, _) => pure (.ok (.truth (sieve.enables level module)), s)
  | .log logger thread r =>
    match s.sieves.lookup logger with
    | none => pure (.error (.unknown logger), s)
    | some (id, sieve, inner) =>
      let (answer, store) := (Drain.logger id sieve inner).log thread r s.store
      pure ((answer.mapError .log).map .value, { s with store })
  | .findSpec given variableName start => do
    let found ← (w.findSpec given variableName start).run
    return ((found.mapError fun fault => .settings (.search fault)).map .text, s)
  | .findStrategy given variableName start => do
    let found ← (w.findStrategy given variableName start).run
    return ((found.mapError fun fault => .settings (.search fault)).map fun t => .text (some t), s)
  | .loadEntries path => do return (.ok (.entries (← w.loadEntries path)), s)

/-- An operation with somebody who listens: the messages that are written, and what it comes to. -/
def performUnder (d : Diagnostics) (w : World) (s : Session) (op : Operation) :
    List Message × Outcome :=
  let reported := s.perform w op
  match d.messages reported.notices with
  | (messages, none) => (messages, reported.value)
  | (messages, some fault) => (messages, .error (.unwritten fault), s)

/-- What a sequence of operations leaves. -/
structure Transcript where
  messages : List Message
  answers : List (Except OperationFault Answer)
  session : Session

/-- Operations one after the other. A failure of one of them does not keep the others back. -/
def run (d : Diagnostics) (w : World) (s : Session) : List Operation → Transcript
  | [] => ⟨[], [], s⟩
  | op :: ops =>
    let (messages, answer, s) := s.performUnder d w op
    let rest := run d w s ops
    ⟨messages ++ rest.messages, answer :: rest.answers, rest.session⟩

end Session

end LogSieve
