import LogSieve.Format.Message
import LogSieve.Level

/-!
# Entries of the host's log

The program that is being logged has a log of its own, with numbers for levels. An entry of it
carries the name of its logger, the number of its level, a message with arguments, and further
attributes under names that the host does not use itself.

`update` sets attributes, also those the host uses: `part_update` says what comes of a part of the
entry that one name reaches, `update_of_fresh` that attributes of other names are kept as they are
given. `message` is the message with its arguments, `shownText` what comes of asking the entry for
its text.
-/

namespace LogSieve

open Format (Args MessageFault)

/-- An entry of the host's log. Its name, number and label are values, since they can be set. -/
structure Entry where
  name : Value
  number : Value
  /-- The name of the level. -/
  label : Value
  msg : Value
  args : Args
  /-- The attributes that the host does not use itself, in the order in which they were set. -/
  context : List (Text × Value) := []
  deriving Repr, Inhabited

namespace Entry

/-! ## 1. Making entries -/

/-- The name of a level of the host's log. -/
def labelOf (number : Int) : Text :=
  if number = 50 then "CRITICAL"
  else if number = 40 then "ERROR"
  else if number = 30 then "WARNING"
  else if number = 20 then "INFO"
  else if number = 10 then "DEBUG"
  else if number = 0 then "NOTSET"
  else "Level " ++ showInt number

/-- The arguments as an entry keeps them: a single mapping with something in it stands for itself.
A mapping of one entry that is no member of a tuple is asked for its first argument in vain. -/
def argsOf? : Args → Option Args
  | .tuple [.mapping (e :: es)] => some (.single (.mapping (e :: es)))
  | .single (.mapping [_]) => none
  | args => some args

/-- The entry of a message, unless its arguments are asked for one they do not have. -/
def make? (name : Text) (number : Int) (msg : Value) (args : Args) : Option Entry :=
  (argsOf? args).map fun args =>
    { name := .text name, number := .int number, label := .text (labelOf number), msg, args }

/-! ## 2. Attributes -/

/-- The names of the attributes that the host uses itself. -/
def hostNames : List Text :=
  ["name", "msg", "args", "levelname", "levelno", "pathname", "filename", "module", "exc_info",
   "exc_text", "stack_info", "lineno", "funcName", "created", "msecs", "relativeCreated", "thread",
   "threadName", "processName", "process", "message", "asctime"]

/-- The entry with one attribute set. Attributes of the host that play no part here are dropped. -/
def set (e : Entry) (name : Text) (v : Value) : Entry :=
  if name = "name" then { e with name := v }
  else if name = "levelno" then { e with number := v }
  else if name = "levelname" then { e with label := v }
  else if name = "msg" then { e with msg := v }
  else if name = "args" then { e with args := .single v }
  else if name ∈ hostNames then e
  else { e with context := Value.insert name v e.context }

/-- The entry with attributes set one after the other. -/
def update (e : Entry) (attributes : List (Text × Value)) : Entry :=
  attributes.foldl (fun e (name, v) => e.set name v) e

theorem set_of_not_mem {name : Text} (h : name ∉ hostNames) (e : Entry) (v : Value) :
    e.set name v = { e with context := Value.insert name v e.context } := by
  have hne : ∀ n ∈ hostNames, name ≠ n := fun n hn he => h (he ▸ hn)
  unfold set
  rw [if_neg (hne _ (by simp [hostNames])), if_neg (hne _ (by simp [hostNames])),
    if_neg (hne _ (by simp [hostNames])), if_neg (hne _ (by simp [hostNames])),
    if_neg (hne _ (by simp [hostNames])), if_neg h]

/-- An attribute under a name of its own changes nothing else. -/
theorem lookup_context_set {name : Text} (h : name ∉ hostNames) (e : Entry) (v : Value) (k : Text) :
    (e.set name v).context.lookup k = if k = name then some v else e.context.lookup k := by
  rw [set_of_not_mem h]; exact Value.lookup_insert name v e.context k

/-! ### What each attribute reaches -/

theorem name_set (e : Entry) (name : Text) (v : Value) :
    (e.set name v).name = if name = "name" then v else e.name := by
  unfold set
  repeat' split
  all_goals rfl

theorem number_set (e : Entry) (name : Text) (v : Value) :
    (e.set name v).number = if name = "levelno" then v else e.number := by
  by_cases h : name = "levelno"
  · subst h
    rfl
  · unfold set
    rw [if_neg h, if_neg h]
    repeat' split
    all_goals rfl

theorem msg_set (e : Entry) (name : Text) (v : Value) :
    (e.set name v).msg = if name = "msg" then v else e.msg := by
  by_cases h : name = "msg"
  · subst h
    rfl
  · unfold set
    rw [if_neg h, if_neg h]
    repeat' split
    all_goals rfl

theorem args_set (e : Entry) (name : Text) (v : Value) :
    (e.set name v).args = if name = "args" then .single v else e.args := by
  by_cases h : name = "args"
  · subst h
    rfl
  · unfold set
    rw [if_neg h, if_neg h]
    repeat' split
    all_goals rfl

theorem context_set_of_mem {name : Text} (h : name ∈ hostNames) (e : Entry) (v : Value) :
    (e.set name v).context = e.context := by
  unfold set
  rw [if_pos h]
  repeat' split
  all_goals rfl

theorem lookup_set {key : Text} (h : key ∉ hostNames) (e : Entry) (name : Text) (v : Value) :
    (e.set name v).context.lookup key = if name = key then some v else e.context.lookup key := by
  by_cases hn : name ∈ hostNames
  · have hne : name ≠ key := fun he => h (he ▸ hn)
    rw [context_set_of_mem hn, if_neg hne]
  · rw [lookup_context_set hn]
    simp only [eq_comm]

/-- A part of the entry that one name reaches, and no other, is what is given under that name, if
anything is. -/
theorem part_update {α : Type} {part : Entry → α} {key : Text} {given : Value → α}
    (h : ∀ e name v, part (e.set name v) = if name = key then given v else part e)
    {attributes : List (Text × Value)} (hd : Value.HaveDistinctKeys attributes) (e : Entry) :
    part (e.update attributes) = ((attributes.lookup key).map given).getD (part e) := by
  induction attributes generalizing e with
  | nil => rfl
  | cons p rest ih =>
    obtain ⟨name, v⟩ := p
    obtain ⟨hname, hrest⟩ := List.nodup_cons.mp hd
    show part ((e.set name v).update rest) = _
    rw [ih hrest, h]
    by_cases hk : name = key
    · subst hk
      rw [Value.lookup_of_not_mem hname, List.lookup_cons_self, if_pos rfl]
      rfl
    · have hk' : (key == name) = false := by simpa using Ne.symm hk
      rw [if_neg hk, List.lookup_cons, hk']

/-- Attributes under names of their own that are new to the entry are added to its context, in their
order. -/
theorem update_of_fresh {attributes : List (Text × Value)}
    (hd : Value.HaveDistinctKeys attributes) (hn : ∀ p ∈ attributes, p.1 ∉ hostNames) (e : Entry)
    (hf : ∀ p ∈ attributes, p.1 ∉ e.context.map Prod.fst) :
    e.update attributes = { e with context := e.context ++ attributes } := by
  induction attributes generalizing e with
  | nil => rw [List.append_nil]; rfl
  | cons p rest ih =>
    obtain ⟨hname, hrest⟩ := List.nodup_cons.mp hd
    obtain ⟨hp, hnrest⟩ := List.forall_mem_cons.mp hn
    obtain ⟨hfresh, hfrest⟩ := List.forall_mem_cons.mp hf
    have hset : e.set p.1 p.2 = { e with context := e.context ++ [p] } := by
      rw [set_of_not_mem hp, Value.insert_of_not_mem hfresh]
    show (e.set p.1 p.2).update rest = _
    rw [hset, ih hrest hnrest]
    · rw [List.append_assoc, List.singleton_append]
    · intro q hq hmem
      rw [List.map_append, List.mem_append] at hmem
      rcases hmem with hmem | hmem
      · exact hfrest q hq hmem
      · rw [List.map_singleton, List.mem_singleton] at hmem
        exact hname (hmem ▸ List.mem_map_of_mem hq)

/-! ## 3. The message -/

/-- The message of the entry with its arguments set in. -/
def message (e : Entry) : Except MessageFault Text := do
  let text ← Format.printedAs Value.display e.msg
  if e.args.areGiven then Format.fill text e.args else return text

theorem message_of_isPrintable {e : Entry} (h : e.msg.isPrintable = true) :
    e.message =
      if e.args.areGiven then Format.fill e.msg.display e.args else .ok e.msg.display := by
  rw [message, Format.printedAs_of_isPrintable _ h]
  rfl

theorem message_of_not_isPrintable {e : Entry} (h : e.msg.isPrintable = false) :
    e.message = .error .integerTooLong := by
  rw [message, Format.printedAs_of_not_isPrintable _ h]
  rfl

/-- Why the host has no text to show for an entry. -/
inductive TextFault where
  /-- The message cannot be made. -/
  | unmade (fault : MessageFault)
  /-- An attribute is in the way that is no way to make a text. -/
  | hidden (kindName : Text)
  deriving DecidableEq, Repr

def TextFault.message : TextFault → Text
  | .unmade fault => fault.message
  | .hidden kind => '\'' :: kind ++ "' object is not callable"

/-- The name under which an entry is asked for its text. -/
def textName : Text := "getMessage"

/-- What comes of asking the entry for its text. An attribute of the name under which it is asked
stands in front of the message. -/
def shownText (e : Entry) : Except TextFault Text :=
  match e.context.lookup textName with
  | some v => .error (.hidden v.kindName)
  | none => e.message.mapError .unmade

end Entry

end LogSieve
