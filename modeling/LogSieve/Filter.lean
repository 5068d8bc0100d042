import LogSieve.Pattern.Matcher
import LogSieve.Pattern.Parser
import LogSieve.Value

/-!
# Content filters

A filter judges the text of a message: it looks for a match of a regular expression or for a plain
piece of text, anywhere in the message. The strategy says which of the two a filter text stands for.
Plain texts always make a filter, expressions only when they are well formed.

* `pattern_of_build`: a filter keeps the text it was made from;
* `admits_substring_iff`: what a plain filter lets through.
-/

namespace LogSieve

/-! ## 1. Strategies -/

inductive Strategy where
  | regex
  | substring
  deriving DecidableEq, Repr, Inhabited

namespace Strategy

def name : Strategy → Text
  | regex => "regex"
  | substring => "substring"

def all : List Strategy := [regex, substring]

/-- The strategy of a name. -/
def ofName? (t : Text) : Option Strategy := all.find? fun s => s.name = t

/-- The strategy that a value names; only texts name one. -/
def ofValue? : Value → Option Strategy
  | .text t => ofName? t
  | _ => none

@[simp] theorem ofName?_name (s : Strategy) : ofName? s.name = some s := by cases s <;> rfl

theorem eq_name_of_ofName? {t : Text} {s : Strategy} (h : ofName? t = some s) : t = s.name := by
  have := List.find?_some h
  exact (of_decide_eq_true this).symm

theorem eq_text_of_ofValue? {v : Value} {s : Strategy} (h : ofValue? v = some s) :
    v = .text s.name := by
  unfold ofValue? at h
  split at h
  · exact congrArg Value.text (eq_name_of_ofName? h)
  · cases h

end Strategy

/-! ## 2. Filters -/

/-- A filter on the text of messages, with the text it was made from. -/
inductive Filter where
  | regex (pattern : Text) (node : Pattern.Node) (flags : Pattern.Flags)
  | substring (pattern : Text)

namespace Filter

def pattern : Filter → Text
  | regex p _ _ => p
  | substring p => p

def strategy : Filter → Strategy
  | regex .. => .regex
  | substring _ => .substring

/-- The name of the kind of filter. -/
def kindName : Filter → Text
  | regex .. => "RegexFilter"
  | substring _ => "SubstringFilter"

/-- The long form of the filter. -/
def describe (f : Filter) : Text := f.kindName ++ "(" ++ Text.quoted f.pattern ++ ")"

/-- The filter lets the text through. -/
def admits (f : Filter) (t : Text) : Bool :=
  match f with
  | regex _ node flags => node.search flags t
  | substring p => Text.occursIn p t

/-! ## 3. Making filters -/

/-- Why a filter is not made. -/
inductive Fault where
  /-- No strategy has the name. -/
  | unknownStrategy (shown : Text)
  /-- The filter text is no regular expression. -/
  | pattern (source : Text) (fault : Pattern.Fault)
  deriving DecidableEq, Repr

def Fault.message : Fault → Text
  | .unknownStrategy shown =>
    "unknown filter strategy " ++ shown ++ " (expected one of: " ++
      Text.joinWith ", " (Strategy.all.map Strategy.name) ++ ")"
  | .pattern source fault => fault.message source

section Making

variable [CharacterNames]

/-- The filter that a text stands for under a strategy. -/
def build (strategy : Strategy) (pattern : Text) : Except Fault Filter :=
  match strategy with
  | .regex =>
    match Pattern.parse pattern with
    | .ok (node, flags) => .ok (.regex pattern node flags)
    | .error fault => .error (.pattern pattern fault)
  | .substring => .ok (.substring pattern)

/-- The filter that a text stands for under the strategy of a name. -/
def buildNamed (strategy : Value) (pattern : Text) : Except Fault Filter :=
  match Strategy.ofValue? strategy with
  | some s => build s pattern
  | none => .error (.unknownStrategy strategy.quoted)

/-- A filter keeps its text and its strategy. -/
theorem pattern_of_build {s : Strategy} {p : Text} {f : Filter} (h : build s p = .ok f) :
    f.pattern = p ∧ f.strategy = s := by
  cases s with
  | regex =>
    simp only [build] at h
    split at h
    · cases h; exact ⟨rfl, rfl⟩
    · cases h
  | substring => cases h; exact ⟨rfl, rfl⟩

/-- A filter has the strategy that was named. -/
theorem eq_name_of_buildNamed {v : Value} {p : Text} {f : Filter} (h : buildNamed v p = .ok f) :
    v = .text f.strategy.name ∧ f.pattern = p := by
  unfold buildNamed at h
  split at h
  · rename_i s hs
    obtain ⟨hp, rfl⟩ := pattern_of_build h
    exact ⟨Strategy.eq_text_of_ofValue? hs, hp⟩
  · cases h

theorem buildNamed_name (s : Strategy) (p : Text) : buildNamed (.text s.name) p = build s p := by
  simp [buildNamed, Strategy.ofValue?]

end Making

theorem admits_substring_iff (p t : Text) :
    (substring p).admits t = true ↔ ∃ before after, t = before ++ p ++ after :=
  Text.occursIn_iff p t

end Filter

end LogSieve
