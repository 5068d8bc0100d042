import LogSieve.Text.Basic

/-!
# Patterns as trees

A pattern is a tree over single-character tests, anchors, captures and repetitions. Code points of a
pattern are numbers, since an escape can name one that no text holds.

`Width` is the least and the greatest number of characters that a pattern can consume; look-behind
is only allowed where the two agree. The width of a reference back to a group is the width of the
group, so `Node.width` takes the widths of the groups closed so far.
-/

namespace LogSieve.Pattern

/-! ## 1. Flags -/

/-- The switches of a pattern. `verbose` and `template` only act while the pattern is read. -/
structure Flags where
  ignoreCase : Bool := false
  multiline : Bool := false
  dotAll : Bool := false
  verbose : Bool := false
  ascii : Bool := false
  unicode : Bool := false
  template : Bool := false
  deriving DecidableEq, Repr

namespace Flags

/-- The flag that a letter stands for; `L` is a letter too but sets nothing here. -/
def ofLetter : Char → Option Flags
  | 'i' => some { ignoreCase := true }
  | 'm' => some { multiline := true }
  | 's' => some { dotAll := true }
  | 'x' => some { verbose := true }
  | 'a' => some { ascii := true }
  | 'u' => some { unicode := true }
  | 't' => some { template := true }
  | 'L' => some {}
  | _ => none

def union (f g : Flags) : Flags where
  ignoreCase := f.ignoreCase || g.ignoreCase
  multiline := f.multiline || g.multiline
  dotAll := f.dotAll || g.dotAll
  verbose := f.verbose || g.verbose
  ascii := f.ascii || g.ascii
  unicode := f.unicode || g.unicode
  template := f.template || g.template

def diff (f g : Flags) : Flags where
  ignoreCase := f.ignoreCase && !g.ignoreCase
  multiline := f.multiline && !g.multiline
  dotAll := f.dotAll && !g.dotAll
  verbose := f.verbose && !g.verbose
  ascii := f.ascii && !g.ascii
  unicode := f.unicode && !g.unicode
  template := f.template && !g.template

/-- The two sets of flags share one. -/
def meets (f g : Flags) : Bool :=
  f.ignoreCase && g.ignoreCase || f.multiline && g.multiline || f.dotAll && g.dotAll ||
    f.verbose && g.verbose || f.ascii && g.ascii || f.unicode && g.unicode ||
    f.template && g.template

/-- One of the flags that choose between ASCII and all of Unicode is set. -/
def choosesAlphabet (f : Flags) : Bool := f.ascii || f.unicode

/-- The flags inside a group that switches some on and some off; choosing an alphabet drops the
choice made outside. -/
def within (f on off : Flags) : Flags :=
  let f := if on.choosesAlphabet then { f with ascii := false, unicode := false } else f
  (f.union on).diff off

end Flags

/-! ## 2. Trees -/

/-- The named classes of characters. -/
inductive CharKind where
  | digit
  | blank
  | word
  deriving DecidableEq, Repr

/-- A member of a character set. -/
inductive SetItem where
  | char (code : Nat)
  | range (low high : Nat)
  | kind (k : CharKind) (negated : Bool)
  deriving DecidableEq, Repr

/-- A condition on a place between characters. -/
inductive Anchor where
  | lineStart
  | lineEnd
  | textStart
  | textEnd
  | wordEdge
  | noWordEdge
  deriving DecidableEq, Repr

/-- How a repetition chooses its count: as many as possible, as few as possible, or as many as
possible without ever giving one back. -/
inductive Greed where
  | greedy
  | lazy
  | possessive
  deriving DecidableEq, Repr

/-- The least and the greatest number of characters a pattern consumes. -/
structure Width where
  least : Nat
  greatest : Nat
  deriving DecidableEq, Repr

inductive Node where
  /-- Nothing, everywhere. -/
  | empty
  /-- The first, then the second. -/
  | cat (first second : Node)
  /-- One character, or any other one when negated. -/
  | char (code : Nat) (negated : Bool)
  /-- Any one character; line feeds only under the flag. -/
  | any
  /-- One character of the set, or of its complement. -/
  | set (negated : Bool) (items : List SetItem)
  | anchor (a : Anchor)
  /-- The first, and if that leads nowhere the second. -/
  | alt (first second : Node)
  /-- A numbered group. -/
  | capture (group : Nat) (body : Node)
  /-- A group without a number that switches flags. -/
  | scoped (on off : Flags) (body : Node)
  | repeated (greed : Greed) (least : Nat) (greatest : Option Nat) (body : Node)
  /-- Look ahead, or behind by a width, without consuming. -/
  | look (behind : Option Width) (negated : Bool) (body : Node)
  /-- The first way to match the body, and no other. -/
  | atomic (body : Node)
  /-- The text that a group holds, once more. -/
  | backref (group : Nat)
  /-- One of two bodies, by whether a group holds a text. -/
  | ifGroup (group : Nat) (held other : Node)
  deriving DecidableEq, Repr

namespace Node

/-- Nodes one after another. -/
def ofList (nodes : List Node) : Node := nodes.foldr cat empty

/-- Alternatives in the order in which they are tried. -/
def alternatives : List Node → Node
  | [] => empty
  | [n] => n
  | n :: ns => alt n (alternatives ns)

def isAnchor : Node → Bool
  | anchor _ => true
  | _ => false

def isRepeated : Node → Bool
  | repeated .. => true
  | _ => false

end Node

/-! ## 3. Widths -/

namespace Width

/-- Widths are not told apart beyond this one. -/
def limit : Nat := Nat.pow 2 64

def capped (w : Width) : Width := ⟨min w.least limit, min w.greatest limit⟩

def zero : Width := ⟨0, 0⟩

def one : Width := ⟨1, 1⟩

def plus (v w : Width) : Width := capped ⟨v.least + w.least, v.greatest + w.greatest⟩

/-- The width of a choice between two. -/
def either (v w : Width) : Width := ⟨min v.least w.least, max v.greatest w.greatest⟩

/-- The width of a repetition; without a bound, a body that can consume makes it unlimited. -/
def times (w : Width) (least : Nat) (greatest : Option Nat) : Width :=
  capped ⟨w.least * least,
    match greatest with
    | some n => w.greatest * n
    | none => if w.greatest = 0 then 0 else limit⟩

end Width

/-- The width of a node, given the widths of the groups it can refer to. -/
def Node.width (groups : Nat → Width) : Node → Width
  | .empty | .anchor _ | .look .. => .zero
  | .cat a b => (a.width groups).plus (b.width groups)
  | .char .. | .any | .set .. => .one
  | .alt a b => (a.width groups).either (b.width groups)
  | .capture _ body | .scoped _ _ body | .atomic body => body.width groups
  | .repeated _ least greatest body => (body.width groups).times least greatest
  | .backref g => groups g
  | .ifGroup _ held other => (held.width groups).either (other.width groups)

end LogSieve.Pattern
