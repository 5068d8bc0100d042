import LogSieve.Pattern.Fault
import LogSieve.Pattern.Syntax

/-!
# Reading a pattern token by token

A token is a character or a backslash with the character after it. `Reader` is what reading has
found so far: the tokens ahead, the flags of the whole pattern and the groups. A reading step either
goes on with a changed reader or stops at a `Fault`.

A backslash with nothing after it is found when it becomes the next token, before the token in front
of it is interpreted; `advance` is the only step that moves on, so it is the only one that sees it.
-/

namespace LogSieve.Pattern

/-! ## 1. Tokens -/

inductive Token where
  | plain (c : Char)
  | escaped (c : Char)
  /-- A backslash at the end of the pattern. -/
  | dangling
  deriving DecidableEq, Repr

namespace Token

def text : Token → Text
  | plain c => [c]
  | escaped c => ['\\', c]
  | dangling => ['\\']

/-- The character of a token that is one character. -/
def char? : Token → Option Char
  | plain c => some c
  | _ => none

end Token

/-- The tokens of a text. -/
def tokensOf : Text → List Token
  | [] => []
  | c :: rest =>
    if c = '\\' then
      match rest with
      | [] => [.dangling]
      | d :: rest => .escaped d :: tokensOf rest
    else .plain c :: tokensOf rest

/-- The number of characters that tokens take up. -/
def lengthOf (tokens : List Token) : Nat := tokens.foldr (fun token n => token.text.length + n) 0

/-! ## 2. The reader -/

structure Reader where
  /-- The length of the whole pattern. -/
  size : Nat
  ahead : List Token
  flags : Flags := {}
  /-- The names of groups with their numbers. -/
  names : List (Text × Nat) := []
  /-- The widths of the groups, group 1 first; an open group has none yet. -/
  widths : List (Option Width) := []
  /-- Inside look-behind, the number of the first group that it may not refer to. -/
  lookbehindBound : Option Nat := none
  /-- The group numbers that conditions name, with the position of the first mention of each. -/
  conditions : List (Nat × Nat) := []
  deriving Repr

abbrev Reading := StateT Reader (Except Fault)

namespace Reader

/-- The position of the next token. -/
def position (r : Reader) : Nat := r.size - lengthOf r.ahead

/-- One more than the number of the last group opened. -/
def nextGroup (r : Reader) : Nat := r.widths.length + 1

/-- The width of a group, if it has been closed. -/
def closedWidth? (r : Reader) (group : Nat) : Option Width :=
  if group = 0 then none else (r.widths[group - 1]?).join

def groupWidth (r : Reader) (group : Nat) : Width := (r.closedWidth? group).getD .zero

end Reader

/-! ## 3. Steps -/

/-- Stops at a problem that shows the given number of characters before the next token. -/
def failAt {α : Type} (offset : Nat) (problem : Problem) : Reading α := do
  throw (.located problem ((← get).position - offset))

/-- Goes on with other tokens, unless the first of them is a dangling backslash. -/
def goOn (tokens : List Token) : Reading Unit := do
  if tokens.head? = some .dangling then
    throw (.located .danglingBackslash ((← get).size - 1))
  modify fun r => { r with ahead := tokens }

/-- Leaves the next token behind. -/
def advance : Reading Unit := do goOn (← get).ahead.tail

def next? : Reading (Option Token) := do return (← get).ahead.head?

/-- The next token, left behind. -/
def take? : Reading (Option Token) := do
  let token ← next?
  advance
  return token

/-- Whether the next token is this character; if so it is left behind. -/
def accept (c : Char) : Reading Bool := do
  if (← next?) = some (.plain c) then
    advance
    return true
  else return false

/-- At most `limit` characters of a class, left behind. -/
def takeWhile (limit : Nat) (p : Char → Bool) : Reading Text :=
  match limit with
  | 0 => return []
  | limit + 1 => do
    match ← next? with
    | some (.plain c) =>
      if p c then
        advance
        return c :: (← takeWhile limit p)
      else return []
    | _ => return []

/-- The text up to a terminator, both left behind; it may not be empty. `found` holds the tokens
before these. -/
def takeUntil (terminator : Char) (what : Text) (found : Text) : List Token → Reading Text
  | [] => do
    advance
    if found.isEmpty then failAt 0 (.missing what)
    else failAt found.length (.unterminatedName terminator)
  | token :: rest => do
    advance
    if token = .plain terminator then
      if found.isEmpty then failAt 1 (.missing what) else return found
    else takeUntil terminator what (found ++ token.text) rest

/-- The name up to a terminator. -/
def takeName (terminator : Char) (what : Text) : Reading Text := do
  takeUntil terminator what [] (← get).ahead

end LogSieve.Pattern
