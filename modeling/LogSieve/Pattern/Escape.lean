import LogSieve.Number.Ascii
import LogSieve.Pattern.Names
import LogSieve.Pattern.Reader

/-!
# Escapes

What a backslash and the character after it stand for, outside and inside a character set. Outside,
digits name a group unless they are an octal code point: a zero in front, or three octal digits.
Inside, digits are always octal. Letters of ASCII without a meaning are refused, so that they can
get one; any other character stands for itself.
-/

namespace LogSieve.Pattern

variable [CharacterNames]

/-! ## 1. Tables -/

/-- Escapes for control characters and for the backslash; `b` is among them only inside sets. -/
def controlEscape? : Char → Option Nat
  | 'a' => some 0x7
  | 'f' => some 0xc
  | 'n' => some 0xa
  | 'r' => some 0xd
  | 't' => some 0x9
  | 'v' => some 0xb
  | '\\' => some 0x5c
  | _ => none

def kindEscape? : Char → Option SetItem
  | 'd' => some (.kind .digit false)
  | 'D' => some (.kind .digit true)
  | 's' => some (.kind .blank false)
  | 'S' => some (.kind .blank true)
  | 'w' => some (.kind .word false)
  | 'W' => some (.kind .word true)
  | _ => none

def anchorEscape? : Char → Option Anchor
  | 'A' => some .textStart
  | 'Z' => some .textEnd
  | 'b' => some .wordEdge
  | 'B' => some .noWordEdge
  | _ => none

/-! ## 2. Code points -/

/-- The code point of an escape with exactly `width` hexadecimal digits. -/
def hexEscape (letter : Char) (width : Nat) : Reading Nat := do
  let digits ← takeWhile width isHexDigit
  let escape := '\\' :: letter :: digits
  if digits.length ≠ width then failAt escape.length (.incompleteEscape escape)
  let code := numberIn 16 digits
  if 0x10ffff < code then failAt escape.length (.badEscape escape)
  return code

/-- A character by its name, if there is one of that name. -/
def namedEscape : Reading Nat := do
  if !(← accept '{') then failAt 0 .missingBrace
  let name ← takeName '}' "character name"
  match CharacterNames.named? name with
  | some c => return c.toNat
  | none => failAt (name.length + 4) (.unknownCharacterName name)

/-- The code point of an octal escape, none above 0o377. -/
def octalEscape (digits : Text) : Reading Nat := do
  let code := numberIn 8 digits
  let escape := '\\' :: digits
  if 0o377 < code then failAt escape.length (.octalTooLarge escape)
  return code

/-- A letter must have a meaning; other characters stand for themselves. -/
def plainEscape (c : Char) : Reading Nat := do
  if isAsciiLetter c || isAsciiDigit c then failAt 2 (.badEscape ['\\', c])
  return c.toNat

/-! ## 3. Inside and outside sets -/

/-- A member of a set, after the backslash and `c`. -/
def setEscape (c : Char) : Reading SetItem := do
  if c = 'b' then return .char 0x8
  if let some code := controlEscape? c then return .char code
  if let some item := kindEscape? c then return item
  match c with
  | 'x' => return .char (← hexEscape c 2)
  | 'u' => return .char (← hexEscape c 4)
  | 'U' => return .char (← hexEscape c 8)
  | 'N' => return .char (← namedEscape)
  | _ =>
    if isOctalDigit c then
      let digits ← takeWhile 2 isOctalDigit
      return .char (← octalEscape (c :: digits))
    return .char (← plainEscape c)

/-- Inside look-behind a group must be closed, and closed before the look-behind. -/
def checkLookbehind (group : Nat) : Reading Unit := do
  let r ← get
  if let some bound := r.lookbehindBound then
    if (r.closedWidth? group).isNone then failAt 0 .openGroupReference
    if bound ≤ group then failAt 0 .lookbehindGroupReference

/-- A reference to the group of that number, written with the given digits. -/
def groupReference (digits : Text) : Reading Node := do
  let r ← get
  let group := numberIn 10 digits
  if r.nextGroup ≤ group then failAt digits.length (.invalidGroupReference group)
  if (r.closedWidth? group).isNone then failAt (digits.length + 1) .openGroupReference
  checkLookbehind group
  return .backref group

/-- Digits that do not start with zero: a group, or with three octal digits a code point. -/
def digitEscape (c : Char) : Reading Node := do
  match ← takeWhile 1 isAsciiDigit with
  | [d] =>
    if isOctalDigit c && isOctalDigit d then
      match ← takeWhile 1 isOctalDigit with
      | [e] => return .char (← octalEscape [c, d, e]) false
      | _ => groupReference [c, d]
    else groupReference [c, d]
  | _ => groupReference [c]

/-- A node, after the backslash and `c`. -/
def nodeEscape (c : Char) : Reading Node := do
  if let some a := anchorEscape? c then return .anchor a
  if let some item := kindEscape? c then return .set false [item]
  if let some code := controlEscape? c then return .char code false
  match c with
  | 'x' => return .char (← hexEscape c 2) false
  | 'u' => return .char (← hexEscape c 4) false
  | 'U' => return .char (← hexEscape c 8) false
  | 'N' => return .char (← namedEscape) false
  | '0' =>
    let digits ← takeWhile 2 isOctalDigit
    return .char (numberIn 8 digits) false
  | _ =>
    if isAsciiDigit c then digitEscape c
    else return .char (← plainEscape c) false

end LogSieve.Pattern
