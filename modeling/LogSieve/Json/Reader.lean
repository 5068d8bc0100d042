import LogSieve.Json.Fault
import LogSieve.Number.Ascii
import LogSieve.Value

/-!
# Reading documents

A document is one value in JSON notation with blanks around it. Besides the notation's own words
there are three for the doubles it cannot write. A number with a fraction or an exponent is a
double, any other an integer. Of several entries of one name the last counts, in the place of the
first.

Each reader takes a value off the front of a text and returns the rest. A text in quotes ends at its
quote and a list at its bracket, so every reader moves on, and twice the length of the text bounds
the readings (`read`).
-/

namespace LogSieve.Json

/-! ## 1. Blanks and words -/

def isBlank (c : Char) : Bool := c = ' ' || c = '\t' || c = '\n' || c = '\r'

def skipBlanks (t : Text) : Text := t.dropWhile isBlank

/-- The words with the values they stand for. -/
def words : List (Text × Value) :=
  [("null", .none), ("true", .bool true), ("false", .bool false), ("NaN", .float .nan),
   ("Infinity", .float (.infinity false)), ("-Infinity", .float (.infinity true))]

/-- The word at the front of a text. -/
def readWord? (t : Text) : Option (Value × Text) :=
  (words.find? fun (word, _) => word.isPrefixOf t).map fun (word, v) => (v, t.drop word.length)

/-! ## 2. Numbers -/

/-- The digits of a whole number: a zero by itself, or any that do not start with one. -/
def takeWhole : Text → Text × Text
  | '0' :: rest => (['0'], rest)
  | t => (t.takeWhile isAsciiDigit, t.dropWhile isAsciiDigit)

/-- The digits after a point; a point without digits is not part of the number. -/
def takeFraction (t : Text) : Option Text × Text :=
  match t with
  | '.' :: rest =>
    match rest.takeWhile isAsciiDigit with
    | [] => (none, t)
    | digits => (some digits, rest.drop digits.length)
  | _ => (none, t)

/-- The exponent; without digits it is not part of the number. -/
def takeExponent (t : Text) : Option Int × Text :=
  match t with
  | c :: rest =>
    if c = 'e' || c = 'E' then
      let (negative, rest) := takeSign rest
      match rest.takeWhile isAsciiDigit with
      | [] => (none, t)
      | digits =>
        let n : Int := numberIn 10 digits
        (some (if negative then -n else n), rest.drop digits.length)
    else (none, t)
  | [] => (none, t)

/-- The number at the front of a text. -/
def readNumber (t : Text) : Except Fault (Value × Text) :=
  let (negative, body) := match t with
    | '-' :: rest => (true, rest)
    | _ => (false, t)
  let (whole, rest) := takeWhole body
  if whole.isEmpty then .error (.located .value t.length)
  else
    let (fraction, rest) := takeFraction rest
    let (exponent, rest) := takeExponent rest
    if fraction.isNone && exponent.isNone then
      if digitLimit < whole.length then .error (.tooManyDigits whole.length)
      else
        let n : Int := numberIn 10 whole
        .ok (.int (if negative then -n else n), rest)
    else
      let fraction := fraction.getD []
      .ok (.float (.ofDecimal negative (numberIn 10 (whole ++ fraction))
        (exponent.getD 0 - fraction.length)), rest)

/-! ## 3. Texts -/

/-- The character that a backslash and a letter stand for. -/
def escaped? : Char → Option Char
  | '"' => some '"'
  | '\\' => some '\\'
  | '/' => some '/'
  | 'b' => some '\x08'
  | 'f' => some '\x0c'
  | 'n' => some '\n'
  | 'r' => some '\r'
  | 't' => some '\t'
  | _ => none

/-- Four digits of base 16 that are not the end of the text. -/
def readUnit (t : Text) : Except Fault (Nat × Text) :=
  let digits := t.take 4
  let rest := t.drop 4
  if rest.isEmpty || !digits.all isHexDigit then .error (.located .codePoint (t.length + 1))
  else .ok (numberIn 16 digits, rest)

/-- The code point after `\u`: one unit, or a high and a low one that belong together. -/
def readCodePoint (t : Text) : Except Fault (Nat × Text) := do
  let (high, rest) ← readUnit t
  if 0xd800 ≤ high && high < 0xdc00 then
    match rest with
    | '\\' :: 'u' :: after =>
      if (after.drop 4).isEmpty then return (high, rest)
      let (low, after) ← readUnit after
      if 0xdc00 ≤ low && low < 0xe000 then
        return (0x10000 + (high - 0xd800) * 0x400 + (low - 0xdc00), after)
      return (high, rest)
    | _ => return (high, rest)
  return (high, rest)

/-- The rest of a text in quotes. `opening` is what was left at its first quote; the fuel bounds the
characters. -/
def readText (opening : Text) : Nat → Text → Except Fault (Text × Text)
  | 0, _ | _, [] => .error (.located .openText opening.length)
  | fuel + 1, c :: rest =>
    if c = '"' then .ok ([], rest)
    else if c = '\\' then
      match rest with
      | [] => .error (.located .openText opening.length)
      | 'u' :: rest => do
        let (code, rest) ← readCodePoint rest
        let (t, rest) ← readText opening fuel rest
        return (Text.charOf code :: t, rest)
      | letter :: after => do
        match escaped? letter with
        | none => throw (.located .escape (rest.length + 1))
        | some c =>
          let (t, rest) ← readText opening fuel after
          return (c :: t, rest)
    else if c.toNat ≤ 0x1f then .error (.located .controlCharacter (rest.length + 1))
    else do
      let (t, rest) ← readText opening fuel rest
      return (c :: t, rest)

/-! ## 4. Values -/

/-- The name of an entry, its colon and the blanks after it. -/
def readName (fuel : Nat) (t : Text) : Except Fault (Text × Text) := do
  match t with
  | '"' :: rest => do
    let (name, rest) ← readText t fuel rest
    match skipBlanks rest with
    | ':' :: rest => return (name, skipBlanks rest)
    | rest => throw (.located .colon rest.length)
  | _ => throw (.located .entryName t.length)

mutual

/-- The value at the front of a text. -/
def readValue : Nat → Text → Except Fault (Value × Text)
  | 0, t => .error (.located .value t.length)
  | fuel + 1, t =>
    match t with
    | '"' :: rest => do
      let (s, rest) ← readText t fuel rest
      return (.text s, rest)
    | '\x7b' :: rest =>
      match skipBlanks rest with
      | '\x7d' :: rest => .ok (.mapping [], rest)
      | rest => readEntries fuel [] rest
    | '[' :: rest =>
      match skipBlanks rest with
      | ']' :: rest => .ok (.list [], rest)
      | rest => do
        let (items, rest) ← readItems fuel rest
        return (.list items, rest)
    | t =>
      match readWord? t with
      | some found => .ok found
      | none => readNumber t

/-- The items of a list up to its end. -/
def readItems : Nat → Text → Except Fault (List Value × Text)
  | 0, t => .error (.located .value t.length)
  | fuel + 1, t => do
    let (v, rest) ← readValue fuel t
    match skipBlanks rest with
    | ']' :: rest => return ([v], rest)
    | ',' :: rest => do
      let (items, rest) ← readItems fuel (skipBlanks rest)
      return (v :: items, rest)
    | rest => throw (.located .comma rest.length)

/-- The entries of a mapping up to its end, added to those read before. -/
def readEntries : Nat → List (Text × Value) → Text → Except Fault (Value × Text)
  | 0, _, t => .error (.located .entryName t.length)
  | fuel + 1, entries, t => do
    let (name, rest) ← readName fuel t
    let (v, rest) ← readValue fuel rest
    let entries := Value.insert name v entries
    match skipBlanks rest with
    | '\x7d' :: rest => return (.mapping entries, rest)
    | ',' :: rest => readEntries fuel entries (skipBlanks rest)
    | rest => throw (.located .comma rest.length)

end

/-- The value that a document stands for. -/
def read (document : Text) : Except Fault Value := do
  if document.head? = some '\ufeff' then throw (.located .byteOrderMark document.length)
  let (v, rest) ← readValue (2 * document.length + 2) (skipBlanks document)
  match skipBlanks rest with
  | [] => return v
  | rest => throw (.located .extraData rest.length)

end LogSieve.Json
