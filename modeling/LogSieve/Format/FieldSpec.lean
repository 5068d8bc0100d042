import LogSieve.Value

/-!
# Field specifications

A field specification says how one value is set: fill and alignment, sign, width, grouping,
precision and presentation. It is written `[[fill]align][sign][z][#][0][width][grouping]
[.precision][type]`, each part at most once and in this order. `FieldSpec.read` reads it part by
part; what the parts may mean together depends on the value and is left to the layout.
-/

namespace LogSieve.Format

/-! ## 1. Faults -/

/-- Why a value cannot be set as a field specification says. -/
inductive FieldFault where
  | tooManyDigits
  | bothSeparators
  | missingPrecision
  | malformed (spec kindName : Text)
  | separatorWith (separator : Char) (presentation : Char)
  | spaceOnText
  | signOnText
  | negativeZeroOnText
  | alternateOnText
  | insideOnText
  | unknownPresentation (presentation : Char) (kindName : Text)
  | precisionOnInteger
  | negativeZeroOnInteger
  | signOnCharacter
  | alternateOnCharacter
  | precisionTooLarge
  /-- The value has no layout of its own. -/
  | unsupported (kindName : Text)
  | characterTooLarge
  | characterOutOfRange
  | integerTooLarge
  | integerTooLong
  deriving DecidableEq, Repr

/-- A character in a message: itself, or its number in base 16 when it has no shape in ASCII. -/
def shownPresentation (c : Char) : Text :=
  if 32 < c.toNat && c.toNat < 128 then [c]
  else "\\x" ++ (digitsIn 16 c.toNat).map Text.hexDigit

def FieldFault.message : FieldFault → Text
  | tooManyDigits => "Too many decimal digits in format string"
  | bothSeparators => "Cannot specify both ',' and '_'."
  | missingPrecision => "Format specifier missing precision"
  | malformed spec kind =>
    "Invalid format specifier '" ++ spec ++ "' for object of type '" ++ kind ++ "'"
  | separatorWith separator p =>
    "Cannot specify '" ++ separator :: "' with '" ++ shownPresentation p ++ "'."
  | spaceOnText => "Space not allowed in string format specifier"
  | signOnText => "Sign not allowed in string format specifier"
  | negativeZeroOnText => "Negative zero coercion (z) not allowed in string format specifier"
  | alternateOnText => "Alternate form (#) not allowed in string format specifier"
  | insideOnText => "'=' alignment not allowed in string format specifier"
  | unknownPresentation p kind =>
    "Unknown format code '" ++ shownPresentation p ++ "' for object of type '" ++ kind ++ "'"
  | precisionOnInteger => "Precision not allowed in integer format specifier"
  | negativeZeroOnInteger => "Negative zero coercion (z) not allowed in integer format specifier"
  | signOnCharacter => "Sign not allowed with integer format specifier 'c'"
  | alternateOnCharacter => "Alternate form (#) not allowed with integer format specifier 'c'"
  | precisionTooLarge => "precision too big"
  | unsupported kind => "unsupported format string passed to " ++ kind ++ ".__format__"
  | characterTooLarge => "Python int too large to convert to C long"
  | characterOutOfRange => "%c arg not in range(0x110000)"
  | integerTooLarge => "int too large to convert to float"
  | integerTooLong => tooManyDigitsToWrite

/-! ## 2. Specifications -/

inductive Align where
  | left
  | right
  | center
  /-- Between the sign and the digits. -/
  | inside
  deriving DecidableEq, Repr

def Align.ofChar : Char → Option Align
  | '<' => some left
  | '>' => some right
  | '^' => some center
  | '=' => some inside
  | _ => none

structure FieldSpec where
  fill : Char := ' '
  align : Align
  sign : Option Char := none
  /-- A negative number that is shown as zero loses its sign. -/
  positiveZero : Bool := false
  alternate : Bool := false
  width : Option Nat := none
  separator : Option Char := none
  precision : Option Nat := none
  presentation : Option Char := none
  deriving DecidableEq, Repr

/-! ## 3. Reading -/

/-- The greatest size. -/
def sizeLimit : Nat := Nat.pow 2 63 - 1

/-- Digits of any script as a size, if there are any. -/
def readSize (t : Text) : Except FieldFault (Option Nat × Text) :=
  let digits := t.takeWhile Text.isDecimalDigit
  let rest := t.drop digits.length
  let n := ofDigits 10 (digits.filterMap Text.digitValue?)
  if digits.isEmpty then .ok (none, rest)
  else if sizeLimit < n then .error .tooManyDigits
  else .ok (some n, rest)

/-- Fill and alignment, the fill only together with an alignment. -/
def readAlign (t : Text) : Option Char × Option Align × Text :=
  match t with
  | c :: d :: rest =>
    match Align.ofChar d with
    | some align => (some c, some align, rest)
    | none =>
      match Align.ofChar c with
      | some align => (none, some align, d :: rest)
      | none => (none, none, t)
  | [c] =>
    match Align.ofChar c with
    | some align => (none, some align, [])
    | none => (none, none, t)
  | [] => (none, none, [])

def readSign : Text → Option Char × Text
  | c :: rest => if c = ' ' || c = '+' || c = '-' then (some c, rest) else (none, c :: rest)
  | [] => (none, [])

/-- Whether a character stands in front, and the text after it. -/
def readMark (mark : Char) : Text → Bool × Text
  | c :: rest => if c = mark then (true, rest) else (false, c :: rest)
  | [] => (false, [])

/-- The grouping character; the two do not go together in either order. -/
def readSeparator (t : Text) : Except FieldFault (Option Char × Text) :=
  let (comma, t) := readMark ',' t
  let (line, t) := readMark '_' t
  if comma && line then .error .bothSeparators
  else if line then
    if t.head? = some ',' then .error .bothSeparators else .ok (some '_', t)
  else .ok (if comma then some ',' else none, t)

def readPrecision (t : Text) : Except FieldFault (Option Nat × Text) := do
  let (point, t) := readMark '.' t
  if !point then return (none, t)
  match ← readSize t with
  | (none, _) => throw .missingPrecision
  | found => return found

/-- Grouping goes with decimal presentations, and low lines with the other bases. -/
def checkSeparator (separator : Option Char) (presentation : Option Char) :
    Except FieldFault Unit :=
  match separator, presentation with
  | some s, some p =>
    if "deEfFgG%".contains p then .ok ()
    else if s = '_' && "boxX".contains p then .ok ()
    else .error (.separatorWith s p)
  | _, _ => .ok ()

/-- Reads a specification for a kind of value with its alignment and presentation when none is
given. A zero in front of the width fills, and puts the fill inside numbers. -/
def FieldSpec.read (kindName : Text) (align : Align) (presentation : Option Char) (spec : Text) :
    Except FieldFault FieldSpec := do
  let (fill?, align?, t) := readAlign spec
  let (sign, t) := readSign t
  let (positiveZero, t) := readMark 'z' t
  let (alternate, t) := readMark '#' t
  let (zeros, t) := if fill?.isSome then (false, t) else readMark '0' t
  let (width, t) ← readSize t
  let (separator, t) ← readSeparator t
  let (precision, t) ← readPrecision t
  let presentation ← match t with
    | [] => pure presentation
    | [c] => pure (some c)
    | _ => throw (.malformed spec kindName)
  checkSeparator separator presentation
  let fallback := if zeros && align = .right then .inside else align
  return {
    fill := fill?.getD (if zeros then '0' else ' ')
    align := align?.getD fallback
    sign, positiveZero, alternate, width, separator, precision, presentation }

end LogSieve.Format
