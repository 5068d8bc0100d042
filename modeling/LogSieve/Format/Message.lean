import LogSieve.Format.Conversion

/-!
# Filling a message format

The arguments of a message are a tuple, or one value by itself; a value that is a mapping or a list
also answers to the keys of conversions. `Arguments` hands them out one at a time and remembers
whether one is left over, which is a fault unless keys are possible. `fill` sets the arguments into
the format from left to right and stops at the first fault.
-/

namespace LogSieve.Format

/-! ## 1. Faults -/

/-- Why a message format cannot be filled. -/
inductive MessageFault where
  | incompleteFormat
  | incompleteKey
  | unsupportedLetter (letter : Char) (position : Nat)
  | widthTooLarge
  | precisionTooLarge
  | notANumber
  | missingKey (key : Text)
  | keyNotMapped
  | listKey
  | notEnoughArguments
  | unusedArguments
  | starNotInteger
  | wantsInteger (letter : Char) (kindName : Text)
  | wantsNumber (letter : Char) (kindName : Text)
  | wantsReal (kindName : Text)
  | wantsCharacter
  | characterOutOfRange
  | integerTooLarge
  | infinite
  | starWidthTooLarge
  | starPrecisionTooLarge
  | tooManyPlaces
  | integerTooLong
  deriving DecidableEq, Repr

namespace MessageFault

/-- The arguments are numbers of the right kind, only too large for the conversion. -/
def isOverflow : MessageFault → Bool
  | characterOutOfRange | integerTooLarge | infinite | starWidthTooLarge
  | starPrecisionTooLarge | tooManyPlaces => true
  | _ => false

def message : MessageFault → Text
  | incompleteFormat => "incomplete format"
  | incompleteKey => "incomplete format key"
  | unsupportedLetter c position =>
    let shown := if 31 ≤ c.toNat && c.toNat ≤ 126 then c else '?'
    "unsupported format character '" ++ shown :: "' (0x" ++
      (digitsIn 16 c.toNat).map Text.hexDigit ++ ") at index " ++ decimal position
  | widthTooLarge => "width too big"
  | precisionTooLarge => "precision too big"
  | notANumber => "cannot convert float NaN to integer"
  | missingKey key => Text.quoted key
  | keyNotMapped => "format requires a mapping"
  | listKey => "list indices must be integers or slices, not str"
  | notEnoughArguments => "not enough arguments for format string"
  | unusedArguments => "not all arguments converted during string formatting"
  | starNotInteger => "* wants int"
  | wantsInteger c kind =>
    '%' :: c :: " format: an integer is required, not " ++ kind
  | wantsNumber c kind =>
    '%' :: c :: " format: a real number is required, not " ++ kind
  | wantsReal kind => "must be real number, not " ++ kind
  | wantsCharacter => "%c requires int or char"
  | characterOutOfRange => "%c arg not in range(0x110000)"
  | integerTooLarge => "int too large to convert to float"
  | infinite => "cannot convert float infinity to integer"
  | starWidthTooLarge => "Python int too large to convert to C ssize_t"
  | starPrecisionTooLarge => "Python int too large to convert to C int"
  | tooManyPlaces => "precision too large"
  | integerTooLong => tooManyDigitsToWrite

end MessageFault

/-! ## 2. Arguments -/

/-- The arguments of a message. -/
inductive Args where
  | tuple (items : List Value)
  | single (v : Value)
  deriving Repr, Inhabited

/-- There is something to fill in. -/
def Args.areGiven : Args → Bool
  | .tuple items => !items.isEmpty
  | .single v => v.isTrue

/-- The arguments not handed out yet, and the value that answers to keys. -/
structure Arguments where
  left : List Value
  /-- The value of the last key stands by itself. -/
  keyed : Option Value
  deriving Repr

namespace Arguments

/-- A mapping or a list answers to keys. -/
def answersKeys : Value → Bool
  | .list _ | .mapping _ => true
  | _ => false

def ofArgs : Args → Arguments
  | .tuple items => ⟨items, none⟩
  | .single v => ⟨[v], if answersKeys v then some v else none⟩

def take (a : Arguments) : Except MessageFault (Value × Arguments) :=
  match a.left with
  | [] => .error .notEnoughArguments
  | v :: rest => .ok (v, { a with left := rest })

/-- Puts the value of a key in the place of the arguments. -/
def choose (a : Arguments) (key : Key) : Except MessageFault Arguments :=
  match a.keyed, key with
  | none, _ => .error .keyNotMapped
  | some _, .unclosed => .error .incompleteKey
  | some (.mapping entries), .named name =>
    match entries.lookup name with
    | some v => .ok { a with left := [v] }
    | none => .error (.missingKey name)
  | some _, .named _ => .error .listKey

/-- Something is left over although no key can have meant it. -/
def leavesOver (a : Arguments) : Bool := !a.left.isEmpty && a.keyed.isNone

end Arguments

/-! ## 3. One conversion -/

/-- A conversion with its amounts known. A negative width aligns left. -/
structure Setting where
  leftAlign : Bool
  showSign : Bool
  spaceSign : Bool
  alternate : Bool
  zeroFill : Bool
  width : Nat
  precision : Option Nat
  deriving DecidableEq, Repr

/-- The integer that a star takes. -/
def starAmount (a : Arguments) : Except MessageFault (Int × Arguments) := do
  let (v, a) ← a.take
  match v.asInt? with
  | some z => return (z, a)
  | none => throw .starNotInteger

/-- The width: negative to align left. The least amount there is has no opposite and counts as none.
-/
def widthOf (amount : Option Amount) (a : Arguments) : Except MessageFault (Int × Arguments) := do
  match amount with
  | none => return (0, a)
  | some (.given n) => return (n, a)
  | some .excessive => throw .widthTooLarge
  | some .star =>
    let (z, a) ← starAmount a
    if z < -(widthLimit + 1) || (widthLimit : Int) < z then throw .starWidthTooLarge
    return (if z = -(widthLimit + 1) then 0 else z, a)

def precisionOf (amount : Option Amount) (a : Arguments) :
    Except MessageFault (Option Nat × Arguments) := do
  match amount with
  | none => return (none, a)
  | some (.given n) => return (some n, a)
  | some .excessive => throw .precisionTooLarge
  | some .star =>
    let (z, a) ← starAmount a
    if z < -(placesLimit + 1) || (placesLimit : Int) < z then throw .starPrecisionTooLarge
    return (some z.toNat, a)

/-- A text cut to the precision and padded to the width. -/
def setText (s : Setting) (t : Text) : Text :=
  let t := t.take (s.precision.getD t.length)
  if s.leftAlign then Text.padRight ' ' s.width t else Text.padLeft ' ' s.width t

/-- The magnitude of a number, behind its sign and the mark of its base. Zeros fill between these
and the digits, blanks in front of them or at the end. -/
def setNumber (s : Setting) (negative : Bool) (mark magnitude : Text) : Text :=
  let sign : Text :=
    if negative then ['-'] else if s.showSign then ['+'] else if s.spaceSign then [' '] else []
  let head := sign ++ mark
  if s.leftAlign then Text.padRight ' ' s.width (head ++ magnitude)
  else if s.zeroFill then head ++ Text.padLeft '0' (s.width - head.length) magnitude
  else Text.padLeft ' ' s.width (head ++ magnitude)

/-- The base of an integer conversion. -/
def integerBase : Char → Nat
  | 'o' => 8
  | 'x' | 'X' => 16
  | _ => 10

/-- The integer that a value stands for: for the bases 8 and 16 only integers themselves, in base
ten also the integer part of a double. -/
def integerOf (letter : Char) (v : Value) : Except MessageFault Int :=
  match v with
  | .float d =>
    if integerBase letter = 10 then
      match d with
      | .nan => .error .notANumber
      | .infinity _ => .error .infinite
      | .finite .. => .ok (d.truncate?.getD 0)
    else .error (.wantsInteger letter v.kindName)
  | _ =>
    match v.asInt? with
    | some z => .ok z
    | none =>
      if integerBase letter = 10 then .error (.wantsNumber letter v.kindName)
      else .error (.wantsInteger letter v.kindName)

def setInteger (s : Setting) (letter : Char) (z : Int) : Text :=
  let base := integerBase letter
  let digits := (digitsIn base z.natAbs).map fun d =>
    if letter = 'X' then (digitChar d).toUpper else digitChar d
  let mark : Text :=
    if !s.alternate || base = 10 then [] else ['0', letter]
  setNumber s (z < 0) mark (Text.padLeft '0' (s.precision.getD 0) digits)

/-- The double that a value stands for. -/
def doubleOf (v : Value) : Except MessageFault Double :=
  match v with
  | .float d => .ok d
  | _ =>
    match v.asInt? with
    | none => .error (.wantsReal v.kindName)
    | some z =>
      match Double.ofInt? z with
      | some d => .ok d
      | none => .error .integerTooLarge

/-- The layout of a double conversion. -/
def doubleLayout (letter : Char) (precision : Option Nat) : Layout :=
  let places := precision.getD 6
  match letter with
  | 'e' | 'E' => .exponent places
  | 'f' | 'F' => .fixed places
  | _ => .general places false

def setDouble (s : Setting) (letter : Char) (d : Double) : Text :=
  let t := (doubleLayout letter s.precision).text s.alternate d
  setNumber s d.isNegative [] (if letter.isUpper then t.map Char.toUpper else t)

/-- The character that a value stands for. -/
def characterOf (v : Value) : Except MessageFault Char :=
  match v with
  | .text [c] => .ok c
  | .text _ => .error .wantsCharacter
  | _ =>
    match v.asInt? with
    | none => .error .wantsCharacter
    | some z =>
      if z < 0 || 0x110000 ≤ z then .error .characterOutOfRange
      else .ok (Text.charOf z.toNat)

/-- The printed form of a value, if it may be written. -/
def printedAs (form : Value → Text) (v : Value) : Except MessageFault Text :=
  if v.isPrintable then .ok (form v) else .error .integerTooLong

theorem printedAs_of_isPrintable (form : Value → Text) {v : Value} (h : v.isPrintable = true) :
    printedAs form v = .ok (form v) := if_pos h

theorem printedAs_of_not_isPrintable (form : Value → Text) {v : Value}
    (h : v.isPrintable = false) : printedAs form v = .error .integerTooLong := by
  rw [printedAs, h]
  rfl

/-- The most places that integers are written with. -/
def integerPlacesLimit : Nat := placesLimit - 3

/-- An integer, if it may be written. The base ten has a limit of digits. -/
def writeInteger (s : Setting) (letter : Char) (z : Int) : Except MessageFault Text :=
  if integerPlacesLimit < s.precision.getD 0 then .error .tooManyPlaces
  else if integerBase letter = 10 && !isWritten z then .error .integerTooLong
  else .ok (setInteger s letter z)

/-- One value set by the conversion of a letter. -/
def setValue (s : Setting) (letter : Char) (position : Nat) (v : Value) :
    Except MessageFault Text := do
  match letter with
  | 's' => return setText s (← printedAs Value.display v)
  | 'r' => return setText s (← printedAs Value.quoted v)
  | 'a' => return setText s (← printedAs Value.quotedAscii v)
  | 'd' | 'i' | 'u' | 'o' | 'x' | 'X' => writeInteger s letter (← integerOf letter v)
  | 'e' | 'E' | 'f' | 'F' | 'g' | 'G' => return setDouble s letter (← doubleOf v)
  | 'c' => return setText { s with precision := none } [← characterOf v]
  | _ => throw (.unsupportedLetter letter position)

/-- A conversion takes its key, its amounts and its value, in this order. -/
def convert (conv : Conversion) (a : Arguments) : Except MessageFault (Text × Arguments) := do
  let a ← match conv.key with
    | none => pure a
    | some key => a.choose key
  let (width, a) ← widthOf conv.width a
  let (precision, a) ← precisionOf conv.precision a
  match conv.letter with
  | none => throw .incompleteFormat
  | some (letter, position) =>
    let (v, a) ← a.take
    let s : Setting := {
      leftAlign := conv.leftAlign || width < 0
      showSign := conv.showSign, spaceSign := conv.spaceSign, alternate := conv.alternate
      zeroFill := conv.zeroFill, width := width.natAbs, precision }
    let t ← setValue s letter position v
    if a.keyed.isSome && !a.left.isEmpty then throw .unusedArguments
    return (t, a)

/-! ## 4. Whole formats -/

/-- Fills the pieces of a format. -/
def fillPieces (a : Arguments) : List Piece → Except MessageFault Text
  | [] => if a.leavesOver then .error .unusedArguments else .ok []
  | .plain c :: rest => do return c :: (← fillPieces a rest)
  | .conversion conv :: rest => do
    let (t, a) ← convert conv a
    return t ++ (← fillPieces a rest)

/-- Fills a format with arguments. -/
def fill (format : Text) (args : Args) : Except MessageFault Text :=
  fillPieces (.ofArgs args) (piecesOf format)

end LogSieve.Format
