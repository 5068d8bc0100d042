import LogSieve.Format.FieldSpec

/-!
# Setting a value in a field

`formatValue` sets a value as a field specification says. Texts are cut to the precision and padded
to the width; integers are written in a base, with the digits grouped on request; doubles are laid
out by `Layout`. Other values have only their printed form, and only without a specification.
-/

namespace LogSieve.Format

/-! ## 1. Texts -/

/-- Pads a text on the side or sides that the alignment leaves open. -/
def alignText (align : Align) (fill : Char) (width : Nat) (t : Text) : Text :=
  match align with
  | .left | .inside => Text.padRight fill width t
  | .right => Text.padLeft fill width t
  | .center =>
    let gap := width - t.length
    List.replicate (gap / 2) fill ++ t ++ List.replicate (gap - gap / 2) fill

/-- A text in its field. -/
def formatText (kindName : Text) (t spec : Text) : Except FieldFault Text := do
  if spec.isEmpty then return t
  let f ← FieldSpec.read kindName .left (some 's') spec
  if f.presentation ≠ some 's' then
    throw (.unknownPresentation (f.presentation.getD 's') kindName)
  match f.sign with
  | some ' ' => throw .spaceOnText
  | some _ => throw .signOnText
  | none => pure ()
  if f.positiveZero then throw .negativeZeroOnText
  if f.alternate then throw .alternateOnText
  if f.align = .inside then throw .insideOnText
  return alignText f.align f.fill (f.width.getD 0) (t.take (f.precision.getD t.length))

/-! ## 2. Numbers -/

/-- A number in the parts of its layout: whether it is negative, the mark of its base, the digits
that can be grouped, and what follows them. -/
structure NumberParts where
  negative : Bool
  mark : Text := []
  whole : Text
  rest : Text := []
  deriving DecidableEq, Repr

/-- Digits in groups, from the last one to the first and read backwards. Zeros fill up to the least
width, which counts the separators. -/
def groupBackwards (separator : Char) (size : Nat) : Nat → Text → Int → Text
  | 0, _, _ => []
  | fuel + 1, digits, least =>
    let count := min size (max (max digits.length least.toNat) 1)
    let group := digits.take count ++ List.replicate (count - digits.length) '0'
    let digits := digits.drop count
    let least := least - count
    if digits.isEmpty && least ≤ 0 then group
    else group ++ separator :: groupBackwards separator size fuel digits (least - 1)

/-- Digits with separators between groups, or just filled up with zeros. -/
def groupDigits (separator : Option Char) (size : Nat) (least : Int) (digits : Text) : Text :=
  if digits.isEmpty then []
  else match separator with
    | none => Text.padLeft '0' least.toNat digits
    | some c =>
      (groupBackwards c size (digits.length + least.toNat + 1) digits.reverse least).reverse

/-- The sign that is written. -/
def signText (f : FieldSpec) (negative : Bool) : Text :=
  if negative then ['-']
  else match f.sign with
    | some '+' => ['+']
    | some ' ' => [' ']
    | _ => []

/-- A number in its field. -/
def layoutNumber (f : FieldSpec) (groupSize : Nat) (n : NumberParts) : Text :=
  let sign := signText f n.negative
  let fixed := sign.length + n.mark.length + n.rest.length
  let width := f.width.getD 0
  let least : Int := if f.fill = '0' && f.align = .inside then (width : Int) - fixed else 0
  let digits := groupDigits f.separator groupSize least n.whole ++ n.rest
  let head := sign ++ n.mark
  match f.align with
  | .inside => head ++ Text.padLeft f.fill (width - head.length) digits
  | align => alignText align f.fill width (head ++ digits)

/-! ## 3. Integers -/

/-- The base of an integer presentation and its mark. -/
def baseOf : Char → Option (Nat × Text)
  | 'd' | 'n' => some (10, [])
  | 'b' => some (2, "0b")
  | 'o' => some (8, "0o")
  | 'x' => some (16, "0x")
  | 'X' => some (16, "0X")
  | _ => none

/-- The digits of a natural number in a base, in upper case for `X`. -/
def baseDigits (presentation : Char) (base n : Nat) : Text :=
  (digitsIn base n).map fun d =>
    let c := digitChar d
    if presentation = 'X' then c.toUpper else c

/-- The end of the integers that a machine word holds. -/
def wordEnd : Nat := Nat.pow 2 63

/-- An integer shown as the character of that number. -/
def formatCharacter (f : FieldSpec) (z : Int) : Except FieldFault Text := do
  if f.sign.isSome then throw .signOnCharacter
  if f.alternate then throw .alternateOnCharacter
  if z < -wordEnd || (wordEnd : Int) ≤ z then throw .characterTooLarge
  if z < 0 || 0x110000 ≤ z then throw .characterOutOfRange
  return layoutNumber f 3 { negative := false, whole := [], rest := [Text.charOf z.toNat] }

/-! ## 4. Doubles -/

/-- The layout of a double presentation with a precision, whether it is in upper case, and what
follows it. -/
def layoutOf (presentation : Option Char) (precision : Option Nat) :
    Option (Layout × Bool × Text) :=
  let places := precision.getD 6
  match presentation with
  | none =>
    some (match precision with
      | none => .shortest
      | some p => .general p true, false, [])
  | some 'e' => some (.exponent places, false, [])
  | some 'E' => some (.exponent places, true, [])
  | some 'f' => some (.fixed places, false, [])
  | some 'F' => some (.fixed places, true, [])
  | some 'g' | some 'n' => some (.general places false, false, [])
  | some 'G' => some (.general places false, true, [])
  | some '%' => some (.fixed places, false, ['%'])
  | _ => none

/-- The greatest precision of a double. -/
def precisionLimit : Nat := Nat.pow 2 31 - 1

/-- A text of a double that shows no digit but zero. -/
def showsZero (t : Text) : Bool :=
  (t.takeWhile fun c => c.isDigit || c = '.').all fun c => c = '0' || c = '.'

/-- A double in its field, in a layout. -/
def formatLayout (f : FieldSpec) (layout : Layout) (upper : Bool) (tail : Text) (d : Double) :
    Text :=
  let t := layout.text f.alternate d
  let t := (if upper then t.map Char.toUpper else t) ++ tail
  let whole := t.takeWhile Char.isDigit
  let isZero := !whole.isEmpty && showsZero t
  layoutNumber f 3 {
    negative := d.isNegative && !(f.positiveZero && isZero)
    whole
    rest := t.drop whole.length }

/-- A double with its specification read. -/
def formatDoubleSpec (kindName : Text) (d : Double) (f : FieldSpec) : Except FieldFault Text := do
  match layoutOf f.presentation f.precision with
  | none => throw (.unknownPresentation (f.presentation.getD ' ') kindName)
  | some (layout, upper, tail) =>
    if f.precision.any (precisionLimit < ·) then throw .precisionTooLarge
    let d := if f.presentation = some '%' then d.percent else d
    return formatLayout f layout upper tail d

/-! ## 5. Values -/

/-- An integer with its specification read. -/
def formatIntSpec (kindName : Text) (z : Int) (f : FieldSpec) : Except FieldFault Text := do
  let p := f.presentation.getD 'd'
  if (baseOf p).isSome || p = 'c' then
    if f.precision.isSome then throw .precisionOnInteger
    if f.positiveZero then throw .negativeZeroOnInteger
    match baseOf p with
    | none => formatCharacter f z
    | some (base, mark) =>
      if base = 10 && !isWritten z then throw .integerTooLong
      return layoutNumber f (if base = 10 then 3 else 4) {
        negative := z < 0
        mark := if f.alternate then mark else []
        whole := baseDigits p base z.natAbs }
  else if "eEfFgG%".contains p then
    match Double.ofInt? z with
    | none => throw .integerTooLarge
    | some d => formatDoubleSpec kindName d f
  else throw (.unknownPresentation p kindName)

/-- A value in its field; without a specification, its printed form, if it may be written. -/
def formatValue (v : Value) (spec : Text) : Except FieldFault Text := do
  if spec.isEmpty then
    if v.isPrintable then return v.display else throw .integerTooLong
  let kind := v.kindName
  match v with
  | .text t => formatText kind t spec
  | .int z => formatIntSpec kind z (← FieldSpec.read kind .right (some 'd') spec)
  | .bool b =>
    formatIntSpec kind (if b then 1 else 0) (← FieldSpec.read kind .right (some 'd') spec)
  | .float d => formatDoubleSpec kind d (← FieldSpec.read kind .right none spec)
  | .none | .list _ | .mapping _ => throw (.unsupported kind)

end LogSieve.Format
