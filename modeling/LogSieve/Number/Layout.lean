import LogSieve.Number.Digits

/-!
# Layouts of numbers

How the digits of a double are set: with a point at a fixed place, with an exponent, by size in the
one or the other, or in the shortest form. The signs are not part of a layout: each function writes
the magnitude. Infinity and the value that is no number have the same texts in every layout.

The shortest form writes powers of ten from -4 to 15 with a point, others with an exponent of at
least two digits, and always shows that it is no integer.
-/

namespace LogSieve

/-- Digits as a text. -/
def digitText (ds : List Nat) : Text := ds.map Text.asciiDigit

/-- The exponent with its sign and at least two digits. -/
def exponentText (mark : Char) (k : Int) : Text :=
  mark :: (if k < 0 then '-' else '+') :: Text.padLeft '0' 2 (decimal k.natAbs)

/-- The integer digits and the digits after the point; the point stands when there are any of these,
or when `point` asks for it. -/
def pointText (whole frac : Text) (point : Bool) : Text :=
  if frac.isEmpty && !point then whole else whole ++ '.' :: frac

/-- A decimal with a point: its integer digits and the digits after the point. -/
def positional (d : Decimal) : Text × Text :=
  match d.exponent with
  | .ofNat k =>
    let n := k + 1
    (digitText (d.digits.take n) ++ List.replicate (n - d.digits.length) '0',
      digitText (d.digits.drop n))
  | .negSucc k => (['0'], List.replicate k '0' ++ digitText d.digits)

/-- A decimal with one digit before the point and an exponent. -/
def scientific (d : Decimal) (point : Bool) : Text :=
  pointText (digitText (d.digits.take 1)) (digitText (d.digits.drop 1)) point ++
    exponentText 'e' d.exponent

/-- A number of units of the last of some places. -/
def fixedText (n places : Nat) (point : Bool) : Text :=
  let t := Text.padLeft '0' (places + 1) (decimal n)
  pointText (t.take (t.length - places)) (t.drop (t.length - places)) point

/-- How a double is laid out. -/
inductive Layout where
  /-- A number of places after the point. -/
  | fixed (places : Nat)
  /-- An exponent, and a number of places after the point. -/
  | exponent (places : Nat)
  /-- A number of digits, with an exponent when it is below -4 or not below that number.
  `fraction` keeps a digit after the point and lowers the bound for exponents by one. -/
  | general (digits : Nat) (fraction : Bool)
  /-- The shortest digits that give the double back. -/
  | shortest
  deriving DecidableEq, Repr

/-- With `.0` when there is neither a point nor an exponent. -/
def withFraction (t : Text) : Text :=
  if t.contains '.' || t.contains 'e' then t else t ++ ".0"

/-- Digits by size with a point or with an exponent. `keep` keeps trailing zeros and the point. -/
def generalText (num den digits : Nat) (fraction keep : Bool) : Text :=
  let digits := max digits 1
  let full := significantDigits num den digits
  let k := if num = 0 then 0 else full.exponent
  let d : Decimal := if keep then full else full.trimmed
  let bound : Int := if fraction then digits - 1 else digits
  let t :=
    if -4 ≤ k && k < bound then
      let (whole, frac) := positional { d with exponent := k }
      pointText whole frac keep
    else scientific { d with exponent := k } keep
  if fraction then withFraction t else t

/-- The shortest form of a decimal; `keep` keeps the point of a single digit with an exponent. -/
def shortestText (d : Decimal) (keep : Bool) : Text :=
  if -4 ≤ d.exponent && d.exponent < 16 then
    let (whole, frac) := positional d
    pointText whole (if frac.isEmpty then ['0'] else frac) true
  else scientific d keep

/-- The magnitude of a double in a layout; `keep` keeps the point of a number without places and the
trailing zeros of the general layout. -/
def Layout.text (layout : Layout) (keep : Bool) : Double → Text
  | .nan => "nan"
  | .infinity _ => "inf"
  | .finite _ m e =>
    let (up, down) := powerRatio 2 e
    let num := m * up
    match layout with
    | fixed places => fixedText (fixedDigits num down places) places keep
    | exponent places => scientific (significantDigits num down (places + 1)) keep
    | general digits fraction => generalText num down digits fraction keep
    | shortest => shortestText (shortestDigits m e) keep

/-- A double in the shortest form, with its sign. -/
def Double.text (d : Double) : Text :=
  if d.isNegative then '-' :: Layout.shortest.text false d else Layout.shortest.text false d

end LogSieve
