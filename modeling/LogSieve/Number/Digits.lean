import LogSieve.Number.Double

/-!
# Decimal digits of a number

Three ways to choose the digits of a positive quotient, all exact:

* `fixedDigits` rounds to a number of places after the point;
* `significantDigits` rounds to a number of digits, the first of them not zero;
* `shortestDigits` takes the fewest digits that only this double is nearest to, and of those the
  nearest to it.
-/

namespace LogSieve

/-- Digits with the power of ten that belongs to the first of them: `⟨[1, 2, 5], -2⟩` is 0.0125. -/
structure Decimal where
  digits : List Nat
  exponent : Int
  deriving DecidableEq, Repr

namespace Decimal

def zero : Decimal := ⟨[0], 0⟩

/-- The digits without trailing zeros, at least one. -/
def trimmed (d : Decimal) : Decimal :=
  match (d.digits.reverse.dropWhile (· = 0)).reverse with
  | [] => { d with digits := d.digits.take 1 }
  | ds => { d with digits := ds }

end Decimal

/-- The greatest power of ten that is not beyond a positive quotient. -/
def decimalExponent (num den : Nat) : Int :=
  let k : Int := (digitsIn 10 num).length - (digitsIn 10 den).length
  let (up, down) := powerRatio 10 k
  if num * down < den * up then k - 1 else k

/-- The quotient in units of a power of ten, as a quotient. -/
def scaled (num den : Nat) (unit : Int) : Nat × Nat :=
  let (up, down) := powerRatio 10 unit
  (num * down, den * up)

/-- The quotient in units of the last place, rounded. -/
def fixedDigits (num den places : Nat) : Nat := roundRatio (num * Nat.pow 10 places) den

/-- The quotient rounded to `count` digits. -/
def significantDigits (num den count : Nat) : Decimal :=
  if num = 0 then ⟨List.replicate count 0, 0⟩
  else
    let k := decimalExponent num den
    let (a, b) := scaled num den (k - count + 1)
    let n := roundRatio a b
    if n = Nat.pow 10 count then ⟨1 :: List.replicate (count - 1) 0, k + 1⟩ else ⟨digitsIn 10 n, k⟩

/-- The quarters around a significand that are nearer to it than to its neighbours: the ends of the
interval, and whether they belong to it. -/
def roundingInterval (m : Nat) (e : Int) : Nat × Nat × Bool :=
  let low :=
    if m = Double.significandEnd / 2 && Double.leastExponent < e then 4 * m - 1 else 4 * m - 2
  (low, 4 * m + 2, m % 2 == 0)

/-- `n` units of a power of ten lie in the interval of the double `m * 2 ^ e`. -/
def roundsTo (m : Nat) (e : Int) (n : Nat) (unit : Int) : Bool :=
  let (low, high, closed) := roundingInterval m e
  let (up2, down2) := powerRatio 2 (e - 2)
  let (up10, down10) := powerRatio 10 unit
  let x := n * up10 * down2
  let a := low * up2 * down10
  let b := high * up2 * down10
  if closed then a ≤ x && x ≤ b else a < x && x < b

/-- With `count` digits, the decimal nearest to the double among the two around it, if one of them
only this double is nearest to. -/
def digitsOfCount? (m : Nat) (e : Int) (num den count : Nat) : Option Decimal :=
  let k := decimalExponent num den
  let unit := k - count + 1
  let (a, b) := scaled num den unit
  let below := a / b
  let nearest := roundRatio a b
  let other := if nearest = below then below + 1 else below
  let found? :=
    if roundsTo m e nearest unit then some nearest
    else if roundsTo m e other unit then some other
    else none
  found?.map fun n =>
    if n = Nat.pow 10 count then ⟨[1], k + 1⟩ else (⟨digitsIn 10 n, k⟩ : Decimal).trimmed

/-- Tries one count of digits after the other, up to 17, which always suffice. -/
def digitsFromCount (m : Nat) (e : Int) (num den : Nat) : Nat → Decimal
  | 0 => (significantDigits num den 17).trimmed
  | left + 1 =>
    match digitsOfCount? m e num den (17 - left) with
    | some d => d
    | none => digitsFromCount m e num den left

/-- The shortest digits of the double `m * 2 ^ e`. -/
def shortestDigits (m : Nat) (e : Int) : Decimal :=
  if m = 0 then .zero
  else
    let (up, down) := powerRatio 2 e
    digitsFromCount m e (m * up) down 17

end LogSieve
