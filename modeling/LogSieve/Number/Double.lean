import LogSieve.Number.Integer

/-!
# Numbers in double precision

A finite double is a sign and a natural number below 2^53 times a power of two; beside those stand
the two infinities and one value that is no number. A rational number is rounded to the nearest
double, to the even one of two that are equally near (`Double.ofRatio`), and beyond the greatest
finite double to infinity. All arithmetic is on natural numbers, so the result is exact by
construction.
-/

namespace LogSieve

/-! ## 1. Rounding quotients -/

/-- The quotient rounded to the nearest natural number, a half to the even one. -/
def roundRatio (num den : Nat) : Nat :=
  let q := num / den
  let twice := 2 * (num % den)
  if twice < den || (twice == den && q % 2 == 0) then q else q + 1

/-- A power of the base as a quotient: one of the two numbers is 1. -/
def powerRatio (base : Nat) (exponent : Int) : Nat × Nat :=
  match exponent with
  | .ofNat n => (Nat.pow base n, 1)
  | .negSucc n => (1, Nat.pow base (n + 1))

/-! ## 2. Doubles -/

inductive Double where
  /-- The significand times two to the exponent. -/
  | finite (negative : Bool) (significand : Nat) (exponent : Int)
  | infinity (negative : Bool)
  /-- No number. -/
  | nan
  deriving DecidableEq, Repr

namespace Double

/-- The exponent of the least positive double. -/
def leastExponent : Int := -1074

/-- The exponent of the greatest finite double. -/
def greatestExponent : Int := 971

/-- One more than the greatest significand. -/
def significandEnd : Nat := Nat.pow 2 53

def zero (negative : Bool) : Double := finite negative 0 leastExponent

/-- The least exponent at which a quotient has fewer than 54 binary digits before the point. -/
def exponentFor (num den : Nat) : Int :=
  let k : Int := Nat.log2 num - Nat.log2 den
  let (up, down) := powerRatio 2 k
  let k := if num * down < den * up then k - 1 else k
  max (k - 52) leastExponent

/-- The double nearest to a quotient of natural numbers, with a sign. -/
def ofRatio (negative : Bool) (num den : Nat) : Double :=
  if num = 0 then zero negative
  else
    let e := exponentFor num den
    let (up, down) := powerRatio 2 e
    let m := roundRatio (num * down) (den * up)
    let (m, e) := if m = significandEnd then (m / 2, e + 1) else (m, e)
    if greatestExponent < e then infinity negative else finite negative m e

/-- The double nearest to digits times a power of ten. The number of digits settles the values that
are far outside the range, so that no power is computed for them. -/
def ofDecimal (negative : Bool) (digits : Nat) (exponent : Int) : Double :=
  let size : Int := (digitsIn 10 digits).length
  if digits = 0 || size + exponent < -330 then zero negative
  else if 310 < size + exponent then infinity negative
  else
    let (up, down) := powerRatio 10 exponent
    ofRatio negative (digits * up) down

/-- The double nearest to an integer, or nothing when that is beyond the finite ones. -/
def ofInt? (z : Int) : Option Double :=
  match ofRatio (z < 0) z.natAbs 1 with
  | infinity _ => none
  | d => some d

def isNegative : Double → Bool
  | finite negative _ _ | infinity negative => negative
  | nan => false

/-- Neither zero, so it counts as true. -/
def isNonzero : Double → Bool
  | finite _ m _ => m != 0
  | _ => true

/-- The magnitude of a finite double as a quotient. -/
def ratio? : Double → Option (Nat × Nat)
  | finite _ m e =>
    let (up, down) := powerRatio 2 e
    some (m * up, down)
  | _ => none

/-- The integer part, toward zero. -/
def truncate? : Double → Option Int
  | d@(finite negative _ _) =>
    d.ratio?.map fun (num, den) =>
      let n : Int := (num / den : Nat)
      if negative then -n else n
  | _ => none

/-- One hundred times the number, rounded to a double. -/
def percent : Double → Double
  | d@(finite negative _ _) =>
    match d.ratio? with
    | some (num, den) => ofRatio negative (100 * num) den
    | none => d
  | d => d

end Double

end LogSieve
