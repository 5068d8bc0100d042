import LogSieve.Number.Integer

/-!
# Digits and letters of ASCII

Escapes and file formats know the digits of ASCII only, in a base up to 16 and in either case.
`numberIn` is the value of such digits.
-/

namespace LogSieve

def isAsciiDigit (c : Char) : Bool := '0' ≤ c && c ≤ '9'

def isOctalDigit (c : Char) : Bool := '0' ≤ c && c ≤ '7'

def isHexDigit (c : Char) : Bool :=
  isAsciiDigit c || 'a' ≤ c && c ≤ 'f' || 'A' ≤ c && c ≤ 'F'

def isAsciiLetter (c : Char) : Bool := 'a' ≤ c && c ≤ 'z' || 'A' ≤ c && c ≤ 'Z'

/-- The value of a digit of a base up to 16. -/
def digitOf (c : Char) : Nat :=
  if isAsciiDigit c then c.toNat - 0x30
  else if 'a' ≤ c then c.toNat - 0x57
  else c.toNat - 0x37

def numberIn (base : Nat) (digits : Text) : Nat := ofDigits base (digits.map digitOf)

end LogSieve
