import LogSieve.Text.Blank
import LogSieve.Text.Digit
import LogSieve.Text.Quoted

/-!
# Integers as texts

An integer is written in base ten, with a minus sign when negative (`decimal`, `showInt`). It is
read with more freedom: blanks around it, one sign, digits of any script, and single low lines
between digits (`readInt`). A text of more than 4300 digits is refused before anything after the
digits is looked at, because its value is not computed.

`ofDigits_digitsIn` says that the digits of a number give the number back.
-/

namespace LogSieve

/-! ## 1. Writing -/

/-- The digits of a natural number in a base up to 36, without leading zeros. -/
def digitsIn (base : Nat) (n : Nat) : List Nat :=
  if _h : 2 ≤ base ∧ base ≤ n then digitsIn base (n / base) ++ [n % base] else [n]
termination_by n
decreasing_by exact Nat.div_lt_self (by omega) (by omega)

/-- The value of a list of digits. -/
def ofDigits (base : Nat) (digits : List Nat) : Nat := digits.foldl (fun v d => v * base + d) 0

theorem ofDigits_append (base : Nat) (xs : List Nat) (d : Nat) :
    ofDigits base (xs ++ [d]) = ofDigits base xs * base + d := by
  simp [ofDigits]

/-- The digits of a number give the number. -/
theorem ofDigits_digitsIn (base n : Nat) : ofDigits base (digitsIn base n) = n := by
  fun_induction digitsIn base n with
  | case1 n h ih => rw [ofDigits_append, ih, Nat.mul_comm, Nat.div_add_mod]
  | case2 n h => simp [ofDigits]

theorem digitsIn_lt {base n : Nat} (h2 : 2 ≤ base) : ∀ d ∈ digitsIn base n, d < base := by
  fun_induction digitsIn base n with
  | case1 n h ih =>
    simp only [List.mem_append, List.mem_singleton]
    rintro d (hd | rfl)
    · exact ih d hd
    · exact Nat.mod_lt _ (by omega)
  | case2 n h => simp only [List.mem_singleton]; intro d hd; omega

theorem digitsIn_ne_nil (base n : Nat) : digitsIn base n ≠ [] := by
  unfold digitsIn; split <;> simp

/-- The character of a digit below 36, in lower case. -/
def digitChar (d : Nat) : Char := if d < 10 then Text.asciiDigit d else Char.ofNat (0x57 + d)

/-- A natural number in base ten. -/
def decimal (n : Nat) : Text := (digitsIn 10 n).map Text.asciiDigit

/-- An integer in base ten. -/
def showInt (z : Int) : Text := if z < 0 then '-' :: decimal z.natAbs else decimal z.natAbs

/-! ## 2. Reading -/

/-- Why a text is not read as an integer. -/
inductive IntegerFault where
  /-- The text has another form. -/
  | malformed (t : Text)
  /-- The text has too many digits. -/
  | tooLong (digits : Nat)
  deriving DecidableEq, Repr

/-- The most digits that are turned into a number or back. -/
def digitLimit : Nat := 4300

/-- What is said about a number of more digits than the limit. -/
def tooManyDigits (digits : Nat) : Text :=
  "Exceeds the limit (" ++ decimal digitLimit ++
    " digits) for integer string conversion: value has " ++ decimal digits ++
    " digits; use sys.set_int_max_str_digits() to increase the limit"

/-- What is said about a number that is not written because of its digits. -/
def tooManyDigitsToWrite : Text :=
  "Exceeds the limit (" ++ decimal digitLimit ++
    " digits) for integer string conversion; use sys.set_int_max_str_digits() to increase the limit"

/-- The number is written: it has no more digits than the limit. -/
def isWritten (z : Int) : Bool := (digitsIn 10 z.natAbs).length ≤ digitLimit

/-- What is said about a text that is not read as an integer; of a long text only the start is
shown. -/
def IntegerFault.message : IntegerFault → Text
  | .malformed t => "invalid literal for int() with base 10: " ++ (Text.quoted t).take 200
  | .tooLong digits => tooManyDigits digits

/-- The blanks that may surround a number: all but the separators U+001C to U+001F. -/
def isNumberBlank (c : Char) : Bool :=
  Text.isBlank c && !(0x1c ≤ c.toNat && c.toNat ≤ 0x1f)

/-- Digits with single low lines between them: the values of the digits and the rest of the text.
Unless a digit stands just before, the text must go on with a digit. -/
def scanDigits (afterDigit : Bool) : Text → Option (List Nat × Text)
  | [] => if afterDigit then some ([], []) else none
  | c :: rest =>
    match Text.digitValue? c with
    | some d => (scanDigits true rest).map fun (ds, tail) => (d :: ds, tail)
    | none =>
      if !afterDigit then none
      else if c = '_' then scanDigits false rest
      else some ([], c :: rest)

/-- The value of a text of digits, at most `digitLimit` of them. -/
def readDigits (digits : List Nat) : Except IntegerFault Nat :=
  if digits.length > digitLimit then .error (.tooLong digits.length) else .ok (ofDigits 10 digits)

/-- The sign in front of a number, if any, and the rest. -/
def takeSign : Text → Bool × Text
  | '-' :: rest => (true, rest)
  | '+' :: rest => (false, rest)
  | rest => (false, rest)

/-- An integer with blanks around it. -/
def readInt (t : Text) : Except IntegerFault Int :=
  let (negative, body) := takeSign (t.dropWhile isNumberBlank)
  match scanDigits false body with
  | some (digits, tail) => do
    let n ← readDigits digits
    if tail.all isNumberBlank then .ok (if negative then -(n : Int) else n)
    else .error (.malformed t)
  | none => .error (.malformed t)

end LogSieve
