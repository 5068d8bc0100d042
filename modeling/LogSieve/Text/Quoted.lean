import LogSieve.Text.Printable

/-!
# Quoted texts

A quoted text stands between two equal quotes and shows every character that has no printed shape
as an escape. The quote is `'` unless the text holds that one and not the other, so most texts need
no escape for it. `escapeNonAscii` afterwards leaves ASCII alone.
-/

namespace LogSieve.Text

/-- The digit of base 16, in lower case. -/
def hexDigit (d : Nat) : Char := if d < 10 then Char.ofNat (0x30 + d) else Char.ofNat (0x57 + d)

/-- The last `width` digits of a number in base 16. -/
def hexDigits (width n : Nat) : Text :=
  match width with
  | 0 => []
  | w + 1 => hexDigits w (n / 16) ++ [hexDigit (n % 16)]

/-- The shortest of the three numeric escapes that can hold the code point. -/
def numericEscape (c : Char) : Text :=
  let n := c.toNat
  if n < 0x100 then '\\' :: 'x' :: hexDigits 2 n
  else if n < 0x10000 then '\\' :: 'u' :: hexDigits 4 n
  else '\\' :: 'U' :: hexDigits 8 n

/-- One character inside the given quotes. -/
def quotedChar (quote c : Char) : Text :=
  if c = quote || c = '\\' then ['\\', c]
  else if c = '\t' then ['\\', 't']
  else if c = '\n' then ['\\', 'n']
  else if c = '\r' then ['\\', 'r']
  else if isPrintable c then [c]
  else numericEscape c

/-- The quote that needs fewer escapes, the single one when both do. -/
def quoteFor (t : Text) : Char := if t.contains '\'' && !t.contains '"' then '"' else '\''

/-- The text in quotes. -/
def quoted (t : Text) : Text :=
  let quote := quoteFor t
  quote :: t.flatMap (quotedChar quote) ++ [quote]

/-- Every character beyond ASCII as its numeric escape, the others as they are. -/
def escapeNonAscii (t : Text) : Text :=
  t.flatMap fun c => if c.toNat < 0x80 then [c] else numericEscape c

end LogSieve.Text
