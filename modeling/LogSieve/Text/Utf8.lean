import LogSieve.Text.Quoted
import LogSieve.Number.Integer

/-!
# Texts in bytes

A text is kept in a file as UTF-8. `decodeUtf8` reads the bytes one at a time and remembers of a
character that has begun what is still owed: how many bytes, and the range of the next one. The
range of the second byte keeps out overlong forms, surrogates and what lies beyond the last code
point. A fault names the bytes from the start of the broken character up to the one that cannot
follow.

`byteLength` counts the bytes of a text, and `unifyNewlines` turns the three ways to end a line into
one.
-/

namespace LogSieve.Text

/-! ## 1. Faults -/

/-- What is wrong with bytes. -/
inductive ByteProblem where
  | invalidStart
  | invalidContinuation
  | unexpectedEnd
  deriving DecidableEq, Repr

def ByteProblem.message : ByteProblem → Text
  | .invalidStart => "invalid start byte"
  | .invalidContinuation => "invalid continuation byte"
  | .unexpectedEnd => "unexpected end of data"

/-- Bytes that are no character: where they start and end, and the first of them. -/
structure ByteFault where
  problem : ByteProblem
  first : Nat
  start : Nat
  stop : Nat
  deriving DecidableEq, Repr

def ByteFault.message (f : ByteFault) : Text :=
  let place : Text :=
    if f.stop = f.start + 1 then
      "byte 0x" ++ hexDigits 2 f.first ++ " in position " ++ decimal f.start
    else "bytes in position " ++ decimal f.start ++ '-' :: decimal (f.stop - 1)
  "'utf-8' codec can't decode " ++ place ++ ": " ++ f.problem.message

/-! ## 2. Decoding -/

/-- A character that has begun. -/
structure Owed where
  first : Nat
  start : Nat
  /-- The bits that are known. -/
  bits : Nat
  /-- The range of the next byte. -/
  least : Nat
  greatest : Nat
  /-- How many bytes follow the next one. -/
  more : Nat
  deriving Repr

/-- What a byte begins: a character of its own, or one that owes more bytes. -/
def begin? (position byte : Nat) : Option (Char ⊕ Owed) :=
  let owed (bits least greatest more : Nat) : Option (Char ⊕ Owed) :=
    some (.inr { first := byte, start := position, bits, least, greatest, more })
  if byte < 0x80 then some (.inl (Char.ofNat byte))
  else if byte < 0xc2 then none
  else if byte < 0xe0 then owed (byte - 0xc0) 0x80 0xbf 0
  else if byte < 0xf0 then
    owed (byte - 0xe0) (if byte = 0xe0 then 0xa0 else 0x80) (if byte = 0xed then 0x9f else 0xbf) 1
  else if byte < 0xf5 then
    owed (byte - 0xf0) (if byte = 0xf0 then 0x90 else 0x80) (if byte = 0xf4 then 0x8f else 0xbf) 2
  else none

/-- The text of bytes after the given position, the first of them owed to a character begun. -/
def decodeFrom (position : Nat) (owed : Option Owed) : List UInt8 → Except ByteFault Text
  | [] =>
    match owed with
    | none => .ok []
    | some o => .error ⟨.unexpectedEnd, o.first, o.start, position⟩
  | b :: rest =>
    let byte := b.toNat
    match owed with
    | none =>
      match begin? position byte with
      | none => .error ⟨.invalidStart, byte, position, position + 1⟩
      | some (.inl c) => do return c :: (← decodeFrom (position + 1) none rest)
      | some (.inr o) => decodeFrom (position + 1) (some o) rest
    | some o =>
      if o.least ≤ byte && byte ≤ o.greatest then
        let bits := o.bits * 0x40 + (byte - 0x80)
        if o.more = 0 then do return Char.ofNat bits :: (← decodeFrom (position + 1) none rest)
        else
          decodeFrom (position + 1)
            (some { o with bits, least := 0x80, greatest := 0xbf, more := o.more - 1 }) rest
      else .error ⟨.invalidContinuation, o.first, o.start, position⟩

/-- The text that bytes stand for. -/
def decodeUtf8 (bytes : List UInt8) : Except ByteFault Text := decodeFrom 0 none bytes

/-- How many bytes the text takes. -/
def byteLength : Text → Nat
  | [] => 0
  | c :: rest => c.utf8Size + byteLength rest

/-! ## 3. Lines -/

/-- The text with one way to end a line. -/
def unifyNewlines : Text → Text
  | '\r' :: '\n' :: rest => '\n' :: unifyNewlines rest
  | '\r' :: rest => '\n' :: unifyNewlines rest
  | c :: rest => c :: unifyNewlines rest
  | [] => []

end LogSieve.Text
