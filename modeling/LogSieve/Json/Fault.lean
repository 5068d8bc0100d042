import LogSieve.Number.Integer

/-!
# Why a text is no document

A fault of a document is a problem at a place. The place is kept as the number of characters that
are left there; `Fault.message` shows it as position, line and column, the latter two from one.
-/

namespace LogSieve.Json

inductive Problem where
  | value
  | entryName
  | colon
  | comma
  | extraData
  | openText
  | controlCharacter
  | escape
  | codePoint
  | byteOrderMark
  deriving DecidableEq, Repr

def Problem.message : Problem → Text
  | .value => "Expecting value"
  | .entryName => "Expecting property name enclosed in double quotes"
  | .colon => "Expecting ':' delimiter"
  | .comma => "Expecting ',' delimiter"
  | .extraData => "Extra data"
  | .openText => "Unterminated string starting at"
  | .controlCharacter => "Invalid control character at"
  | .escape => "Invalid \\escape"
  | .codePoint => "Invalid \\uXXXX escape"
  | .byteOrderMark => "Unexpected UTF-8 BOM (decode using utf-8-sig)"

/-- Why a text is no document. -/
inductive Fault where
  /-- A problem where so many characters are left. -/
  | located (problem : Problem) (left : Nat)
  /-- An integer has too many digits. -/
  | tooManyDigits (digits : Nat)
  deriving DecidableEq, Repr

def Fault.message (document : Text) : Fault → Text
  | .located problem left =>
    let position := document.length - left
    let before := document.take position
    let column := (before.reverse.takeWhile (· ≠ '\n')).length + 1
    problem.message ++ ": line " ++ decimal (before.count '\n' + 1) ++ " column " ++
      decimal column ++ " (char " ++ decimal position ++ ")"
  | .tooManyDigits digits => LogSieve.tooManyDigits digits

end LogSieve.Json
