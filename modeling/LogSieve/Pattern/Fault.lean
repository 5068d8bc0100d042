import LogSieve.Number.Integer
import LogSieve.Text.Quoted

/-!
# Why a pattern is refused

A `Problem` is a cause; a `Fault` is a cause with the place in the pattern where it shows, or one of
the few that have no place. `Fault.message` writes the fault of a given pattern; in a pattern of
several lines it adds the line and the column.
-/

namespace LogSieve.Pattern

/-- What is wrong at a place of a pattern. -/
inductive Problem where
  | danglingBackslash
  | incompleteEscape (escape : Text)
  | badEscape (escape : Text)
  | octalTooLarge (escape : Text)
  | missingBrace
  | unknownCharacterName (name : Text)
  | missing (what : Text)
  | unterminatedName (terminator : Char)
  | unterminatedSet
  | unterminatedGroup
  | unterminatedComment
  | badRange (low high : Text)
  | repeatBounds
  | nothingToRepeat
  | multipleRepeat
  | unexpectedEnd
  | unknownExtension (introducer : Text)
  | badGroupName (name : Text)
  | unknownGroupName (name : Text)
  | redefinedGroup (name : Text) (group earlier : Nat)
  | badGroupNumber
  | invalidGroupReference (group : Nat)
  | openGroupReference
  | lookbehindGroupReference
  | tooManyBranches
  | lateGlobalFlags
  | localeFlag
  | incompatibleFlags
  | unknownFlag
  | globalFlagOn
  | globalFlagOff
  | alphabetFlagOff
  | flagOnAndOff
  | unbalancedParenthesis
  deriving DecidableEq, Repr

def Problem.message : Problem → Text
  | .danglingBackslash => "bad escape (end of pattern)"
  | .incompleteEscape e => "incomplete escape " ++ e
  | .badEscape e => "bad escape " ++ e
  | .octalTooLarge e => "octal escape value " ++ e ++ " outside of range 0-0o377"
  | .missingBrace => "missing \x7b"
  | .unknownCharacterName n => "undefined character name " ++ Text.quoted n
  | .missing what => "missing " ++ what
  | .unterminatedName t => "missing " ++ t :: ", unterminated name"
  | .unterminatedSet => "unterminated character set"
  | .unterminatedGroup => "missing ), unterminated subpattern"
  | .unterminatedComment => "missing ), unterminated comment"
  | .badRange low high => "bad character range " ++ low ++ '-' :: high
  | .repeatBounds => "min repeat greater than max repeat"
  | .nothingToRepeat => "nothing to repeat"
  | .multipleRepeat => "multiple repeat"
  | .unexpectedEnd => "unexpected end of pattern"
  | .unknownExtension intro => "unknown extension " ++ intro
  | .badGroupName n => "bad character in group name " ++ Text.quoted n
  | .unknownGroupName n => "unknown group name " ++ Text.quoted n
  | .redefinedGroup n g e =>
    "redefinition of group name " ++ Text.quoted n ++ " as group " ++ decimal g ++
      "; was group " ++ decimal e
  | .badGroupNumber => "bad group number"
  | .invalidGroupReference g => "invalid group reference " ++ decimal g
  | .openGroupReference => "cannot refer to an open group"
  | .lookbehindGroupReference => "cannot refer to group defined in the same lookbehind subpattern"
  | .tooManyBranches => "conditional backref with more than two branches"
  | .lateGlobalFlags => "global flags not at the start of the expression"
  | .localeFlag => "bad inline flags: cannot use 'L' flag with a str pattern"
  | .incompatibleFlags => "bad inline flags: flags 'a', 'u' and 'L' are incompatible"
  | .unknownFlag => "unknown flag"
  | .globalFlagOn => "bad inline flags: cannot turn on global flag"
  | .globalFlagOff => "bad inline flags: cannot turn off global flag"
  | .alphabetFlagOff => "bad inline flags: cannot turn off flags 'a', 'u' and 'L'"
  | .flagOnAndOff => "bad inline flags: flag turned on and off"
  | .unbalancedParenthesis => "unbalanced parenthesis"

/-- Why a pattern is refused. -/
inductive Fault where
  /-- A problem at a position of the pattern. -/
  | located (problem : Problem) (position : Nat)
  | unboundedLookbehind
  | distantLookbehind
  | templateRepeat (operator : Text)
  /-- The flags for ASCII and for all of Unicode are both set. -/
  | clashingFlags
  /-- A bound of a repetition has too many digits to be read. -/
  | unreadableCount (digits : Nat)
  /-- A bound of a repetition is beyond the greatest count. -/
  | countTooLarge
  deriving DecidableEq, Repr

/-- The position, and in a pattern of several lines also the line and the column, all as they are
counted for readers: positions from zero, lines and columns from one. -/
def placeOf (pattern : Text) (position : Nat) : Text :=
  let before := pattern.take position
  let line := before.count '\n' + 1
  let column := (before.reverse.takeWhile (· ≠ '\n')).length + 1
  let place : Text := " at position " ++ decimal position
  if pattern.contains '\n' then
    place ++ " (line " ++ decimal line ++ ", column " ++ decimal column ++ ")"
  else place

def Fault.message (pattern : Text) : Fault → Text
  | .located problem position => problem.message ++ placeOf pattern position
  | .unboundedLookbehind => "look-behind requires fixed-width pattern"
  | .distantLookbehind => "looks too much behind"
  | .templateRepeat operator => "internal: unsupported template operator " ++ operator
  | .clashingFlags => "ASCII and UNICODE flags are incompatible"
  | .unreadableCount digits => tooManyDigits digits
  | .countTooLarge => "the repetition number is too large"

end LogSieve.Pattern
