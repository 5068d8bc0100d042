import LogSieve.Pattern.Syntax
import LogSieve.Text.Blank
import LogSieve.Text.Case
import LogSieve.Text.Digit
import LogSieve.Text.Word

/-!
# Which characters a pattern accepts

A character is tested as it is, or folded: `Fold.apply` takes it to lower case, in ASCII alone or in
all of Unicode, and the pattern accepts it when the folded character is one that its own characters
fold to. Lower-case characters that share their upper case count as equal (`foldedTwins`). Beyond
the first 65536 code points a member of a set is compared as it is written, and a range also accepts
a character whose upper case lies in it.

`literalTest_none` says that without folding a character accepts exactly itself.
-/

namespace LogSieve.Pattern

/-! ## 1. Folding -/

/-- How far the difference between upper and lower case is ignored. -/
inductive Fold where
  | none
  | ascii
  | unicode
  deriving DecidableEq, Repr

namespace Fold

/-- The folding under the flags. -/
def ofFlags (flags : Flags) : Fold :=
  if !flags.ignoreCase then .none else if flags.ascii then .ascii else .unicode

/-- The lower case of a code point. -/
def apply : Fold → Nat → Nat
  | .none, n => n
  | .ascii, n => if 0x41 ≤ n && n ≤ 0x5a then n + 0x20 else n
  | .unicode, n => Text.moveByRuns Text.lowerRuns n

/-- The lower-case characters that count as equal to this one, itself first. -/
def twins : Fold → Nat → List Nat
  | .unicode, n => n :: (Text.foldedTwins.lookup n).getD []
  | _, n => [n]

/-- The code points that the runs take to this one. -/
def sourcesIn (n : Nat) (runs : List Text.CaseRun) : List Nat :=
  runs.filterMap fun (first, last, step, image) =>
    if image ≤ n && n ≤ image + (last - first) && (n - image) % step == 0
    then some (first + (n - image)) else Option.none

/-- The code points whose lower case is this one. -/
def sources : Fold → Nat → List Nat
  | .none, n => [n]
  | .ascii, n =>
    if 0x61 ≤ n && n ≤ 0x7a then [n, n - 0x20]
    else if 0x41 ≤ n && n ≤ 0x5a then [] else [n]
  | .unicode, n =>
    let below := sourcesIn n Text.lowerRuns
    if Text.moveByRuns Text.lowerRuns n = n then n :: below else below

end Fold

/-! ## 2. Tests -/

/-- A character of a class, among all characters or those of ASCII. -/
def kindTest (ascii : Bool) (k : CharKind) (n : Nat) : Bool :=
  let c := Char.ofNat n
  if ascii && 0x80 ≤ n then false
  else match k with
    | .digit => Text.isDecimalDigit c
    | .blank => Text.isBlank c && !(ascii && 0x1c ≤ n && n ≤ 0x1f)
    | .word => Text.isWordChar c

/-- A character is the one of the pattern. -/
def literalTest (fold : Fold) (code : Nat) (c : Char) : Bool :=
  (fold.twins (fold.apply code)).contains (fold.apply c.toNat)

/-- The first code point that sets do not fold. -/
def foldedEnd : Nat := 0x10000

def inRange (low high n : Nat) : Bool := low ≤ n && n ≤ high

/-- A folded code point is accepted by a member of a set. -/
def itemTest (fold : Fold) (ascii : Bool) (n : Nat) : SetItem → Bool
  | .char code =>
    if fold = .none || foldedEnd ≤ code then n == code
    else (fold.twins (fold.apply code)).contains n
  | .range low high =>
    if fold = .none then inRange low high n
    else
      ((fold.twins n).any fun twin =>
        (fold.sources twin).any (inRange low (min high (foldedEnd - 1)))) ||
      (foldedEnd ≤ high &&
        (inRange low high n || inRange low high (Text.moveByRuns Text.upperRuns n)))
  | .kind k negated => kindTest ascii k n != negated

/-- A character is in a set, or outside of it when negated. -/
def setTest (flags : Flags) (negated : Bool) (items : List SetItem) (c : Char) : Bool :=
  let fold := Fold.ofFlags flags
  items.any (itemTest fold flags.ascii (fold.apply c.toNat)) != negated

theorem literalTest_none (code : Nat) (c : Char) :
    literalTest .none code c = true ↔ c.toNat = code := by
  simp [literalTest, Fold.twins, Fold.apply]

end LogSieve.Pattern
