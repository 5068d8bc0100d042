import LogSieve.Value

/-!
# Message formats as pieces

A message format is plain text with conversions: a percent sign, an optional key in parentheses,
flags, a width, a precision, an optional size letter that means nothing, and the letter that names
the conversion. `piecesOf` takes a format apart and never fails: what is wrong with a conversion is
kept in the conversion, because an argument that it takes can be at fault earlier.
-/

namespace LogSieve.Format

/-! ## 1. Pieces -/

/-- A width or a precision. -/
inductive Amount where
  | given (n : Nat)
  /-- Taken from the arguments. -/
  | star
  /-- Written with a number that is too large. -/
  | excessive
  deriving DecidableEq, Repr

/-- The key of a conversion. -/
inductive Key where
  | named (name : Text)
  /-- The parenthesis is not closed. -/
  | unclosed
  deriving DecidableEq, Repr

structure Conversion where
  key : Option Key := none
  leftAlign : Bool := false
  showSign : Bool := false
  spaceSign : Bool := false
  alternate : Bool := false
  zeroFill : Bool := false
  width : Option Amount := none
  precision : Option Amount := none
  /-- The letter of the conversion with its position, unless the format ends before it. -/
  letter : Option (Char × Nat) := none
  deriving DecidableEq, Repr

inductive Piece where
  | plain (c : Char)
  | conversion (conv : Conversion)
  deriving DecidableEq, Repr

/-! ## 2. Parts of a conversion -/

/-- The key up to the parenthesis that closes it, after `depth` open ones. -/
def readKey (name : Text) (depth : Nat) : Text → Key × Text
  | [] => (.unclosed, [])
  | c :: rest =>
    if c = ')' then
      match depth with
      | 0 => (.named name.reverse, rest)
      | d + 1 => readKey (c :: name) d rest
    else readKey (c :: name) (if c = '(' then depth + 1 else depth) rest

/-- Sets a flag, if the character is one. -/
def setFlag (conv : Conversion) : Char → Option Conversion
  | '-' => some { conv with leftAlign := true }
  | '+' => some { conv with showSign := true }
  | ' ' => some { conv with spaceSign := true }
  | '#' => some { conv with alternate := true }
  | '0' => some { conv with zeroFill := true }
  | _ => none

def readFlags (conv : Conversion) : Text → Conversion × Text
  | [] => (conv, [])
  | c :: rest =>
    match setFlag conv c with
    | some conv => readFlags conv rest
    | none => (conv, c :: rest)

def isAsciiNumeral (c : Char) : Bool := '0' ≤ c && c ≤ '9'

/-- A number up to a limit, or a star. -/
def readAmount (limit : Nat) (t : Text) : Option Amount × Text :=
  match t with
  | [] => (none, [])
  | c :: rest =>
    if c = '*' then (some .star, rest)
    else
      let digits := t.takeWhile isAsciiNumeral
      let n := ofDigits 10 (digits.filterMap Text.digitValue?)
      if digits.isEmpty then (none, t)
      else (some (if limit < n then .excessive else .given n), t.drop digits.length)

/-- The greatest width. -/
def widthLimit : Nat := Nat.pow 2 63 - 1

/-- The greatest number of places. -/
def placesLimit : Nat := Nat.pow 2 31 - 1

/-- A point alone stands for the precision 0. -/
def readPlaces : Text → Option Amount × Text
  | [] => (none, [])
  | c :: rest =>
    if c = '.' then
      let (amount, rest) := readAmount placesLimit rest
      (some (amount.getD (.given 0)), rest)
    else (none, c :: rest)

/-- Leaves one size letter out. -/
def skipSizeLetter : Text → Text
  | [] => []
  | c :: rest => if c = 'h' || c = 'l' || c = 'L' then rest else c :: rest

/-- The key, when the text begins with a parenthesis. -/
def readKeyPart : Text → Option Key × Text
  | [] => (none, [])
  | c :: rest =>
    if c = '(' then
      let (key, rest) := readKey [] 0 rest
      (some key, rest)
    else (none, c :: rest)

/-- A conversion, after its percent sign, in a format of `size` characters. -/
def readConversion (size : Nat) (t : Text) : Conversion × Text :=
  let (key, t) := readKeyPart t
  let (conv, t) := readFlags { key } t
  let (width, t) := readAmount widthLimit t
  let (precision, t) := readPlaces t
  match skipSizeLetter t with
  | [] => ({ conv with width, precision }, [])
  | c :: rest => ({ conv with width, precision, letter := some (c, size - rest.length - 1) }, rest)

/-! ## 3. Reading only goes forward -/

theorem length_readKey (name : Text) (depth : Nat) (t : Text) :
    (readKey name depth t).2.length ≤ t.length := by
  induction t generalizing name depth with
  | nil => simp [readKey]
  | cons c rest ih =>
    simp only [readKey, List.length_cons]
    split
    · cases depth with
      | zero => simp
      | succ d => exact Nat.le_succ_of_le (ih _ _)
    · exact Nat.le_succ_of_le (ih _ _)

theorem length_readKeyPart (t : Text) : (readKeyPart t).2.length ≤ t.length := by
  cases t with
  | nil => simp [readKeyPart]
  | cons c rest =>
    simp only [readKeyPart]
    split
    · exact Nat.le_succ_of_le (length_readKey [] 0 rest)
    · simp

theorem length_readFlags (conv : Conversion) (t : Text) :
    (readFlags conv t).2.length ≤ t.length := by
  induction t generalizing conv with
  | nil => simp [readFlags]
  | cons c rest ih =>
    simp only [readFlags]
    split
    · exact Nat.le_succ_of_le (ih _)
    · simp

theorem length_readAmount (limit : Nat) (t : Text) : (readAmount limit t).2.length ≤ t.length := by
  cases t with
  | nil => simp [readAmount]
  | cons c rest =>
    simp only [readAmount]
    split
    · simp
    · split <;> simp

theorem length_readPlaces (t : Text) : (readPlaces t).2.length ≤ t.length := by
  cases t with
  | nil => simp [readPlaces]
  | cons c rest =>
    simp only [readPlaces]
    split
    · exact Nat.le_succ_of_le (length_readAmount _ rest)
    · simp

theorem length_skipSizeLetter (t : Text) : (skipSizeLetter t).length ≤ t.length := by
  cases t with
  | nil => simp [skipSizeLetter]
  | cons c rest => simp only [skipSizeLetter]; split <;> simp

theorem length_readConversion (size : Nat) (t : Text) :
    (readConversion size t).2.length ≤ t.length := by
  simp only [readConversion]
  have h1 := length_readKeyPart t
  generalize readKeyPart t = p at h1 ⊢
  have h2 := length_readFlags { key := p.1 } p.2
  generalize readFlags { key := p.1 } p.2 = q at h2 ⊢
  have h3 := length_readAmount widthLimit q.2
  generalize readAmount widthLimit q.2 = r at h3 ⊢
  have h4 := length_readPlaces r.2
  generalize readPlaces r.2 = s at h4 ⊢
  have h5 := length_skipSizeLetter s.2
  split
  · simp
  · rename_i c rest h
    rw [h] at h5
    simp only [List.length_cons] at h5 ⊢
    omega

/-! ## 4. Formats -/

/-- The pieces of the rest of a format of `size` characters; two percent signs are one plain one. -/
def piecesFrom (size : Nat) : Text → List Piece
  | [] => []
  | c :: rest =>
    if c ≠ '%' then .plain c :: piecesFrom size rest
    else if rest.head? = some '%' then .plain '%' :: piecesFrom size rest.tail
    else
      have : (readConversion size rest).2.length ≤ rest.length := length_readConversion size rest
      .conversion (readConversion size rest).1 :: piecesFrom size (readConversion size rest).2
termination_by t => t.length
decreasing_by
  all_goals simp only [List.length_cons, List.length_tail]
  all_goals omega

/-- The pieces of a format. -/
def piecesOf (format : Text) : List Piece := piecesFrom format.length format

end LogSieve.Format
