import LogSieve.Format.Field
import LogSieve.Text.Case

/-!
# Levels

A level is a ceiling on how talkative a module may be: `off` lets nothing through, `trace`
everything. Levels are ordered by their rank, and a level is named by a word in any case, or by the
digits of its rank in any script, with blanks around either.

* `parse_name`: the name of a level is read as that level;
* `parse_trim_eq_ok_iff`: blanks around it do not matter;
* `ofNumber_number`: the number of a level on the host's scale is mapped back to the level;
* `ofNumber_le_iff`: the mapping from the host's numbers turns the order around.
-/

namespace LogSieve

inductive Level where
  | off
  | error
  | warning
  | info
  | debug
  | trace
  deriving DecidableEq, Repr, Inhabited

namespace Level

/-! ## 1. Order -/

def rank : Level → Nat
  | off => 0
  | error => 1
  | warning => 2
  | info => 3
  | debug => 4
  | trace => 5

instance : LE Level := ⟨fun a b => a.rank ≤ b.rank⟩

instance : LT Level := ⟨fun a b => a.rank < b.rank⟩

instance (a b : Level) : Decidable (a ≤ b) := inferInstanceAs (Decidable (a.rank ≤ b.rank))

instance (a b : Level) : Decidable (a < b) := inferInstanceAs (Decidable (a.rank < b.rank))

instance : Max Level := ⟨fun a b => if a ≤ b then b else a⟩

theorem le_iff_rank {a b : Level} : a ≤ b ↔ a.rank ≤ b.rank := Iff.rfl

theorem rank_inj {a b : Level} (h : a.rank = b.rank) : a = b := by
  cases a <;> cases b <;> first | rfl | exact absurd h (by decide)

theorem off_lt_iff {a : Level} : off < a ↔ a ≠ off := by cases a <;> decide

/-- The level of a rank. -/
def ofRank? : Nat → Option Level
  | 0 => some off
  | 1 => some error
  | 2 => some warning
  | 3 => some info
  | 4 => some debug
  | 5 => some trace
  | _ => none

theorem ofRank?_eq_some_iff {n : Nat} {l : Level} : ofRank? n = some l ↔ n = l.rank := by
  constructor
  · intro h
    match n with
    | 0 | 1 | 2 | 3 | 4 | 5 => simp only [ofRank?, Option.some.injEq] at h; subst h; rfl
    | _ + 6 => simp [ofRank?] at h
  · rintro rfl; cases l <;> rfl

/-! ## 2. Names -/

def name : Level → Text
  | off => "off"
  | error => "error"
  | warning => "warning"
  | info => "info"
  | debug => "debug"
  | trace => "trace"

/-- The name in capitals. -/
def symbol : Level → Text
  | off => "OFF"
  | error => "ERROR"
  | warning => "WARNING"
  | info => "INFO"
  | debug => "DEBUG"
  | trace => "TRACE"

/-- The long form, with the symbol and the rank. -/
def describe (l : Level) : Text := "<FilterLevel." ++ l.symbol ++ ": " ++ decimal l.rank ++ ">"

/-- The name in a field. -/
def format (l : Level) (spec : Text) : Except Format.FieldFault Text :=
  Format.formatText "str" l.name spec

/-- The words that name a level. -/
def spellings : List (Text × Level) :=
  [("off", off), ("error", error), ("warn", warning), ("warning", warning), ("info", info),
   ("debug", debug), ("trace", trace)]

/-! ## 3. Reading -/

/-- Why a value names no level. -/
inductive Fault where
  | unknown (shown : Text)
  | tooManyDigits (digits : Nat)
  /-- The value has no printed form. -/
  | unwritten
  deriving DecidableEq, Repr

def Fault.message : Fault → Text
  | .unknown shown => "invalid filter level: " ++ shown
  | .tooManyDigits digits => LogSieve.tooManyDigits digits
  | .unwritten => tooManyDigitsToWrite

/-- The text is a number without sign or separators. -/
def isNumeral (t : Text) : Bool := !t.isEmpty && t.all Text.isDecimalDigit

/-- The value of a numeral. -/
def numeralValue (t : Text) : Nat := ofDigits 10 (t.filterMap Text.digitValue?)

/-- The level that a word or a rank stands for; `shown` is the value that is being read, as a fault
shows it. -/
def ofToken (shown token : Text) : Except Fault Level :=
  match spellings.lookup token with
  | some l => .ok l
  | none =>
    if isNumeral token then
      if digitLimit < token.length then .error (.tooManyDigits token.length)
      else (ofRank? (numeralValue token)).elim (.error (.unknown shown)) .ok
    else .error (.unknown shown)

/-- The level that a value names by its printed form. -/
def ofValue (v : Value) : Except Fault Level :=
  if v.isPrintable then ofToken v.quoted v.display.trim.lower else .error .unwritten

/-- The level that a text names; it is its own printed form. -/
def parse (t : Text) : Except Fault Level := ofToken t.quoted t.trim.lower

/-- The name of a level is read as that level. -/
theorem parse_name (l : Level) : parse l.name = .ok l := by cases l <;> rfl

/-- How a value is shown does not matter for the level that its token stands for. -/
theorem ofToken_eq_ok_iff (shown shown' token : Text) (l : Level) :
    ofToken shown token = .ok l ↔ ofToken shown' token = .ok l := by
  unfold ofToken
  cases spellings.lookup token with
  | some l' => exact Iff.rfl
  | none =>
    dsimp only
    split
    · split
      · exact iff_of_false nofun nofun
      · cases ofRank? (numeralValue token) with
        | some l' => exact Iff.rfl
        | none => exact iff_of_false nofun nofun
    · exact iff_of_false nofun nofun

/-- Blanks around a text do not matter for the level that it names. -/
theorem parse_trim_eq_ok_iff (t : Text) (l : Level) : parse t.trim = .ok l ↔ parse t = .ok l := by
  show ofToken (Value.text t.trim).quoted t.trim.trim.lower = .ok l ↔ _
  rw [Text.trim_trim]
  exact ofToken_eq_ok_iff _ _ _ l

/-! ## 4. Numbers on the host's scale -/

/-- The level of a number on the host's scale, where greater is more severe: the critical numbers
count as errors, everything below 10 as trace. -/
def ofNumber (n : Int) : Level :=
  if 40 ≤ n then error
  else if 30 ≤ n then warning
  else if 20 ≤ n then info
  else if 10 ≤ n then debug
  else trace

/-- The least number that the level still admits; `off` lies above every number in use. -/
def number : Level → Int
  | off => 60
  | error => 40
  | warning => 30
  | info => 20
  | debug => 10
  | trace => 5

theorem ofNumber_number {l : Level} (h : l ≠ off) : ofNumber l.number = l := by
  cases l <;> first | exact absurd rfl h | decide

theorem ofNumber_ne_off (n : Int) : ofNumber n ≠ off := by
  unfold ofNumber; split
  · decide
  · split
    · decide
    · split
      · decide
      · split <;> decide

/-- Above trace, a level admits a number exactly when it is at least the level's own. -/
theorem ofNumber_le_iff {l : Level} (ho : l ≠ off) (ht : l ≠ trace) (n : Int) :
    ofNumber n ≤ l ↔ l.number ≤ n := by
  unfold ofNumber
  cases l <;> first | exact absurd rfl ho | exact absurd rfl ht | skip
  all_goals
    simp only [le_iff_rank, number]
    repeat' split
    all_goals simp only [rank]; omega

end Level

end LogSieve
