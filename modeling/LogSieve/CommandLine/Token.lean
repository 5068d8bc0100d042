import LogSieve.CommandLine.Grammar
import LogSieve.Text.Digit

/-!
# Flags and operands in a command line

Each argument is classified by itself: it is a flag, the separator `--`, after which everything is
an operand, or an operand. A long name may be shortened as long as only one flag has it then, and
takes an argument after `=`; a short one may be followed by its argument, or by other short flags.
What looks like a flag and is none is an operand when it is a negative number or holds a space, and
otherwise unknown.
-/

namespace LogSieve.CommandLine

inductive Token where
  | operand (t : Text)
  | separator
  /-- A flag under a name, with what stands behind the name in the same argument. -/
  | flag (t : Text) (f : Flag) (name : Text) (behind : Option Text)
  /-- Something like a flag that the grammar does not know. -/
  | unknown (t : Text)
  deriving Repr

namespace Token

def text : Token → Text
  | operand t | flag t .. | unknown t => t
  | separator => "--"

/-- The token is like a flag. -/
def isFlagLike : Token → Bool
  | flag .. | unknown _ => true
  | _ => false

end Token

/-! ## 1. One argument -/

/-- A text of decimal digits and perhaps a point with digits behind it, after a hyphen. A line end
behind the number does not count. -/
def isNegativeNumber (t : Text) : Bool :=
  match t with
  | '-' :: body =>
    let body := if body.getLast? = some '\n' then body.dropLast else body
    match Text.cutAt '.' body with
    | (whole, none) => !whole.isEmpty && whole.all Text.isDecimalDigit
    | (whole, some frac) =>
      whole.all Text.isDecimalDigit && !frac.isEmpty && frac.all Text.isDecimalDigit
  | _ => false

/-- The flags that a shortened long name, or a short name with something behind it, may mean. -/
def candidates (g : Grammar) (t : Text) : List (Flag × Text × Option Text) :=
  match t with
  | '-' :: '-' :: _ =>
    let (name, argument) := Text.cutAt '=' t
    (g.names.filter fun (n, _) => name.isPrefixOf n).map fun (n, f) => (f, n, argument)
  | _ =>
    g.names.filterMap fun (n, f) =>
      if n = t.take 2 then some (f, n, some (t.drop 2))
      else if t.isPrefixOf n then some (f, n, none)
      else none

/-- A text that starts with a hyphen and is no name by itself, nor a name with an argument. -/
def classifyLoose (g : Grammar) (t : Text) : Except Misuse Token :=
  match candidates g t with
  | [(f, name, behind)] => .ok (.flag t f name behind)
  | [] =>
    if isNegativeNumber t || t.contains ' ' then .ok (.operand t) else .ok (.unknown t)
  | several => .error (.ambiguous t (several.map fun (_, name, _) => name))

/-- What an argument in front of the separator is. -/
def classify (g : Grammar) (t : Text) : Except Misuse Token :=
  match t with
  | '-' :: _ :: _ =>
    match g.flag? t with
    | some f => .ok (.flag t f t none)
    | none =>
      match Text.cutAt '=' t with
      | (name, some argument) =>
        match g.flag? name with
        | some f => .ok (.flag t f name (some argument))
        | none => classifyLoose g t
      | _ => classifyLoose g t
  | _ => .ok (.operand t)

/-! ## 2. Whole command lines -/

/-- The tokens of a command line. -/
def tokens (g : Grammar) : List Text → Except Misuse (List Token)
  | [] => .ok []
  | t :: rest =>
    if t = ['-', '-'] then .ok (.separator :: rest.map .operand)
    else do return (← classify g t) :: (← tokens g rest)

theorem text_of_classify {g : Grammar} {t : Text} {k : Token} (h : classify g t = .ok k) :
    k.text = t := by
  have loose : ∀ {k : Token}, classifyLoose g t = .ok k → k.text = t := by
    intro k hk
    unfold classifyLoose at hk
    split at hk
    · cases hk; rfl
    · split at hk <;> (cases hk; rfl)
    · cases hk
  unfold classify at h
  split at h
  · split at h
    · cases h; rfl
    · split at h
      · split at h
        · cases h; rfl
        · exact loose h
      · exact loose h
  · cases h; rfl

end LogSieve.CommandLine
