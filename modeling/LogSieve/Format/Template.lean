import LogSieve.Format.Field

/-!
# Templates with named fields

A template is plain text with fields in braces; a doubled brace is a plain one. A field is a name,
steps into the value of that name, an optional conversion after `!` and an optional specification
after `:`, which may itself hold fields. `partsOf` takes a template apart and never fails: what is
malformed is the last part, and it only matters when everything before it has been filled.
-/

namespace LogSieve.Format

/-! ## 1. Faults -/

/-- Why a template cannot be filled. -/
inductive TemplateFault where
  | singleOpen
  | singleClose
  | braceInName
  | endInConversion
  | expectedColon
  | unmatchedBrace
  | expectedClose
  | tooDeep
  | unknownConversion (c : Char)
  | tooManyDigits
  /-- A field without a name or with a number: there are only named arguments. -/
  | noPosition (index : Nat)
  | missingName (name : Text)
  | afterBracket
  | emptyStep
  | missingBracket
  | noAttribute (kindName name : Text)
  | notSubscriptable (kindName : Text)
  | listIndexKind
  | textIndexKind
  | listIndexRange
  | textIndexRange
  | missingKey (key : Text)
  | missingIndex (index : Nat)
  | field (fault : FieldFault)
  deriving DecidableEq, Repr

def TemplateFault.message : TemplateFault → Text
  | singleOpen => "Single '\x7b' encountered in format string"
  | singleClose => "Single '\x7d' encountered in format string"
  | braceInName => "unexpected '\x7b' in field name"
  | endInConversion => "end of string while looking for conversion specifier"
  | expectedColon => "expected ':' after conversion specifier"
  | unmatchedBrace => "unmatched '\x7b' in format spec"
  | expectedClose => "expected '\x7d' before end of string"
  | tooDeep => "Max string recursion exceeded"
  | unknownConversion c =>
    if 32 < c.toNat && c.toNat < 127 then "Unknown conversion specifier " ++ [c]
    else "Unknown conversion specifier \\x" ++ (digitsIn 16 c.toNat).map Text.hexDigit
  | tooManyDigits => "Too many decimal digits in format string"
  | noPosition index =>
    "Replacement index " ++ decimal index ++ " out of range for positional args tuple"
  | missingName name => Text.quoted name
  | afterBracket => "Only '.' or '[' may follow ']' in format field specifier"
  | emptyStep => "Empty attribute in format string"
  | missingBracket => "Missing ']' in format string"
  | noAttribute kind name => '\'' :: kind ++ "' object has no attribute '" ++ name ++ "'"
  | notSubscriptable kind => '\'' :: kind ++ "' object is not subscriptable"
  | listIndexKind => "list indices must be integers or slices, not str"
  | textIndexKind => "string indices must be integers, not 'str'"
  | listIndexRange => "list index out of range"
  | textIndexRange => "string index out of range"
  | missingKey key => Text.quoted key
  | missingIndex index => decimal index
  | field fault => fault.message

/-! ## 2. Parts -/

inductive Part where
  | plain (c : Char)
  | field (name : Text) (conversion : Option Char) (spec : Text)
  /-- The template is malformed from here on. -/
  | broken (fault : TemplateFault)
  deriving DecidableEq, Repr

/-- The specification up to the brace that closes the field, after `depth` open ones. -/
def readFieldSpec (found : Text) (depth : Nat) : Text → Option (Text × Text)
  | [] => none
  | c :: rest =>
    if c = '\x7d' then
      match depth with
      | 0 => some (found.reverse, rest)
      | d + 1 => readFieldSpec (c :: found) d rest
    else readFieldSpec (c :: found) (if c = '\x7b' then depth + 1 else depth) rest

/-- The name of a field and what ends it: a closing brace, `!` or `:`. Inside brackets everything up
to the closing one belongs to the name. -/
def readFieldName (found : Text) (inBrackets : Bool) :
    Text → Except TemplateFault (Text × Char × Text)
  | [] => .error .expectedClose
  | c :: rest =>
    if inBrackets then readFieldName (c :: found) (c ≠ ']') rest
    else if c = '\x7b' then .error .braceInName
    else if c = '\x7d' || c = ':' || c = '!' then .ok (found.reverse, c, rest)
    else readFieldName (c :: found) (c = '[') rest

/-- The specification of a field, after its colon. -/
def readSpecPart (name : Text) (conversion : Option Char) (t : Text) :
    Except TemplateFault (Part × Text) :=
  match readFieldSpec [] 0 t with
  | some (spec, rest) => .ok (.field name conversion spec, rest)
  | none => .error .unmatchedBrace

/-- A field, after its opening brace. -/
def readField (t : Text) : Except TemplateFault (Part × Text) := do
  let (name, ending, rest) ← readFieldName [] false t
  if ending = '\x7d' then return (.field name none [], rest)
  else if ending = ':' then readSpecPart name none rest
  else match rest with
    | [] => throw .endInConversion
    | [_] => throw .unmatchedBrace
    | c :: next :: rest =>
      if next = '\x7d' then return (.field name (some c) [], rest)
      else if next = ':' then readSpecPart name (some c) rest
      else throw .expectedColon

/-- The parts of a text that is not longer than `fuel`. -/
def partsFrom : Nat → Text → List Part
  | 0, _ => []
  | _, [] => []
  | fuel + 1, c :: rest =>
    if c = '\x7b' then
      match rest with
      | [] => [.broken .singleOpen]
      | d :: after =>
        if d = '\x7b' then .plain c :: partsFrom fuel after
        else match readField rest with
          | .ok (part, after) => part :: partsFrom fuel after
          | .error fault => [.broken fault]
    else if c = '\x7d' then
      match rest with
      | [] => [.broken .singleClose]
      | d :: after =>
        if d = '\x7d' then .plain c :: partsFrom fuel after else [.broken .singleClose]
    else .plain c :: partsFrom fuel rest

/-- The parts of a template. -/
def partsOf (template : Text) : List Part := partsFrom template.length template

/-! ## 3. What a field shows -/

/-- What a name stands for: a value, or a thing known only by its two printed forms. -/
inductive Subject where
  | value (v : Value)
  | shown (display quoted : Text)
  deriving Repr, Inhabited

namespace Subject

def display : Subject → Text
  | value v => v.display
  | shown display _ => display

def quoted : Subject → Text
  | value v => v.quoted
  | shown _ quoted => quoted

/-- A thing that is known by its printed forms has been written. -/
def isPrintable : Subject → Bool
  | value v => v.isPrintable
  | shown .. => true

/-- The subject in a field with a specification. -/
def format (s : Subject) (spec : Text) : Except TemplateFault Text :=
  match s with
  | value v => (formatValue v spec).mapError .field
  | shown display _ =>
    if spec.isEmpty then .ok display else .error (.field (.unsupported "object"))

end Subject

/-- A step into a value. -/
inductive Step where
  | attribute (name : Text)
  | key (name : Text)
  | index (n : Nat)
  deriving DecidableEq, Repr

/-- A text of decimal digits as a number; other texts are none. The digits in front are read first,
so too many of them are refused in any text. -/
def indexOf? (t : Text) : Except TemplateFault (Option Nat) :=
  let digits := t.takeWhile Text.isDecimalDigit
  let n := ofDigits 10 (digits.filterMap Text.digitValue?)
  if sizeLimit < n then .error .tooManyDigits
  else if t.isEmpty || digits.length < t.length then .ok none
  else .ok (some n)

/-- The step at the front of a path and the rest of the path. -/
def readStep (path : Text) : Except TemplateFault (Step × Text) := do
  match path with
  | '.' :: rest =>
    let name := rest.takeWhile fun c => c ≠ '.' && c ≠ '['
    if name.isEmpty then throw .emptyStep
    return (.attribute name, rest.drop name.length)
  | '[' :: rest =>
    let name := rest.takeWhile (· ≠ ']')
    match rest.drop name.length with
    | [] => throw .missingBracket
    | _ :: after =>
      let index ← indexOf? name
      if name.isEmpty then throw .emptyStep
      return (match index with
        | some n => .index n
        | none => .key name, after)
  | _ => throw .afterBracket

/-- A part of a value. -/
def stepInto (v : Value) (step : Step) : Except TemplateFault Value :=
  match step, v with
  | .attribute name, v =>
    match v with
    | .float d =>
      if name = "real" then .ok v
      else if name = "imag" then .ok (.float (.zero false))
      else .error (.noAttribute (Value.float d).kindName name)
    | _ =>
      match v.asInt? with
      | none => .error (.noAttribute v.kindName name)
      | some z =>
        if name = "real" || name = "numerator" then .ok (.int z)
        else if name = "imag" then .ok (.int 0)
        else if name = "denominator" then .ok (.int 1)
        else .error (.noAttribute v.kindName name)
  | .key name, .mapping entries =>
    match entries.lookup name with
    | some w => .ok w
    | none => .error (.missingKey name)
  | .key _, .list _ => .error .listIndexKind
  | .key _, .text _ => .error .textIndexKind
  | .index n, .list items =>
    match items[n]? with
    | some w => .ok w
    | none => .error .listIndexRange
  | .index n, .text t =>
    match t[n]? with
    | some c => .ok (.text [c])
    | none => .error .textIndexRange
  | .index n, .mapping _ => .error (.missingIndex n)
  | _, v => .error (.notSubscriptable v.kindName)

/-- Follows a path into a subject; `fuel` bounds the steps. -/
def follow (s : Subject) : Nat → Text → Except TemplateFault Subject
  | 0, _ => .ok s
  | _, [] => .ok s
  | fuel + 1, path => do
    let (step, rest) ← readStep path
    match s with
    | .value v => follow (.value (← stepInto v step)) fuel rest
    | .shown .. => throw (.notSubscriptable "object")

/-- The named things that fields can show. -/
abbrev Subjects := List (Text × Subject)

/-- The subject that a field name leads to. -/
def subjectAt (subjects : Subjects) (name : Text) : Except TemplateFault Subject := do
  let first := name.takeWhile fun c => c ≠ '.' && c ≠ '['
  let path := name.drop first.length
  let index ← indexOf? first
  if first.isEmpty then throw (.noPosition 0)
  match index with
  | some n => throw (.noPosition n)
  | none =>
    match subjects.lookup first with
    | none => throw (.missingName first)
    | some s => follow s path.length path

/-- A text of a subject, if it may be written. -/
def textSubject (s : Subject) (t : Text) : Except TemplateFault Subject :=
  if s.isPrintable then .ok (.value (.text t)) else .error (.field .integerTooLong)

/-- A conversion turns a subject into one of its texts. -/
def convertSubject (s : Subject) : Option Char → Except TemplateFault Subject
  | none => .ok s
  | some 's' => textSubject s s.display
  | some 'r' => textSubject s s.quoted
  | some 'a' => textSubject s (Text.escapeNonAscii s.quoted)
  | some c => .error (.unknownConversion c)

/-! ## 4. Filling -/

/-- Fills parts; `expand` fills the fields inside a specification. -/
def fillParts (expand : Text → Except TemplateFault Text) (subjects : Subjects) :
    List Part → Except TemplateFault Text
  | [] => .ok []
  | .plain c :: rest => do return c :: (← fillParts expand subjects rest)
  | .broken fault :: _ => .error fault
  | .field name conversion spec :: rest => do
    let s ← convertSubject (← subjectAt subjects name) conversion
    let spec ← if spec.contains '\x7b' then expand spec else pure spec
    return (← s.format spec) ++ (← fillParts expand subjects rest)

/-- Fills a template whose specifications hold fields up to a depth. -/
def fillToDepth (subjects : Subjects) : Nat → Text → Except TemplateFault Text
  | 0, _ => .error .tooDeep
  | depth + 1, template =>
    fillParts (fillToDepth subjects depth) subjects (partsOf template)

/-- Fills a template: fields inside a specification, but none inside those. -/
def fillTemplate (subjects : Subjects) (template : Text) : Except TemplateFault Text :=
  fillToDepth subjects 2 template

end LogSieve.Format
