import LogSieve.CommandLine.Token

/-!
# Reading command lines

A command line is read from left to right. Operands fill the places that are still open, as many at
a time as stand in front of the next flag; a flag takes its arguments; what has no place and no flag
is left over. A place that may stay empty is passed by once the places in front of it are filled,
also when an operand for it follows after a flag. Flags that ask for help or for the version stop
the reading where they stand.

The separator is dropped from what it stands next to; written as the argument of a flag or as an
operand of its own it leaves nothing behind, so a flag or a place may be given with no argument
where one is expected.
-/

namespace LogSieve.CommandLine

/-- A flag or a place with its arguments. -/
structure Given where
  key : Text
  arguments : List Text
  deriving DecidableEq, Repr

/-- The separator as an argument. -/
def separatorText : Text := ['-', '-']

/-! ## 1. Flags -/

/-- Notes a flag with its arguments, or stops. A separator among the arguments is dropped, also one
that is written into the flag's own argument; later argument parsers keep that one. -/
def noteFlag (f : Flag) (arguments : List Text) : Except Stop Given :=
  match f.effect with
  | .showsHelp => .error .help
  | .showsVersion => .error .version
  | .noted =>
    let arguments := arguments.erase separatorText
    match f.choices, arguments with
    | some choices, [t] =>
      if choices.contains t then .ok ⟨f.key, arguments⟩
      else .error (.misuse (.invalidChoice f.title t choices))
    | _, _ => .ok ⟨f.key, arguments⟩

/-- The flags in one argument: a flag with the text behind its name, which is its argument or goes
on with short flags. The last flag is returned by itself when nothing is behind it. A letter behind
a flag without argument that names no flag is misuse, also where unknown flags are left over; later
argument parsers leave it over as well. -/
def flagsBehind (g : Grammar) (f : Flag) (isLong : Bool) :
    Text → Except Misuse (List (Flag × List Text) × Option Flag)
  | [] =>
    match f.arity with
    | .none => .error (.ignoredArgument f.title [])
    | _ => .ok ([(f, [[]])], none)
  | c :: more =>
    match f.arity with
    | .none =>
      if isLong then .error (.ignoredArgument f.title (c :: more))
      else match g.flag? ['-', c] with
        | none => .error (.ignoredArgument f.title (c :: more))
        | some next =>
          if more.isEmpty then .ok ([(f, [])], some next)
          else do
            let (flags, last) ← flagsBehind g next false more
            return ((f, []) :: flags, last)
    | _ => .ok ([(f, [c :: more])], none)

/-- The arguments that a flag takes from the tokens behind it. -/
def argumentsAfter (f : Flag) (ks : List Token) : Except Misuse (List Text × List Token) :=
  match f.arity, ks with
  | .none, ks => .ok ([], ks)
  | _, .operand t :: rest => .ok ([t], rest)
  | .atMostOne, ks => .ok ([], ks)
  | .one, _ => .error (.missingArgument f.title)

/-- A name of more than one letter. -/
def isLongName : Text → Bool
  | _ :: '-' :: _ => true
  | _ => false

/-- The flags of a flag token with their arguments, and the tokens that are left. -/
def readFlag (g : Grammar) (f : Flag) (name : Text) (behind : Option Text) (ks : List Token) :
    Except Stop (List Given × List Token) := do
  let (flags, last) ← match behind with
    | none => pure ([], some f)
    | some t => (flagsBehind g f (isLongName name) t).mapError .misuse
  match last with
  | none => return (← flags.mapM fun (f, arguments) => noteFlag f arguments, ks)
  | some last => do
    let (arguments, ks) ← (argumentsAfter last ks).mapError .misuse
    return (← (flags ++ [(last, arguments)]).mapM fun (f, arguments) => noteFlag f arguments, ks)

/-! ## 2. Places -/

def Token.isSeparator : Token → Bool
  | .separator => true
  | _ => false

/-- The tokens that a place takes, separators on both sides included, and the rest. -/
def placeTokens (p : Place) (ks : List Token) : Option (List Token × List Token) :=
  let before := ks.takeWhile Token.isSeparator
  match p.extent, ks.dropWhile Token.isSeparator with
  | .command, .operand _ :: _ => some (ks, [])
  | .command, _ => none
  | _, .operand t :: rest =>
    some (before ++ .operand t :: rest.takeWhile Token.isSeparator,
      rest.dropWhile Token.isSeparator)
  | .atMostOne, rest => some (before, rest)
  | .one, _ => none

/-- Notes a place with its arguments; one that stays empty is not noted. -/
def notePlace (p : Place) (arguments : List Text) : Except Misuse (List Given) :=
  match p.extent with
  | .command =>
    let name := arguments.headD []
    match p.choices with
    | some choices =>
      if choices.contains name then .ok [⟨p.title, arguments⟩]
      else .error (.invalidChoice p.title name choices)
    | none => .ok [⟨p.title, arguments⟩]
  | .one => .ok [⟨p.title, arguments.erase separatorText⟩]
  | .atMostOne =>
    match arguments.erase separatorText with
    | [] => .ok []
    | arguments => .ok [⟨p.title, arguments⟩]

/-- What has been read. -/
structure Reading where
  /-- Flags and places in the order in which they were met. -/
  given : List Given := []
  /-- The places that are still open. -/
  places : List Place := []
  /-- The arguments that have no place and no flag. -/
  extras : List Text := []
  deriving Repr

/-- Fills places from the front with tokens from the front, and returns the tokens left. -/
def fillPlaces : List Place → List Token → Except Misuse (Reading × List Token)
  | [], ks => .ok ({}, ks)
  | p :: ps, ks =>
    match placeTokens p ks with
    | none => .ok ({ places := p :: ps }, ks)
    | some (mine, ks) => do
      let given ← notePlace p (mine.map Token.text)
      let (r, ks) ← fillPlaces ps ks
      return ({ r with given := given ++ r.given }, ks)

/-! ## 3. Whole command lines -/

/-- Reads tokens into the places that are open; the fuel bounds the steps. -/
def readTokens (g : Grammar) : Nat → List Place → List Token → Except Stop Reading
  | fuel + 1, ps, .flag _ f name behind :: rest => do
    let (given, rest) ← readFlag g f name behind rest
    let r ← readTokens g fuel ps rest
    return { r with given := given ++ r.given }
  | fuel + 1, ps, .unknown t :: rest => do
    let r ← readTokens g fuel ps rest
    return { r with extras := t :: r.extras }
  | fuel + 1, ps, k :: ks => do
    let (filled, left) ← (fillPlaces ps (k :: ks)).mapError .misuse
    if !(k :: ks).any Token.isFlagLike then
      return { filled with extras := left.map Token.text }
    else if left.length < (k :: ks).length then
      let r ← readTokens g fuel filled.places left
      return { r with given := filled.given ++ r.given }
    else
      let isOperand := fun k : Token => !k.isFlagLike
      let r ← readTokens g fuel filled.places ((k :: ks).dropWhile isOperand)
      return { r with
        given := filled.given ++ r.given
        extras := ((k :: ks).takeWhile isOperand).map Token.text ++ r.extras }
  | _, ps, ks => do
    let (filled, left) ← (fillPlaces ps ks).mapError .misuse
    return { filled with extras := left.map Token.text }

/-- Reads a command line; every required place has to be filled. -/
def read (g : Grammar) (args : List Text) : Except Stop Reading := do
  let ks ← (tokens g args).mapError .misuse
  let r ← readTokens g (ks.length + 1) g.places ks
  match r.places.filter Place.isRequired with
  | [] => return r
  | missing => throw (.misuse (.missingOperands (missing.map Place.title)))

namespace Reading

/-- How often a flag has been met. -/
def count (r : Reading) (key : Text) : Nat := (r.given.filter (·.key = key)).length

/-- The arguments each time the flag or the place has been met. -/
def all (r : Reading) (key : Text) : List (List Text) :=
  (r.given.filter (·.key = key)).map Given.arguments

/-- The arguments the last time the flag or the place has been met. -/
def last? (r : Reading) (key : Text) : Option (List Text) := (r.all key).getLast?

end Reading

end LogSieve.CommandLine
