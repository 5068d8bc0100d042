import LogSieve.Pattern.Escape
import LogSieve.Text.Identifier
import LogSieve.Text.Word

/-!
# Reading a pattern

`parse` reads a whole pattern into a tree or finds the first fault in reading order. The two
functions at its heart, `branches` for alternatives and `sequence` for what stands between two bars,
call each other once for each group; `fuel` bounds their steps, and three for each token are enough,
since every step but the first of a group leaves a token behind.
-/

namespace LogSieve.Pattern

variable [CharacterNames]

/-- Stops at a problem at a position. -/
def failFrom {α : Type} (position : Nat) (problem : Problem) : Reading α :=
  throw (.located problem position)

/-! ## 1. Character sets -/

/-- The member that a token inside a set begins with. -/
def setItem : Token → Reading SetItem
  | .escaped c => setEscape c
  | token => return .char ((token.char?.getD '\\').toNat)

/-- A range between two tokens that stand for single characters. -/
def setRange (low high : Token) (first last : SetItem) : Reading SetItem := do
  let offset := low.text.length + 1 + high.text.length
  match first, last with
  | .char a, .char b =>
    if b < a then failAt offset (.badRange low.text high.text) else return .range a b
  | _, _ => failAt offset (.badRange low.text high.text)

/-- The members up to the closing bracket; the first place is no place for that bracket. `items` are
the members read so far, the last one first. -/
def setItems (start : Nat) (items : List SetItem) : Nat → Reading (List SetItem)
  | 0 => return items.reverse
  | fuel + 1 => do
    match ← take? with
    | none => failFrom start .unterminatedSet
    | some token =>
      if token = .plain ']' && !items.isEmpty then return items.reverse
      let first ← setItem token
      if !(← accept '-') then setItems start (first :: items) fuel
      else match ← take? with
        | none => failFrom start .unterminatedSet
        | some high =>
          if high = .plain ']' then return (.char '-'.toNat :: first :: items).reverse
          let last ← setItem high
          let item ← setRange token high first last
          setItems start (item :: items) fuel

/-- A set of one character is that character. -/
def setNode (negated : Bool) (items : List SetItem) : Node :=
  match items.eraseDups with
  | [.char code] => .char code negated
  | items => .set negated items

/-- A set, after its opening bracket. -/
def characterSet : Reading Node := do
  let start := (← get).position - 1
  let negated ← accept '^'
  return setNode negated (← setItems start [] (← get).ahead.length.succ)

/-! ## 2. Repetition -/

/-- The least count that is refused. -/
def countLimit : Nat := 4294967295

/-- A bound of a repetition; without digits there is none. -/
def countOf (digits : Text) : Reading (Option Nat) := do
  if digits.isEmpty then return none
  if digitLimit < digits.length then throw (.unreadableCount digits.length)
  let n := numberIn 10 digits
  if countLimit ≤ n then throw .countTooLarge
  return some n

/-- The bounds in braces, after the opening one; nothing, and the reader as it was, when the text
there has another form. -/
def braceBounds : Reading (Option (Nat × Option Nat)) := do
  let before ← get
  if (← next?) = some (.plain '}') then return none
  let many := before.ahead.length
  let low ← takeWhile many isAsciiDigit
  let high ← if ← accept ',' then takeWhile many isAsciiDigit else pure low
  if !(← accept '}') then
    set before
    return none
  let least := (← countOf low).getD 0
  let greatest ← countOf high
  if let some n := greatest then
    if n < least then failFrom before.position .repeatBounds
  return some (least, greatest)

/-- The bounds that a repetition character stands for. -/
def boundsOf (c : Char) : Reading (Option (Nat × Option Nat)) :=
  match c with
  | '?' => return some (0, some 1)
  | '*' => return some (0, none)
  | '+' => return some (1, none)
  | _ => braceBounds

/-- The greed that the character after the bounds chooses. -/
def greedOf : Reading Greed := do
  if ← accept '?' then return .lazy
  if ← accept '+' then return .possessive
  return .greedy

/-- The nodes so far, the last one first, with that one repeated. -/
def repeatLast (c : Char) (nodes : List Node) : Reading (List Node) := do
  let start := (← get).position - 1
  match ← boundsOf c with
  | none => return .char c.toNat false :: nodes
  | some (least, greatest) =>
    match nodes with
    | [] => failFrom start .nothingToRepeat
    | node :: nodes =>
      if node.isAnchor then failFrom start .nothingToRepeat
      if node.isRepeated then failFrom start .multipleRepeat
      return .repeated (← greedOf) least greatest node :: nodes

/-! ## 3. Flags -/

/-- The flag of a token, or the reason why it is none. -/
def flagOf (token : Option Token) (otherwise : Text) : Reading (Char × Flags) := do
  match token with
  | none => failAt 0 (.missing otherwise)
  | some token =>
    match token.char? with
    | some c =>
      match Flags.ofLetter c with
      | some flags => return (c, flags)
      | none => failAt 1 (if Text.isLetter c then .unknownFlag else .missing otherwise)
    | none => failAt token.text.length (.missing otherwise)

/-- The flags switched on, up to the character that ends them. -/
def flagsOn (on : Flags) (token : Option Token) : Nat → Reading (Flags × Char)
  | 0 => return (on, ')')
  | fuel + 1 => do
    let (letter, flag) ← flagOf token "-, : or )"
    if letter = 'L' then failAt 0 .localeFlag
    let on := on.union flag
    if on.ascii && on.unicode then failAt 0 .incompatibleFlags
    match ← take? with
    | some (.plain ')') => return (on, ')')
    | some (.plain '-') => return (on, '-')
    | some (.plain ':') => return (on, ':')
    | token => flagsOn on token fuel

/-- The flags switched off, up to the colon. `otherwise` is what could stand in place of a flag. -/
def flagsOff (off : Flags) (token : Option Token) (otherwise : Text) : Nat → Reading Flags
  | 0 => return off
  | fuel + 1 => do
    let (letter, flag) ← flagOf token otherwise
    if letter = 'L' || flag.choosesAlphabet then failAt 0 .alphabetFlagOff
    let off := off.union flag
    match ← take? with
    | some (.plain ':') => return off
    | token => flagsOff off token ":" fuel

/-- What the flags of a group switch on and off, from the first of their tokens; nothing when they
are flags of the whole pattern. -/
def groupFlags (token : Token) : Reading (Option (Flags × Flags)) := do
  let fuel := (← get).ahead.length + 2
  let (on, last) ← if token = .plain '-' then pure ({}, '-') else flagsOn {} (some token) fuel
  if last = ')' then
    modify fun r => { r with flags := r.flags.union on }
    return none
  if on.template then failAt 1 .globalFlagOn
  let off ← if last = '-' then flagsOff {} (← take?) "flag" fuel else pure {}
  if off.template then failAt 1 .globalFlagOff
  if on.meets off then failAt 1 .flagOnAndOff
  return some (on, off)

/-! ## 4. Groups -/

/-- Refuses a group name that is no identifier. -/
def checkGroupName (name : Text) : Reading Unit := do
  if !Text.isIdentifier name then failAt (name.length + 1) (.badGroupName name)

/-- The number of a named group. -/
def groupNamed (name : Text) : Reading Nat := do
  match (← get).names.lookup name with
  | some group => return group
  | none => failAt (name.length + 1) (.unknownGroupName name)

/-- A new group, open until its width is known. -/
def openGroup (name : Option Text) : Reading Nat := do
  let r ← get
  let group := r.nextGroup
  if let some name := name then
    if let some earlier := r.names.lookup name then
      failAt (name.length + 1) (.redefinedGroup name group earlier)
  set { r with
    widths := r.widths ++ [none]
    names := match name with
      | some name => (name, group) :: r.names
      | none => r.names }
  return group

def closeGroup (group : Nat) (body : Node) : Reading Unit :=
  modify fun r => { r with widths := r.widths.set (group - 1) (some (body.width r.groupWidth)) }

/-- The greatest group number that a condition can name. -/
def groupLimit : Nat := 1073741823

/-- The group that a condition names, by name or by number. -/
def conditionGroup : Reading Nat := do
  let name ← takeName ')' "group name"
  let offset := name.length + 1
  if Text.isIdentifier name then groupNamed name
  else match readInt name with
    | .ok (.ofNat group) =>
      if group = 0 then failAt offset .badGroupNumber
      if groupLimit ≤ group then failAt offset (.invalidGroupReference group)
      modify fun r =>
        if r.conditions.any (·.1 == group) then r
        else { r with conditions := r.conditions ++ [(group, r.position - offset)] }
      return group
    | _ => failAt offset (.badGroupName name)

/-- A reference by name, after `(?P=`. -/
def namedReference : Reading Node := do
  let name ← takeName ')' "group name"
  checkGroupName name
  let group ← groupNamed name
  if ((← get).closedWidth? group).isNone then failAt (name.length + 1) .openGroupReference
  checkLookbehind group
  return .backref group

/-- Leaves tokens behind up to and including one of a kind; whether there was one. -/
def skipPast (p : Token → Bool) : List Token → Reading Bool
  | [] => return false
  | token :: rest => do
    advance
    if p token then return true else skipPast p rest

/-- What a group turns out to be after its opening parenthesis. -/
inductive Opening where
  /-- A group with a body to read; a capturing one may have a name. -/
  | capturing (name : Option Text)
  | scoping (on off : Flags)
  | atomic
  | looking (behind negated : Bool)
  | choosing (group : Nat)
  /-- A node without a body. -/
  | complete (node : Node)
  /-- Nothing: a comment, or flags of the whole pattern. -/
  | nothing (setsFlags : Bool)

/-- After `(?P`. -/
def namedOpening : Reading Opening := do
  if ← accept '<' then
    let name ← takeName '>' "group name"
    checkGroupName name
    return .capturing (some name)
  if ← accept '=' then return .complete (← namedReference)
  match ← take? with
  | none => failAt 0 .unexpectedEnd
  | some token => failAt (token.text.length + 2) (.unknownExtension ("?P" ++ token.text))

/-- After `(?<`. -/
def behindOpening : Reading Opening := do
  match ← take? with
  | none => failAt 0 .unexpectedEnd
  | some (.plain '=') => return .looking true false
  | some (.plain '!') => return .looking true true
  | some token => failAt (token.text.length + 2) (.unknownExtension ("?<" ++ token.text))

/-- After the opening parenthesis, which stands at `start`. -/
def opening (start : Nat) : Reading Opening := do
  if !(← accept '?') then return .capturing none
  match ← take? with
  | none => failAt 0 .unexpectedEnd
  | some token =>
    match token.char? with
    | some 'P' => namedOpening
    | some ':' => return .scoping {} {}
    | some '#' =>
      if ← skipPast (· = .plain ')') (← get).ahead then return .nothing false
      else failFrom start .unterminatedComment
    | some '=' => return .looking false false
    | some '!' => return .looking false true
    | some '<' => behindOpening
    | some '(' => return .choosing (← conditionGroup)
    | some '>' => return .atomic
    | char =>
      if char.any fun c => c = '-' || (Flags.ofLetter c).isSome then
        match ← groupFlags token with
        | none => return .nothing true
        | some (on, off) => return .scoping on off
      else failAt (token.text.length + 1) (.unknownExtension ('?' :: token.text))

/-- The parenthesis that closes the group opened at `start`. -/
def closing (start : Nat) : Reading Unit := do
  if !(← accept ')') then failFrom start .unterminatedGroup

/-- The blanks that verbose patterns leave out. -/
def isPatternBlank (c : Char) : Bool := c = ' ' || 0x9 ≤ c.toNat && c.toNat ≤ 0xd

/-! ## 5. The grammar -/

mutual

/-- Alternatives. `whole` says that they are the whole pattern; `done` are those read so far, the
last one first. -/
def branches (whole verbose : Bool) (done : List Node) : Nat → Reading Node
  | 0 => return .alternatives done.reverse
  | fuel + 1 => do
    let branch ← sequence (whole && done.isEmpty) verbose [] fuel
    if ← accept '|' then
      let r ← get
      let verbose := if whole then r.flags.verbose else verbose
      branches whole verbose (branch :: done) fuel
    else return .alternatives (branch :: done).reverse

/-- Nodes up to a bar, a closing parenthesis or the end. `first` says that flags of the whole
pattern may stand here; `nodes` are those read so far, the last one first. -/
def sequence (first verbose : Bool) (nodes : List Node) : Nat → Reading Node
  | 0 => return .ofList nodes.reverse
  | fuel + 1 => do
    match ← next? with
    | none => return .ofList nodes.reverse
    | some token =>
      if token = .plain '|' || token = .plain ')' then return .ofList nodes.reverse
      advance
      match token with
      | .escaped c => sequence first verbose ((← nodeEscape c) :: nodes) fuel
      | .dangling => sequence first verbose nodes fuel
      | .plain c =>
        if verbose && isPatternBlank c then sequence first verbose nodes fuel
        else if verbose && c = '#' then
          let _ ← skipPast (· = .plain '\n') (← get).ahead
          sequence first verbose nodes fuel
        else match c with
          | '[' => sequence first verbose ((← characterSet) :: nodes) fuel
          | '*' | '+' | '?' | '{' => sequence first verbose (← repeatLast c nodes) fuel
          | '.' => sequence first verbose (.any :: nodes) fuel
          | '^' => sequence first verbose (.anchor .lineStart :: nodes) fuel
          | '$' => sequence first verbose (.anchor .lineEnd :: nodes) fuel
          | '(' =>
            let start := (← get).position - 1
            match ← opening start with
            | .nothing setsFlags =>
              if !setsFlags then sequence first verbose nodes fuel
              else
                if !first || !nodes.isEmpty then failFrom start .lateGlobalFlags
                sequence first (← get).flags.verbose nodes fuel
            | .complete node => sequence first verbose (node :: nodes) fuel
            | .capturing name =>
              let group ← openGroup name
              let body ← branches false verbose [] fuel
              closing start
              closeGroup group body
              sequence first verbose (.capture group body :: nodes) fuel
            | .scoping on off =>
              let inner := (verbose || on.verbose) && !off.verbose
              let body ← branches false inner [] fuel
              closing start
              sequence first verbose (.scoped on off body :: nodes) fuel
            | .atomic =>
              let body ← branches false verbose [] fuel
              closing start
              sequence first verbose (.atomic body :: nodes) fuel
            | .looking behind negated =>
              let outer := (← get).lookbehindBound
              if behind && outer.isNone then
                modify fun r => { r with lookbehindBound := some r.nextGroup }
              let body ← branches false verbose [] fuel
              if behind then modify fun r => { r with lookbehindBound := outer }
              closing start
              let width := body.width (← get).groupWidth
              let behind := if behind then some width else none
              sequence first verbose (.look behind negated body :: nodes) fuel
            | .choosing group =>
              checkLookbehind group
              let held ← sequence false verbose [] fuel
              let other ← if ← accept '|' then
                  let other ← sequence false verbose [] fuel
                  if (← next?) = some (.plain '|') then failAt 0 .tooManyBranches
                  pure other
                else pure .empty
              closing start
              sequence first verbose (.ifGroup group held other :: nodes) fuel
          | _ => sequence first verbose (.char c.toNat false :: nodes) fuel

end

/-! ## 6. Whole patterns -/

/-- The name of a repetition in the message about templates. -/
def repeatOperator : Greed → Text
  | .greedy => "MAX_REPEAT"
  | .lazy => "MIN_REPEAT"
  | .possessive => "POSSESSIVE_REPEAT"

/-- The faults that only show on the whole tree, in reading order: look-behind must have one width,
not beyond the greatest count, and a template repeats nothing. -/
def Node.check (template : Bool) : Node → Except Fault Unit
  | .empty | .char .. | .any | .set .. | .anchor _ | .backref _ => .ok ()
  | .cat a b | .alt a b => do
    a.check template
    b.check template
  | .capture _ body | .scoped _ _ body | .atomic body => body.check template
  | .repeated greed _ _ body => do
    if template then throw (.templateRepeat (repeatOperator greed))
    body.check template
  | .look behind _ body => do
    if let some width := behind then
      if countLimit < width.least then throw .distantLookbehind
      if width.least ≠ width.greatest then throw .unboundedLookbehind
    body.check template
  | .ifGroup _ held other => do
    held.check template
    other.check template

/-- Everything up to the end of the pattern. -/
def wholePattern : Reading Node := do
  goOn (← get).ahead
  let node ← branches true false [] (3 * (← get).ahead.length + 3)
  let r ← get
  if r.flags.ascii && r.flags.unicode then throw .clashingFlags
  if !r.ahead.isEmpty then failAt 0 .unbalancedParenthesis
  for (group, position) in r.conditions do
    if r.nextGroup ≤ group then failFrom position (.invalidGroupReference group)
  return node

/-- The tree of a pattern and the flags it sets for the whole of itself. -/
def parse (pattern : Text) : Except Fault (Node × Flags) := do
  let (node, r) ← wholePattern.run { size := pattern.length, ahead := tokensOf pattern }
  node.check r.flags.template
  return (node, r.flags)

end LogSieve.Pattern
