import LogSieve.Pattern.CharTest

/-!
# Matching by backtracking

`Node.run` matches a node at a place of the text and hands every place it can reach, in the order of
preference, to a continuation, until one succeeds. Because the continuation is the rest of the
pattern, a choice is taken back exactly when the rest fails on it. Groups that look around or are
atomic run their body with the continuation that accepts at once, so the body is not tried again.

The repetitions are loops over the body (`greedyLoop`, `lazyLoop`, `possessiveLoop`). Once the least
count is reached a round that consumed nothing is the last one, so the length of the text ahead
bounds the rounds; the fuel is that bound.

`Node.search` tries every place of the text from the left.
-/

namespace LogSieve.Pattern

/-! ## 1. Places -/

/-- A place of a text: what lies behind, read backwards, and what lies ahead; and where the groups
started and ended last. -/
structure Place where
  behind : Text := []
  ahead : Text
  starts : List (Nat × Nat) := []
  ends : List (Nat × Nat) := []
  deriving DecidableEq, Repr

namespace Place

/-- The number of characters behind. -/
def position (p : Place) : Nat := p.behind.length

/-- The whole text. -/
def text (p : Place) : Text := p.behind.reverse ++ p.ahead

/-- The place after the next character, if the test accepts it. -/
def step? (test : Char → Bool) (p : Place) : Option Place :=
  match p.ahead with
  | [] => none
  | c :: rest => if test c then some { p with behind := c :: p.behind, ahead := rest } else none

/-- The place a number of characters back. -/
def back? (p : Place) : Nat → Option Place
  | 0 => some p
  | n + 1 =>
    match p.behind with
    | [] => none
    | c :: rest => back? { p with behind := rest, ahead := c :: p.ahead } n

/-- The text of a group: from its last start to its last end, unless it has started anew since. -/
def group? (p : Place) (group : Nat) : Option Text :=
  match p.starts.lookup group, p.ends.lookup group with
  | some s, some e => if s ≤ e then some ((p.text.drop s).take (e - s)) else none
  | _, _ => none

def start (p : Place) (group : Nat) : Place := { p with starts := (group, p.position) :: p.starts }

def finish (p : Place) (group : Nat) : Place := { p with ends := (group, p.position) :: p.ends }

/-- The place after a text that is ahead, compared after folding. -/
def stepOver? (fold : Fold) (p : Place) : Text → Option Place
  | [] => some p
  | c :: rest =>
    match p.step? fun d => fold.apply d.toNat == fold.apply c.toNat with
    | some q => stepOver? fold q rest
    | none => none

/-- A word character behind differs in kind from the one ahead; the end of the text is no word. -/
def atWordEdge (ascii : Bool) (p : Place) : Bool :=
  let isWord (c : Char) := kindTest ascii .word c.toNat
  p.behind.head?.any isWord != p.ahead.head?.any isWord

/-- The place meets an anchor. In an empty text there is neither an edge of a word nor its
opposite. -/
def meets (flags : Flags) (p : Place) : Anchor → Bool
  | .lineStart => p.behind.isEmpty || flags.multiline && p.behind.head? == some '\n'
  | .lineEnd => p.ahead.isEmpty || p.ahead == ['\n'] ||
      flags.multiline && p.ahead.head? == some '\n'
  | .textStart => p.behind.isEmpty
  | .textEnd => p.ahead.isEmpty
  | .wordEdge => p.atWordEdge flags.ascii
  | .noWordEdge => !(p.behind.isEmpty && p.ahead.isEmpty) && !p.atWordEdge flags.ascii

end Place

/-! ## 2. Loops -/

/-- What follows a node: the place it leads to, or nothing. -/
abbrev Continuation := Place → Option Place

/-- A node as a matcher. -/
abbrev Matcher := Place → Continuation → Option Place

/-- As many rounds of the body as possible. `count` is the number of rounds so far, `last` the place
where the latest optional one began. -/
def greedyLoop (body : Matcher) (least : Nat) (greatest : Option Nat) :
    (fuel count : Nat) → (last : Option Nat) → Matcher
  | 0, _, _, p, k => k p
  | fuel + 1, count, last, p, k =>
    if count < least then
      body p fun q => greedyLoop body least greatest fuel (count + 1) last q k
    else if greatest.all (count < ·) && last != some p.position then
      match body p fun q =>
          greedyLoop body least greatest fuel (count + 1) (some p.position) q k with
      | some q => some q
      | none => k p
    else k p

/-- As few rounds of the body as possible. -/
def lazyLoop (body : Matcher) (least : Nat) (greatest : Option Nat) :
    (fuel count : Nat) → (last : Option Nat) → Matcher
  | 0, _, _, p, k => k p
  | fuel + 1, count, last, p, k =>
    if count < least then
      body p fun q => lazyLoop body least greatest fuel (count + 1) last q k
    else match k p with
      | some q => some q
      | none =>
        if greatest.all (count < ·) && last != some p.position then
          body p fun q => lazyLoop body least greatest fuel (count + 1) (some p.position) q k
        else none

/-- As many rounds as possible, each by the first way to match the body and never by another. A
round that consumes nothing ends the loop. -/
def possessiveLoop (round : Place → Option Place) (least : Nat) (greatest : Option Nat) :
    (fuel count : Nat) → Place → Option Place
  | 0, _, p => some p
  | fuel + 1, count, p =>
    if count < least then
      (round p).bind (possessiveLoop round least greatest fuel (count + 1))
    else if greatest.all (count < ·) then
      match round p with
      | none => some p
      | some q =>
        if q.position = p.position then some q
        else possessiveLoop round least greatest fuel (count + 1) q
    else some p

/-- Enough rounds for every repetition at this place. -/
def roundsAt (least : Nat) (p : Place) : Nat := least + p.ahead.length + 2

/-! ## 3. Nodes -/

/-- Matches a node under flags. -/
def Node.run : Node → Flags → Matcher
  | .empty, _, p, k => k p
  | .cat a b, flags, p, k => a.run flags p fun q => b.run flags q k
  | .char code negated, flags, p, k =>
    (p.step? fun c => literalTest (.ofFlags flags) code c != negated).bind k
  | .any, flags, p, k => (p.step? fun c => flags.dotAll || c != '\n').bind k
  | .set negated items, flags, p, k => (p.step? (setTest flags negated items)).bind k
  | .anchor a, flags, p, k => if p.meets flags a then k p else none
  | .alt a b, flags, p, k =>
    match a.run flags p k with
    | some q => some q
    | none => b.run flags p k
  | .capture group body, flags, p, k =>
    body.run flags (p.start group) fun q => k (q.finish group)
  | .scoped on off body, flags, p, k => body.run (flags.within on off) p k
  | .repeated .greedy least greatest body, flags, p, k =>
    greedyLoop (body.run flags) least greatest (roundsAt least p) 0 none p k
  | .repeated .lazy least greatest body, flags, p, k =>
    lazyLoop (body.run flags) least greatest (roundsAt least p) 0 none p k
  | .repeated .possessive least greatest body, flags, p, k =>
    (possessiveLoop (body.run flags · some) least greatest (roundsAt least p) 0 p).bind k
  | .look behind negated body, flags, p, k =>
    let from? := match behind with
      | some width => p.back? width.least
      | none => some p
    match from?.bind fun q => body.run flags q some with
    | some q => if negated then none else k { p with starts := q.starts, ends := q.ends }
    | none => if negated then k p else none
  | .atomic body, flags, p, k => (body.run flags p some).bind k
  | .backref group, flags, p, k =>
    ((p.group? group).bind (p.stepOver? (.ofFlags flags))).bind k
  | .ifGroup group held other, flags, p, k =>
    if (p.group? group).isSome then held.run flags p k else other.run flags p k

/-! ## 4. Searching -/

/-- A match of the node at this place or further on. -/
def Node.searchFrom (node : Node) (flags : Flags) (behind : Text) : Text → Option Place
  | [] => node.run flags { behind, ahead := [] } some
  | c :: rest =>
    match node.run flags { behind, ahead := c :: rest } some with
    | some p => some p
    | none => node.searchFrom flags (c :: behind) rest

/-- Whether the node matches anywhere in the text. -/
def Node.search (node : Node) (flags : Flags) (t : Text) : Bool :=
  (node.searchFrom flags [] t).isSome

end LogSieve.Pattern
