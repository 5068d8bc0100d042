import LogSieve.Directive
import LogSieve.Filter
import LogSieve.Notice

/-!
# Specifications

A specification is a list of directives, separated by commas, and after a slash a filter text:
`warn,app.db=debug/slow query`. A directive is a level, a module, a module with an empty level, or a
module with a level. Reading is permissive: what is malformed is left out with a warning, and the
rest still counts; only a specification with several slashes is ignored as a whole. The one filter
text that is not taken for malformed is an expression that repeats something more often than can be
counted; there, reading fails.
-/

namespace LogSieve

open Format (Subject Subjects)

/-- The directives of a specification, in the order in which they are written, and its filter. -/
structure Spec where
  directives : List Directive
  filter : Option Filter

namespace Spec

/-! ## 1. Directives -/

/-- The channel of notices about malformed specifications. -/
def parseChannel : Text := "parse"

/-- The channel of notices about filters. -/
def filterChannel : Text := "filter"

/-- The warning about a piece of a specification that is left out; `field` names the piece. -/
def ignored (field piece : Text) : Notice :=
  .warning ("invalid logging spec '\x7b" ++ field ++ "\x7d', ignoring it") parseChannel
    [(field, .value (.text piece))]

/-- The directive that a token between commas stands for. A word that is no level is a module. -/
def readDirective (token : Text) : Reported (Option Directive) :=
  match token.splitOn '=' with
  | [_] =>
    match Level.parse token with
    | .ok l => pure (some ⟨none, l⟩)
    | .error _ => pure (some ⟨some token.trim, .trace⟩)
  | [module, level] =>
    if level.isAllBlank then pure (some ⟨some module.trim, .trace⟩)
    else match Level.parse level.trim with
      | .ok l => pure (some ⟨some module.trim, l⟩)
      | .error _ => do
        Reported.report (ignored "spec" level.trim)
        return none
  | _ => do
    Reported.report (ignored "token" token)
    return none

/-- The notice about a directive that has been read. -/
def found (d : Directive) : Notice :=
  { level := Notice.debugLevel, channel := parseChannel, template := "  directive \x7bd!r\x7d"
    fields := [("d", .shown d.text d.describe)] }

/-- The directives of the tokens between commas; blank tokens are passed over. -/
def readDirectives : List Text → Reported (List Directive)
  | [] => pure []
  | token :: rest =>
    if token.isAllBlank then readDirectives rest
    else do
      match ← readDirective token with
      | none => readDirectives rest
      | some d => do
        Reported.report (found d)
        return d :: (← readDirectives rest)

/-! ## 2. Whole specifications -/

/-- The warning about a filter text that makes no filter. -/
def badFilter (fault : Filter.Fault) : Notice :=
  .warning "invalid regex filter - \x7berr\x7d" filterChannel
    [("err", .shown fault.message (Text.quoted fault.message))]

/-- The filter text asks for more than the matcher can count, which is not taken for malformed. -/
def isBeyondCounting : Filter.Fault → Bool
  | .pattern _ .countTooLarge => true
  | _ => false

/-- The filter of a filter text, if it makes one. -/
def readFilter [CharacterNames] (strategy : Value) (pattern : Text) :
    ExceptT Filter.Fault Reported (Option Filter) := do
  match Filter.buildNamed strategy pattern with
  | .ok f => return some f
  | .error fault =>
    if isBeyondCounting fault then throw fault
    else do
      Reported.report (badFilter fault)
      return none

/-- The warning about a specification with several slashes. -/
def tooManySlashes (t : Text) : Notice :=
  .warning "invalid logging spec '\x7bspec\x7d', ignoring it (too many '/'s)" parseChannel
    [("spec", .value (.text t))]

/-- The specification that a text stands for, its filter text read under a strategy. -/
def parse [CharacterNames] (strategy : Value) (t : Text) : ExceptT Filter.Fault Reported Spec := do
  match t.splitOn '/' with
  | [tokens] => return ⟨← readDirectives (tokens.splitOn ','), none⟩
  | [tokens, pattern] => do
    let directives ← readDirectives (tokens.splitOn ',')
    return ⟨directives, ← readFilter strategy pattern⟩
  | _ => do
    Reported.report (tooManySlashes t)
    return ⟨[], none⟩

/-! ## 3. Writing -/

/-- The specification in its written form. -/
def text (s : Spec) : Text :=
  let directives := Text.joinWith "," (s.directives.map Directive.text)
  match s.filter with
  | none => directives
  | some f => directives ++ '/' :: f.pattern

end Spec

end LogSieve
