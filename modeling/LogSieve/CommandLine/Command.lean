import LogSieve.CommandLine.Invocation
import LogSieve.Report
import LogSieve.Settings

/-!
# Commands

What the commands find out. `check` lists the directives of a specification, the most specific one
first, with the filter and the greatest level; `judge` tells whether one record would pass, and why.
Both make their sieve in the same way (`sieveOf`), from the specification they are given or from the
settings. Results are lines with an exit status; errors are notices.

`judge_status_off` says that `off` is refused as the level of a record, whatever the specification.
-/

namespace LogSieve.CommandLine

/-- Why a command does not come to an end. -/
inductive CommandFault where
  | interrupted
  /-- Settings are not found, or the specification is not read. -/
  | settings (fault : Builder.SettingsFault)
  | unwritable (fault : Format.MessageFault)
  /-- Something that should be a text is an empty list, which lacks what is asked of it. -/
  | noText (lacking : Text)
  deriving DecidableEq, Repr

def CommandFault.message : CommandFault → Text
  | .interrupted => ""
  | .settings fault => fault.message
  | .unwritable fault => fault.message
  | .noText lacking => "'list' object has no attribute '" ++ lacking ++ "'"

/-- The result of a command: its lines and its exit status. -/
structure Verdict where
  status : Nat
  lines : List Text := []
  deriving DecidableEq, Repr

/-- A command gives notices on the way to its result. -/
abbrev Working (α : Type) := ExceptT CommandFault Reported α

/-! ## 1. The sieve of a command -/

/-- A lookup of settings, as a step of a command. -/
def lookingUp {α : Type} (found : ExceptT FileTree.SearchFault Reported α) : Working α :=
  found.adapt fun fault => .settings (.search fault)

/-- The variable that a command looks up. -/
def Source.settingsVariable (source : Source) : Text :=
  (source.variableName.filter fun t => !t.isEmpty).getD World.specVariable

/-- The specification of a command. An interruption shows here, where settings are looked up. -/
def specOf (w : World) (interrupted : Bool) (source : Source) : Working (Option Value) := do
  if interrupted then throw .interrupted
  match source.spec with
  | some (.text t) => do
    let t ← lookingUp (w.findSpec (some t) none none)
    return t.map .text
  | some v => do
    Reported.report (World.specFrom "spec from argument: \x7bspec!r\x7d" [("spec", .value v)])
    return some v
  | none => do
    let t ← lookingUp (w.findSpec none (some source.settingsVariable) none)
    return t.map .text

/-- The specification that a command finds: the given one, or else the settings'. -/
def foundSpec (w : World) (source : Source) : Except FileTree.SearchFault (Option Value) :=
  match source.spec with
  | some v => .ok (some v)
  | none => (w.findSpec none (some source.settingsVariable) none).run.value.map (Option.map .text)

theorem value_lookingUp {α : Type} (found : ExceptT FileTree.SearchFault Reported α) :
    (lookingUp found).run.value =
      found.run.value.mapError fun fault => .settings (.search fault) := by
  rw [lookingUp, Reported.run_adapt]

theorem value_specOf (w : World) (source : Source) :
    (specOf w false source).run.value =
      (foundSpec w source).mapError fun fault => .settings (.search fault) := by
  unfold specOf foundSpec
  cases source.spec with
  | none =>
    show (lookingUp _ >>= _).run.value = _
    rw [Reported.value_run_bind, value_lookingUp]
    cases (w.findSpec none (some source.settingsVariable) none).run.value with
    | ok t => rfl
    | error fault => rfl
  | some v =>
    cases v with
    | text t => rfl
    | _ => rfl

variable [CharacterNames]

/-- The sieve of a builder that reads what has been found, and whether that was anything. -/
def buildFrom (b : Builder) : Option Value → Working (Sieve × Bool)
  | none => return (b.build, false)
  | some (.text t) => do
    let b ← (b.parse t).adapt fun fault => .settings (.filter fault)
    return (b.build, true)
  | some _ => throw (.noText "split")

/-- The sieve of a command, and whether a specification has been found. -/
def sieveOf (w : World) (interrupted : Bool) (source : Source) : Working (Sieve × Bool) := do
  let spec ← specOf w interrupted source
  let name ← lookingUp (w.findStrategy source.strategy (some World.strategyVariable) none)
  let b ← ({} : Builder).choose (.text name)
  buildFrom b spec

/-- The strategy that a command finds. -/
def foundStrategy (w : World) (source : Source) : Except FileTree.SearchFault Text :=
  (w.findStrategy source.strategy (some World.strategyVariable) none).run.value

/-- The sieve of a command is built from the specification and with the strategy that are found. -/
theorem value_sieveOf (w : World) (source : Source) :
    (sieveOf w false source).run.value = (do
      let spec ← (foundSpec w source).mapError fun fault => .settings (.search fault)
      let name ← (foundStrategy w source).mapError fun fault => .settings (.search fault)
      (buildFrom (({} : Builder).choose (.text name)).value spec).run.value) := by
  unfold sieveOf
  rw [Reported.value_run_bind, value_specOf]
  refine congrArg _ (funext fun spec => ?_)
  rw [Reported.value_run_bind, value_lookingUp]
  refine congrArg _ (funext fun name => ?_)
  rw [Reported.run_bind, Reported.run_lift]

/-! ## 2. Listing -/

/-- The line of a directive; `*` stands for every module. -/
def directiveLine (d : Directive) : Text := Report.item (d.module.getD ['*']) d.level.name

/-- The lines about a filter. -/
def filterLines : Option Filter → List Text
  | none => [Report.item "pattern" "(none)"]
  | some f => [Report.item "pattern" (Text.quoted f.pattern), Report.item "strategy" f.kindName]

/-- The listing of a sieve, in the order in which its directives are asked. -/
def listing (s : Sieve) (found : Bool) : List Text :=
  (if found then [] else [Report.warn "no spec configured; the default is errors only"]) ++
    [Report.header "directives (most specific first)"] ++
    s.directives.reverse.map directiveLine ++
    [Report.header "content filter"] ++ filterLines s.filter ++
    [Report.header "summary", Report.item "max level" s.maxLevel.name]

def check (w : World) (interrupted : Bool) (source : Source) : Working Verdict := do
  let (s, found) ← sieveOf w interrupted source
  return { status := 0, lines := listing s found }

/-! ## 3. Judging -/

/-- The directive that governs the module of a command line. An empty list in its place is refused
by the first directive that has a prefix to compare. -/
def governing (s : Sieve) (module : Value) : Except CommandFault (Option Directive) :=
  match module with
  | .text m => .ok (s.directiveFor m)
  | _ =>
    match s.directives.getLast? with
    | some d => if d.module.isSome then .error (.noText "startswith") else .ok (some d)
    | none => .ok none

/-- The result for a record at a level that is none of `off`. -/
def judgeWith (s : Sieve) (level : Level) (module : Value) (message : Text) :
    Except CommandFault Verdict := do
  let d ← governing s module
  let found := Report.item "directive" ((d.map Directive.text).getD "(none)")
  let allowed := (d.map Directive.level).getD .off
  if !(level ≤ allowed) then
    return { status := 1, lines := [found, Report.drop
      (level.name ++ " is above the level allowed for " ++ module.quoted)] }
  let record : Record := { level, module := module.display, msg := .text message }
  match s.filter, s.admits record with
  | some f, .ok false =>
    return { status := 1, lines := [found, Report.drop
      ("message does not match " ++ Text.quoted f.pattern)] }
  | _, .error fault => throw (.unwritable fault)
  | _, _ =>
    return { status := 0, lines := [found, Report.ok
      (level.name ++ " record from " ++ module.quoted ++ " is forwarded")] }

def judge (w : World) (interrupted : Bool) (source : Source) (level module : Value)
    (message : Text) : Working Verdict := do
  match Level.ofValue level with
  | .error fault => do
    Reported.report (Report.error fault.message)
    return { status := 2 }
  | .ok .off => do
    Reported.report (Report.error "'off' is a filter ceiling, not a record level")
    return { status := 2 }
  | .ok level => do
    let (s, _) ← sieveOf w interrupted source
    ExceptT.mk (pure (judgeWith s level module message))

theorem judge_status_off (w : World) (interrupted : Bool) (source : Source) {level : Value}
    (h : Level.ofValue level = .ok .off) (module : Value) (message : Text) :
    ((judge w interrupted source level module message).run).value = .ok { status := 2 } := by
  simp only [judge, h]
  rfl

end LogSieve.CommandLine
