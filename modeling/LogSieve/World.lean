import LogSieve.Files.Tree
import LogSieve.Json.Reader
import LogSieve.Notice
import LogSieve.Text.Case
import LogSieve.Text.Utf8

/-!
# Where settings come from

A world is what settings are taken from: the variables of the environment, the files, and the place
where the program runs. Each setting has layers, and the first layer that has something decides:
what is given outright, a variable, and the nearest project file. The nearest one is looked for from
a place upward, in no more than 20 directories; when it is broken there is a warning, and no other
file takes its place.

The search for a project file may end without an answer, at a path that the system does not take;
`findSpec` and `findStrategy` then fail with it, and agree with `specText` and `strategyName` where
it has one.

* `projectFile?_eq_some`: what is found is the first of the places looked at;
* `projectFile?_of_search`: a search with an answer finds it;
* `value_findSpec`, `value_findStrategy`: a lookup fails with the search, or has its answer;
* `findStrategy_given`: no file is looked for where a strategy is named.
-/

namespace LogSieve

structure World where
  /-- The variables that are set, with their values. -/
  environment : List (Text × Text) := []
  files : FileTree := {}
  /-- The place where the program runs. -/
  place : Path := []

/-! ## 1. Project files -/

/-- Why a project file is of no use. -/
inductive LoadFault where
  | unopened (fault : FileTree.OpenFault)
  | undecoded (fault : Text.ByteFault)
  | unread (document : Text) (fault : Json.Fault)
  deriving DecidableEq, Repr

def LoadFault.message (path : Text) : LoadFault → Text
  | .unopened fault => fault.message path
  | .undecoded fault => fault.message
  | .unread document fault => fault.message document

namespace World

/-- The channel of notices about where settings come from. -/
def configChannel : Text := "config"

/-- The name of project files. -/
def projectFileName : Text := ".envlog.json"

/-- How many directories are looked at. -/
def searchLimit : Nat := 20

/-- The place that a start stands for; without one it is where the program runs. -/
def startAt (w : World) (start : Option Text) : Path :=
  match start with
  | none | some [] => w.place
  | some t => Path.ofText w.place t

/-- The places where the project file may be, the nearest first. -/
def projectPlaces (w : World) (start : Option Text) : List Path :=
  ((w.startAt start).ancestors.take searchLimit).map (· ++ [projectFileName])

/-- The nearest project file. -/
def projectFile? (w : World) (start : Option Text) : Option Path :=
  (w.projectPlaces start).find? w.files.isFile

theorem projectFile?_eq_some {w : World} {start : Option Text} {p : Path}
    (h : w.projectFile? start = some p) :
    w.files.isFile p = true ∧ ∃ before after, w.projectPlaces start = before ++ p :: after ∧
      ∀ q ∈ before, w.files.isFile q = false := by
  obtain ⟨hp, before, after, hl, hb⟩ := List.find?_eq_some_iff_append.1 h
  exact ⟨hp, before, after, hl, by simpa using hb⟩

/-- The search for the nearest project file. A start with the character that ends texts for the
system is no path. -/
def searchProjectFile (w : World) (start : Option Text) :
    Except FileTree.SearchFault (Option Path) :=
  let t := start.getD []
  if t.contains '\x00' then .error ⟨.embeddedNul, t⟩
  else w.files.search (w.projectPlaces start)

theorem projectFile?_of_search {w : World} {start : Option Text} {found : Option Path}
    (h : w.searchProjectFile start = .ok found) : w.projectFile? start = found := by
  unfold searchProjectFile at h
  dsimp only at h
  split at h
  · cases h
  · exact FileTree.find?_of_search h

/-- The value in a file. -/
def readFile (w : World) (path : Text) : Except LoadFault Value := do
  let bytes ← (w.files.contents w.place path).mapError .unopened
  let document := Text.unifyNewlines (← (Text.decodeUtf8 bytes).mapError .undecoded)
  (Json.read document).mapError (.unread document)

/-- The warning about a file that is of no use. -/
def ignoredFile (path : Text) (fault : LoadFault) : Notice :=
  let message := fault.message path
  .warning "ignoring config file \x7bpath\x7d: \x7berr\x7d" configChannel
    [("path", .value (.text path)), ("err", .shown message (Text.quoted message))]

/-- The entries of a file. A file that is not there has none, and neither has one that is broken or
holds something else; broken ones are warned about. -/
def loadEntries (w : World) (path : Text) : Reported (List (Text × Value)) :=
  match w.readFile path with
  | .ok (.mapping entries) => pure entries
  | .ok _ => pure []
  | .error (.unopened .missing) => pure []
  | .error fault => do
    Reported.report (ignoredFile path fault)
    return []

/-- The entries of the nearest project file, and where it is. -/
def projectEntries (w : World) (start : Option Text) :
    Reported (List (Text × Value) × Option Path) :=
  match w.projectFile? start with
  | none => pure ([], none)
  | some p => do return (← w.loadEntries p.text, some p)

/-! ## 2. Layers -/

/-- The value of a variable; no name and the empty one name none. -/
def lookUp? (w : World) (name : Option Text) : Option Text :=
  match name with
  | none | some [] => none
  | some name => w.environment.lookup name

/-- The notice about where the specification comes from. -/
def specFrom (template : Text) (fields : Format.Subjects) : Notice :=
  { level := Notice.configLevel, channel := configChannel, template, fields }

/-- The variable of the specification, unless another one is asked for. -/
def specVariable : Text := "ENVLOG"

/-- The variable of the strategy. -/
def strategyVariable : Text := "ENVLOG_STRATEGY"

/-- The specification: the given one, else the variable's, even if it is empty, else the text under
`spec` in the nearest project file. -/
def specText (w : World) (given : Option Text) (variableName : Option Text) (start : Option Text) :
    Reported (Option Text) :=
  match given with
  | some t => do
    Reported.report (specFrom "spec from argument: \x7bspec!r\x7d" [("spec", .value (.text t))])
    return some t
  | none =>
    match w.lookUp? variableName with
    | some t => do
      Reported.report (specFrom "spec from $\x7bvar\x7d: \x7bspec!r\x7d"
        [("var", .value (.text (variableName.getD []))), ("spec", .value (.text t))])
      return some t
    | none => do
      let (entries, p) ← w.projectEntries start
      match entries.lookup "spec".toList, p with
      | some (.text t), some p => do
        Reported.report (specFrom "spec from \x7bpath\x7d: \x7bspec!r\x7d"
          [("path", .value (.text p.text)), ("spec", .value (.text t))])
        return some t
      | _, _ => do
        Reported.report (specFrom "no spec configured, defaulting to errors only" [])
        return none

/-- The name of the strategy: the given one, else the variable's, else the text under `strategy` in
the nearest project file, each unless it is empty, and in the end the regular expressions. -/
def strategyName (w : World) (given : Option Text) (variableName : Option Text)
    (start : Option Text) : Reported Text :=
  match given with
  | some (c :: rest) => pure (c :: rest)
  | _ =>
    match w.lookUp? variableName with
    | some (c :: rest) => pure (Text.lower (Text.trim (c :: rest)))
    | _ => do
      let (entries, _) ← w.projectEntries start
      match entries.lookup "strategy".toList with
      | some (.text (c :: rest)) => return Text.lower (Text.trim (c :: rest))
      | _ => return "regex".toList

/-! ## 3. Layers that cannot be searched -/

/-- A value that rests on the project file, if it is reached. -/
def afterSearch {α : Type} (w : World) (start : Option Text) (isReached : Bool) (r : Reported α) :
    ExceptT FileTree.SearchFault Reported α := do
  if isReached then
    match w.searchProjectFile start with
    | .error fault => throw fault
    | .ok _ => liftM r
  else liftM r

/-- Neither what is given nor a variable has a specification. -/
def leavesSpecToFile (w : World) (given variableName : Option Text) : Bool :=
  given.isNone && (w.lookUp? variableName).isNone

/-- The specification, if the project file can be searched for where it is needed. -/
def findSpec (w : World) (given variableName start : Option Text) :
    ExceptT FileTree.SearchFault Reported (Option Text) :=
  w.afterSearch start (w.leavesSpecToFile given variableName) (w.specText given variableName start)

/-- Neither what is given nor a variable names a strategy. -/
def leavesStrategyToFile (w : World) (given variableName : Option Text) : Bool :=
  given.all List.isEmpty && (w.lookUp? variableName).all List.isEmpty

/-- The name of the strategy, if the project file can be searched for where it is needed. -/
def findStrategy (w : World) (given variableName start : Option Text) :
    ExceptT FileTree.SearchFault Reported Text :=
  w.afterSearch start (w.leavesStrategyToFile given variableName)
    (w.strategyName given variableName start)

theorem run_afterSearch {α : Type} (w : World) (start : Option Text) (isReached : Bool)
    (r : Reported α) :
    (w.afterSearch start isReached r).run =
      match (if isReached then w.searchProjectFile start else .ok none) with
      | .error fault => ⟨[], .error fault⟩
      | .ok _ => ⟨r.notices, .ok r.value⟩ := by
  unfold afterSearch
  cases isReached with
  | false => exact Reported.run_lift r
  | true =>
    simp only [if_true]
    split
    · rfl
    · exact Reported.run_lift r

/-- A value that rests on the project file fails where the search for that file does; otherwise it
is what it would be without the search. -/
theorem value_afterSearch {α : Type} (w : World) (start : Option Text) (isReached : Bool)
    (r : Reported α) :
    (∃ fault, w.searchProjectFile start = .error fault ∧
        (w.afterSearch start isReached r).run.value = .error fault) ∨
      (w.afterSearch start isReached r).run.value = .ok r.value := by
  rw [run_afterSearch]
  cases isReached with
  | false => exact .inr rfl
  | true =>
    rw [if_pos rfl]
    cases w.searchProjectFile start with
    | error fault => exact .inl ⟨fault, rfl, rfl⟩
    | ok found => exact .inr rfl

theorem value_findSpec (w : World) (given variableName start : Option Text) :
    (∃ fault, w.searchProjectFile start = .error fault ∧
        (w.findSpec given variableName start).run.value = .error fault) ∨
      (w.findSpec given variableName start).run.value =
        .ok (w.specText given variableName start).value :=
  w.value_afterSearch start _ _

theorem value_findStrategy (w : World) (given variableName start : Option Text) :
    (∃ fault, w.searchProjectFile start = .error fault ∧
        (w.findStrategy given variableName start).run.value = .error fault) ∨
      (w.findStrategy given variableName start).run.value =
        .ok (w.strategyName given variableName start).value :=
  w.value_afterSearch start _ _

/-- A strategy that is named is found, whether or not the project file could be searched for. -/
theorem findStrategy_given (w : World) {s : Text} (hs : s ≠ []) (variableName start : Option Text) :
    (w.findStrategy (some s) variableName start).run = ⟨[], .ok s⟩ := by
  cases s with
  | nil => exact absurd rfl hs
  | cons c rest => exact w.run_afterSearch start false (pure (c :: rest))

end World

end LogSieve
