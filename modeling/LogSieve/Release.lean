import LogSieve.Number.Integer

/-!
# Releases

A release has three numbers, perhaps a phase, and a stamp that names the branch, the build, the day
and the commit it was made from; `baseVersion` and `packageVersion` are read off the stamp. The
package version follows the rules for version numbers of packages: a phase is a short suffix, and a
build that is not from the main branch counts as a development release. A number of too many digits
is not written, and then there is no version that needs it.

`baseVersion_stamp` says that the base version of a stamp is what stands in front of the branch.
-/

namespace LogSieve

structure Release where
  major : Int
  minor : Int
  patch : Int
  /-- The phase before the release proper, if any. -/
  phase : Option Text
  /-- The full version, with the stamp after the first low line. -/
  stamp : Text
  deriving DecidableEq, Repr

namespace Release

/-- The release that this program is. -/
def current : Release :=
  { major := 2, minor := 2, patch := 0, phase := some "beta"
    stamp := "2.2.0-beta_main_7-20261016-1f0c2ab" }

/-- Why a version is not made. -/
inductive Fault where
  /-- One of the three numbers has too many digits to be written. -/
  | numberTooLong
  deriving DecidableEq, Repr

def Fault.message : Fault → Text
  | .numberTooLong => tooManyDigitsToWrite

/-- The phase, when it is not empty. -/
def phase? (r : Release) : Option Text := r.phase.filter fun t => !t.isEmpty

/-- The three numbers with points between them. -/
def numbers (r : Release) : Except Fault Text :=
  if isWritten r.major && isWritten r.minor && isWritten r.patch then
    .ok (showInt r.major ++ '.' :: showInt r.minor ++ '.' :: showInt r.patch)
  else .error .numberTooLong

/-- The version without its stamp. -/
def plainVersion (r : Release) : Except Fault Text := do
  let numbers ← r.numbers
  match r.phase? with
  | none => return numbers
  | some phase => return numbers ++ '-' :: phase

/-- The version in front of the stamp, made up when there is no stamp. -/
def baseVersion (r : Release) : Except Fault Text :=
  match r.stamp.cutAt '_' with
  | (base, some _) => .ok base
  | (_, none) => r.plainVersion

/-- The suffix of a phase; a phase without a short form stands for itself. -/
def phaseSuffix (phase : Text) : Text :=
  if phase = "alpha" then "a0"
  else if phase = "beta" then "b0"
  else phase

/-- The version of the package, without the mark of a development release. -/
def packageBase (r : Release) : Except Fault Text := do
  let numbers ← r.numbers
  match r.phase? with
  | none => return numbers
  | some phase => return numbers ++ phaseSuffix phase

/-- The number of the build: what stands in front of the first hyphen after the branch. -/
def buildNumber (build : Text) : Text :=
  match build.cutAt '-' with
  | (number, some _) => number
  | (_, none) => "0"

/-- The version of the package. -/
def packageVersion (r : Release) : Except Fault Text := do
  let base ← r.packageBase
  match r.stamp.cutAt '_' with
  | (_, none) => return base
  | (_, some stamp) =>
    let (branch, build) := stamp.cutAt '_'
    if branch = "main" then return base
    else return base ++ ".dev" ++ buildNumber (build.getD [])

theorem baseVersion_stamp {r : Release} {base rest : Text} (hs : r.stamp = base ++ '_' :: rest)
    (hb : '_' ∉ base) : r.baseVersion = .ok base := by
  simp [baseVersion, hs, Text.cutAt_append hb]

/-- The base version of the release that this program is, made once. -/
def currentBase : { base : Text // current.baseVersion = .ok base } := ⟨"2.2.0-beta", rfl⟩

end Release

end LogSieve
