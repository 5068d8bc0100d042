import LogSieve.Level

/-!
# Directives

A directive gives a level to all modules whose path starts with a prefix, or to every module. The
longer its prefix, the more specific it is; the prefix of a directive for every module counts as
empty. `covers_iff` says which modules a directive covers.
-/

namespace LogSieve

structure Directive where
  /-- The prefix of the modules meant; none stands for every module. -/
  module : Option Text
  level : Level
  deriving DecidableEq, Repr, Inhabited

namespace Directive

/-- The prefix of the modules meant, empty for every module. -/
def stem (d : Directive) : Text := d.module.getD []

/-- The length of the prefix. -/
def specificity (d : Directive) : Nat := d.stem.length

/-- The directive applies to the module. -/
def covers (d : Directive) (module : Text) : Bool := d.stem.isPrefixOf module

theorem covers_iff (d : Directive) (module : Text) :
    d.covers module = true ↔ d.stem <+: module := by
  simp [covers, List.isPrefixOf_iff_prefix]

/-- The directive as it is written in a specification. -/
def text (d : Directive) : Text :=
  match d.module with
  | none => d.level.name
  | some stem => stem ++ '=' :: d.level.name

/-- The long form of the directive. -/
def describe (d : Directive) : Text :=
  let stem : Text := match d.module with
    | none => "None"
    | some stem => Text.quoted stem
  "Directive(module=" ++ stem ++ ", level=" ++ d.level.describe ++ ")"

end Directive

end LogSieve
