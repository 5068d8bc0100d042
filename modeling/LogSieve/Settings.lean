import LogSieve.Builder
import LogSieve.World

/-!
# Builders from settings

A builder can take its specification from the settings of a world: it first chooses the strategy and
then reads the specification, if there is one. Each of the two lookups fails where the search for a
project file does, and reading may fail as well; when it does the choice of the strategy stays.

`value_takeSettings` says what comes of it, one step after the other.
-/

namespace LogSieve

namespace Builder

/-- Why settings are not taken. -/
inductive SettingsFault where
  | search (fault : FileTree.SearchFault)
  | filter (fault : Filter.Fault)
  deriving DecidableEq, Repr

def SettingsFault.message : SettingsFault → Text
  | .search fault => fault.message
  | .filter fault => fault.message

variable [CharacterNames]

/-- Takes strategy and specification from the settings. The builder is returned also on failure. -/
def takeSettings (b : Builder) (w : World) (variableName start : Option Text) :
    Reported (Builder × Option SettingsFault) := do
  let chosen := b.strategy.map Strategy.name
  match ← (w.findStrategy chosen (some World.strategyVariable) start).run with
  | .error fault => return (b, some (.search fault))
  | .ok name => do
    let b ← b.choose (.text name)
    match ← (w.findSpec none variableName start).run with
    | .error fault => return (b, some (.search fault))
    | .ok none => return (b, none)
    | .ok (some t) =>
      match ← (b.parse t).run with
      | .ok b => return (b, none)
      | .error fault => return (b, some (.filter fault))

/-- Taking the settings is choosing the strategy that is found and then reading the specification
that is found, if any. -/
theorem value_takeSettings (b : Builder) (w : World) (variableName start : Option Text) :
    (b.takeSettings w variableName start).value =
      match (w.findStrategy (b.strategy.map Strategy.name) (some World.strategyVariable)
        start).run.value with
      | .error fault => (b, some (.search fault))
      | .ok name =>
        match (w.findSpec none variableName start).run.value with
        | .error fault => ((b.choose (.text name)).value, some (.search fault))
        | .ok none => ((b.choose (.text name)).value, none)
        | .ok (some t) =>
          match ((b.choose (.text name)).value.parse t).run.value with
          | .ok read => (read, none)
          | .error fault => ((b.choose (.text name)).value, some (.filter fault)) := by
  unfold takeSettings
  rw [Reported.value_bind]
  split
  · rfl
  · rw [Reported.value_bind, Reported.value_bind]
    split
    · rfl
    · rfl
    · rw [Reported.value_bind]
      split
      · rfl
      · rfl

/-- The sieve of a builder that takes the settings. -/
def buildFromSettings (b : Builder) (w : World) (variableName : Option Text) :
    ExceptT SettingsFault Reported Sieve := do
  let (b, fault) ← b.takeSettings w variableName none
  match fault with
  | none => return b.build
  | some fault => throw fault

theorem value_buildFromSettings (b : Builder) (w : World) (variableName : Option Text) :
    (b.buildFromSettings w variableName).run.value =
      match (b.takeSettings w variableName none).value with
      | (b, none) => .ok b.build
      | (_, some fault) => .error fault := by
  rw [buildFromSettings, Reported.run_bind, Reported.run_lift]
  rcases (b.takeSettings w variableName none).value with ⟨read, _ | fault⟩
  · rfl
  · rfl

/-- The sieve of the settings alone. -/
def sieveOfSettings (w : World) (variableName : Option Text) :
    ExceptT SettingsFault Reported Sieve :=
  ({} : Builder).buildFromSettings w variableName

/-- The builder of a gate, with the strategy that is given, if there is one. -/
def ofStrategy (strategy : Option Value) : Reported Builder :=
  match strategy with
  | none => pure {}
  | some name => ({} : Builder).choose name

/-- The sieve of a gate: the strategy, when there is one, is chosen first; the specification is the
given one, or else the settings'. -/
def sieveOfGate (w : World) (spec : Option Text) (variableName : Option Text)
    (strategy : Option Value) : ExceptT SettingsFault Reported Sieve := do
  let b ← ofStrategy strategy
  match spec with
  | some t => return (← (b.parse t).adapt .filter).build
  | none => b.buildFromSettings w variableName

end Builder

end LogSieve
