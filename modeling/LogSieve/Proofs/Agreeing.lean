import LogSieve.CommandLine.Command
import LogSieve.Proofs.Rebuilding

/-!
# Where the sieves of the settings come from

A gate, a builder, the shorthand for a builder and a command each have a way of their own to find a
strategy and a specification. When the specification is left to the settings, they all come to the
same sieve or to the same fault, whatever they look up first: both lookups fail with the search for
one and the same file. When it is given outright and the strategy is not, a command still asks the
settings for the strategy, and a gate does not.

* `Builder.sieveFrom`: what they have in common, building from what the two lookups find;
* `Builder.value_buildFromSettings_of_isNew`, `Builder.value_sieveOfGate`,
  `CommandLine.map_fst_sieveOf`: builders, gates and commands in these terms;
* `Builder.entrances_agree`: the specification of the settings;
* `Builder.gate_agrees_iff`: a specification that is given.
-/

namespace LogSieve

/-! ## 1. Strategies -/

namespace World

/-- The strategy that the settings choose: the one they name, and regular expressions if they name
none that there is. The search for it may fail. -/
def strategy (w : World) : Except FileTree.SearchFault Strategy :=
  (w.findStrategy none (some strategyVariable) none).run.value.map fun name =>
    (Strategy.ofName? name).getD .regex

/-- The strategy that is given, or else the one that the settings choose. -/
def strategyOr (w : World) (s : Option Strategy) : Except FileTree.SearchFault Strategy :=
  match s with
  | some s => .ok s
  | none => w.strategy

/-- No settings are looked at for a strategy that is given by its name. -/
theorem findStrategy_name (w : World) (s : Strategy) (variableName start : Option Text) :
    (w.findStrategy (some s.name) variableName start).run = ⟨[], .ok s.name⟩ :=
  w.findStrategy_given (by cases s <;> decide) variableName start

theorem map_findStrategy (w : World) (s : Option Strategy) :
    (w.findStrategy (s.map Strategy.name) (some strategyVariable) none).run.value.map
      (fun name => (Strategy.ofName? name).getD .regex) = w.strategyOr s := by
  cases s with
  | none => rfl
  | some s =>
    rw [Option.map_some, findStrategy_name]
    exact congrArg (fun found => Except.ok (found.getD .regex)) (Strategy.ofName?_name s)

/-- The strategy and the specification are looked for in one place, so one fault is both lookups'.
-/
theorem searchFault_eq {w : World} {s : Option Strategy} {given variableName : Option Text}
    {fault fault' : FileTree.SearchFault} (h : w.strategyOr s = .error fault)
    (h' : (w.findSpec given variableName none).run.value = .error fault') : fault = fault' := by
  rw [← map_findStrategy] at h
  rcases w.value_findSpec given variableName none with ⟨_, hsearch', hs⟩ | hs
  · rcases w.value_findStrategy (s.map Strategy.name) (some strategyVariable) none with
      ⟨_, hsearch, ht⟩ | ht
    · rw [ht] at h
      rw [hs] at h'
      cases h
      cases h'
      exact Except.error.inj (hsearch.symm.trans hsearch')
    · rw [ht] at h
      cases h
  · rw [hs] at h'
    cases h'

end World

namespace Builder

theorem currentStrategy_choose (b : Builder) (name : Text) :
    (b.choose (.text name)).value.currentStrategy =
      (Strategy.ofName? name).getD b.currentStrategy := by
  rw [choose, Strategy.ofValue?]
  cases Strategy.ofName? name with
  | none => rfl
  | some s => rfl

/-- The settings are asked for a strategy unless one has been chosen, and what they name decides. -/
theorem currentStrategy_choose_found {b : Builder} {w : World} {start : Option Text} {name : Text}
    (h : (w.findStrategy (b.strategy.map Strategy.name) (some World.strategyVariable)
      start).run.value = .ok name) :
    (b.choose (.text name)).value.currentStrategy = (Strategy.ofName? name).getD .regex := by
  rw [currentStrategy_choose, currentStrategy]
  cases hs : b.strategy with
  | none => rfl
  | some s =>
    rw [hs, Option.map_some, World.findStrategy_name] at h
    rw [← Except.ok.inj h, Strategy.ofName?_name]
    rfl

/-! ## 2. Building from what is found -/

/-- Nothing has been collected yet. -/
def IsNew (b : Builder) : Prop := b.directives = [] ∧ b.filter = none

theorem isNew_choose {b : Builder} (h : b.IsNew) (name : Value) : (b.choose name).value.IsNew := by
  have hc := b.collected_choose name
  exact ⟨(congrArg Spec.directives hc).trans h.1, (congrArg Spec.filter hc).trans h.2⟩

/-- Sieves are the same behind a wrapping of faults that confuses none when they are the same. -/
theorem mapError_inj {ε ε' : Type} {wrap : ε → ε'} (hwrap : Function.Injective wrap)
    {x y : Except ε Sieve} : x.mapError wrap = y.mapError wrap ↔ x = y := by
  constructor
  · intro h
    cases x with
    | ok s =>
      cases y with
      | ok s' =>
        cases h
        rfl
      | error fault' => cases h
    | error fault =>
      cases y with
      | ok s' => cases h
      | error fault' => rw [hwrap (Except.error.inj h)]
  · rintro rfl
    rfl

/-- A sieve that there is is there behind a wrapping of faults. -/
theorem eq_ok_of_mapError {ε ε' : Type} {wrap : ε → ε'} {x : Except ε Sieve} {s : Sieve}
    (h : x.mapError wrap = .ok s) : x = .ok s := by
  cases x with
  | ok s' =>
    cases h
    rfl
  | error fault => cases h

section Entrances

variable [CharacterNames]

/-- The sieve of a specification, if there is one, read under a strategy. -/
def sieveUnder (s : Strategy) (found : Option Text) : Except Filter.Fault Sieve :=
  match found with
  | none => .ok ({} : Builder).build
  | some t => (Spec.parse (.text s.name) t).run.value.map fun spec =>
      ({ directives := spec.directives, filter := spec.filter } : Builder).build

/-- The sieve of what the lookups of a strategy and of a specification find. -/
def sieveFrom (strategy : Except FileTree.SearchFault Strategy)
    (found : Except FileTree.SearchFault (Option Text)) : Except SettingsFault Sieve := do
  let s ← strategy.mapError .search
  let found ← found.mapError .search
  (sieveUnder s found).mapError .filter

theorem map_build_parse {b : Builder} (h : b.IsNew) (t : Text) :
    (b.parse t).run.value.map build = sieveUnder b.currentStrategy (some t) := by
  rw [parse, Reported.run_bind, sieveUnder]
  cases (Spec.parse (.text b.currentStrategy.name) t).run.value with
  | error fault => rfl
  | ok spec =>
    show Except.ok _ = Except.ok _
    refine congrArg Except.ok (build_eq_build ?_ rfl)
    show b.directives ++ spec.directives = _
    rw [h.1, List.nil_append]

/-- A new builder that takes the settings. -/
theorem value_buildFromSettings_of_isNew {b : Builder} (h : b.IsNew) (w : World)
    (variableName : Option Text) :
    (b.buildFromSettings w variableName).run.value =
      sieveFrom (w.strategyOr b.strategy) (w.findSpec none variableName none).run.value := by
  rw [value_buildFromSettings, value_takeSettings, ← w.map_findStrategy]
  cases hname : (w.findStrategy (b.strategy.map Strategy.name) (some World.strategyVariable)
    none).run.value with
  | error fault => rfl
  | ok name =>
    have hnew : (b.choose (.text name)).value.IsNew := isNew_choose h _
    cases (w.findSpec none variableName none).run.value with
    | error fault => rfl
    | ok found =>
      show _ =
        (sieveUnder ((Strategy.ofName? name).getD .regex) found).mapError SettingsFault.filter
      rw [← currentStrategy_choose_found hname]
      cases found with
      | none => exact congrArg Except.ok (build_eq_build hnew.1 hnew.2)
      | some t =>
        rw [← map_build_parse hnew]
        dsimp only
        cases ((b.choose (.text name)).value.parse t).run.value with
        | error fault => rfl
        | ok read => rfl

/-! ## 3. The entrances -/

/-- A gate asks the settings for a strategy only when it asks them for the specification. -/
theorem value_sieveOfGate (w : World) (spec variableName : Option Text) (strategy : Option Value) :
    (sieveOfGate w spec variableName strategy).run.value =
      match spec with
      | some t => (sieveUnder (ofStrategy strategy).value.currentStrategy (some t)).mapError .filter
      | none => sieveFrom (w.strategyOr (ofStrategy strategy).value.strategy)
          (w.findSpec none variableName none).run.value := by
  have hnew : (ofStrategy strategy).value.IsNew := by
    cases strategy with
    | none => exact ⟨rfl, rfl⟩
    | some name => exact isNew_choose ⟨rfl, rfl⟩ name
  rw [sieveOfGate, Reported.value_run_bind, Reported.run_lift]
  generalize (ofStrategy strategy).value = b at hnew
  cases spec with
  | some t =>
    show (((b.parse t).adapt SettingsFault.filter) >>= fun b => pure b.build).run.value = _
    dsimp only
    rw [← map_build_parse hnew, Reported.value_run_bind, Reported.run_adapt]
    cases (b.parse t).run.value with
    | error fault => rfl
    | ok read => rfl
  | none => exact value_buildFromSettings_of_isNew hnew w variableName

theorem value_sieveOfSettings (w : World) (variableName : Option Text) :
    (sieveOfSettings w variableName).run.value =
      sieveFrom w.strategy (w.findSpec none variableName none).run.value :=
  value_buildFromSettings_of_isNew (b := {}) ⟨rfl, rfl⟩ w variableName

end Entrances

end Builder

/-- A command asks the settings for a strategy whether or not it asks them for the specification,
and for the specification first. -/
theorem CommandLine.map_fst_sieveOf [CharacterNames] {w : World} {source : Source}
    {s : Option Strategy} (hs : source.strategy = s.map Strategy.name)
    {found : Except FileTree.SearchFault (Option Text)}
    (hf : foundSpec w source = found.map (Option.map .text))
    (hfaults : ∀ fault fault', w.strategyOr s = .error fault → found = .error fault' →
      fault = fault') :
    (sieveOf w false source).run.value.map Prod.fst =
      (Builder.sieveFrom (w.strategyOr s) found).mapError .settings := by
  rw [value_sieveOf, hf, foundStrategy, hs]
  rw [← w.map_findStrategy] at hfaults ⊢
  cases hname : (w.findStrategy (s.map Strategy.name) (some World.strategyVariable)
      none).run.value with
  | error fault =>
    rw [hname] at hfaults
    cases found with
    | error fault' =>
      rw [hfaults fault fault' rfl rfl]
      rfl
    | ok t => rfl
  | ok name =>
    cases found with
    | error fault => rfl
    | ok t =>
      have hnew : (({} : Builder).choose (.text name)).value.IsNew :=
        Builder.isNew_choose ⟨rfl, rfl⟩ _
      have hcurrent : (({} : Builder).choose (.text name)).value.currentStrategy =
          (Strategy.ofName? name).getD .regex := Builder.currentStrategy_choose {} name
      show (buildFrom (({} : Builder).choose (.text name)).value (t.map .text)).run.value.map _ =
        ((Builder.sieveUnder ((Strategy.ofName? name).getD .regex) t).mapError
          Builder.SettingsFault.filter).mapError _
      rw [← hcurrent]
      cases t with
      | none => exact congrArg Except.ok (Builder.build_eq_build hnew.1 hnew.2)
      | some t =>
        rw [← Builder.map_build_parse hnew, Option.map_some, buildFrom, Reported.value_run_bind,
          Reported.run_adapt]
        cases ((({} : Builder).choose (.text name)).value.parse t).run.value with
        | ok read => rfl
        | error fault => rfl

/-! ## 4. Agreement -/

namespace Builder

/-- **The specification of the settings makes the same sieve everywhere.** Whatever the variables,
the files and the place, whichever variable is asked for and whether or not a strategy is chosen: a
gate, a builder that takes the settings and builds, and a command that is given no specification
come to the same sieve or to the same fault, which may be that of a search for the project file.
Where no strategy is chosen, so does the sieve of the settings alone. -/
theorem entrances_agree [CharacterNames] (w : World) {variableName : Text} (hv : variableName ≠ [])
    (s : Option Strategy) :
    let gate := (sieveOfGate w none (some variableName) (s.map fun s => .text s.name)).run.value
    (({} : Builder).calls ((s.map fun s => Call.choose (.text s.name)).toList ++
        [.takeSettings w (some variableName) none])).run.value.map build =
          gate.mapError .settings ∧
      (CommandLine.sieveOf w false { variableName := some variableName
                                     strategy := s.map Strategy.name }).run.value.map Prod.fst =
        gate.mapError .settings ∧
      (s = none → (sieveOfSettings w (some variableName)).run.value = gate) := by
  intro gate
  have hchoice : choiceOfGate (s.map fun s => .text s.name) =
      (s.map fun s => Call.choose (.text s.name)).toList := by
    rw [choiceOfGate, Option.map_map]
    rfl
  have hchosen : (ofStrategy (s.map fun s => .text s.name)).value.strategy = s := by
    cases s with
    | none => rfl
    | some s =>
      show (({} : Builder).choose (.text s.name)).value.strategy = _
      rw [choose_name]
  have hgate : gate = sieveFrom (w.strategyOr s)
      (w.findSpec none (some variableName) none).run.value := by
    rw [← hchosen]
    exact value_sieveOfGate w none (some variableName) _
  have hfilter : (some variableName).filter (fun t => !t.isEmpty) = some variableName := by
    rw [Option.filter_some, if_pos (by simpa using hv)]
  refine ⟨?_, ?_, ?_⟩
  · rw [← hchoice]
    exact map_build_calls_of_gate w none (some variableName) _
  · rw [hgate]
    refine CommandLine.map_fst_sieveOf rfl ?_ fun _ _ => World.searchFault_eq
    rw [CommandLine.foundSpec, CommandLine.Source.settingsVariable, hfilter]
    rfl
  · rintro rfl
    rw [hgate]
    exact value_sieveOfSettings w _

attribute [local instance] CharacterNames.common

/-- **A specification from a variable and a strategy from a file.** The project file stands above
the place, and the name of the strategy in it is trimmed. -/
theorem entrances_agree_on_variable :
    let file : Text := "\x7b\"spec\": \"off\", \"strategy\": \" Substring\"\x7d"
    let w : World := {
      environment := [("APP_LOG", "warn,app=debug/a.c")]
      files := ({} : FileTree).put [".envlog.json"] (.file (file.map fun c => c.toNat.toUInt8))
      place := ["srv", "app"] }
    ∃ s : Sieve, s.directives = [⟨none, .warning⟩, ⟨some "app", .debug⟩] ∧
      s.filter.map Filter.strategy = some .substring ∧
      (sieveOfGate w none (some "APP_LOG") none).run.value = .ok s ∧
      (({} : Builder).calls [.takeSettings w (some "APP_LOG") none]).run.value.map build = .ok s ∧
      (CommandLine.sieveOf w false { variableName := some "APP_LOG" }).run.value.map Prod.fst =
        .ok s ∧
      (sieveOfSettings w (some "APP_LOG")).run.value = .ok s := by
  intro file w
  have hok : (match (sieveOfGate w none (some "APP_LOG") none).run.value with
      | .ok s => decide (s.directives = [⟨none, .warning⟩, ⟨some "app", .debug⟩] ∧
          s.filter.map Filter.strategy = some .substring)
      | .error _ => false) = true := by decide +kernel
  have hname : ("APP_LOG" : Text) ≠ [] := by decide
  obtain ⟨hcalls, hcommand, hsettings⟩ := entrances_agree w hname none
  cases hgate : (sieveOfGate w none (some "APP_LOG") none).run.value with
  | error fault =>
    rw [hgate] at hok
    cases hok
  | ok s =>
    rw [hgate] at hok
    obtain ⟨hds, hf⟩ := of_decide_eq_true hok
    simp only [Option.map_none, hgate] at hcalls hcommand
    exact ⟨s, hds, hf, rfl, hcalls, hcommand, (hsettings rfl).trans hgate⟩

section Given

variable [CharacterNames]

/-- What has been built is built from what the text holds. -/
theorem eq_of_sieveUnder {s : Strategy} {t : Text} {sieve : Sieve}
    (h : sieveUnder s (some t) = .ok sieve) :
    sieve = ({ directives := Spec.directivesOf t, filter := Spec.filterOf? s.name t } :
      Builder).build := by
  dsimp only [sieveUnder] at h
  cases hp : (Spec.parse (.text s.name) t).run.value with
  | error fault =>
    rw [hp] at h
    cases h
  | ok spec =>
    rw [hp] at h
    rw [← Except.ok.inj h, Spec.eq_of_parse_eq_ok hp]

/-- A filter shows the strategy it was read under. -/
theorem strategy_of_mem_filterOf? {s : Strategy} {t : Text} {f : Filter}
    (h : f ∈ Spec.filterOf? s.name t) : f.strategy = s := by
  obtain ⟨p, _, hmake⟩ := Option.bind_eq_some_iff.mp h
  cases hb : Filter.buildNamed (.text s.name) p with
  | error fault =>
    rw [hb] at hmake
    cases hmake
  | ok g =>
    rw [hb] at hmake
    cases hmake
    rw [Filter.buildNamed_name] at hb
    exact (Filter.pattern_of_build hb).2

/-- A filter text is a plain filter under the plain strategy. -/
theorem sieveUnder_substring {t p : Text} (h : Spec.filterText? t = some p) :
    sieveUnder .substring (some t) =
      .ok ({ directives := Spec.directivesOf t
             filter := some (.substring p) } : Builder).build := by
  have hcountable : ¬ Spec.Uncountable Strategy.substring.name t := by
    rintro ⟨hname, _⟩
    exact absurd hname (by decide)
  have hfilter : Spec.filterOf? Strategy.substring.name t = some (.substring p) := by
    rw [Spec.filterOf?, h, Option.bind_some, Filter.buildNamed_name]
    rfl
  rw [sieveUnder, Spec.parse_run_of_not_uncountable hcountable, hfilter]
  rfl

/-- The strategy makes no difference to a specification exactly when there is no filter text. -/
theorem sieveUnder_regex_eq_iff (s : Strategy) (t : Text) :
    sieveUnder .regex (some t) = sieveUnder s (some t) ↔
      s = .regex ∨ Spec.filterText? t = none := by
  constructor
  · intro h
    cases s with
    | regex => exact .inl rfl
    | substring =>
      refine .inr (Option.eq_none_iff_forall_ne_some.mpr fun p hp => ?_)
      rw [sieveUnder_substring hp] at h
      have hfilter : some (.substring p) = Spec.filterOf? Strategy.regex.name t :=
        congrArg Sieve.filter (eq_of_sieveUnder h)
      cases strategy_of_mem_filterOf? hfilter.symm
  · rintro (rfl | hnone)
    · rfl
    · dsimp only [sieveUnder]
      rw [Spec.parse_run, Spec.parse_run, hnone]

/-- Faults of filters are not those of searches, so sieves that are the same, or both missing, rest
on a strategy that has been found. -/
theorem mapError_filter_eq_sieveFrom_iff (s : Strategy)
    (strategy : Except FileTree.SearchFault Strategy) (t : Text) :
    (sieveUnder s (some t)).mapError .filter = sieveFrom strategy (.ok (some t)) ↔
      ∃ s', strategy = .ok s' ∧ sieveUnder s (some t) = sieveUnder s' (some t) := by
  cases strategy with
  | error fault =>
    have hne : (sieveUnder s (some t)).mapError SettingsFault.filter ≠ .error (.search fault) := by
      cases sieveUnder s (some t) with
      | ok sieve => exact nofun
      | error fault' => exact nofun
    exact ⟨fun h => absurd h hne, nofun⟩
  | ok s' =>
    show (sieveUnder s (some t)).mapError SettingsFault.filter =
      (sieveUnder s' (some t)).mapError SettingsFault.filter ↔ _
    rw [mapError_inj fun _ _ h => SettingsFault.filter.inj h]
    constructor
    · exact fun h => ⟨s', rfl, h⟩
    · rintro ⟨_, hs, h⟩
      cases hs
      exact h

/-- **A gate reads a specification that it is given as regular expressions have it, unless it is
given a strategy.** It comes to what a command comes to that is told so, and not to what a command
comes to that is told nothing: this one takes the strategy of the settings, and fails where the
search for them does. The sieves or faults are the same exactly when the settings choose a strategy,
and it is that of regular expressions or there is no filter text. The directives are the same in any
case, where there are sieves. -/
theorem gate_agrees_iff (w : World) (t : Text) (variableName : Option Text) :
    let gate := (sieveOfGate w (some t) variableName none).run.value.mapError
      CommandLine.CommandFault.settings
    let command := fun strategy : Option Strategy =>
      (CommandLine.sieveOf w false
        { spec := some (.text t), strategy := strategy.map Strategy.name }).run.value.map Prod.fst
    gate = command (some .regex) ∧
      (∀ s, w.strategy = .ok s → command none = command (some s)) ∧
      (∀ fault, w.strategy = .error fault → command none = .error (.settings (.search fault))) ∧
      (gate = command none ↔
        ∃ s, w.strategy = .ok s ∧ (s = .regex ∨ Spec.filterText? t = none)) ∧
      ∀ s s', gate = .ok s → command none = .ok s' → s.directives = s'.directives := by
  intro gate command
  have hgate : gate = ((sieveUnder .regex (some t)).mapError .filter).mapError .settings :=
    congrArg (Except.mapError _) (value_sieveOfGate w (some t) variableName none)
  have hcommand : ∀ s, command s =
      (sieveFrom (w.strategyOr s) (.ok (some t))).mapError .settings :=
    fun s => CommandLine.map_fst_sieveOf rfl rfl fun _ _ _ h => nomatch h
  have hnone : command none = (sieveFrom w.strategy (.ok (some t))).mapError .settings :=
    hcommand none
  refine ⟨?_, ?_, ?_, ?_, ?_⟩
  · rw [hgate, hcommand]
    rfl
  · intro s hs
    rw [hnone, hcommand, hs]
    rfl
  · intro fault hs
    rw [hnone, hs]
    rfl
  · rw [hgate, hnone, mapError_inj fun _ _ h => CommandLine.CommandFault.settings.inj h,
      mapError_filter_eq_sieveFrom_iff]
    exact exists_congr fun s => and_congr_right fun _ => sieveUnder_regex_eq_iff s t
  · intro s s' hs hs'
    rw [hgate] at hs
    rw [hnone] at hs'
    have hbuilt := eq_of_sieveUnder (eq_ok_of_mapError (eq_ok_of_mapError hs))
    have hbuilt' := eq_ok_of_mapError hs'
    cases hw : w.strategy with
    | error fault =>
      rw [hw] at hbuilt'
      cases hbuilt'
    | ok strategy =>
      rw [hw] at hbuilt'
      rw [hbuilt, eq_of_sieveUnder (eq_ok_of_mapError hbuilt')]
      rfl

end Given

/-- **A plain strategy in the settings.** A gate that is given a specification makes an expression
of the filter text where a command makes a plain filter of it. -/
theorem not_gate_agrees_of_substring :
    let w : World := { environment := [("ENVLOG_STRATEGY", "substring")] }
    w.strategy = .ok .substring ∧ ∃ s s',
      (sieveOfGate w (some "info/a.c") (some "ENVLOG") none).run.value = .ok s ∧
      (CommandLine.sieveOf w false { spec := some (.text "info/a.c") }).run.value = .ok (s', true) ∧
      s.filter.map Filter.strategy = some .regex ∧
      s'.filter.map Filter.strategy = some .substring := by
  intro w
  have hgate : (match (sieveOfGate w (some "info/a.c") (some "ENVLOG") none).run.value with
      | .ok s => decide (s.filter.map Filter.strategy = some .regex)
      | .error _ => false) = true := by decide +kernel
  have hcommand : (match
        (CommandLine.sieveOf w false { spec := some (.text "info/a.c") }).run.value with
      | .ok done => done.2 && decide (done.1.filter.map Filter.strategy = some .substring)
      | .error _ => false) = true := by decide +kernel
  refine ⟨rfl, ?_⟩
  split at hgate
  · rename_i s hs
    split at hcommand
    · rename_i done hs'
      obtain ⟨s', found⟩ := done
      obtain ⟨hfound, h'⟩ := Bool.and_eq_true_iff.mp hcommand
      dsimp only at hfound
      subst hfound
      exact ⟨s, s', hs, hs', of_decide_eq_true hgate, of_decide_eq_true h'⟩
    · cases hcommand
  · cases hgate

end Builder

end LogSieve
