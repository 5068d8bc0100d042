import LogSieve.Proofs.Governing
import LogSieve.Proofs.Reading
import LogSieve.Settings

/-!
# What a builder has been through

A builder is asked for one thing after the other. Each call adds certain directives behind those
that are there, which depend on the call alone; a whole history adds those of its calls, in order,
and from these alone it follows what a sieve that is then built does with levels and modules.

* `call`, `calls`: one call and a history of calls, which ends where one fails;
* `Call.directives`: what a call adds;
* `directives_call`, `directives_calls`: one step, and by induction all of them;
* `sieve_of_calls`: the levels of the sieve in terms of the calls;
* `map_build_calls_of_gate`, `calls_of_sieveOfGate`: the sieve of a gate has such a history.
-/

namespace LogSieve

/-! ## 1. Histories -/

namespace Builder

/-- What a builder is asked for. -/
inductive Call where
  | add (module : Option Text) (level : Level)
  | addNamed (module : Option Text) (level : Value)
  | choose (name : Value)
  | parse (t : Text)
  | takeSettings (w : World) (variableName start : Option Text)

/-- Why a call fails. -/
inductive CallFault where
  | level (fault : Level.Fault)
  | settings (fault : SettingsFault)
  deriving DecidableEq, Repr

/-- The directives that a call adds, if it does not fail. -/
def Call.directives : Call → List Directive
  | add module level => [⟨module, level⟩]
  | addNamed module level =>
    match Level.ofValue level with
    | .ok l => [⟨module, l⟩]
    | .error _ => []
  | choose _ => []
  | parse t => Spec.directivesOf t
  | takeSettings w variableName start =>
    match (w.specText none variableName start).value with
    | none => []
    | some t => Spec.directivesOf t

section Calls

variable [CharacterNames]

/-- One call. -/
def call (b : Builder) : Call → ExceptT CallFault Reported Builder
  | .add module level => return b.add module level
  | .addNamed module level =>
    match b.addNamed module level with
    | .ok b => return b
    | .error fault => throw (.level fault)
  | .choose name => b.choose name
  | .parse t => (b.parse t).adapt fun fault => .settings (.filter fault)
  | .takeSettings w variableName start => do
    let (b, fault) ← b.takeSettings w variableName start
    match fault with
    | none => return b
    | some fault => throw (.settings fault)

/-- Calls one after the other, up to the first that fails. -/
def calls (b : Builder) (cs : List Call) : ExceptT CallFault Reported Builder := cs.foldlM call b

/-- The builder with the directives of a specification behind its own, and the filter of it. -/
def taking (b : Builder) (spec : Spec) : Builder :=
  { b with directives := b.directives ++ spec.directives, filter := spec.filter }

/-- Reading a specification says what there is to say about it, and takes what it holds. -/
theorem run_parse (b : Builder) (t : Text) :
    (b.parse t).run =
      ⟨(Spec.parse (.text b.currentStrategy.name) t).run.notices,
        (Spec.parse (.text b.currentStrategy.name) t).run.value.map b.taking⟩ := by
  rw [parse, Reported.run_bind]
  cases (Spec.parse (.text b.currentStrategy.name) t).run.value with
  | ok spec => exact congrArg (Reported.mk · _) (List.append_nil _)
  | error fault => rfl

/-- Reading adds the directives of the specification and takes over its filter. -/
theorem value_parse_iff (b : Builder) (t : Text) (b' : Builder) :
    (b.parse t).run.value = .ok b' ↔
      ∃ spec, (Spec.parse (.text b.currentStrategy.name) t).run.value = .ok spec ∧
        b' = { b with directives := b.directives ++ spec.directives, filter := spec.filter } := by
  rw [parse, Reported.value_run_bind_eq_ok_iff]
  refine exists_congr fun spec => and_congr_right fun _ => ?_
  constructor
  · intro h
    exact (Except.ok.inj h).symm
  · rintro rfl
    rfl

/-- Reading fails as a call when it fails by itself. -/
theorem value_call_parse_iff (b : Builder) (t : Text) (b' : Builder) :
    (b.call (.parse t)).run.value = .ok b' ↔ (b.parse t).run.value = .ok b' := by
  rw [call, Reported.run_adapt]
  cases (b.parse t).run.value with
  | ok read =>
    constructor
    · intro h
      cases h
      rfl
    · intro h
      cases h
      rfl
  | error fault => exact ⟨nofun, nofun⟩

theorem value_call_takeSettings_iff (b : Builder) (w : World) (variableName start : Option Text)
    (b' : Builder) :
    (b.call (.takeSettings w variableName start)).run.value = .ok b' ↔
      (b.takeSettings w variableName start).value = (b', none) := by
  rw [call, Reported.run_bind, Reported.run_lift]
  rcases (b.takeSettings w variableName start).value with ⟨left, _ | fault⟩
  · constructor
    · intro h
      cases h
      rfl
    · intro h
      cases h
      rfl
  · exact ⟨nofun, nofun⟩

theorem value_calls_singleton_iff (b : Builder) (c : Call) (b' : Builder) :
    (b.calls [c]).run.value = .ok b' ↔ (b.call c).run.value = .ok b' := by
  rw [calls, List.foldlM_cons, Reported.value_run_bind_eq_ok_iff]
  constructor
  · rintro ⟨a, ha, hb⟩
    cases hb
    exact ha
  · exact fun h => ⟨b', h, rfl⟩

/-- A history goes on where the first part of it has ended. -/
theorem value_calls_append_iff (b : Builder) (cs cs' : List Call) (b' : Builder) :
    (b.calls (cs ++ cs')).run.value = .ok b' ↔
      ∃ between, (b.calls cs).run.value = .ok between ∧ (between.calls cs').run.value = .ok b' := by
  rw [calls, List.foldlM_append]
  exact Reported.value_run_bind_eq_ok_iff _ _ _

theorem value_call_choose (b : Builder) (name : Value) :
    (b.call (.choose name)).run.value = .ok (b.choose name).value := by
  rw [call, Reported.run_lift]

end Calls

/-! ## 2. What calls add -/

section Adding

variable {b b' : Builder}

theorem directives_choose (b : Builder) (name : Value) :
    (b.choose name).value.directives = b.directives := by
  unfold choose
  cases Strategy.ofValue? name with
  | none => rfl
  | some s => rfl

theorem directives_addNamed {module : Option Text} {level : Value}
    (h : b.addNamed module level = .ok b') :
    b'.directives = b.directives ++ (Call.addNamed module level).directives := by
  unfold addNamed at h
  dsimp only [Call.directives]
  cases hl : Level.ofValue level with
  | error fault =>
    rw [hl] at h
    cases h
  | ok l =>
    rw [hl] at h
    rw [← Except.ok.inj h]
    rfl

variable [CharacterNames]

/-- Reading a specification adds its directives, whatever strategy is chosen. -/
theorem directives_parse {t : Text} (h : (b.parse t).run.value = .ok b') :
    b'.directives = b.directives ++ Spec.directivesOf t := by
  obtain ⟨spec, hs, rfl⟩ := (value_parse_iff _ _ _).mp h
  rw [Spec.eq_of_parse_eq_ok hs]

/-- Settings add the directives of their specification when they are taken, and none when they are
not, even if their strategy has been chosen by then. -/
theorem directives_takeSettings (b : Builder) (w : World) (variableName start : Option Text) :
    (b.takeSettings w variableName start).value.1.directives =
      b.directives ++
        if (b.takeSettings w variableName start).value.2.isNone then
          (Call.takeSettings w variableName start).directives
        else [] := by
  unfold takeSettings
  rw [Reported.value_bind]
  cases (w.findStrategy (b.strategy.map Strategy.name) (some World.strategyVariable)
    start).run.value with
  | error fault => exact (List.append_nil _).symm
  | ok name =>
    have hchosen := directives_choose b (.text name)
    dsimp only
    rw [Reported.value_bind, Reported.value_bind, ← hchosen]
    rcases w.value_findSpec none variableName start with ⟨fault, -, hfound⟩ | hfound
    · rw [hfound]
      exact (List.append_nil _).symm
    · rw [hfound]
      dsimp only [Call.directives]
      cases (w.specText none variableName start).value with
      | none => exact (List.append_nil _).symm
      | some t =>
        dsimp only
        rw [Reported.value_bind]
        cases hread : ((b.choose (.text name)).value.parse t).run.value with
        | ok read => exact directives_parse hread
        | error fault => exact (List.append_nil _).symm

/-- One call adds what it stands for behind what is there. -/
theorem directives_call {c : Call} (h : (b.call c).run.value = .ok b') :
    b'.directives = b.directives ++ c.directives := by
  cases c with
  | add module level =>
    cases h
    rfl
  | addNamed module level =>
    dsimp only [call] at h
    split at h
    · rename_i added ha
      cases h
      exact directives_addNamed ha
    · cases h
  | choose name =>
    rw [value_call_choose] at h
    cases h
    exact (directives_choose b name).trans (List.append_nil _).symm
  | parse t => exact directives_parse ((value_call_parse_iff _ _ _).mp h)
  | takeSettings w variableName start =>
    have htaken := directives_takeSettings b w variableName start
    rw [(value_call_takeSettings_iff _ _ _ _ _).mp h] at htaken
    exact htaken

/-- A history adds what its calls stand for, in their order. -/
theorem directives_calls {cs : List Call} (h : (b.calls cs).run.value = .ok b') :
    b'.directives = b.directives ++ cs.flatMap Call.directives := by
  induction cs generalizing b with
  | nil =>
    cases h
    exact (List.append_nil _).symm
  | cons c rest ih =>
    rw [calls, List.foldlM_cons] at h
    obtain ⟨between, hc, hrest⟩ := (Reported.value_run_bind_eq_ok_iff _ _ _).mp h
    rw [ih hrest, directives_call hc, List.append_assoc, List.flatMap_cons]

end Adding

/-! ## 3. The sieve of a history -/

/-- **The longest prefix that applies governs, and of equally long ones the one added last.** This
holds of the directives in the order in which the calls added them, or of the one for errors if they
added none. No directive is found exactly when none applies, and a level passes when it is a level
of records within that of the directive that governs. -/
theorem sieve_of_calls [CharacterNames] {cs : List Call} {b : Builder}
    (h : (({} : Builder).calls cs).run.value = .ok b) (m : Text) (l : Level) :
    (∀ d, b.build.directiveFor m = some d ↔
        Governs (orErrorsOnly (cs.flatMap Call.directives)) m d) ∧
      (b.build.directiveFor m = none ↔
        ∀ d ∈ orErrorsOnly (cs.flatMap Call.directives), ¬ d.AppliesTo m) ∧
      (b.build.enables l m = true ↔
        ∃ d, Governs (orErrorsOnly (cs.flatMap Call.directives)) m d ∧
          Level.off < l ∧ l ≤ d.level) := by
  have hd : b.directives = cs.flatMap Call.directives := directives_calls h
  rw [← hd]
  exact ⟨b.directiveFor_build_iff m, b.directiveFor_build_eq_none_iff m, b.enables_build_iff l m⟩

attribute [local instance] CharacterNames.common

/-- **A prefix given twice, and an empty one besides none.** In both cases the later one governs. -/
theorem sieve_of_calls_with_ties :
    ∃ b, (({} : Builder).calls [.add none .info, .parse "app=trace,app=off/x",
        .addNamed (some []) (.text " WARN")]).run.value = .ok b ∧
      b.build.directiveFor "app.db" = some ⟨some "app", .off⟩ ∧
      b.build.directiveFor "web" = some ⟨some [], .warning⟩ ∧
      b.build.enables .warning "web" = true := by
  have hok : (({} : Builder).calls [.add none .info, .parse "app=trace,app=off/x",
      .addNamed (some []) (.text " WARN")]).run.value.isOk = true := by decide +kernel
  cases h : (({} : Builder).calls [.add none .info, .parse "app=trace,app=off/x",
      .addNamed (some []) (.text " WARN")]).run.value with
  | error fault =>
    rw [h] at hok
    cases hok
  | ok b =>
    refine ⟨b, rfl, ?_, ?_, ?_⟩
    · exact ((sieve_of_calls h "app.db" .error).1 _).mpr (by decide +kernel)
    · exact ((sieve_of_calls h "web" .warning).1 _).mpr (by decide +kernel)
    · exact (sieve_of_calls h "web" .warning).2.2.mpr
        ⟨⟨some [], .warning⟩, by decide +kernel, by decide, by decide⟩

/-! ## 4. The sieve of a gate -/

/-- The calls that a gate makes to choose a strategy, if it is given one. -/
def choiceOfGate (strategy : Option Value) : List Call := (strategy.map Call.choose).toList

/-- The call that brings the specification of a gate. -/
def readingOfGate (w : World) (spec variableName : Option Text) : Call :=
  match spec with
  | some t => .parse t
  | none => .takeSettings w variableName none

section Gates

variable [CharacterNames]

theorem calls_singleton (b : Builder) (c : Call) : b.calls [c] = b.call c := by
  rw [calls, List.foldlM_cons]
  exact bind_pure _

/-- A gate has its strategy chosen first, if it is given one. -/
theorem value_calls_choiceOfGate (strategy : Option Value) (c : Call) :
    (({} : Builder).calls (choiceOfGate strategy ++ [c])).run.value =
      ((ofStrategy strategy).value.call c).run.value := by
  cases strategy with
  | none =>
    show (({} : Builder).calls [c]).run.value = _
    rw [calls_singleton]
    rfl
  | some name =>
    show (({} : Builder).call (.choose name) >>= fun b => b.calls [c]).run.value = _
    rw [Reported.value_run_bind, value_call_choose]
    show ((({} : Builder).choose name).value.calls [c]).run.value = _
    rw [calls_singleton]
    rfl

/-- The sieve of a gate is what its builder builds after these calls, and a gate fails where one of
them does. -/
theorem map_build_calls_of_gate (w : World) (spec variableName : Option Text)
    (strategy : Option Value) :
    (({} : Builder).calls
        (choiceOfGate strategy ++ [readingOfGate w spec variableName])).run.value.map build =
      (sieveOfGate w spec variableName strategy).run.value.mapError .settings := by
  rw [value_calls_choiceOfGate, sieveOfGate, Reported.value_run_bind, Reported.run_lift]
  generalize (ofStrategy strategy).value = b
  show _ = (Reported.value (ExceptT.run (match spec with
    | some t => do return (← (b.parse t).adapt .filter).build
    | none => b.buildFromSettings w variableName))).mapError _
  cases spec with
  | some t =>
    dsimp only [readingOfGate, call]
    rw [Reported.value_run_bind, Reported.run_adapt, Reported.run_adapt]
    cases (b.parse t).run.value with
    | ok read => rfl
    | error fault => rfl
  | none =>
    dsimp only [readingOfGate, call]
    rw [value_buildFromSettings, Reported.value_run_bind, Reported.run_lift]
    rcases (b.takeSettings w variableName none).value with ⟨read, _ | fault⟩
    · rfl
    · rfl

end Gates

end Builder

end LogSieve
