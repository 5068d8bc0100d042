import LogSieve.CommandLine.Run
import LogSieve.Proofs.Agreeing
import LogSieve.Proofs.Unbuffered

/-!
# What the verdict on a record predicts

The command that judges a record does not log it. It goes through the levels and the filter by
itself and says what it finds; here this is held against the logger that the same sieve makes in
front of any drain.

* `Sieve.Forwards`, `Sieve.Drops`, `Sieve.DropsUnread`: what such a logger does with a record;
* `CommandLine.verdictUnder_eq`: the verdict, from what the sieve says of the record;
* `CommandLine.Predicts`: what a run has to show so that it can be relied on;
* `CommandLine.judge_predicts`: it does, whatever the world and the diagnostics are.
-/

namespace LogSieve

/-! ## 1. What a logger does with a record -/

namespace Sieve

/-- Whatever drain stands behind the sieve, it is given the record, once, and what comes of that is
what comes of logging. -/
def Forwards (s : Sieve) (r : Record) : Prop :=
  ∀ (σ : Type) (drain : Record → Action σ LogFault Value) (thread : Nat) (desks : Desks) (state : σ),
    desks.AreClear → Simulates ((s.logger drain).log thread r (desks, state)) (drain r state)

/-- Whatever drain stands behind the sieve, it is not asked, and logging is answered with nothing.
-/
def Drops (s : Sieve) (r : Record) : Prop :=
  ∀ (σ : Type) (drain : Record → Action σ LogFault Value) (thread : Nat) (desks : Desks) (state : σ),
    desks.AreClear → Simulates ((s.logger drain).log thread r (desks, state)) (.ok .none, state)

/-- The levels drop the record: so does every logger with these levels, however it makes and judges
texts, and without doing either. -/
def DropsUnread (s : Sieve) (r : Record) : Prop :=
  ∀ (σ ε : Type) (l : Logger σ ε) (thread : Nat) (desks : Desks) (state : σ),
    l.enables = s.enables → l.log thread r (desks, state) = (.ok .none, desks, state)

variable {s : Sieve} {r : Record}

/-- A drain that counts tells the two apart. -/
theorem not_drops_of_forwards (hf : s.Forwards r) : ¬ s.Drops r := by
  intro hd
  have hf := (hf Nat (fun _ n => (.ok .none, n + 1)) 0 {} 0 Desks.areClear_new).same
  have hd := (hd Nat (fun _ n => (.ok .none, n + 1)) 0 {} 0 Desks.areClear_new).same
  cases hf.symm.trans hd

/-- A record that passes is handed on, and one that does not is dropped. -/
theorem forwards_or_drops_of_passes {passed : Bool} (h : s.passes r = .ok passed) :
    (s.Forwards r ↔ passed = true) ∧ (s.Drops r ↔ passed = false) := by
  have hlog : ∀ (σ : Type) (drain : Record → Action σ LogFault Value) (thread : Nat) (desks : Desks)
      (state : σ), desks.AreClear → Simulates ((s.logger drain).log thread r (desks, state))
        (if passed then drain r state else (.ok .none, state)) := by
    intro σ drain thread desks state hc
    have hl := (s.logger drain).simulates_log hc thread r state
    rw [logUnbuffered_logger, h] at hl
    cases passed with
    | true => exact hl
    | false => exact hl
  cases passed with
  | true => exact ⟨iff_of_true hlog rfl, iff_of_false (not_drops_of_forwards hlog) nofun⟩
  | false =>
    exact ⟨iff_of_false (fun hf => not_drops_of_forwards hf hlog) nofun, iff_of_true hlog rfl⟩

/-- A logger without a filter that hands on what it gets tells whether the levels let it pass. -/
theorem dropsUnread_iff : s.DropsUnread r ↔ ¬ s.enables r.level r.module = true := by
  constructor
  · intro h he
    let l : Logger Nat Empty :=
      { render := fun _ n => (.ok [], n), filter := none, enables := s.enables
        drain := fun _ n => (.ok .none, n + 1) }
    have hlog : l.log 0 r ({}, 0) = (.ok .none, {}, 1) := if_pos he
    cases hlog.symm.trans (h Nat Empty l 0 {} 0 rfl)
  · intro h σ ε l thread desks state hl
    rw [← hl] at h
    exact if_neg h

end Sieve

/-! ## 2. The verdicts -/

namespace CommandLine

/-- The line about the directive that governs. -/
def governingLine (d : Option Directive) : Text :=
  Report.item "directive" ((d.map Directive.text).getD "(none)")

/-- The line about a record that the levels drop. -/
def levelDropLine (l : Level) (module : Value) : Text :=
  Report.drop (l.name ++ " is above the level allowed for " ++ module.quoted)

/-- The line about a record that the filter drops. -/
def contentDropLine (f : Filter) : Text :=
  Report.drop ("message does not match " ++ Text.quoted f.pattern)

/-- The line about a record that is handed on. -/
def forwardedLine (l : Level) (module : Value) : Text :=
  Report.ok (l.name ++ " record from " ++ module.quoted ++ " is forwarded")

/-- The verdict on a record from a module that a directive governs. -/
def verdictUnder (d : Option Directive) (filter : Option Filter) (l : Level) (module : Value)
    (message : Text) : Verdict :=
  if l ≤ (d.map Directive.level).getD .off then
    match filter.filter fun f => !f.admits message with
    | some f => ⟨1, [governingLine d, contentDropLine f]⟩
    | none => ⟨0, [governingLine d, forwardedLine l module]⟩
  else ⟨1, [governingLine d, levelDropLine l module]⟩

section Verdicts

variable {s : Sieve} {l : Level} {d : Option Directive} {module : Value}

/-- The record that a command judges, when its module is a text. -/
def recordOf (l : Level) (m message : Text) : Record :=
  { level := l, module := m, msg := .text message }

/-- What a filter has to judge is the message itself. -/
theorem admits_recordOf (s : Sieve) (l : Level) (m message : Text) :
    s.admits (recordOf l m message) =
      .ok (s.filter.filter fun f => !f.admits message).isNone := by
  rw [Sieve.admits]
  cases s.filter with
  | none => rfl
  | some f =>
    have hadmits : (recordOf l m message).render.map f.admits = .ok (f.admits message) := rfl
    dsimp only
    rw [hadmits, Option.filter_some]
    cases f.admits message with
    | true => rfl
    | false => rfl

/-- Once it is known which directive governs, there is a verdict. -/
theorem judgeWith_of_governing (h : governing s module = .ok d) (l : Level) (message : Text) :
    judgeWith s l module message = .ok (verdictUnder d s.filter l module message) := by
  unfold judgeWith verdictUnder
  rw [h]
  dsimp only [bind, Except.bind]
  by_cases hle : l ≤ (d.map Directive.level).getD .off
  · have hadmits := admits_recordOf s l module.display message
    rw [recordOf] at hadmits
    rw [if_pos hle, decide_eq_true hle, if_neg (by decide), hadmits]
    cases s.filter with
    | none => rfl
    | some f =>
      rw [Option.filter_some]
      cases f.admits message with
      | true => rfl
      | false => rfl
  · rw [if_neg hle, decide_eq_false hle]
    rfl

/-- The level of the governing directive decides as the sieve does, and none counts as off. -/
theorem le_allowed_iff (s : Sieve) (hl : l ≠ .off) (m : Text) :
    l ≤ ((s.directiveFor m).map Directive.level).getD .off ↔ s.enables l m = true := by
  have h0 : Level.off < l := Level.off_lt_iff.mpr hl
  rw [Sieve.enables_iff]
  cases s.directiveFor m with
  | none =>
    constructor
    · intro h
      exact absurd (Nat.lt_of_lt_of_le h0 h) (Nat.lt_irrefl _)
    · rintro ⟨d, hd, _⟩
      cases hd
  | some d =>
    constructor
    · exact fun h => ⟨d, rfl, h0, h⟩
    · rintro ⟨e, he, _, hle⟩
      cases he
      exact hle

/-- What the levels let pass is up to the filter. -/
theorem passes_recordOf {m : Text} (h : s.enables l m = true) (message : Text) :
    s.passes (recordOf l m message) =
      .ok (s.filter.filter fun f => !f.admits message).isNone := by
  rw [Sieve.passes, if_pos (show s.enables (recordOf l m message).level
    (recordOf l m message).module = true from h), admits_recordOf]

/-- The line about a record that the levels drop is no other one. -/
theorem levelDropLine_ne (l : Level) (module : Value) (f : Filter) :
    levelDropLine l module ≠ contentDropLine f := by
  intro h
  have hletter := congrArg (fun line : Text => (line.drop 9).head?) h
  cases l <;> cases hletter

/-- The line about a record that is handed on is no other one. -/
theorem forwardedLine_ne (l : Level) (module : Value) (about : Text) :
    forwardedLine l module ≠ Report.drop about := by
  intro h
  cases congrArg (fun line : Text => (line.drop 3).head?) h

/-- The verdict on a record says whether it passes, and its line says why. -/
theorem verdictUnder_eq (s : Sieve) (hl : l ≠ .off) (m message : Text) :
    ∃ passed line, s.passes (recordOf l m message) = .ok passed ∧
      verdictUnder (s.directiveFor m) s.filter l (.text m) message =
        ⟨if passed then 0 else 1, [governingLine (s.directiveFor m), line]⟩ ∧
      (line = levelDropLine l (.text m) ↔ ¬ s.enables l m = true) ∧
      ((∃ f ∈ s.filter, line = contentDropLine f) ↔ s.enables l m = true ∧ passed = false) ∧
      (line = forwardedLine l (.text m) ↔ passed = true) := by
  have hlevel := levelDropLine_ne l (.text m)
  have hforwarded := forwardedLine_ne l (.text m)
  unfold verdictUnder
  by_cases he : s.enables l m = true
  · rw [if_pos ((le_allowed_iff s hl m).mpr he), passes_recordOf he]
    cases hf : s.filter.filter fun f => !f.admits message with
    | none =>
      refine ⟨true, forwardedLine l (.text m), rfl, rfl, ?_, ?_, iff_of_true rfl rfl⟩
      · exact iff_of_false (hforwarded _) (not_not_intro he)
      · exact iff_of_false (fun ⟨f, _, h⟩ => hforwarded _ h) (fun h => nomatch h.2)
    | some f =>
      have hmem : f ∈ s.filter := (Option.filter_eq_some_iff.mp hf).1
      refine ⟨false, contentDropLine f, rfl, rfl, ?_, ?_, ?_⟩
      · exact iff_of_false (fun h => hlevel f h.symm) (not_not_intro he)
      · exact iff_of_true ⟨f, hmem, rfl⟩ ⟨he, rfl⟩
      · exact iff_of_false (fun h => hforwarded _ h.symm) nofun
  · rw [if_neg (mt (le_allowed_iff s hl m).mp he)]
    have hp : s.passes (recordOf l m message) = .ok false := if_neg he
    refine ⟨false, levelDropLine l (.text m), hp, rfl, iff_of_true rfl he, ?_, ?_⟩
    · exact iff_of_false (fun ⟨f, _, h⟩ => hlevel f h) (fun h => he h.1)
    · exact iff_of_false (fun h => hforwarded _ h.symm) nofun

end Verdicts

/-! ## 3. Runs -/

section Runs

variable {w : World} {d : Diagnostics} {source : Source} {level module : Value} {message : Text}
  {l : Level} {s : Sieve} {found : Bool}

/-- A command that comes to its end leaves its status, and its lines where results are shown. -/
theorem runCommand_eq {work : Working Verdict} {v : Verdict} (h : work.run.value = .ok v) :
    (runCommand d work).outcome = .ok v.status ∧
      (runCommand d work).out = if d.showsResults then linesText v.lines else [] := by
  dsimp only [runCommand]
  rw [h]
  exact ⟨rfl, rfl⟩

theorem value_judge [CharacterNames] (hlevel : Level.ofValue level = .ok l) (hl : l ≠ .off)
    (hs : (sieveOf w false source).run.value = .ok (s, found)) :
    (judge w false source level module message).run.value = judgeWith s l module message := by
  unfold judge
  rw [hlevel]
  split
  · rename_i h
    cases h
  · rename_i h
    exact absurd (Except.ok.inj h) hl
  · rename_i h
    rw [← Except.ok.inj h, Reported.run_bind, hs]
    rfl

/-- What is no level of a record is refused before anything is looked up. -/
theorem outcome_judge_of_off [CharacterNames] (h : ∀ l, Level.ofValue level = .ok l → l = .off) :
    (runRequest w d false (.judge source level module message)).outcome = .ok 2 := by
  have hv : (judge w false source level module message).run.value = .ok { status := 2 } := by
    cases hlevel : Level.ofValue level with
    | error fault =>
      unfold judge
      rw [hlevel]
      rfl
    | ok l =>
      rw [h l hlevel] at hlevel
      exact judge_status_off w false source hlevel module message
  exact (runCommand_eq hv).1

/-- The directives of the specification that a command finds, in their order. -/
def directivesFor (w : World) (source : Source) : List Directive :=
  Builder.orErrorsOnly (match foundSpec w source with
    | .ok (some (.text t)) => Spec.directivesOf t
    | _ => [])

/-- The sieve of a command is built from these. -/
theorem exists_build_of_sieveOf [CharacterNames]
    (hs : (sieveOf w false source).run.value = .ok (s, found)) :
    ∃ b : Builder, s = b.build ∧ Builder.orErrorsOnly b.directives = directivesFor w source := by
  rw [value_sieveOf] at hs
  unfold directivesFor
  cases hspec : foundSpec w source with
  | error fault =>
    rw [hspec] at hs
    cases hs
  | ok spec =>
    rw [hspec] at hs
    cases hname : foundStrategy w source with
    | error fault =>
      rw [hname] at hs
      cases hs
    | ok name =>
      rw [hname] at hs
      have hnew : (({} : Builder).choose (.text name)).value.directives = [] :=
        Builder.directives_choose {} _
      change (buildFrom _ spec).run.value = _ at hs
      generalize (({} : Builder).choose (.text name)).value = b at hs hnew
      unfold buildFrom at hs
      split at hs
      · cases hs
        exact ⟨b, rfl, congrArg _ hnew⟩
      · rename_i t
        rw [Reported.value_run_bind, Reported.run_adapt] at hs
        cases hread : (b.parse t).run.value with
        | error fault =>
          rw [hread] at hs
          cases hs
        | ok read =>
          rw [hread] at hs
          cases hs
          refine ⟨read, rfl, congrArg _ ?_⟩
          rw [Builder.directives_parse hread, hnew, List.nil_append]
      · cases hs

end Runs

/-! ## 4. Predictions -/

/-- What a run says can be relied on for the logger of a sieve that has been made from directives.
-/
structure Predicts (run : Run) (shown : Bool) (s : Sieve) (ds : List Directive) (l : Level)
    (m message : Text) : Prop where
  forwards : run.outcome = .ok 0 ↔ s.Forwards (recordOf l m message)
  drops : run.outcome = .ok 1 ↔ s.Drops (recordOf l m message)
  /-- Where anything is shown, it is a line about a directive and one about the record. The
  directive is the one that governs; of the other line it depends on the record which one it is. -/
  report : ∃ governing line, run.out = (if shown then
        linesText [Report.item "directive" governing, line] else []) ∧
      ((∃ d, Governs ds m d ∧ governing = d.text) ∨
        (∀ d ∈ ds, ¬ d.AppliesTo m) ∧ governing = "(none)") ∧
      (line = levelDropLine l (.text m) ↔ s.DropsUnread (recordOf l m message)) ∧
      ((∃ f ∈ s.filter, line = contentDropLine f) ↔
        s.enables l m = true ∧ s.Drops (recordOf l m message)) ∧
      (line = forwardedLine l (.text m) ↔ s.Forwards (recordOf l m message))

section Predictions

variable {w : World} {d : Diagnostics} {source : Source} {level module : Value} {message : Text}
  {l : Level} {s : Sieve} {found : Bool}

/-- The line about the directive that governs among the ones that have been added. -/
theorem governingLine_build (b : Builder) (m : Text) :
    ∃ governing, governingLine (b.build.directiveFor m) = Report.item "directive" governing ∧
      ((∃ d, Governs (Builder.orErrorsOnly b.directives) m d ∧ governing = d.text) ∨
        (∀ d ∈ Builder.orErrorsOnly b.directives, ¬ d.AppliesTo m) ∧ governing = "(none)") := by
  cases hd : b.build.directiveFor m with
  | none => exact ⟨_, rfl, .inr ⟨(b.directiveFor_build_eq_none_iff m).mp hd, rfl⟩⟩
  | some d => exact ⟨_, rfl, .inl ⟨d, (b.directiveFor_build_iff m d).mp hd, rfl⟩⟩

/-- A run that leaves the verdict under the governing directive predicts what is logged. -/
theorem predicts_of_verdict {run : Run} {shown : Bool} (b : Builder) (hl : l ≠ .off) (m : Text)
    {v : Verdict}
    (hv : v = verdictUnder (b.build.directiveFor m) b.build.filter l (.text m) message)
    (hstatus : run.outcome = .ok v.status)
    (hout : run.out = if shown then linesText v.lines else []) :
    Predicts run shown b.build (Builder.orErrorsOnly b.directives) l m message := by
  obtain ⟨governing, hgoverning, hgoverns⟩ := governingLine_build b m
  obtain ⟨passed, line, hp, hverdict, hlevel, hcontent, hforwarded⟩ :=
    verdictUnder_eq b.build hl m message
  obtain ⟨hforwards, hdrops⟩ := Sieve.forwards_or_drops_of_passes hp
  rw [hgoverning] at hverdict
  rw [hv, hverdict] at hstatus hout
  refine ⟨?_, ?_, governing, line, hout, hgoverns, ?_, ?_, ?_⟩
  · rw [hforwards, hstatus]
    cases passed <;> simp
  · rw [hdrops, hstatus]
    cases passed <;> simp
  · rw [hlevel, Sieve.dropsUnread_iff]
    rfl
  · rw [hcontent, hdrops]
  · rw [hforwarded, hforwards]

/-- Where no text stands in the place of a module, it is up to the directive that is asked first
whether anything is compared with it. -/
theorem governing_of_not_text {g : Directive} (hm : ∀ m, module ≠ .text m)
    (hg : s.directives.getLast? = some g) :
    governing s module =
      if g.module.isSome then .error (.noText "startswith") else .ok (some g) := by
  unfold governing
  rw [hg]
  cases module with
  | text m => exact absurd rfl (hm m)
  | _ => rfl

/-- A directive for every module governs when it is asked first. -/
theorem directiveFor_of_getLast? {g : Directive} (hg : s.directives.getLast? = some g)
    (hnone : g.module = none) (m : Text) : s.directiveFor m = some g := by
  have hcovers : g.covers m = true := by
    rw [Directive.covers, Directive.stem, hnone]
    rfl
  obtain ⟨front, hfront⟩ := List.getLast?_eq_some_iff.mp hg
  rw [Sieve.directiveFor, hfront, List.reverse_append]
  exact List.find?_cons_of_pos hcovers

/-- The status of a verdict does not depend on how the module is written. -/
theorem status_verdictUnder (g : Option Directive) (f : Option Filter) (l : Level)
    (module module' : Value) (message : Text) :
    (verdictUnder g f l module message).status = (verdictUnder g f l module' message).status := by
  unfold verdictUnder
  split
  · split <;> rfl
  · rfl

/-- **The verdict on a record can be relied on.** Whatever the world and the diagnostics are, and
whatever is asked: when the level is one of records and there is a sieve, the status is 0 exactly
when the logger of the sieve hands the record on, and 1 exactly when it drops it; the directive
shown is the one with the longest prefix that applies, and of these the one added last; a drop by
the levels is shown exactly when nothing is read of the record, and a drop by the filter exactly
when the levels let it pass. Where something else than a text stands in the place of the module, the
run ends in the fault of the first comparison, if there is one, and else as for all texts in that
place. A level that is none, or that is off, makes the status 2, whatever else is asked. -/
theorem judge_predicts [CharacterNames] (w : World) (d : Diagnostics) (source : Source)
    (level module : Value) (message : Text) :
    let run := fun module => runRequest w d false (.judge source level module message)
    (∀ l s found, Level.ofValue level = .ok l → l ≠ .off →
      (sieveOf w false source).run.value = .ok (s, found) →
      (∀ m, module = .text m →
        Predicts (run module) d.showsResults s (directivesFor w source) l m message) ∧
      ((∀ m, module ≠ .text m) → ∃ g, s.directives.getLast? = some g ∧
        if g.module.isSome then (run module).outcome = .error (.noText "startswith")
        else ∀ m, (run module).outcome = (run (.text m)).outcome)) ∧
    ((∀ l, Level.ofValue level = .ok l → l = .off) → (run module).outcome = .ok 2) := by
  intro run
  refine ⟨?_, outcome_judge_of_off⟩
  intro l s found hlevel hl hs
  obtain ⟨b, rfl, hds⟩ := exists_build_of_sieveOf hs
  have hrun : ∀ module g, governing b.build module = .ok g →
      (judge w false source level module message).run.value =
        .ok (verdictUnder g b.build.filter l module message) := by
    intro module g hg
    rw [value_judge hlevel hl hs, judgeWith_of_governing hg]
  constructor
  · rintro m rfl
    obtain ⟨hstatus, hout⟩ := runCommand_eq (d := d) (hrun (.text m) _ rfl)
    rw [← hds]
    exact predicts_of_verdict b hl m rfl hstatus hout
  · intro hm
    have hg := List.getLast?_eq_some_getLast b.build_ne_nil
    generalize b.build.directives.getLast b.build_ne_nil = g at hg
    have hgoverning := governing_of_not_text hm hg
    refine ⟨g, hg, ?_⟩
    split
    · rename_i hsome
      have hfault : (judge w false source level module message).run.value =
          .error (.noText "startswith") := by
        rw [value_judge hlevel hl hs, judgeWith, hgoverning, if_pos hsome]
        rfl
      dsimp only [run, runRequest, runCommand]
      rw [hfault]
    · rename_i hnone
      rw [if_neg hnone] at hgoverning
      intro m
      have hgm : governing b.build (.text m) = .ok (some g) :=
        congrArg Except.ok (directiveFor_of_getLast? hg (Option.not_isSome_iff_eq_none.mp hnone) m)
      refine (runCommand_eq (hrun _ _ hgoverning)).1.trans ?_
      rw [status_verdictUnder _ _ _ module (.text m)]
      exact (runCommand_eq (hrun _ _ hgm)).1.symm

attribute [local instance] CharacterNames.common

/-- **A plain word in the filter.** The first record passes; the second one comes from a module that
is switched off, and the text of the third one, which is empty, does not match. -/
theorem judge_predicts_slow :
    let source : Source := { spec := some (.text "info,app=debug,app.db=off/slow") }
    let run := fun level m message =>
      (runRequest {} {} false (.judge source (.text level) (.text m) message)).outcome
    ∃ s, (sieveOf {} false source).run.value = .ok (s, true) ∧
      run "4" "app.web" "slow query" = .ok 0 ∧
      s.Forwards (recordOf .debug "app.web" "slow query") ∧
      run "ERROR" "app.db" "slow" = .ok 1 ∧ s.Drops (recordOf .error "app.db" "slow") ∧
      run " info" "web" [] = .ok 1 ∧ s.Drops (recordOf .info "web" []) ∧
      run "0" "web" "slow" = .ok 2 := by
  intro source run
  have hok : (match (sieveOf {} false source).run.value with
      | .ok (_, found) => found
      | .error _ => false) = true := by decide +kernel
  have hstatus : ∀ {outcome : Except CommandFault Nat} {n : Nat}, outcome.toOption = some n →
      outcome = .ok n := by
    intro outcome n h
    cases outcome with
    | error fault => cases h
    | ok k => exact congrArg Except.ok (Option.some.inj h)
  have hfirst : run "4" "app.web" "slow query" = .ok 0 := hstatus (by decide +kernel)
  have hsecond : run "ERROR" "app.db" "slow" = .ok 1 := hstatus (by decide +kernel)
  have hthird : run " info" "web" [] = .ok 1 := hstatus (by decide +kernel)
  split at hok
  · rename_i s found hs
    subst hok
    have hpredicts : ∀ level l m message, Level.ofValue (.text level) = .ok l → l ≠ .off →
        Predicts (runRequest {} {} false (.judge source (.text level) (.text m) message)) true s
          (directivesFor {} source) l m message := fun level l m message hlevel hl =>
      ((judge_predicts {} {} source (.text level) (.text m) message).1 l s true hlevel hl hs).1 m rfl
    refine ⟨s, hs, hfirst, ?_, hsecond, ?_, hthird, ?_, ?_⟩
    · exact (hpredicts _ _ _ _ rfl (by decide)).forwards.mp hfirst
    · exact (hpredicts _ _ _ _ rfl (by decide)).drops.mp hsecond
    · exact (hpredicts _ _ _ _ rfl (by decide)).drops.mp hthird
    · refine (judge_predicts {} {} source (.text "0") (.text "web") "slow").2 ?_
      intro l hlevel
      cases hlevel
      rfl
  · cases hok

end Predictions

end CommandLine

end LogSieve
