import LogSieve.CommandLine.Run
import LogSieve.Proofs.Reading

/-!
# Notices can be shown

A notice is made a line of only where it is shown. A template that did not fit its fields would be a
fault for those who listen, and nothing at all for the others. No operation gives such a notice:
every field that a template names is there, and is a text or knows its own form.

* `Reported.IsShowable`: each notice on the way to a value can be written;
* `isShowable_takeSettings`, `isShowable_buildFromSettings`: builders from settings;
* `isShowable_check`, `isShowable_judge`: commands;
* `run_unwritten`: no run of the program comes upon a notice that it cannot write.
-/

namespace LogSieve

/-! ## 1. Steps -/

namespace Reported

/-- Each notice can be written. -/
def IsShowable {α : Type} (r : Reported α) : Prop := ∀ n ∈ r.notices, ∃ line, n.line = .ok line

section

variable {ε ε' α β : Type}

theorem isShowable_pure (a : α) : (pure a : Reported α).IsShowable := nofun

theorem isShowable_report {n : Notice} {line : Text} (h : n.line = .ok line) :
    (report n).IsShowable := List.forall_mem_singleton.mpr ⟨line, h⟩

theorem isShowable_bind {r : Reported α} {f : α → Reported β} (hr : r.IsShowable)
    (hf : ∀ a, (f a).IsShowable) : (r >>= f).IsShowable :=
  List.forall_mem_append.mpr ⟨hr, hf r.value⟩

theorem isShowable_throw (fault : ε) : (throw fault : ExceptT ε Reported α).run.IsShowable := nofun

theorem isShowable_run_pure (a : α) : (pure a : ExceptT ε Reported α).run.IsShowable := nofun

theorem isShowable_run_lift {r : Reported α} (hr : r.IsShowable) :
    (liftM r : ExceptT ε Reported α).run.IsShowable := by
  rw [run_lift]
  exact hr

theorem isShowable_run_adapt {wrap : ε → ε'} {x : ExceptT ε Reported α} (hx : x.run.IsShowable) :
    (x.adapt wrap).run.IsShowable := by
  rw [run_adapt]
  exact hx

/-- What comes after a failure need not be asked for, but here it never matters. -/
theorem isShowable_run_bind {x : ExceptT ε Reported α} {f : α → ExceptT ε Reported β}
    (hx : x.run.IsShowable) (hf : ∀ a, (f a).run.IsShowable) : (x >>= f).run.IsShowable := by
  rw [run_bind]
  split
  · exact List.forall_mem_append.mpr ⟨hx, hf _⟩
  · exact hx

end

end Reported

open Reported

/-! ## 2. Settings -/

namespace World

variable (w : World)

theorem isShowable_loadEntries (path : Text) : (w.loadEntries path).IsShowable := by
  unfold loadEntries
  split
  · exact isShowable_pure _
  · exact isShowable_pure _
  · exact isShowable_pure _
  · exact isShowable_bind (isShowable_report rfl) fun _ => isShowable_pure _

theorem isShowable_projectEntries (start : Option Text) : (w.projectEntries start).IsShowable := by
  unfold projectEntries
  split
  · exact isShowable_pure _
  · exact isShowable_bind (w.isShowable_loadEntries _) fun _ => isShowable_pure _

theorem isShowable_specText (given variableName start : Option Text) :
    (w.specText given variableName start).IsShowable := by
  unfold specText
  split
  · exact isShowable_bind (isShowable_report rfl) fun _ => isShowable_pure _
  · split
    · exact isShowable_bind (isShowable_report rfl) fun _ => isShowable_pure _
    · refine isShowable_bind (w.isShowable_projectEntries start) fun found => ?_
      obtain ⟨entries, p⟩ := found
      dsimp only
      split
      · exact isShowable_bind (isShowable_report rfl) fun _ => isShowable_pure _
      · exact isShowable_bind (isShowable_report rfl) fun _ => isShowable_pure _

theorem isShowable_strategyName (given variableName start : Option Text) :
    (w.strategyName given variableName start).IsShowable := by
  unfold strategyName
  split
  · exact isShowable_pure _
  · split
    · exact isShowable_pure _
    · refine isShowable_bind (w.isShowable_projectEntries start) fun found => ?_
      obtain ⟨entries, p⟩ := found
      dsimp only
      split <;> exact isShowable_pure _

theorem isShowable_afterSearch {α : Type} {r : Reported α} (hr : r.IsShowable)
    (start : Option Text) (isReached : Bool) :
    (w.afterSearch start isReached r).run.IsShowable := by
  rw [run_afterSearch]
  split
  · exact nofun
  · exact hr

theorem isShowable_findSpec (given variableName start : Option Text) :
    (w.findSpec given variableName start).run.IsShowable :=
  w.isShowable_afterSearch (w.isShowable_specText _ _ _) _ _

theorem isShowable_findStrategy (given variableName start : Option Text) :
    (w.findStrategy given variableName start).run.IsShowable :=
  w.isShowable_afterSearch (w.isShowable_strategyName _ _ _) _ _

end World

/-! ## 3. Builders -/

namespace Builder

variable (b : Builder)

theorem isShowable_choose (name : Text) : (b.choose (.text name)).IsShowable := by
  unfold choose
  split
  · exact isShowable_pure _
  · exact isShowable_bind (isShowable_report rfl) fun _ => isShowable_pure _

theorem isShowable_parse [CharacterNames] (t : Text) : (b.parse t).run.IsShowable :=
  isShowable_run_bind (Spec.parse_written _ t) fun _ => isShowable_run_pure _

theorem isShowable_takeSettings [CharacterNames] (w : World) (variableName start : Option Text) :
    (b.takeSettings w variableName start).IsShowable := by
  unfold takeSettings
  refine isShowable_bind (w.isShowable_findStrategy _ _ _) fun outcome => ?_
  split
  · exact isShowable_pure _
  · refine isShowable_bind (b.isShowable_choose _) fun b => ?_
    refine isShowable_bind (w.isShowable_findSpec _ _ _) fun outcome => ?_
    split
    · exact isShowable_pure _
    · exact isShowable_pure _
    · refine isShowable_bind (b.isShowable_parse _) fun outcome => ?_
      split <;> exact isShowable_pure _

theorem isShowable_buildFromSettings [CharacterNames] (w : World) (variableName : Option Text) :
    (b.buildFromSettings w variableName).run.IsShowable := by
  unfold buildFromSettings
  refine isShowable_run_bind (isShowable_run_lift (b.isShowable_takeSettings _ _ _))
    fun taken => ?_
  obtain ⟨b, _ | fault⟩ := taken
  · exact isShowable_run_pure _
  · exact isShowable_throw _

end Builder

/-! ## 4. Commands -/

namespace CommandLine

variable (w : World) (interrupted : Bool)

/-- The specification of a source, if it has one, is made of the arguments of a command line. -/
def Source.IsOfArguments (source : Source) : Prop :=
  ∀ v, source.spec = some v → ∃ arguments, v = argumentOf arguments

theorem argumentOf_cases (arguments : List Text) :
    (∃ t, argumentOf arguments = .text t) ∨ argumentOf arguments = .list [] := by
  unfold argumentOf
  split
  · exact .inl ⟨_, rfl⟩
  · exact .inr rfl

variable {source : Source} (h : source.IsOfArguments)

include h

theorem isShowable_specOf : (specOf w interrupted source).run.IsShowable := by
  cases interrupted with
  | true => exact nofun
  | false =>
    unfold specOf
    cases hs : source.spec with
    | none =>
      exact isShowable_run_bind (isShowable_run_adapt (w.isShowable_findSpec _ _ _))
        fun _ => isShowable_run_pure _
    | some v =>
      obtain ⟨arguments, rfl⟩ := h v hs
      obtain ⟨t, ht⟩ | hlist := argumentOf_cases arguments
      · rw [ht]
        exact isShowable_run_bind (isShowable_run_adapt (w.isShowable_findSpec _ _ _))
          fun _ => isShowable_run_pure _
      · rw [hlist]
        exact isShowable_run_bind (isShowable_run_lift (isShowable_report rfl))
          fun _ => isShowable_run_pure _

theorem isShowable_sieveOf [CharacterNames] : (sieveOf w interrupted source).run.IsShowable := by
  unfold sieveOf
  refine isShowable_run_bind (isShowable_specOf w interrupted h) fun spec => ?_
  refine isShowable_run_bind (isShowable_run_adapt (w.isShowable_findStrategy _ _ _)) fun name => ?_
  refine isShowable_run_bind (isShowable_run_lift (Builder.isShowable_choose _ name)) fun b => ?_
  unfold buildFrom
  split
  · exact isShowable_run_pure _
  · exact isShowable_run_bind (isShowable_run_adapt (b.isShowable_parse _))
      fun _ => isShowable_run_pure _
  · exact isShowable_throw _

theorem isShowable_check [CharacterNames] : (check w interrupted source).run.IsShowable := by
  unfold check
  exact isShowable_run_bind (isShowable_sieveOf w interrupted h) fun _ => isShowable_run_pure _

theorem isShowable_judge [CharacterNames] (level module : Value) (message : Text) :
    (judge w interrupted source level module message).run.IsShowable := by
  have hrefused : ∀ line, ((do
      Reported.report (Report.error line)
      return { status := 2 } : Working Verdict)).run.IsShowable := fun line =>
    isShowable_run_bind (isShowable_run_lift (isShowable_report rfl)) fun _ => isShowable_run_pure _
  unfold judge
  split
  · exact hrefused _
  · exact hrefused _
  · exact isShowable_run_bind (isShowable_sieveOf w interrupted h) fun _ => nofun

omit h

/-! ## 5. Runs -/

variable (d : Diagnostics)

/-- The source of a request is made of the arguments of a command line. -/
def Request.IsOfArguments : Request → Prop
  | .check source | .judge source .. => source.IsOfArguments
  | _ => True

theorem isOfArguments_sourceOf (r : Reading) (spec : Option (List Text)) :
    (sourceOf r spec).IsOfArguments := by
  intro v hv
  obtain ⟨arguments, _, ha⟩ := Option.map_eq_some_iff.mp hv
  exact ⟨arguments, ha.symm⟩

theorem isOfArguments_requestOf (name : Text) (r : Reading) :
    (requestOf name r).IsOfArguments := by
  unfold requestOf
  split
  · exact isOfArguments_sourceOf r _
  · exact isOfArguments_sourceOf r _

/-- What comes of a stop has no source. -/
theorem isOfArguments_requestOfStop {g : Grammar} {stop : Stop} {request : Request}
    (h : requestOfStop g stop = .ok request) : request.IsOfArguments := by
  cases stop with
  | help | version =>
    cases h
    trivial
  | misuse m => cases h

theorem isOfArguments_of_read {args : List Text} {request : Request}
    (h : Request.read args = .ok request) : request.IsOfArguments := by
  have unlessExtra_ok : ∀ (extras : List Text) (asked : Request), asked.IsOfArguments →
      unlessExtra extras asked = .ok request → request.IsOfArguments := by
    intro extras asked hasked h
    unfold unlessExtra at h
    split at h
    · cases h
      exact hasked
    · cases h
  unfold Request.read at h
  split at h
  · exact isOfArguments_requestOfStop h
  · split at h
    · dsimp only at h
      split at h
      · exact isOfArguments_requestOfStop h
      · exact unlessExtra_ok _ _ (isOfArguments_requestOf _ _) h
    · exact unlessExtra_ok _ (.help mainGrammar.help) trivial h

theorem unwritten_runCommand {work : Working Verdict} (h : work.run.IsShowable) :
    (runCommand d work).unwritten = none := by
  have hwritten := d.written_eq_none h
  unfold runCommand
  dsimp only
  split <;> exact hwritten

theorem unwritten_runRequest [CharacterNames] {request : Request} (h : request.IsOfArguments) :
    (runRequest w d interrupted request).unwritten = none := by
  cases request with
  | help text => rfl
  | version => rfl
  | check source => exact unwritten_runCommand d (isShowable_check w interrupted h)
  | judge source level module message =>
    exact unwritten_runCommand d (isShowable_judge w interrupted h level module message)

/-- Whatever the program is asked, it does not come upon a notice that it cannot write. -/
theorem run_unwritten [CharacterNames] (args : List Text) :
    (run w d interrupted args).unwritten = none := by
  unfold run
  split
  · rename_i stop _
    cases stop <;> rfl
  · split
    · rfl
    · split
      · rfl
      · unfold runRest
        split
        · rfl
        · split
          · rename_i hread
            exact unwritten_runRequest w interrupted _ (isOfArguments_of_read hread)
          · rfl

end CommandLine

end LogSieve
