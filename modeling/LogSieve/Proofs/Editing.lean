import LogSieve.Proofs.History
import LogSieve.Proofs.Listening

/-!
# Failing leaves no trace in a builder

A builder is changed in place. What a step has changed before another one fails stays changed, so it
takes an argument that nothing has: a level or a specification is read to its end before the first
change, whatever may go wrong in reading it, and the changes themselves do not fail.

* `Edit`, `Edit.on`: steps that read or change a builder, where changes outlast a failure;
* `on_addDirective`, `on_addSpec`, `on_choose`: what becomes of a builder;
* `Edit.LeavesNoTrace`, `leavesNoTrace_of_reading_first`: why it stays what it was on failure;
* `perform_addDirective`, `perform_addSpec`, `perform_chooseStrategy`: a session does these steps;
* `Session.Alike`, `sameFor_perform`: sessions that no operation tells apart;
* `Session.Turn`, `takeAll`, `sameTranscript_takeAll`: one turn after the other, by induction;
* `Session.failing_leaves_no_trace`: so what follows a failure goes on as if it had not been.
-/

namespace LogSieve

/-! ## 1. Steps in place -/

/-- Steps on a builder that is changed in place, with the notices they give. A failure ends them;
the changes made before it stay. -/
abbrev Edit (α : Type) : Type := ExceptT OperationFault (StateT Builder Reported) α

namespace Edit

variable {α β : Type}

/-- What the steps come to, and the builder they leave. -/
def on (x : Edit α) (b : Builder) : Reported (Except OperationFault α × Builder) := x.run.run b

/-- Reads something, maybe off the builder. -/
def reading (read : Builder → ExceptT OperationFault Reported α) : Edit α :=
  ExceptT.mk fun b => do return (← (read b).run, b)

/-- Changes the builder. -/
def changing (change : Builder → Builder) : Edit Unit := modify change

/-- Adds a directive, once its level has been read. -/
def addDirective (module : Option Text) (read : Except OperationFault Level) : Edit Unit := do
  let level ← reading fun _ => ExceptT.mk (pure read)
  changing fun b => { b with directives := b.directives ++ [⟨module, level⟩] }

/-- Takes over the filter of a specification and then adds its directives, once it has been read. -/
def addSpec (read : Builder → ExceptT OperationFault Reported Spec) : Edit Unit := do
  let spec ← reading read
  changing fun b => { b with filter := spec.filter }
  changing fun b => { b with directives := b.directives ++ spec.directives }

/-- Chooses a strategy by its name, or says that there is none of the name. -/
def choose (name : Value) : Edit Unit :=
  match Strategy.ofValue? name with
  | some s => changing fun b => { b with strategy := some s }
  | none => reading fun b => liftM (Reported.report (b.unknownStrategy name))

theorem on_reading (read : Builder → ExceptT OperationFault Reported α) (b : Builder) :
    (reading read).on b = ⟨(read b).run.notices, (read b).run.value, b⟩ := by
  show Reported.mk ((read b).run.notices ++ []) _ = _
  rw [List.append_nil]
  rfl

/-- The second step finds the builder as the first one has left it. -/
theorem on_bind (x : Edit α) (f : α → Edit β) (b : Builder) :
    (x >>= f).on b =
      match (x.on b).value with
      | (.ok a, b') => ⟨(x.on b).notices ++ ((f a).on b').notices, ((f a).on b').value⟩
      | (.error fault, b') => ⟨(x.on b).notices, .error fault, b'⟩ := by
  unfold on
  rw [ExceptT.run_bind, StateT.run_bind]
  obtain ⟨notices, outcome, b'⟩ := x.run.run b
  cases outcome with
  | ok a => rfl
  | error fault =>
    show Reported.mk (notices ++ []) _ = _
    rw [List.append_nil]
    rfl

/-! ## 2. What becomes of a builder -/

variable (b : Builder)

theorem on_addDirective (module : Option Text) (read : Except OperationFault Level) :
    (addDirective module read).on b =
      match read with
      | .ok l => ⟨[], .ok (), b.add module l⟩
      | .error fault => ⟨[], .error fault, b⟩ := by
  rw [addDirective, on_bind, on_reading]
  cases read with
  | ok l => rfl
  | error fault => rfl

theorem on_addSpec (read : Builder → ExceptT OperationFault Reported Spec) :
    (addSpec read).on b =
      ⟨(read b).run.notices,
        match (read b).run.value with
        | .ok spec => (.ok (), b.taking spec)
        | .error fault => (.error fault, b)⟩ := by
  rw [addSpec, on_bind, on_reading]
  cases (read b).run.value with
  | ok spec =>
    dsimp only
    rw [on_bind]
    exact congrArg (Reported.mk · _) (List.append_nil _)
  | error fault => rfl

theorem on_choose (name : Value) :
    (choose name).on b = ⟨(b.choose name).notices, .ok (), (b.choose name).value⟩ := by
  unfold choose Builder.choose
  cases Strategy.ofValue? name with
  | some s => rfl
  | none =>
    dsimp only
    rw [on_reading]
    rfl

/-! ## 3. Reading first -/

/-- When the steps fail, the builder is what it was. -/
def LeavesNoTrace (x : Edit α) : Prop :=
  ∀ b fault b', (x.on b).value = (.error fault, b') → b' = b

/-- The steps do not fail. -/
def Succeeds (x : Edit α) : Prop := ∀ b, ∃ a b', (x.on b).value = (.ok a, b')

theorem succeeds_changing (change : Builder → Builder) : (changing change).Succeeds :=
  fun b => ⟨(), change b, rfl⟩

theorem succeeds_bind {x : Edit α} {f : α → Edit β} (hx : x.Succeeds)
    (hf : ∀ a, (f a).Succeeds) : (x >>= f).Succeeds := by
  intro b
  obtain ⟨a, b', ha⟩ := hx b
  obtain ⟨c, b'', hc⟩ := hf a b'
  refine ⟨c, b'', ?_⟩
  rw [on_bind, ha]
  exact hc

/-- What reads first, and then makes changes that do not fail, leaves no trace. -/
theorem leavesNoTrace_of_reading_first (read : Builder → ExceptT OperationFault Reported α)
    {f : α → Edit β} (hf : ∀ a, (f a).Succeeds) : (reading read >>= f).LeavesNoTrace := by
  intro b fault b' h
  rw [on_bind, on_reading] at h
  cases hr : (read b).run.value with
  | ok a =>
    rw [hr] at h
    obtain ⟨c, b'', hc⟩ := hf a b
    cases hc.symm.trans h
  | error other =>
    rw [hr] at h
    cases h
    rfl

theorem leavesNoTrace_addDirective (module : Option Text) (read : Except OperationFault Level) :
    (addDirective module read).LeavesNoTrace :=
  leavesNoTrace_of_reading_first _ fun _ => succeeds_changing _

theorem leavesNoTrace_addSpec (read : Builder → ExceptT OperationFault Reported Spec) :
    (addSpec read).LeavesNoTrace :=
  leavesNoTrace_of_reading_first _ fun _ =>
    succeeds_bind (succeeds_changing _) fun _ => succeeds_changing _

/-- What an operation comes to that consists of the steps. -/
def answered (x : Edit Unit) (b : Builder) : Reported (Except OperationFault Answer × Builder) :=
  (fun left => (left.1.map fun _ => .done, left.2)) <$> x.on b

end Edit

/-! ## 4. Sessions -/

namespace Session

open Edit

section Steps

variable [CharacterNames] (w : World) (s : Session) (name : Text)

theorem perform_addDirective (module : Option Text) (level : Value) :
    s.perform w (.addDirective name module level) =
      s.withBuilder name
        (addDirective module ((Level.ofValue level).mapError .level)).answered := by
  refine congrArg (s.withBuilder name) (funext fun b => ?_)
  rw [answered, on_addDirective, Builder.addNamed]
  cases Level.ofValue level with
  | ok l => rfl
  | error fault => rfl

theorem perform_chooseStrategy (strategy : Text) :
    s.perform w (.chooseStrategy name strategy) =
      s.withBuilder name (choose (.text strategy)).answered := by
  refine congrArg (s.withBuilder name) (funext fun b => ?_)
  rw [answered, on_choose]
  rfl

/-- The specification of a text, read as the strategy of a builder says. -/
def specFor (t : Text) (b : Builder) : ExceptT OperationFault Reported Spec :=
  (Spec.parse (.text b.currentStrategy.name) t).adapt .filter

theorem perform_addSpec (t : Text) :
    s.perform w (.addSpec name t) = s.withBuilder name (addSpec (specFor t)).answered := by
  refine congrArg (s.withBuilder name) (funext fun b => ?_)
  have hspec : (specFor t b).run =
      Except.mapError .filter <$> (Spec.parse (.text b.currentStrategy.name) t).run := rfl
  rw [answered, on_addSpec, Builder.run_parse, hspec, Reported.notices_map, Reported.value_map]
  obtain ⟨notices, outcome⟩ := (Spec.parse (.text b.currentStrategy.name) t).run
  cases outcome with
  | ok spec => rfl
  | error fault => rfl

end Steps

/-! ## 5. Sessions that cannot be told apart -/

/-- The sessions differ in nothing but builders that have been replaced. -/
def Alike (s s' : Session) : Prop :=
  ∃ builders, s' = { s with builders } ∧ ∀ name, builders.lookup name = s.builders.lookup name

theorem Alike.refl (s : Session) : Alike s s := ⟨s.builders, rfl, fun _ => rfl⟩

/-- The operations give the same notices, come to the same, and leave alike sessions. -/
def SameFor (r r' : Reported Outcome) : Prop :=
  r.notices = r'.notices ∧ r.value.1 = r'.value.1 ∧ Alike r.value.2 r'.value.2

section Alike

variable {s s' : Session}

/-- Putting back what is there makes no difference. -/
theorem alike_putBuilder_self {name : Text} {b : Builder} {drain : Drain}
    (h : s.builders.lookup name = some (b, drain)) : Alike s (s.putBuilder name b drain) := by
  refine ⟨_, rfl, fun name' => ?_⟩
  rw [List.lookup_cons]
  split
  · rename_i heq
    rw [eq_of_beq heq, h]
  · rfl

theorem alike_putBuilder (h : Alike s s') (name : Text) (b : Builder) (drain : Drain) :
    Alike (s.putBuilder name b drain) (s'.putBuilder name b drain) := by
  obtain ⟨builders, rfl, hlookup⟩ := h
  refine ⟨_, rfl, fun name' => ?_⟩
  show List.lookup name' ((name, b, drain) :: builders) =
    List.lookup name' ((name, b, drain) :: s.builders)
  rw [List.lookup_cons, List.lookup_cons, hlookup]

theorem sameFor_withBuilder (h : Alike s s') (name : Text)
    (act : Builder → Reported (Except OperationFault Answer × Builder)) :
    SameFor (s.withBuilder name act) (s'.withBuilder name act) := by
  obtain ⟨builders, rfl, hlookup⟩ := id h
  unfold withBuilder
  rw [hlookup]
  cases s.builders.lookup name with
  | none => exact ⟨rfl, rfl, h⟩
  | some found => exact ⟨rfl, rfl, alike_putBuilder h name _ _⟩

/-- No operation tells alike sessions apart. -/
theorem sameFor_perform [CharacterNames] (h : Alike s s') (w : World) (op : Operation) :
    SameFor (s.perform w op) (s'.perform w op) := by
  obtain ⟨builders, rfl, hlookup⟩ := id h
  cases op with
  | readSpec strategy t => exact ⟨rfl, rfl, h⟩
  | openBuilder name drain =>
    have hdrain : { s with builders }.drain? drain = s.drain? drain := rfl
    rw [perform, perform, hdrain]
    cases s.drain? drain with
    | none => exact ⟨rfl, rfl, h⟩
    | some drain => exact ⟨rfl, rfl, alike_putBuilder h name _ _⟩
  | addDirective name module level => exact sameFor_withBuilder h name _
  | chooseStrategy name strategy => exact sameFor_withBuilder h name _
  | addSpec name t => exact sameFor_withBuilder h name _
  | takeSettings name variableName start => exact sameFor_withBuilder h name _
  | build name logger =>
    rw [perform, perform, hlookup]
    cases s.builders.lookup name with
    | none => exact ⟨rfl, rfl, h⟩
    | some found => exact ⟨rfl, rfl, builders, rfl, hlookup⟩
  | buildNew drain variableName logger =>
    have hdrain : { s with builders }.drain? drain = s.drain? drain := rfl
    rw [perform, perform, hdrain]
    cases s.drain? drain with
    | none => exact ⟨rfl, rfl, h⟩
    | some drain =>
      dsimp only
      obtain ⟨notices, built⟩ := (Builder.sieveOfSettings w variableName).run
      cases built with
      | ok sieve => exact ⟨rfl, rfl, builders, rfl, hlookup⟩
      | error fault => exact ⟨rfl, rfl, h⟩
  | enables logger level module =>
    rw [perform, perform]
    dsimp only
    cases s.sieves.lookup logger with
    | none => exact ⟨rfl, rfl, h⟩
    | some found => exact ⟨rfl, rfl, h⟩
  | log logger thread r =>
    rw [perform, perform]
    dsimp only
    cases s.sieves.lookup logger with
    | none => exact ⟨rfl, rfl, h⟩
    | some found => exact ⟨rfl, rfl, builders, rfl, hlookup⟩
  | findSpec given variableName start => exact ⟨rfl, rfl, h⟩
  | findStrategy given variableName start => exact ⟨rfl, rfl, h⟩
  | loadEntries path => exact ⟨rfl, rfl, h⟩

end Alike

/-! ## 6. What follows a failure -/

/-- An operation in a world, with somebody who listens. -/
structure Turn where
  listener : Diagnostics
  world : World
  operation : Operation

def take [CharacterNames] (s : Session) (t : Turn) : List Message × Outcome :=
  s.performUnder t.listener t.world t.operation

/-- Turns one after the other; between them the world may change, and who listens. -/
def takeAll [CharacterNames] (s : Session) : List Turn → Transcript
  | [] => ⟨[], [], s⟩
  | t :: ts =>
    let (messages, answer, s) := s.take t
    let rest := takeAll s ts
    ⟨messages ++ rest.messages, answer :: rest.answers, rest.session⟩

/-- A sequence of operations in one world is one of turns. -/
theorem run_eq_takeAll [CharacterNames] (d : Diagnostics) (w : World) (s : Session)
    (ops : List Operation) : s.run d w ops = s.takeAll (ops.map (⟨d, w, ·⟩)) := by
  induction ops generalizing s with
  | nil => rfl
  | cons op rest ih =>
    rw [run, List.map_cons, takeAll, take]
    dsimp only
    rw [ih]

/-- What is seen of turns from outside is the same, and so is what they leave but for builders that
have been replaced. -/
def SameTranscript (t t' : Transcript) : Prop :=
  t.messages = t'.messages ∧ t.answers = t'.answers ∧ Alike t.session t'.session

/-- Turns go on alike in alike sessions. -/
theorem sameTranscript_takeAll [CharacterNames] {s s' : Session} (h : Alike s s') (ts : List Turn) :
    SameTranscript (s.takeAll ts) (s'.takeAll ts) := by
  induction ts generalizing s s' with
  | nil => exact ⟨rfl, rfl, h⟩
  | cons t rest ih =>
    obtain ⟨hnotices, hanswer, halike⟩ := sameFor_perform h t.world t.operation
    obtain ⟨hmessages, hanswers, hsession⟩ := ih halike
    rw [takeAll, takeAll, take, take, performUnder_eq, performUnder_eq]
    dsimp only
    rw [hnotices, hanswer, hmessages, hanswers]
    exact ⟨rfl, rfl, hsession⟩

/-- The operation adds to a builder: a directive, or a specification. -/
def IsAddition : Operation → Prop
  | .addDirective .. | .addSpec .. => True
  | _ => False

/-- Steps that leave no trace when they fail leave none in a session. -/
theorem alike_withBuilder {x : Edit Unit} (hx : x.LeavesNoTrace) {s : Session} {name : Text}
    {fault : OperationFault} (h : (s.withBuilder name x.answered).value.1 = .error fault) :
    Alike s (s.withBuilder name x.answered).value.2 := by
  unfold withBuilder at h ⊢
  cases hb : s.builders.lookup name with
  | none => exact .refl s
  | some found =>
    obtain ⟨b, drain⟩ := found
    rw [hb] at h
    have hleft : ((x.on b).value.1.map fun _ => Answer.done) = .error fault := h
    show Alike s (s.putBuilder name (x.on b).value.2 drain)
    cases hv : (x.on b).value with
    | mk outcome b' =>
      rw [hv] at hleft
      cases outcome with
      | ok a => cases hleft
      | error other =>
        rw [hx b other b' hv]
        exact alike_putBuilder_self hb

/-- An addition that fails leaves a session as it was. -/
theorem alike_of_addition_fails [CharacterNames] {w : World} {s : Session} {op : Operation}
    (hop : IsAddition op) {fault : OperationFault} (h : (s.perform w op).value.1 = .error fault) :
    Alike s (s.perform w op).value.2 := by
  cases op with
  | addDirective name module level =>
    rw [perform_addDirective] at h ⊢
    exact alike_withBuilder (leavesNoTrace_addDirective module _) h
  | addSpec name t =>
    rw [perform_addSpec] at h ⊢
    exact alike_withBuilder (leavesNoTrace_addSpec _) h
  | _ => cases hop

/-- **Failing leaves no trace.** Whatever reads a level or a specification, and for whatever reason
it fails: the builder has the directives, the filter and the strategy that it had. What does not
fail changes what it is meant to and nothing else: a directive is added behind the others; a
specification adds its directives behind the others and replaces the filter; a strategy is chosen,
and a name that is no strategy's changes nothing. A session has its builders do just this. So when
an addition to a builder fails, whatever has been done before and whoever was listening, the session
goes on as if it had not been asked for: all that follows, in whatever worlds, is answered with the
same values, loggers and messages. -/
theorem failing_leaves_no_trace [CharacterNames] :
    (∀ (b : Builder) (module : Option Text) (read : Except OperationFault Level),
      ((addDirective module read).on b).value = match read with
        | .ok l => (.ok (), { b with directives := b.directives ++ [⟨module, l⟩] })
        | .error fault => (.error fault, b)) ∧
    (∀ (b : Builder) (read : Builder → ExceptT OperationFault Reported Spec),
      ((addSpec read).on b).value = match (read b).run.value with
        | .ok spec => (.ok (), { b with directives := b.directives ++ spec.directives
                                        filter := spec.filter })
        | .error fault => (.error fault, b)) ∧
    (∀ (b : Builder) (name : Value),
      ((choose name).on b).value = match Strategy.ofValue? name with
        | some chosen => (.ok (), { b with strategy := some chosen })
        | none => (.ok (), b)) ∧
    (∀ (w : World) (s : Session) (name : Text),
      (∀ module level, s.perform w (.addDirective name module level) =
        s.withBuilder name
          (addDirective module ((Level.ofValue level).mapError .level)).answered) ∧
      (∀ t, s.perform w (.addSpec name t) = s.withBuilder name (addSpec (specFor t)).answered) ∧
      ∀ strategy, s.perform w (.chooseStrategy name strategy) =
        s.withBuilder name (choose (.text strategy)).answered) ∧
    ∀ (s : Session) (t : Turn) (fault : OperationFault), IsAddition t.operation →
      (s.take t).2.1 = .error fault → Alike s (s.take t).2.2 ∧
        (∀ after, SameTranscript (s.takeAll after) ((s.take t).2.2.takeAll after)) ∧
        ∀ d w ops, SameTranscript (s.run d w ops) ((s.take t).2.2.run d w ops) := by
  refine ⟨?_, ?_, ?_, ?_, ?_⟩
  · intro b module read
    rw [on_addDirective]
    cases read with
    | ok l => rfl
    | error fault => rfl
  · intro b read
    rw [on_addSpec]
    rfl
  · intro b name
    rw [on_choose, Builder.choose]
    cases Strategy.ofValue? name with
    | some chosen => rfl
    | none => rfl
  · intro w s name
    exact ⟨perform_addDirective w s name, perform_addSpec w s name,
      perform_chooseStrategy w s name⟩
  · intro s t fault hop h
    rw [take, performUnder_eq] at h ⊢
    have halike := alike_of_addition_fails hop h
    refine ⟨halike, sameTranscript_takeAll halike, fun d w ops => ?_⟩
    rw [run_eq_takeAll, run_eq_takeAll]
    exact sameTranscript_takeAll halike _

theorem exists_fault {outcome : Except OperationFault Answer} (h : outcome.isOk = false) :
    ∃ fault, outcome = .error fault := by
  cases outcome with
  | ok answer => cases h
  | error fault => exact ⟨fault, rfl⟩

attribute [local instance] CharacterNames.common

/-- **A count too large, and a level that is none.** The specification fails at its filter text,
when its directive has been read. The builder is used again, with somebody who listens more closely.
-/
theorem failing_leaves_no_trace_count :
    let s := (({} : Session).run {} {} [.openBuilder "b" none, .chooseStrategy "b" "regex",
      .addSpec "b" "warn/slow"]).session
    let tooLarge : Turn := ⟨{}, {}, .addSpec "b" "app=debug/a{4294967295}"⟩
    let noLevel : Turn := ⟨{}, {}, .addDirective "b" none (.text "loud")⟩
    let after : List Turn :=
      [⟨{ verbosity := 3 }, {}, .addSpec "b" "web=info/a.c"⟩, ⟨{}, {}, .build "b" "l"⟩]
    (∃ fault, (s.take tooLarge).2.1 = .error fault) ∧
      (∃ fault, (s.take noLevel).2.1 = .error fault) ∧
      SameTranscript (s.takeAll after) ((s.take tooLarge).2.2.takeAll after) ∧
      SameTranscript (s.takeAll after) ((s.take noLevel).2.2.takeAll after) ∧
      (s.takeAll after).session.sieves.map (fun built => built.2.2.1.text) =
        ["warning,web=info/a.c".toList] := by
  intro s tooLarge noLevel after
  have hlarge : ∃ fault, (s.take tooLarge).2.1 = .error fault := exists_fault (by decide +kernel)
  have hlevel : ∃ fault, (s.take noLevel).2.1 = .error fault := exists_fault (by decide +kernel)
  obtain ⟨_, _, _, _, hgoes⟩ := failing_leaves_no_trace
  refine ⟨hlarge, hlevel, ?_, ?_, by decide +kernel⟩
  · obtain ⟨fault, h⟩ := hlarge
    exact (hgoes s tooLarge fault trivial h).2.1 after
  · obtain ⟨fault, h⟩ := hlevel
    exact (hgoes s noLevel fault trivial h).2.1 after

end Session

end LogSieve
