import LogSieve.Proofs.Editing

/-!
# Loggers that have been built

Builders are opened, collect directives, build loggers, and go on collecting; an operation on one
may fail in between. What a logger gets is what its builder has collected by then, arranged, and
building it takes nothing away from the builder.

* `IsArrangement`, `Builder.isArrangement_build`: what a builder makes of its directives;
* `Operation.collect`, `Session.accumulated`: what a builder has collected, read off a history of
  operations and of what they came to, and not off the builder;
* `collected_perform`, `collected_takeAll`: one operation, and by induction a history;
* `SameBuilders`, `sameBuilders_perform`, `sameBuilders_takeAll`: a logger more or less makes no
  difference to builders;
* `Session.every_logger_isArrangement`: the loggers of any history.
-/

namespace LogSieve

open Builder (orErrorsOnly)

/-! ## 1. Arrangements -/

/-- The directives of a logger, compared with those that have been added, in the order in which they
have been: the same ones, or the one for errors where there are none, with shorter prefixes first,
and those of one length in their order. -/
structure IsArrangement (added built : List Directive) : Prop where
  ne_nil : built ≠ []
  perm : built.Perm (orErrorsOnly added)
  ordered : built.Pairwise fun d e => d.specificity ≤ e.specificity
  stable : ∀ n,
    built.filter (·.specificity = n) = (orErrorsOnly added).filter (·.specificity = n)

namespace Builder

theorem isArrangement_build (b : Builder) : IsArrangement b.directives b.build.directives where
  ne_nil := b.build_ne_nil
  perm := by
    rw [directives_build]
    exact Directive.perm_arrange _
  ordered := b.pairwise_build
  stable n := by
    rw [directives_build]
    exact Directive.filter_arrange n _

end Builder

/-! ## 2. What has been collected -/

/-- The directives of the builder of a name, if there is one, with those added to a builder. -/
def withAdded (name builder : Text) (added : List Directive) (ds? : Option (List Directive)) :
    Option (List Directive) :=
  if builder = name then ds?.map (· ++ added) else ds?

/-- What becomes of the directives of the builder of a name by an operation that does not fail. -/
def Operation.collect (name : Text) (w : World) (op : Operation)
    (ds? : Option (List Directive)) : Option (List Directive) :=
  match op with
  | .openBuilder builder _ => if builder = name then some [] else ds?
  | .addDirective builder module level =>
    withAdded name builder (Builder.Call.addNamed module level).directives ds?
  -- an addition of nothing
  | .chooseStrategy builder _ => withAdded name builder [] ds?
  | .addSpec builder t => withAdded name builder (Spec.directivesOf t) ds?
  | .takeSettings builder variableName start =>
    withAdded name builder (Builder.Call.takeSettings w variableName start).directives ds?
  | _ => ds?

/-- The name of what the operation puts something in front of, if it does. -/
def Operation.drain? : Operation → Option Text
  | .openBuilder _ drain | .buildNew drain _ _ => drain
  | _ => none

namespace Session

/-- What becomes of the directives of the builder of a name by turns that have come to these
answers. A turn that fails has no part in it. -/
def accumulate (name : Text) (ds? : Option (List Directive)) :
    List Turn → List (Except OperationFault Answer) → Option (List Directive)
  | t :: ts, answer :: answers =>
    accumulate name
      (if answer.isOk then t.operation.collect name t.world ds? else ds?) ts answers
  | _, _ => ds?

/-- The directives that the builder of a name has accumulated in a history, if it has been opened.
-/
def accumulated (name : Text) (ts : List Turn) (answers : List (Except OperationFault Answer)) :
    Option (List Directive) :=
  accumulate name none ts answers

/-- The directives that the builder of a name has. -/
def collected (s : Session) (name : Text) : Option (List Directive) :=
  (s.builders.lookup name).map fun found => found.1.directives

theorem collected_putBuilder (s : Session) (builder : Text) (b : Builder) (drain : Drain)
    (name : Text) :
    (s.putBuilder builder b drain).collected name =
      if builder = name then some b.directives else s.collected name := by
  show Option.map _ (List.lookup name ((builder, b, drain) :: s.builders)) = _
  rw [List.lookup_cons]
  by_cases h : builder = name
  · rw [if_pos h, h, beq_self_eq_true]
    rfl
  · rw [if_neg h, beq_false_of_ne (Ne.symm h)]
    rfl

/-- A builder that adds directives when it does not fail adds them to its own. -/
theorem collected_withBuilder
    {act : Builder → Reported (Except OperationFault Answer × Builder)} {added : List Directive}
    (hact : ∀ b, (act b).value.2.directives =
      b.directives ++ if (act b).value.1.isOk then added else [])
    (s : Session) (builder name : Text) :
    (s.withBuilder builder act).value.2.collected name =
      if (s.withBuilder builder act).value.1.isOk then
        withAdded name builder added (s.collected name)
      else s.collected name := by
  unfold withBuilder
  cases hb : s.builders.lookup builder with
  | none => rfl
  | some found =>
    obtain ⟨b, drain⟩ := found
    show (s.putBuilder builder (act b).value.2 drain).collected name =
      if (act b).value.1.isOk then _ else _
    rw [collected_putBuilder, hact, withAdded]
    by_cases hname : builder = name
    · have hown : s.collected name = some b.directives := by
        rw [collected, ← hname, hb]
        rfl
      rw [if_pos hname, if_pos hname, hown]
      split
      · rfl
      · rw [List.append_nil]
    · rw [if_neg hname, if_neg hname, ite_self]

/-- One operation. -/
theorem collected_perform [CharacterNames] (w : World) (s : Session) (op : Operation)
    (name : Text) :
    (s.perform w op).value.2.collected name =
      if (s.perform w op).value.1.isOk then op.collect name w (s.collected name)
      else s.collected name := by
  cases op with
  | openBuilder builder drain =>
    rw [perform]
    cases s.drain? drain with
    | none => rfl
    | some drain => exact collected_putBuilder s builder {} drain name
  | addDirective builder module level =>
    refine collected_withBuilder (fun b => ?_) s builder name
    cases hadd : b.addNamed module level with
    | ok b' => exact Builder.directives_addNamed hadd
    | error fault => exact (List.append_nil _).symm
  | chooseStrategy builder strategy =>
    refine collected_withBuilder (fun b => ?_) s builder name
    exact (Builder.directives_choose b _).trans (List.append_nil _).symm
  | addSpec builder t =>
    refine collected_withBuilder (fun b => ?_) s builder name
    rw [Reported.value_bind]
    cases hread : (b.parse t).run.value with
    | ok b' => exact Builder.directives_parse hread
    | error fault => exact (List.append_nil _).symm
  | takeSettings builder variableName start =>
    refine collected_withBuilder (fun b => ?_) s builder name
    have htaken := b.directives_takeSettings w variableName start
    rw [Reported.value_bind]
    revert htaken
    cases (b.takeSettings w variableName start).value with
    | mk b' fault =>
      cases fault with
      | none => exact id
      | some fault => exact id
  | build builder logger =>
    rw [perform]
    cases s.builders.lookup builder with
    | none => rfl
    | some found => rfl
  | buildNew drain variableName logger =>
    rw [perform]
    cases s.drain? drain with
    | none => rfl
    | some drain =>
      dsimp only
      rw [Reported.value_bind]
      cases (Builder.sieveOfSettings w variableName).run.value with
      | ok sieve => rfl
      | error fault => rfl
  | enables logger level module =>
    rw [perform]
    cases s.sieves.lookup logger with
    | none => rfl
    | some found => rfl
  | log logger thread r =>
    rw [perform]
    cases s.sieves.lookup logger with
    | none => rfl
    | some found => exact (ite_self _).symm
  | readSpec strategy t => exact (ite_self _).symm
  | findSpec given variableName start => exact (ite_self _).symm
  | findStrategy given variableName start => exact (ite_self _).symm
  | loadEntries path => exact (ite_self _).symm

/-- A history, by induction on it. -/
theorem collected_takeAll [CharacterNames] (s : Session) (ts : List Turn) (name : Text) :
    (s.takeAll ts).session.collected name =
      accumulate name (s.collected name) ts (s.takeAll ts).answers := by
  induction ts generalizing s with
  | nil => rfl
  | cons t rest ih =>
    have hstep := collected_perform t.world s t.operation name
    rw [takeAll, take, performUnder_eq]
    dsimp only
    rw [ih, hstep]
    rfl

/-! ## 3. What building leaves alone -/

/-- The sessions have the same builders, but maybe for what these are in front of, and builders can
be opened in front of the same things, but maybe for the logger of a name. -/
structure SameBuilders (logger : Text) (s s' : Session) : Prop where
  drains : s.drains = s'.drains
  builders : ∀ name,
    (s.builders.lookup name).map Prod.fst = (s'.builders.lookup name).map Prod.fst
  loggers : ∀ name, name ≠ logger →
    (s.sieves.lookup name).isSome = (s'.sieves.lookup name).isSome

section Same

variable {logger : Text} {s s' : Session}

/-- A logger more makes no difference. -/
theorem sameBuilders_putLogger_self (s : Session) (logger : Text) (sieve : Sieve) (drain : Drain) :
    SameBuilders logger (s.putLogger logger sieve drain) s where
  drains := rfl
  builders _ := rfl
  loggers name hname := by
    show (List.lookup name ((logger, _) :: s.sieves)).isSome = _
    rw [List.lookup_cons, beq_false_of_ne hname]

theorem sameBuilders_putBuilder (h : SameBuilders logger s s') (name : Text) (b : Builder)
    (drain drain' : Drain) :
    SameBuilders logger (s.putBuilder name b drain) (s'.putBuilder name b drain') where
  drains := h.drains
  builders name' := by
    show (List.lookup name' ((name, b, drain) :: s.builders)).map _ =
      (List.lookup name' ((name, b, drain') :: s'.builders)).map _
    rw [List.lookup_cons, List.lookup_cons]
    split
    · rfl
    · exact h.builders name'
  loggers := h.loggers

theorem sameBuilders_putLogger (h : SameBuilders logger s s') (name : Text) (sieve sieve' : Sieve)
    (drain drain' : Drain) :
    SameBuilders logger (s.putLogger name sieve drain) (s'.putLogger name sieve' drain') where
  drains := h.drains
  builders := h.builders
  loggers name' hname := by
    show (List.lookup name' ((name, _) :: s.sieves)).isSome =
      (List.lookup name' ((name, _) :: s'.sieves)).isSome
    rw [List.lookup_cons, List.lookup_cons]
    split
    · rfl
    · exact h.loggers name' hname

/-- What can be put in front of something in one session can in the other one. -/
theorem drain?_cases (h : SameBuilders logger s s') {drain : Option Text}
    (hdrain : drain ≠ some logger) :
    (s.drain? drain = none ∧ s'.drain? drain = none) ∨
      ∃ found found', s.drain? drain = some found ∧ s'.drain? drain = some found' := by
  cases drain with
  | none => exact .inr ⟨_, _, rfl, rfl⟩
  | some name =>
    have hname : name ≠ logger := fun heq => hdrain (congrArg some heq)
    have hbuilt := h.loggers name hname
    unfold drain?
    dsimp only
    rw [h.drains]
    cases s'.drains.lookup name with
    | some found => exact .inr ⟨_, _, rfl, rfl⟩
    | none =>
      revert hbuilt
      cases s.sieves.lookup name with
      | none =>
        cases s'.sieves.lookup name with
        | none => exact fun _ => .inl ⟨rfl, rfl⟩
        | some found => exact nofun
      | some found =>
        cases s'.sieves.lookup name with
        | none => exact nofun
        | some found' => exact fun _ => .inr ⟨_, _, rfl, rfl⟩

/-- A builder is there in both sessions or in none. -/
theorem builders_cases (h : SameBuilders logger s s') (name : Text) :
    (s.builders.lookup name = none ∧ s'.builders.lookup name = none) ∨
      ∃ b drain drain', s.builders.lookup name = some (b, drain) ∧
        s'.builders.lookup name = some (b, drain') := by
  have hfound := h.builders name
  cases hb : s.builders.lookup name with
  | none =>
    rw [hb] at hfound
    exact .inl ⟨rfl, Option.map_eq_none_iff.mp hfound.symm⟩
  | some found =>
    obtain ⟨b, drain⟩ := found
    rw [hb] at hfound
    obtain ⟨⟨b', drain'⟩, hb', hsame⟩ := Option.map_eq_some_iff.mp hfound.symm
    cases hsame
    exact .inr ⟨b, drain, drain', rfl, hb'⟩

/-- A builder does the same in both sessions. -/
theorem sameBuilders_withBuilder (h : SameBuilders logger s s') (name : Text)
    (act : Builder → Reported (Except OperationFault Answer × Builder)) :
    SameBuilders logger (s.withBuilder name act).value.2 (s'.withBuilder name act).value.2 := by
  unfold withBuilder
  rcases builders_cases h name with ⟨hs, hs'⟩ | ⟨_, _, _, hs, hs'⟩
  · rw [hs, hs']
    exact h
  · rw [hs, hs']
    exact sameBuilders_putBuilder h name _ _ _

variable [CharacterNames]

/-- What is built from a builder is the same in both sessions. -/
theorem answer_build (h : SameBuilders logger s s') (w : World) (name built : Text) :
    (s.perform w (.build name built)).value.1 = (s'.perform w (.build name built)).value.1 ∧
      SameBuilders logger (s.perform w (.build name built)).value.2
        (s'.perform w (.build name built)).value.2 := by
  rw [perform, perform]
  rcases builders_cases h name with ⟨hs, hs'⟩ | ⟨_, _, _, hs, hs'⟩
  · rw [hs, hs']
    exact ⟨rfl, h⟩
  · rw [hs, hs']
    exact ⟨rfl, sameBuilders_putLogger h built _ _ _ _⟩

/-- One operation leaves the builders the same. -/
theorem sameBuilders_perform (h : SameBuilders logger s s') (w : World) {op : Operation}
    (hop : op.drain? ≠ some logger) :
    SameBuilders logger (s.perform w op).value.2 (s'.perform w op).value.2 := by
  cases op with
  | readSpec strategy t => exact h
  | openBuilder name drain =>
    have hdrain : drain ≠ some logger := hop
    rw [perform, perform]
    rcases drain?_cases h hdrain with ⟨hs, hs'⟩ | ⟨_, _, hs, hs'⟩
    · rw [hs, hs']
      exact h
    · rw [hs, hs']
      exact sameBuilders_putBuilder h name _ _ _
  | addDirective name module level => exact sameBuilders_withBuilder h name _
  | chooseStrategy name strategy => exact sameBuilders_withBuilder h name _
  | addSpec name t => exact sameBuilders_withBuilder h name _
  | takeSettings name variableName start => exact sameBuilders_withBuilder h name _
  | build name built => exact (answer_build h w name built).2
  | buildNew drain variableName built =>
    have hdrain : drain ≠ some logger := hop
    rw [perform, perform]
    rcases drain?_cases h hdrain with ⟨hs, hs'⟩ | ⟨_, _, hs, hs'⟩
    · rw [hs, hs']
      exact h
    · rw [hs, hs']
      dsimp only
      rw [Reported.value_bind, Reported.value_bind]
      cases (Builder.sieveOfSettings w variableName).run.value with
      | ok sieve => exact sameBuilders_putLogger h built _ _ _ _
      | error fault => exact h
  | enables built level module =>
    have hkept (s : Session) : (s.perform w (.enables built level module)).value.2 = s := by
      rw [perform]
      cases s.sieves.lookup built with
      | none => rfl
      | some found => rfl
    rw [hkept, hkept]
    exact h
  | log built thread r =>
    have hkept (s : Session) :
        ∃ store, (s.perform w (.log built thread r)).value.2 = { s with store } := by
      rw [perform]
      cases s.sieves.lookup built with
      | none => exact ⟨s.store, rfl⟩
      | some found => exact ⟨_, rfl⟩
    obtain ⟨store, hs⟩ := hkept s
    obtain ⟨store', hs'⟩ := hkept s'
    rw [hs, hs']
    exact ⟨h.drains, h.builders, h.loggers⟩
  | findSpec given variableName start => exact h
  | findStrategy given variableName start => exact h
  | loadEntries path => exact h

/-- A history leaves the builders the same, by induction on it. -/
theorem sameBuilders_takeAll (h : SameBuilders logger s s') {ts : List Turn}
    (hts : ∀ t ∈ ts, t.operation.drain? ≠ some logger) :
    SameBuilders logger (s.takeAll ts).session (s'.takeAll ts).session := by
  induction ts generalizing s s' with
  | nil => exact h
  | cons t rest ih =>
    obtain ⟨ht, hrest⟩ := List.forall_mem_cons.mp hts
    rw [takeAll, takeAll, take, take, performUnder_eq, performUnder_eq]
    exact ih (sameBuilders_perform h t.world ht) hrest

end Same

/-! ## 4. The loggers of a history -/

section Loggers

variable [CharacterNames]

/-- Nothing is built from a builder that is not there. -/
theorem take_build_of_none {s : Session} {builder : Text} (h : s.collected builder = none)
    (d : Diagnostics) (w : World) (logger : Text) :
    s.take ⟨d, w, .build builder logger⟩ = ([], .error (.unknown builder), s) := by
  rw [take, performUnder_eq, perform, Option.map_eq_none_iff.mp h]
  rfl

/-- Building puts a logger beside the others and does nothing else. -/
theorem take_build {s : Session} {builder : Text} {b : Builder} {drain : Drain}
    (h : s.builders.lookup builder = some (b, drain)) (d : Diagnostics) (w : World)
    (logger : Text) :
    s.take ⟨d, w, .build builder logger⟩ =
      ([], .ok (.sieve b.build), s.putLogger logger b.build drain) := by
  rw [take, performUnder_eq, perform, h]
  rfl

/-- A logger is built from the settings alone when they make a sieve. -/
theorem answer_take_buildNew {w : World} {variableName : Option Text} {sieve : Sieve}
    (h : (Builder.sieveOfSettings w variableName).run.value = .ok sieve) (s : Session)
    (d : Diagnostics) (logger : Text) :
    (s.take ⟨d, w, .buildNew none variableName logger⟩).2.1 = .ok (.sieve sieve) := by
  have hdrain : s.drain? none = some .discard := rfl
  rw [take, performUnder_eq, perform, hdrain]
  dsimp only
  rw [Reported.value_bind, h]
  rfl

/-- A logger from the settings alone is built from what the settings add. -/
theorem isArrangement_buildNew {w : World} {s : Session} {drain variableName : Option Text}
    {logger : Text} {sieve : Sieve}
    (h : (s.perform w (.buildNew drain variableName logger)).value.1 = .ok (.sieve sieve)) :
    IsArrangement (Builder.Call.takeSettings w variableName none).directives sieve.directives := by
  rw [perform] at h
  cases hdrain : s.drain? drain with
  | none =>
    rw [hdrain] at h
    cases h
  | some found =>
    rw [hdrain] at h
    dsimp only at h
    rw [Reported.value_bind, Builder.sieveOfSettings, Builder.value_buildFromSettings] at h
    have htaken := ({} : Builder).directives_takeSettings w variableName none
    revert htaken h
    obtain ⟨b, fault⟩ := (({} : Builder).takeSettings w variableName none).value
    cases fault with
    | none =>
      intro h htaken
      cases h
      have hb : b.directives = (Builder.Call.takeSettings w variableName none).directives := htaken
      rw [← hb]
      exact b.isArrangement_build
    | some fault =>
      intro h
      cases h

/-- **Every logger has the directives that its builder has collected, arranged, and building one
changes no other.** This is after any history of operations, some of which may have failed, some of
which may have been building. A builder that has not been opened builds nothing. One that has been
opened builds the arrangement of what it has accumulated; the builders stay as they are, so it
builds the same at once again, and if it is told more before, it builds what it would have built had
the first logger not been there, and so does every other builder. What has been put in front of that
logger could not have been opened without it, so this is left out. The logger that is built from the
settings alone has the arrangement of what they hold. -/
theorem every_logger_isArrangement (drains : List (Text × Drain)) (ts : List Turn) :
    let past := ({ drains } : Session).takeAll ts
    let s := past.session
    (∀ builder, match accumulated builder ts past.answers with
      | none => ∀ d w logger,
        s.take ⟨d, w, .build builder logger⟩ = ([], .error (.unknown builder), s)
      | some ds => ∃ sieve drain, IsArrangement ds sieve.directives ∧
        ∀ d w logger, let built := s.putLogger logger sieve drain
          s.take ⟨d, w, .build builder logger⟩ = ([], .ok (.sieve sieve), built) ∧
          built.builders = s.builders ∧
          (∀ d w again, built.take ⟨d, w, .build builder again⟩ =
            ([], .ok (.sieve sieve), built.putLogger again sieve drain)) ∧
          ∀ more, (∀ t ∈ more, t.operation.drain? ≠ some logger) → ∀ d w builder again,
            ((built.takeAll more).session.take ⟨d, w, .build builder again⟩).2.1 =
              ((s.takeAll more).session.take ⟨d, w, .build builder again⟩).2.1) ∧
    ∀ d w drain variableName logger sieve,
      (s.take ⟨d, w, .buildNew drain variableName logger⟩).2.1 = .ok (.sieve sieve) →
        IsArrangement (Builder.Call.takeSettings w variableName none).directives
          sieve.directives := by
  intro past s
  refine ⟨fun builder => ?_, fun d w drain variableName logger sieve h => ?_⟩
  · have hcollected : s.collected builder = accumulated builder ts past.answers :=
      collected_takeAll { drains } ts builder
    rw [← hcollected]
    cases hb : s.builders.lookup builder with
    | none =>
      have hnone : s.collected builder = none := Option.map_eq_none_iff.mpr hb
      rw [hnone]
      exact take_build_of_none hnone
    | some found =>
      obtain ⟨b, drain⟩ := found
      have hsome : s.collected builder = some b.directives := by
        rw [collected, hb]
        rfl
      rw [hsome]
      refine ⟨b.build, drain, b.isArrangement_build, fun d w logger => ?_⟩
      refine ⟨take_build hb d w logger, rfl, ?_, ?_⟩
      · intro d w again
        have hbuilt : (s.putLogger logger b.build drain).builders.lookup builder =
            some (b, drain) := hb
        exact take_build hbuilt d w again
      · intro more hmore d w builder again
        have hsame :=
          sameBuilders_takeAll (sameBuilders_putLogger_self s logger b.build drain) hmore
        rw [take, take, performUnder_eq, performUnder_eq]
        exact (answer_build hsame w builder again).1
  · rw [take, performUnder_eq] at h
    exact isArrangement_buildNew h

end Loggers

attribute [local instance] CharacterNames.common

/-- **Equal lengths, a level that is none, and a logger in between.** The first logger is built
before the last directive is added, which goes behind the other one for the same prefix. -/
theorem every_logger_isArrangement_with_ties :
    let history : List Turn := [⟨{}, {}, .openBuilder "b" none⟩,
      ⟨{}, {}, .addSpec "b" "bb=info,aa=debug,warn"⟩,
      ⟨{}, {}, .addDirective "b" none (.text "loud")⟩, ⟨{}, {}, .build "b" "first"⟩,
      ⟨{}, {}, .addDirective "b" (some "aa") (.text "trace")⟩]
    let s := (({} : Session).takeAll history).session
    let more : List Turn := [⟨{}, {}, .openBuilder "c" (some "first")⟩,
      ⟨{}, {}, .addSpec "b" "c=error"⟩]
    let w : World := { environment := [("ENVLOG", "web=info,warn")] }
    ∃ sieve drain,
      s.take ⟨{}, {}, .build "b" "second"⟩ =
        ([], .ok (.sieve sieve), s.putLogger "second" sieve drain) ∧
      IsArrangement [⟨some "bb", .info⟩, ⟨some "aa", .debug⟩, ⟨none, .warning⟩,
        ⟨some "aa", .trace⟩] sieve.directives ∧
      (((s.putLogger "second" sieve drain).takeAll more).session.take
          ⟨{}, {}, .build "b" "third"⟩).2.1 =
        ((s.takeAll more).session.take ⟨{}, {}, .build "b" "third"⟩).2.1 ∧
      ∃ sieve', (s.take ⟨{}, w, .buildNew none (some "ENVLOG") "new"⟩).2.1 = .ok (.sieve sieve') ∧
        IsArrangement [⟨some "web", .info⟩, ⟨none, .warning⟩] sieve'.directives := by
  intro history s more w
  obtain ⟨hbuilds, hnew⟩ := every_logger_isArrangement [] history
  have haccumulated : accumulated "b" history (({} : Session).takeAll history).answers =
      some [⟨some "bb", .info⟩, ⟨some "aa", .debug⟩, ⟨none, .warning⟩, ⟨some "aa", .trace⟩] := by
    decide +kernel
  have hadded : (Builder.Call.takeSettings w (some "ENVLOG") none).directives =
      [⟨some "web", .info⟩, ⟨none, .warning⟩] := by
    decide +kernel
  have hb := hbuilds "b"
  rw [haccumulated] at hb
  obtain ⟨sieve, drain, harranged, hbuild⟩ := hb
  obtain ⟨htake, -, -, hmore⟩ := hbuild {} {} "second"
  have hbefore : ∀ t ∈ more, t.operation.drain? ≠ some "second" := by
    decide +kernel
  have hok : (Builder.sieveOfSettings w (some "ENVLOG")).run.value.isOk = true := by
    decide +kernel
  cases hsettings : (Builder.sieveOfSettings w (some "ENVLOG")).run.value with
  | error fault =>
    rw [hsettings] at hok
    cases hok
  | ok sieve' =>
    have hdone := answer_take_buildNew hsettings s {} "new"
    refine ⟨sieve, drain, htake, harranged, hmore more hbefore {} {} "b" "third", sieve', hdone, ?_⟩
    rw [← hadded]
    exact hnew {} w none (some "ENVLOG") "new" _ hdone

end Session

end LogSieve
