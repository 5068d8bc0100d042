import LogSieve.Proofs.History
import LogSieve.Proofs.Writing

/-!
# A sieve is rebuilt from what it shows

Reading is permissive, but what comes out of it is not: whatever has been read can be written, and
is then read back as it was. A builder that has only read specifications therefore holds nothing
that cannot be written, and the written form of its sieve makes the same sieve again.

* `isWritable_of_meaning`: a token stands for a directive that can be written;
* `Spec.isWritable_of_parse`: a specification that has been read can be written;
* `Builder.isWritable_call`, `Builder.isWritable_calls`: so can what a builder has collected, after
  one call of reading, and by induction after all of them;
* `Builder.build_of_written`: the sieve of the written form.
-/

namespace LogSieve

namespace Spec

/-! ## 1. What is read can be written -/

/-- A specification that can be written. Its filter is the one of its filter text. -/
structure IsWritable [CharacterNames] (s : Spec) : Prop where
  directives : ∀ d ∈ s.directives, d.IsWritable
  filter : ∀ f ∈ s.filter, '/' ∉ f.pattern ∧ Filter.build f.strategy f.pattern = .ok f

theorem isPath_trim {t : Text} (hc : ',' ∉ t) (he : '=' ∉ t) (hs : '/' ∉ t) : IsPath t.trim where
  trim_eq := t.trim_trim
  no_comma h := hc (t.trim_subset h)
  no_equals h := he (t.trim_subset h)
  no_slash h := hs (t.trim_subset h)

/-- A token stands for a directive that can be written, if for any. -/
theorem isWritable_of_meaning {token : Text} {d : Directive} (hc : ',' ∉ token) (hs : '/' ∉ token)
    (h : meaning token = .ok d) : d.IsWritable := by
  unfold meaning at h
  split at h
  · cases h
  · rename_i hcount
    -- what stands in front of the equals sign, or all of it when there is none
    have hpiece := (Text.cutAt_mem_splitOn hcount).1
    have hpath : ∀ l, Directive.IsWritable ⟨some (token.cutAt '=').1.trim, l⟩ := by
      intro l m hm
      cases hm
      exact isPath_trim (fun hm => hc (Text.mem_of_mem_splitOn hpiece hm).2)
        (Text.not_mem_of_mem_splitOn hpiece) (fun hm => hs (Text.mem_of_mem_splitOn hpiece hm).2)
    split at h
    · rename_i hcut
      rw [hcut] at hpath
      split at h
      · cases h
        exact nofun
      · cases h
        exact hpath _
    · rename_i hcut
      rw [hcut] at hpath
      split at h
      · cases h
        exact hpath _
      · split at h
        · cases h
          exact hpath _
        · cases h

/-- Neither commas nor slashes are left in a token. -/
theorem not_mem_of_mem_tokensOf {t token : Text} (h : token ∈ tokensOf t) :
    ',' ∉ token ∧ '/' ∉ token := by
  unfold tokensOf at h
  split at h
  · cases h
  · rename_i hcount
    have hpiece := (List.mem_filter.mp h).1
    have hbefore := (Text.cutAt_mem_splitOn hcount).1
    exact ⟨Text.not_mem_of_mem_splitOn hpiece, fun hm =>
      Text.not_mem_of_mem_splitOn hbefore (Text.mem_of_mem_splitOn hpiece hm).2⟩

theorem not_mem_of_filterText? {t p : Text} (h : filterText? t = some p) : '/' ∉ p := by
  unfold filterText? at h
  split at h
  · cases h
  · rename_i hcount
    exact Text.not_mem_of_mem_splitOn ((Text.cutAt_mem_splitOn hcount).2 p h)

/-- Whatever has been read can be written. -/
theorem isWritable_of_parse [CharacterNames] {name t : Text} {spec : Spec}
    (h : (parse (.text name) t).run.value = .ok spec) : spec.IsWritable := by
  rw [eq_of_parse_eq_ok h]
  constructor
  · intro d hd
    obtain ⟨token, ht, hread⟩ := List.mem_filterMap.mp hd
    obtain ⟨hc, hs⟩ := not_mem_of_mem_tokensOf ht
    refine isWritable_of_meaning hc hs ?_
    unfold directive? at hread
    cases hm : meaning token with
    | ok e =>
      rw [hm] at hread
      cases hread
      rfl
    | error n =>
      rw [hm] at hread
      cases hread
  · intro f hf
    obtain ⟨p, hp, hmake⟩ := Option.bind_eq_some_iff.mp hf
    cases hb : Filter.buildNamed (.text name) p with
    | error fault =>
      rw [hb] at hmake
      cases hmake
    | ok g =>
      rw [hb] at hmake
      cases hmake
      obtain ⟨hn, hpf⟩ := Filter.eq_name_of_buildNamed hb
      rw [hn, Filter.buildNamed_name] at hb
      rw [hpf]
      exact ⟨not_mem_of_filterText? hp, hb⟩

end Spec

/-! ## 2. Builders that read -/

namespace Builder

/-- What a builder has collected. -/
def collected (b : Builder) : Spec := ⟨b.directives, b.filter⟩

/-- The call reads a specification or chooses a strategy. -/
def Call.IsReading : Call → Prop
  | choose _ | parse _ | takeSettings .. => True
  | add .. | addNamed .. => False

section Reading

variable {b b' : Builder}

theorem collected_choose (b : Builder) (name : Value) :
    (b.choose name).value.collected = b.collected := by
  unfold choose
  cases Strategy.ofValue? name with
  | none => rfl
  | some s => rfl

variable [CharacterNames]

theorem isWritable_parse {t : Text} (hb : b.collected.IsWritable)
    (h : (b.parse t).run.value = .ok b') : b'.collected.IsWritable := by
  obtain ⟨spec, hs, rfl⟩ := (value_parse_iff _ _ _).mp h
  have hspec := Spec.isWritable_of_parse hs
  refine ⟨?_, hspec.filter⟩
  intro d hd
  rcases List.mem_append.mp hd with hd | hd
  · exact hb.directives d hd
  · exact hspec.directives d hd

/-- Reading keeps what has been collected writable. -/
theorem isWritable_call {c : Call} (hc : c.IsReading) (hb : b.collected.IsWritable)
    (h : (b.call c).run.value = .ok b') : b'.collected.IsWritable := by
  cases c with
  | add module level => cases hc
  | addNamed module level => cases hc
  | choose name =>
    rw [value_call_choose] at h
    cases h
    rw [collected_choose]
    exact hb
  | parse t => exact isWritable_parse hb ((value_call_parse_iff _ _ _).mp h)
  | takeSettings w variableName start =>
    have h := (value_call_takeSettings_iff _ _ _ _ _).mp h
    have hchosen (name : Text) : (b.choose (.text name)).value.collected.IsWritable := by
      rw [collected_choose]
      exact hb
    rw [value_takeSettings] at h
    split at h
    · cases h
    · split at h
      · cases h
      · cases h
        exact hchosen _
      · split at h
        · rename_i hread
          cases h
          exact isWritable_parse (hchosen _) hread
        · cases h

/-- So does a whole history of reading. -/
theorem isWritable_calls {cs : List Call} (hcs : ∀ c ∈ cs, c.IsReading)
    (hb : b.collected.IsWritable) (h : (b.calls cs).run.value = .ok b') :
    b'.collected.IsWritable := by
  induction cs generalizing b with
  | nil =>
    cases h
    exact hb
  | cons c rest ih =>
    obtain ⟨hc, hrest⟩ := List.forall_mem_cons.mp hcs
    rw [calls, List.foldlM_cons] at h
    obtain ⟨between, hcall, hcalls⟩ := (Reported.value_run_bind_eq_ok_iff _ _ _).mp h
    exact ih hrest (isWritable_call hc hb hcall) hcalls

end Reading

/-! ## 3. Building again -/

/-- The sieve of what can be written can be written itself. -/
theorem isWritable_build [CharacterNames] {b : Builder} (h : b.collected.IsWritable) :
    Spec.IsWritable ⟨b.build.directives, b.build.filter⟩ := by
  refine ⟨?_, h.filter⟩
  intro d hd
  have hmem := (b.mem_build_iff d).mp hd
  unfold orErrorsOnly at hmem
  split at hmem
  · rw [List.mem_singleton.mp hmem]
    exact nofun
  · exact h.directives d hmem

/-- The calls that make a sieve from its written form: the strategy of its filter is chosen, if it
has one, and then the text is read. -/
def callsOf (s : Sieve) : List Call :=
  (s.filter.map fun f => Call.choose (.text f.strategy.name)).toList ++ [.parse s.text]

theorem choose_name (b : Builder) (s : Strategy) :
    (b.choose (.text s.name)).value = { b with strategy := some s } := by
  have hs : Strategy.ofValue? (.text s.name) = some s := Strategy.ofName?_name s
  rw [choose, hs]
  rfl

/-- Under the strategy of its filter, what can be written is read back. -/
theorem value_parse_text [CharacterNames] {b : Builder} {s : Spec} (h : s.IsWritable)
    (hs : ∀ f ∈ s.filter, f.strategy = b.currentStrategy) :
    (b.parse s.text).run.value =
      .ok { b with directives := b.directives ++ s.directives, filter := s.filter } := by
  have hf : ∀ f ∈ s.filter, '/' ∉ f.pattern ∧
      Filter.buildNamed (.text b.currentStrategy.name) f.pattern = .ok f := by
    intro f hf
    rw [← hs f hf, Filter.buildNamed_name]
    exact h.filter f hf
  have hread := congrArg Reported.value (Spec.parse_text _ h.directives hf)
  exact (value_parse_iff _ _ _).mpr ⟨s, hread, rfl⟩

/-- Reading the written form of a sieve collects what the sieve has. -/
theorem collected_callsOf [CharacterNames] {s : Sieve}
    (h : Spec.IsWritable ⟨s.directives, s.filter⟩) :
    ∃ b, (({} : Builder).calls (callsOf s)).run.value = .ok b ∧
      b.collected = ⟨s.directives, s.filter⟩ := by
  -- the builder when its strategy has been chosen
  obtain ⟨chosen, hcalls, hds, hstrategy⟩ : ∃ chosen : Builder,
      (({} : Builder).calls
        (s.filter.map fun f => Call.choose (.text f.strategy.name)).toList).run.value =
          .ok chosen ∧
      chosen.directives = [] ∧ ∀ f ∈ s.filter, f.strategy = chosen.currentStrategy := by
    cases s.filter with
    | none => exact ⟨{}, rfl, rfl, nofun⟩
    | some f =>
      refine ⟨{ strategy := some f.strategy }, ?_, rfl, ?_⟩
      · refine (value_calls_singleton_iff _ _ _).mpr ?_
        rw [value_call_choose, choose_name]
      · intro g hg
        cases hg
        rfl
  have hread := value_parse_text h hstrategy
  rw [hds, List.nil_append] at hread
  refine ⟨{ chosen with directives := s.directives, filter := s.filter }, ?_, rfl⟩
  refine (value_calls_append_iff _ _ _ _).mpr ⟨chosen, hcalls, ?_⟩
  exact (value_calls_singleton_iff _ _ _).mpr ((value_call_parse_iff _ _ _).mpr hread)

/-- Building from what a sieve that has been built has makes it again. -/
theorem build_eq_of_collected {b c : Builder}
    (h : c.collected = ⟨b.build.directives, b.build.filter⟩) : c.build = b.build := by
  obtain ⟨hds, hf⟩ := Spec.mk.inj h
  have hcd : c.build.directives = b.build.directives := by
    rw [directives_build, orErrorsOnly, hds, if_neg b.build_ne_nil,
      Directive.arrange_of_pairwise b.pairwise_build]
  calc c.build = ⟨c.build.directives, c.build.filter⟩ := rfl
    _ = ⟨b.build.directives, b.build.filter⟩ := by rw [hcd]; exact congrArg _ hf
    _ = b.build := rfl

/-- **A sieve is rebuilt from its written form.** Whatever specifications a builder has read and
whatever strategies have been chosen for it, as long as none of the calls has failed: a new builder
for which the strategy of the filter is chosen, if there is one, reads the written form of the sieve
without failing, and builds the same sieve. It has the same directives in the same order and the
same filter, so it is shown in the same way and decides in the same way. -/
theorem build_of_written [CharacterNames] {cs : List Call} (hcs : ∀ c ∈ cs, c.IsReading)
    {b : Builder} (h : (({} : Builder).calls cs).run.value = .ok b) :
    ∃ c, (({} : Builder).calls (callsOf b.build)).run.value = .ok c ∧ c.build = b.build := by
  have hnew : ({} : Builder).collected.IsWritable := ⟨nofun, nofun⟩
  have hb := isWritable_calls hcs hnew h
  obtain ⟨c, hc, hcollected⟩ := collected_callsOf (isWritable_build hb)
  exact ⟨c, hc, build_eq_of_collected hcollected⟩

attribute [local instance] CharacterNames.common

/-- **A plain filter, and what is malformed.** The first specification has a token that is left out
and an expression that makes no filter; after the second one another strategy is chosen, which is
not that of the filter. -/
theorem build_of_written_plain :
    let cs : List Call := [.parse "app = debug,=info, 3 x ,a=b=c/(", .choose (.text "substring"),
      .parse "trace,app=off/a.c", .choose (.text "regex")]
    ∃ b c, (({} : Builder).calls cs).run.value = .ok b ∧
      b.build.text = "=info,trace,app=debug,3 x=trace,app=off/a.c" ∧
      (({} : Builder).calls [.choose (.text "substring"),
        .parse "=info,trace,app=debug,3 x=trace,app=off/a.c"]).run.value = .ok c ∧
      c.build = b.build := by
  intro cs
  have hok : (match (({} : Builder).calls cs).run.value with
      | .ok b => decide (b.build.text = "=info,trace,app=debug,3 x=trace,app=off/a.c" ∧
          b.build.filter.map Filter.strategy = some .substring)
      | .error _ => false) = true := by decide +kernel
  have hcs : ∀ c ∈ cs, c.IsReading := by
    intro c hc
    simp only [cs, List.mem_cons, List.not_mem_nil, or_false] at hc
    rcases hc with rfl | rfl | rfl | rfl <;> trivial
  cases h : (({} : Builder).calls cs).run.value with
  | error fault =>
    rw [h] at hok
    cases hok
  | ok b =>
    rw [h] at hok
    obtain ⟨htext, hstrategy⟩ := of_decide_eq_true hok
    obtain ⟨c, hc, hbuild⟩ := build_of_written hcs h
    obtain ⟨f, hf, hs⟩ := Option.map_eq_some_iff.mp hstrategy
    rw [callsOf, hf, htext, Option.map_some, hs] at hc
    exact ⟨b, c, rfl, htext, hc, hbuild⟩

end Builder

end LogSieve
