import LogSieve.Proofs.Composing

/-!
# The order of independent directives

Which levels of a module pass hangs on the longest prefix of the module that has a directive, and on
the last directive of this prefix. So it does not matter in which order directives of different
prefixes are added, nor what a directive says that a later one of the same prefix overrides.

* `lastLevel?`, `SameLast`: what a list of directives gives each prefix in the end;
* `Governs.lastLevel?_eq`: the governing directive has the last level of its prefix;
* `SameLast.exists_governs`: lists with the same last levels are governed by the same levels;
* `Builder.decideAlike_of_sameLast`: the sieves of such histories;
* `Builder.decideAlike_of_rearranging`: the same, with the changes to a history that come to it.
-/

namespace LogSieve

/-! ## 1. Last levels -/

/-- The level that the last directive of a prefix gives, if it has one. A directive for every module
counts as one of the empty prefix. -/
def lastLevel? (ds : List Directive) (stem : Text) : Option Level :=
  (ds.filter (·.stem = stem)).getLast?.map Directive.level

/-- Each prefix has the same last level in both lists, or in neither. -/
def SameLast (ds es : List Directive) : Prop := ∀ stem, lastLevel? ds stem = lastLevel? es stem

section LastLevels

variable {ds es : List Directive} {d : Directive} {m : Text}

theorem lastLevel?_append (ds es : List Directive) (stem : Text) :
    lastLevel? (ds ++ es) stem = (lastLevel? es stem).or (lastLevel? ds stem) := by
  unfold lastLevel?
  rw [List.filter_append, List.getLast?_append]
  cases (es.filter (·.stem = stem)).getLast? with
  | none => rfl
  | some e => rfl

theorem lastLevel?_singleton (d : Directive) : lastLevel? [d] d.stem = some d.level := by
  unfold lastLevel?
  rw [List.filter_cons_of_pos (by simp)]
  rfl

theorem lastLevel?_eq_none_iff {stem : Text} :
    lastLevel? ds stem = none ↔ ∀ d ∈ ds, d.stem ≠ stem := by
  unfold lastLevel?
  rw [Option.map_eq_none_iff, List.getLast?_eq_none_iff, List.filter_eq_nil_iff]
  simp

theorem exists_of_lastLevel?_eq_some {stem : Text} {l : Level} (h : lastLevel? ds stem = some l) :
    ∃ d ∈ ds, d.stem = stem ∧ d.level = l := by
  obtain ⟨d, hd, hl⟩ := Option.map_eq_some_iff.mp h
  obtain ⟨hmem, hstem⟩ := List.mem_filter.mp (List.mem_of_getLast? hd)
  exact ⟨d, hmem, of_decide_eq_true hstem, hl⟩

instance (ds es : List Directive) : Decidable (SameLast ds es) :=
  decidable_of_iff (∀ d ∈ ds ++ es, lastLevel? ds d.stem = lastLevel? es d.stem) <| by
    constructor
    · intro h stem
      by_cases hs : ∃ d ∈ ds ++ es, d.stem = stem
      · obtain ⟨d, hd, rfl⟩ := hs
        exact h d hd
      · rw [lastLevel?_eq_none_iff.mpr fun d hd he => hs ⟨d, List.mem_append_left _ hd, he⟩,
          lastLevel?_eq_none_iff.mpr fun d hd he => hs ⟨d, List.mem_append_right _ hd, he⟩]
    · exact fun h d _ => h d.stem

/-! ## 2. Governing directives -/

/-- The governing directive has the last level of its prefix. -/
theorem Governs.lastLevel?_eq (h : Governs ds m d) : lastLevel? ds d.stem = some d.level := by
  obtain ⟨ha, earlier, later, rfl, _, hlater⟩ := h
  have hnone : lastLevel? later d.stem = none := by
    refine lastLevel?_eq_none_iff.mpr fun e he hs => ?_
    have hae : e.AppliesTo m := by
      rw [e.appliesTo_iff_stem, hs, ← d.appliesTo_iff_stem]
      exact ha
    have hlt := hlater e he hae
    rw [Directive.specificity, hs] at hlt
    exact Nat.lt_irrefl _ hlt
  have hd : lastLevel? (d :: later) d.stem = some d.level := by
    rw [← List.singleton_append, lastLevel?_append, hnone, lastLevel?_singleton]
    rfl
  rw [lastLevel?_append, hd]
  rfl

/-- What governs a module in one list has, in a list with the same last levels, a directive that
applies to the module and is as specific. -/
theorem SameLast.exists_appliesTo (h : SameLast ds es) (hd : Governs ds m d) :
    ∃ e ∈ es, e.AppliesTo m ∧ e.specificity = d.specificity := by
  have hlast : lastLevel? es d.stem = some d.level := by
    rw [← h d.stem]
    exact hd.lastLevel?_eq
  obtain ⟨e, he, hs, _⟩ := exists_of_lastLevel?_eq_some hlast
  refine ⟨e, he, ?_, congrArg List.length hs⟩
  rw [e.appliesTo_iff_stem, hs, ← d.appliesTo_iff_stem]
  exact hd.1

/-- Lists with the same last levels are governed by the same levels. -/
theorem SameLast.exists_governs (h : SameLast ds es) (hd : Governs ds m d) :
    ∃ e, Governs es m e ∧ e.level = d.level := by
  obtain ⟨c, hc, hac, hcd⟩ := h.exists_appliesTo hd
  obtain ⟨e, he⟩ := LogSieve.exists_governs hc hac
  obtain ⟨c', hc', hac', hce⟩ := SameLast.exists_appliesTo (fun stem => (h stem).symm) he
  have hlen : e.stem.length = d.stem.length := by
    have h1 : c.specificity ≤ e.specificity := he.specificity_le hc hac
    have h2 : c'.specificity ≤ d.specificity := hd.specificity_le hc' hac'
    rw [hcd] at h1
    rw [hce] at h2
    exact Nat.le_antisymm h2 h1
  -- both are prefixes of the module, so being equally long they are the same
  have hstem : e.stem = d.stem := by
    have hpe := (e.appliesTo_iff_stem m).mp he.1
    have hpd := (d.appliesTo_iff_stem m).mp hd.1
    exact (List.prefix_of_prefix_length_le hpe hpd (Nat.le_of_eq hlen)).eq_of_length hlen
  refine ⟨e, he, ?_⟩
  have hle := he.lastLevel?_eq
  rw [hstem, ← h d.stem, hd.lastLevel?_eq] at hle
  exact (Option.some.inj hle).symm

/-! ## 3. Changes that keep last levels -/

/-- Directives of one prefix stay in their order. -/
theorem SameLast.of_filter_eq
    (h : ∀ stem, ds.filter (·.stem = stem) = es.filter (·.stem = stem)) : SameLast ds es :=
  fun stem => congrArg (fun fs : List Directive => fs.getLast?.map Directive.level) (h stem)

/-- Directives are given again before there are others of their prefixes. -/
theorem SameLast.of_repeated (ds : List Directive) {es fs : List Directive} (gs : List Directive)
    (h : ∀ e ∈ es, ∀ f ∈ fs, f.stem ≠ e.stem) :
    SameLast (ds ++ (es ++ (fs ++ (es ++ gs)))) (ds ++ (es ++ (fs ++ gs))) := by
  intro stem
  simp only [lastLevel?_append]
  cases hl : lastLevel? es stem with
  | none => simp
  | some l =>
    have hfs : lastLevel? fs stem = none := by
      obtain ⟨e, he, rfl, _⟩ := exists_of_lastLevel?_eq_some hl
      exact lastLevel?_eq_none_iff.mpr (h e he)
    rw [hfs]
    cases lastLevel? gs stem with
    | none => rfl
    | some l' => rfl

/-- A directive is given that a later one overrides. -/
theorem SameLast.of_overridden (ds : List Directive) (h : ∃ e ∈ es, e.stem = d.stem) :
    SameLast (ds ++ d :: es) (ds ++ es) := by
  intro stem
  rw [← List.singleton_append (l := es), lastLevel?_append, lastLevel?_append, lastLevel?_append]
  cases hl : lastLevel? es stem with
  | some l => rfl
  | none =>
    have hd : lastLevel? [d] stem = none := by
      refine lastLevel?_eq_none_iff.mpr fun c hc hs => ?_
      obtain ⟨e, he, hes⟩ := h
      rw [List.mem_singleton.mp hc] at hs
      exact lastLevel?_eq_none_iff.mp hl e he (hes.trans hs)
    rw [hd]
    rfl

end LastLevels

/-! ## 4. Histories that decide alike -/

namespace Builder

/-- The directives that a history adds. -/
def added (cs : List Call) : List Directive := cs.flatMap Call.directives

/-- The sieves built after two histories, if neither fails, let the same levels of the same modules
through. -/
def DecideAlike [CharacterNames] (cs cs' : List Call) : Prop :=
  ∀ b b' : Builder, (({} : Builder).calls cs).run.value = .ok b →
    (({} : Builder).calls cs').run.value = .ok b' →
    ∀ l m, b.build.enables l m = b'.build.enables l m

/-- The call adds a directive at a level that there is, or reads a specification without a slash. -/
def Call.IsAdding : Call → Prop
  | add .. => True
  | addNamed _ level => ∃ l, Level.ofValue level = .ok l
  | parse t => '/' ∉ t
  | choose _ | takeSettings .. => False

instance : DecidablePred Call.IsAdding
  | .add .. => .isTrue trivial
  | .addNamed _ level =>
    match h : Level.ofValue level with
    | .ok l => .isTrue ⟨l, h⟩
    | .error _ => .isFalse fun ⟨_, hl⟩ => nomatch h.symm.trans hl
  | .parse t => inferInstanceAs (Decidable ('/' ∉ t))
  | .choose _ | .takeSettings .. => .isFalse id

theorem added_append (cs cs' : List Call) : added (cs ++ cs') = added cs ++ added cs' :=
  List.flatMap_append

theorem added_cons (c : Call) (cs : List Call) : added (c :: cs) = c.directives ++ added cs :=
  List.flatMap_cons

theorem sameLast_orErrorsOnly {ds es : List Directive} (h : SameLast ds es) :
    SameLast (orErrorsOnly ds) (orErrorsOnly es) := by
  have hmem : ∀ {fs gs : List Directive}, SameLast fs gs → gs = [] → fs = [] := by
    rintro fs _ hfg rfl
    refine List.eq_nil_iff_forall_not_mem.mpr fun d hd => ?_
    exact lastLevel?_eq_none_iff.mp (hfg d.stem) d hd rfl
  unfold orErrorsOnly
  by_cases hd : ds = []
  · rw [if_pos hd, if_pos (hmem (fun stem => (h stem).symm) hd)]
    exact fun _ => rfl
  · rw [if_neg hd, if_neg fun he => hd (hmem h he)]
    exact h

/-- Histories with the same last levels decide alike. -/
theorem decideAlike_of_sameLast [CharacterNames] {cs cs' : List Call}
    (h : SameLast (added cs) (added cs')) : DecideAlike cs cs' := by
  intro b b' hb hb' l m
  have hds : b.directives = added cs := directives_calls hb
  have hds' : b'.directives = added cs' := directives_calls hb'
  have hsame : SameLast (orErrorsOnly b.directives) (orErrorsOnly b'.directives) := by
    rw [hds, hds']
    exact sameLast_orErrorsOnly h
  rw [Bool.eq_iff_iff, enables_build_iff, enables_build_iff]
  constructor
  · rintro ⟨d, hd, hoff, hle⟩
    obtain ⟨e, he, hl⟩ := hsame.exists_governs hd
    exact ⟨e, he, hoff, hl ▸ hle⟩
  · rintro ⟨d, hd, hoff, hle⟩
    obtain ⟨e, he, hl⟩ := SameLast.exists_governs (fun stem => (hsame stem).symm) hd
    exact ⟨e, he, hoff, hl ▸ hle⟩

/-- One addition does not fail. -/
theorem exists_of_call_isAdding [CharacterNames] {c : Call} (hc : c.IsAdding) (b : Builder) :
    ∃ b', (b.call c).run.value = .ok b' := by
  cases c with
  | add module level => exact ⟨_, rfl⟩
  | addNamed module level =>
    obtain ⟨l, hl⟩ := hc
    rw [call, addNamed, hl]
    exact ⟨_, rfl⟩
  | parse t =>
    refine ⟨b.taking ⟨Spec.directivesOf t, none⟩, (value_call_parse_iff _ _ _).mpr ?_⟩
    rw [run_parse, Spec.run_parse_of_not_mem _ hc]
    rfl
  | choose name => cases hc
  | takeSettings w variableName start => cases hc

/-- Nor do several of them. -/
theorem exists_of_calls_isAdding [CharacterNames] {cs : List Call} (h : ∀ c ∈ cs, c.IsAdding)
    (b : Builder) : ∃ b', (b.calls cs).run.value = .ok b' := by
  induction cs generalizing b with
  | nil => exact ⟨b, rfl⟩
  | cons c rest ih =>
    obtain ⟨hc, hrest⟩ := List.forall_mem_cons.mp h
    obtain ⟨between, hbetween⟩ := exists_of_call_isAdding hc b
    obtain ⟨b', hb'⟩ := ih hrest between
    rw [calls, List.foldlM_cons]
    exact ⟨b', (Reported.value_run_bind_eq_ok_iff _ _ _).mpr ⟨between, hbetween, hb'⟩⟩

/-- **The order of independent directives does not matter.** Additions, and readings of
specifications without a slash, do not fail. Two histories in which each prefix has the same last
level build sieves that decide alike about all levels and all modules. In particular the decisions
stay when
* directives are permuted, or moved to other calls, in such a way that those of each prefix stay in
  their order;
* the tokens of a specification are divided differently among the readings of it;
* a call is made again before another one adds to its prefixes;
* a directive is left out that a later one of its prefix overrides. -/
theorem decideAlike_of_rearranging [CharacterNames] :
    (∀ cs, (∀ c ∈ cs, c.IsAdding) → ∃ b, (({} : Builder).calls cs).run.value = .ok b) ∧
    (∀ cs cs', SameLast (added cs) (added cs') → DecideAlike cs cs') ∧
    (∀ cs cs', (∀ stem, (added cs).filter (·.stem = stem) = (added cs').filter (·.stem = stem)) →
      DecideAlike cs cs') ∧
    (∀ before after ts ts', (∀ t ∈ ts ++ ts', '/' ∉ t) →
      Text.joinWith "," ts = Text.joinWith "," ts' →
      DecideAlike (before ++ (ts.map .parse ++ after)) (before ++ (ts'.map .parse ++ after))) ∧
    (∀ before between after c, (∀ d ∈ c.directives, ∀ e ∈ added between, e.stem ≠ d.stem) →
      DecideAlike (before ++ c :: (between ++ c :: after)) (before ++ c :: (between ++ after))) ∧
    (∀ cs cs' ds d es, added cs = ds ++ d :: es → added cs' = ds ++ es →
      (∃ e ∈ es, e.stem = d.stem) → DecideAlike cs cs') := by
  refine ⟨?_, ?_, ?_, ?_, ?_, ?_⟩
  · exact fun cs h => exists_of_calls_isAdding h {}
  · exact fun cs cs' h => decideAlike_of_sameLast h
  · exact fun cs cs' h => decideAlike_of_sameLast (.of_filter_eq h)
  · intro before after ts ts' hslash hjoin
    have hread : ∀ us : List Text, (∀ t ∈ us, '/' ∉ t) →
        added (us.map .parse) = Spec.directivesOf (Text.joinWith "," us) := by
      intro us hus
      rw [Spec.directivesOf_joinWith hus, added, List.flatMap_map]
      rfl
    refine decideAlike_of_sameLast ?_
    rw [added_append, added_append, added_append, added_append, hread ts, hread ts', hjoin]
    · exact fun _ => rfl
    · exact fun t ht => hslash t (List.mem_append_right _ ht)
    · exact fun t ht => hslash t (List.mem_append_left _ ht)
  · intro before between after c hbetween
    refine decideAlike_of_sameLast ?_
    rw [added_append, added_append, added_cons, added_cons, added_append, added_append, added_cons]
    exact .of_repeated (added before) (added after) hbetween
  · intro cs cs' ds d es hcs hcs' hover
    refine decideAlike_of_sameLast ?_
    rw [hcs, hcs']
    exact .of_overridden ds hover

attribute [local instance] CharacterNames.common

/-- **A history put in another order.** The tokens of different prefixes have changed places, one of
them has become a call of its own, `web` is given a level that is overridden, and a directive for
every module has become one of the empty prefix. -/
theorem decideAlike_of_rearranging_web :
    ∃ b b', (({} : Builder).calls [.add none .info, .parse "web=warn,app=debug",
        .addNamed (some "web") (.text "off")]).run.value = .ok b ∧
      (({} : Builder).calls [.parse "app=debug,web=trace", .parse "web=off",
        .add (some []) .info]).run.value = .ok b' ∧
      ∀ l m, b.build.enables l m = b'.build.enables l m := by
  obtain ⟨hends, hkeep, _⟩ := decideAlike_of_rearranging
  obtain ⟨b, hb⟩ := hends [.add none .info, .parse "web=warn,app=debug",
    .addNamed (some "web") (.text "off")] (by
      intro c hc
      simp only [List.mem_cons, List.not_mem_nil, or_false] at hc
      rcases hc with rfl | rfl | rfl
      · trivial
      · exact (by decide : '/' ∉ ("web=warn,app=debug" : Text))
      · exact ⟨.off, rfl⟩)
  obtain ⟨b', hb'⟩ := hends [.parse "app=debug,web=trace", .parse "web=off",
    .add (some []) .info] (by
      intro c hc
      simp only [List.mem_cons, List.not_mem_nil, or_false] at hc
      rcases hc with rfl | rfl | rfl
      · exact (by decide : '/' ∉ ("app=debug,web=trace" : Text))
      · exact (by decide : '/' ∉ ("web=off" : Text))
      · trivial)
  exact ⟨b, b', hb, hb', hkeep _ _ (by decide +kernel) b b' hb hb'⟩

end Builder

end LogSieve
