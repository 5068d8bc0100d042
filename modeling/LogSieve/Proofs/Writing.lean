import LogSieve.Proofs.Reading

/-!
# What is written is read back

A specification is written as its directives, separated by commas, and its filter text behind a
slash. Reading finds the three kinds of separators again where writing has put them, as long as
modules are trimmed and have none in them, and the filter text has no slash.

* `IsPath`, `Directive.IsWritable`: the modules and directives that can be written;
* `meaning_text`: a directive is what its written form stands for;
* `cutAt_written`, `tokensOf_written`: the separators are found again;
* `parse_text`: a specification is read back, and nothing is wrong with it;
* `parse_of_written`: the same, said of directives and a filter text.
-/

namespace LogSieve

/-! ## 1. What can be written -/

/-- A path that can stand in a specification: trimmed, and without separators. -/
structure IsPath (m : Text) : Prop where
  trim_eq : m.trim = m
  no_comma : ',' ∉ m
  no_equals : '=' ∉ m
  no_slash : '/' ∉ m

instance (m : Text) : Decidable (IsPath m) :=
  decidable_of_iff (m.trim = m ∧ ',' ∉ m ∧ '=' ∉ m ∧ '/' ∉ m)
    ⟨fun ⟨ht, hc, he, hs⟩ => ⟨ht, hc, he, hs⟩, fun ⟨ht, hc, he, hs⟩ => ⟨ht, hc, he, hs⟩⟩

/-- A directive that can stand in a specification. -/
def Directive.IsWritable (d : Directive) : Prop := ∀ m ∈ d.module, IsPath m

instance (d : Directive) : Decidable d.IsWritable :=
  inferInstanceAs (Decidable (∀ m ∈ d.module, IsPath m))

/-- The name of a level is written like a path. -/
theorem Level.isPath_name (l : Level) : IsPath l.name := by cases l <;> decide

theorem Level.isAllBlank_name (l : Level) : l.name.isAllBlank = false := by cases l <;> rfl

namespace Directive

variable {d : Directive}

/-- The written form is a token: neither a comma nor a slash is in it. -/
theorem IsWritable.not_mem_text (h : d.IsWritable) : ',' ∉ d.text ∧ '/' ∉ d.text := by
  have hl := d.level.isPath_name
  unfold text
  cases hm : d.module with
  | none => exact ⟨hl.no_comma, hl.no_slash⟩
  | some m =>
    have hp := h m hm
    constructor
    · simp [hp.no_comma, hl.no_comma]
    · simp [hp.no_slash, hl.no_slash]

/-- The written form is not passed over. -/
theorem isAllBlank_text (d : Directive) : d.text.isAllBlank = false := by
  have hl := d.level.isAllBlank_name
  unfold text
  cases d.module with
  | none => exact hl
  | some m =>
    rw [Text.isAllBlank] at hl ⊢
    rw [List.all_append, List.all_cons, hl, Bool.and_false, Bool.and_false]

end Directive

namespace Spec

/-- Directives and a filter text in their written form. -/
def written (ds : List Directive) (pattern : Option Text) : Text :=
  Text.joinWith "," (ds.map Directive.text) ++ (pattern.map ('/' :: ·)).getD []

theorem text_eq_written (s : Spec) :
    s.text = written s.directives (s.filter.map Filter.pattern) := by
  unfold text written
  cases s.filter with
  | none => exact (List.append_nil _).symm
  | some f => rfl

/-! ## 2. Tokens -/

/-- A directive is what its written form stands for. -/
theorem meaning_text {d : Directive} (h : d.IsWritable) : meaning d.text = .ok d := by
  obtain ⟨module, l⟩ := d
  have hl := l.isPath_name
  unfold Directive.text
  cases module with
  | none =>
    dsimp only
    rw [meaning_word hl.no_equals, Level.parse_name]
  | some m =>
    have hp : IsPath m := h m rfl
    dsimp only
    rw [meaning_assigned hp.no_equals hl.no_equals, l.isAllBlank_name, if_neg (by decide),
      hl.trim_eq, Level.parse_name]
    dsimp only
    rw [hp.trim_eq]

/-! ## 3. Whole specifications -/

section Written

variable {ds : List Directive} {pattern : Option Text}

/-- The directives do not reach beyond the slash. -/
theorem not_mem_joinWith_text (hds : ∀ d ∈ ds, d.IsWritable) :
    '/' ∉ Text.joinWith "," (ds.map Directive.text) :=
  Text.not_mem_joinWith (by decide) (List.forall_mem_map.mpr fun d hd => (hds d hd).not_mem_text.2)

/-- The slash in front of the filter text is the only one. -/
theorem cutAt_written (hds : ∀ d ∈ ds, d.IsWritable) (hp : ∀ p ∈ pattern, '/' ∉ p) :
    (written ds pattern).cutAt '/' = (Text.joinWith "," (ds.map Directive.text), pattern) ∧
      ¬ 2 ≤ (written ds pattern).count '/' := by
  have hj := not_mem_joinWith_text hds
  unfold written
  cases pattern with
  | none =>
    rw [Option.map_none, Option.getD_none, List.append_nil, Text.cutAt_of_not_mem hj,
      List.count_eq_zero_of_not_mem hj]
    exact ⟨rfl, by decide⟩
  | some p =>
    rw [Option.map_some, Option.getD_some, Text.cutAt_append hj, List.count_append,
      List.count_cons_self, List.count_eq_zero_of_not_mem hj,
      List.count_eq_zero_of_not_mem (hp p rfl)]
    exact ⟨rfl, by decide⟩

theorem filterText?_written (hds : ∀ d ∈ ds, d.IsWritable) (hp : ∀ p ∈ pattern, '/' ∉ p) :
    filterText? (written ds pattern) = pattern := by
  obtain ⟨hcut, hcount⟩ := cutAt_written hds hp
  rw [filterText?, if_neg hcount, hcut]

/-- The tokens are the written forms of the directives. -/
theorem tokensOf_written (hds : ∀ d ∈ ds, d.IsWritable) (hp : ∀ p ∈ pattern, '/' ∉ p) :
    tokensOf (written ds pattern) = ds.map Directive.text := by
  obtain ⟨hcut, hcount⟩ := cutAt_written hds hp
  rw [tokensOf, if_neg hcount, hcut]
  cases ds with
  | nil => rfl
  | cons d rest =>
    have hcomma : ∀ piece ∈ (d :: rest).map Directive.text, ',' ∉ piece :=
      List.forall_mem_map.mpr fun e he => (hds e he).not_mem_text.1
    have hkeep : ∀ piece ∈ (d :: rest).map Directive.text, (!piece.isAllBlank) = true :=
      List.forall_mem_map.mpr fun e _ => by rw [e.isAllBlank_text, Bool.not_false]
    have hsplit := Text.splitOn_joinWith (List.cons_ne_nil _ _) hcomma
    exact (congrArg (List.filter _) hsplit).trans (List.filter_eq_self.mpr hkeep)

theorem directivesOf_written (hds : ∀ d ∈ ds, d.IsWritable) (hp : ∀ p ∈ pattern, '/' ∉ p) :
    directivesOf (written ds pattern) = ds := by
  rw [directivesOf, tokensOf_written hds hp]
  clear hp
  induction ds with
  | nil => rfl
  | cons d rest ih =>
    obtain ⟨hd, hrest⟩ := List.forall_mem_cons.mp hds
    have hread : directive? d.text = some d := by
      rw [directive?, meaning_text hd]
      rfl
    rw [List.map_cons, List.filterMap_cons_some hread, ih hrest]

/-- All that is said is which directives there are. -/
theorem directiveNotices_of_written (hds : ∀ d ∈ ds, d.IsWritable) (hp : ∀ p ∈ pattern, '/' ∉ p) :
    directiveNotices (written ds pattern) = ds.map found := by
  rw [directiveNotices, if_neg (cutAt_written hds hp).2, tokensOf_written hds hp, List.map_map]
  refine List.map_congr_left ?_
  intro d hd
  rw [Function.comp_apply, noticeOf, meaning_text (hds d hd)]

end Written

/-- What a directive has been found to be is no warning. -/
theorem filter_isWarning_map_found (ds : List Directive) :
    (ds.map found).filter isWarning = [] := by
  rw [List.filter_eq_nil_iff]
  intro n hn
  obtain ⟨d, _, rfl⟩ := List.mem_map.mp hn
  exact Bool.false_ne_true

/-- A specification is read back from its written form, under the strategy of its filter. -/
theorem parse_text [CharacterNames] {s : Spec} (strategy : Value)
    (hds : ∀ d ∈ s.directives, d.IsWritable)
    (hf : ∀ f ∈ s.filter, '/' ∉ f.pattern ∧ Filter.buildNamed strategy f.pattern = .ok f) :
    (parse strategy s.text).run = ⟨s.directives.map found, .ok s⟩ := by
  obtain ⟨ds, filter⟩ := s
  have hp : ∀ p ∈ filter.map Filter.pattern, '/' ∉ p := by
    intro p hp
    obtain ⟨f, hm, rfl⟩ := Option.map_eq_some_iff.mp hp
    exact (hf f hm).1
  rw [text_eq_written, parse_run, filterText?_written hds hp, directiveNotices_of_written hds hp,
    directivesOf_written hds hp]
  cases filter with
  | none => rfl
  | some f =>
    dsimp only [Option.map_some]
    rw [readFilter_run, (hf f rfl).2]
    exact congrArg (Reported.mk · _) (List.append_nil _)

/-- **What is written is read back.** Whatever the directives, as long as their modules can be
written, whatever the strategy, and whatever filter text it makes a filter of, or none: reading
returns the directives in their order and the filter of that text under that strategy, and has no
warning to give. -/
theorem parse_of_written [CharacterNames] {ds : List Directive} (hds : ∀ d ∈ ds, d.IsWritable)
    (strategy : Value) {pattern : Option Text}
    (hp : ∀ p ∈ pattern, '/' ∉ p ∧ ∃ f, Filter.buildNamed strategy p = .ok f) :
    ∃ filter : Option Filter,
      filter.map Filter.pattern = pattern ∧
      (∀ f ∈ filter, strategy = .text f.strategy.name ∧
        Filter.buildNamed strategy f.pattern = .ok f) ∧
      (parse strategy (written ds pattern)).run.value = .ok ⟨ds, filter⟩ ∧
      (parse strategy (written ds pattern)).run.notices.filter isWarning = [] := by
  obtain ⟨filter, hpattern, hfilter⟩ : ∃ filter : Option Filter,
      filter.map Filter.pattern = pattern ∧ ∀ f ∈ filter, strategy = .text f.strategy.name ∧
        '/' ∉ f.pattern ∧ Filter.buildNamed strategy f.pattern = .ok f := by
    cases pattern with
    | none => exact ⟨none, rfl, nofun⟩
    | some p =>
      obtain ⟨hslash, f, hf⟩ := hp p rfl
      obtain ⟨hname, hpf⟩ := Filter.eq_name_of_buildNamed hf
      refine ⟨some f, congrArg some hpf, ?_⟩
      intro g hg
      cases hg
      rw [hpf]
      exact ⟨hname, hslash, hf⟩
  have hread := parse_text (s := ⟨ds, filter⟩) strategy hds fun f hf => (hfilter f hf).2
  rw [text_eq_written, hpattern] at hread
  refine ⟨filter, hpattern, ?_, ?_, ?_⟩
  · intro f hf
    exact ⟨(hfilter f hf).1, (hfilter f hf).2.2⟩
  · rw [hread]
  · rw [hread]
    exact filter_isWarning_map_found ds

attribute [local instance] CharacterNames.common

/-- **Modules that look like levels.** Of the five directives two are named like a level, one is of
the empty prefix and one of every module; the filter text has the other separators in it. -/
theorem parse_of_written_levels :
    let ds : List Directive := [⟨none, .info⟩, ⟨some [], .warning⟩, ⟨some "info", .trace⟩,
      ⟨some "3", .off⟩, ⟨some "a b", .debug⟩]
    (∀ d ∈ ds, d.IsWritable) ∧
      ∃ f : Filter, f.pattern = ("x=(y,z)" : Text) ∧ f.strategy = .regex ∧
        (parse (.text "regex") "info,=warning,info=trace,3=off,a b=debug/x=(y,z)").run.value =
          .ok ⟨ds, some f⟩ := by
  intro ds
  have hds : ∀ d ∈ ds, d.IsWritable := by decide +kernel
  have hp : ∀ p ∈ some ("x=(y,z)" : Text), '/' ∉ p ∧
      ∃ f, Filter.buildNamed (.text "regex") p = .ok f := by
    intro p hp
    cases hp
    refine ⟨by decide, ?_⟩
    have hok : (Filter.buildNamed (.text "regex") "x=(y,z)").isOk = true := by decide +kernel
    cases hf : Filter.buildNamed (.text "regex") "x=(y,z)" with
    | ok f => exact ⟨f, rfl⟩
    | error fault =>
      rw [hf] at hok
      cases hok
  obtain ⟨filter, hpattern, hname, hread, _⟩ := parse_of_written hds (.text "regex") hp
  cases filter with
  | none => cases hpattern
  | some f =>
    refine ⟨hds, f, Option.some.inj hpattern, ?_, hread⟩
    have hn := (hname f rfl).1
    cases hs : f.strategy with
    | regex => rfl
    | substring =>
      rw [hs] at hn
      exact absurd (Value.text.inj hn) (by decide)

end Spec

end LogSieve
