import LogSieve.CommandLine.Command
import LogSieve.Proofs.Rearranging

/-!
# The levels that modules reach

The greatest level of a sieve is the most talkative level of a directive. A directive governs no
module at all once a later one has the same prefix, so its level may be beyond what any module
reaches. What is reached goes by the last levels of the prefixes: a prefix is itself a module, and
its last directive governs it.

* `exists_governs_of_lastLevel?_eq`: the last directive of a prefix governs the prefix;
* `lastLevel?_of_nodup`: where no prefix is repeated, each directive is the last of its prefix;
* `Builder.exists_enables_build_iff`: the levels that a module reaches;
* `Builder.enables_maxLevel_iff`: whether the greatest level is among them.
-/

namespace LogSieve

/-! ## 1. Prefixes as modules -/

section Prefixes

variable {ds : List Directive} {d : Directive}

/-- The last directive of a prefix governs the module that is this prefix. -/
theorem exists_governs_of_lastLevel?_eq {stem : Text} {l : Level}
    (h : lastLevel? ds stem = some l) : ∃ d, Governs ds stem d ∧ d.level = l := by
  obtain ⟨c, hc, rfl, _⟩ := exists_of_lastLevel?_eq_some h
  have ha : c.AppliesTo c.stem := (c.appliesTo_iff_stem _).mpr List.prefix_rfl
  obtain ⟨d, hd⟩ := exists_governs hc ha
  -- a prefix of the module that is no shorter is the module
  have hprefix := (d.appliesTo_iff_stem _).mp hd.1
  have hstem : d.stem = c.stem :=
    hprefix.eq_of_length (Nat.le_antisymm hprefix.length_le (hd.specificity_le hc ha))
  have hlast := hd.lastLevel?_eq
  rw [hstem, h] at hlast
  exact ⟨d, hd, (Option.some.inj hlast).symm⟩

/-- Where no prefix has two directives, none is overridden. -/
theorem lastLevel?_of_nodup (h : (ds.map Directive.stem).Nodup) (hd : d ∈ ds) :
    lastLevel? ds d.stem = some d.level := by
  obtain ⟨earlier, later, rfl⟩ := List.append_of_mem hd
  rw [List.map_append, List.map_cons, List.nodup_append, List.nodup_cons] at h
  obtain ⟨_, ⟨hlater, _⟩, _⟩ := h
  have hnone : lastLevel? later d.stem = none :=
    lastLevel?_eq_none_iff.mpr fun e he hs => hlater (hs ▸ List.mem_map_of_mem he)
  rw [← List.singleton_append, lastLevel?_append, lastLevel?_append, hnone, lastLevel?_singleton]
  rfl

end Prefixes

/-! ## 2. The greatest level -/

namespace Builder

/-- The levels that some module reaches, in a sieve that has been built. -/
theorem exists_enables_build_iff (b : Builder) (l : Level) :
    (∃ m, b.build.enables l m = true) ↔
      Level.off < l ∧ ∃ stem last, lastLevel? (orErrorsOnly b.directives) stem = some last ∧
        l ≤ last := by
  constructor
  · rintro ⟨m, hm⟩
    obtain ⟨d, hd, hoff, hle⟩ := (b.enables_build_iff l m).mp hm
    exact ⟨hoff, d.stem, d.level, hd.lastLevel?_eq, hle⟩
  · rintro ⟨hoff, stem, last, hlast, hle⟩
    obtain ⟨d, hd, hlevel⟩ := exists_governs_of_lastLevel?_eq hlast
    exact ⟨stem, (b.enables_build_iff l stem).mpr ⟨d, hd, hoff, hlevel ▸ hle⟩⟩

theorem nodup_orErrorsOnly {ds : List Directive} (h : (ds.map Directive.stem).Nodup) :
    ((orErrorsOnly ds).map Directive.stem).Nodup := by
  unfold orErrorsOnly
  split
  · exact List.pairwise_singleton _ _
  · exact h

/-- The greatest level is reached exactly when it is the last level of a prefix. -/
theorem exists_enables_maxLevel_iff {b : Builder} (h : b.build.maxLevel ≠ .off) :
    (∃ m, b.build.enables b.build.maxLevel m = true) ↔
      ∃ stem, lastLevel? (orErrorsOnly b.directives) stem = some b.build.maxLevel := by
  rw [exists_enables_build_iff]
  constructor
  · rintro ⟨_, stem, last, hlast, hle⟩
    obtain ⟨d, hd, _, rfl⟩ := exists_of_lastLevel?_eq_some hlast
    have hge : d.level ≤ b.build.maxLevel := Sieve.le_maxLevel ((b.mem_build_iff d).mpr hd)
    rw [Level.rank_inj (Nat.le_antisymm hle hge)]
    exact ⟨stem, hlast⟩
  · rintro ⟨stem, hlast⟩
    exact ⟨Level.off_lt_iff.mpr h, stem, b.build.maxLevel, hlast, Nat.le_refl _⟩

/-- **What is reached of the greatest level.** However a builder came to its directives, no module
goes beyond the greatest level of the sieve. A level is reached exactly when the last directive of
some prefix goes as far. So the greatest level is reached when it is the last level of a prefix, and
not when every directive that has it is overridden by a later one of the same prefix; this cannot be
where no prefix has two directives. -/
theorem enables_maxLevel_iff [CharacterNames] {cs : List Call} {b : Builder}
    (h : (({} : Builder).calls cs).run.value = .ok b) :
    (∀ l m, b.build.enables l m = true → l ≤ b.build.maxLevel) ∧
    (∀ l, (∃ m, b.build.enables l m = true) ↔
      Level.off < l ∧ ∃ stem last, lastLevel? (orErrorsOnly (added cs)) stem = some last ∧
        l ≤ last) ∧
    (b.build.maxLevel ≠ .off →
      ((∃ m, b.build.enables b.build.maxLevel m = true) ↔
        ∃ stem, lastLevel? (orErrorsOnly (added cs)) stem = some b.build.maxLevel) ∧
      (((added cs).map Directive.stem).Nodup →
        ∃ m, b.build.enables b.build.maxLevel m = true)) := by
  have hds : added cs = b.directives := (directives_calls h).symm
  rw [hds]
  refine ⟨fun l m => Sieve.le_maxLevel_of_enables, b.exists_enables_build_iff, ?_⟩
  intro hoff
  refine ⟨exists_enables_maxLevel_iff hoff, fun hnodup => ?_⟩
  obtain ⟨d, hd, hlevel⟩ := Sieve.exists_level_eq_maxLevel hoff
  have hlast := lastLevel?_of_nodup (nodup_orErrorsOnly hnodup) ((b.mem_build_iff d).mp hd)
  rw [hlevel] at hlast
  exact (exists_enables_maxLevel_iff hoff).mpr ⟨d.stem, hlast⟩

attribute [local instance] CharacterNames.common

/-- **One of two directives overridden.** The level of the first directive for `app` is taken back,
but `web` reaches it. -/
theorem enables_maxLevel_of_web :
    ∃ b, (({} : Builder).calls [.add (some "app") .debug,
        .parse "warn,app=info,web=debug"]).run.value = .ok b ∧
      b.build.maxLevel = .debug ∧ (∃ m, b.build.enables .debug m = true) ∧
      ∀ m, b.build.enables .trace m = false := by
  have hadding : ∀ c ∈ [Call.add (some "app") .debug, .parse "warn,app=info,web=debug"],
      c.IsAdding := by decide
  obtain ⟨b, hb⟩ := exists_of_calls_isAdding hadding {}
  obtain ⟨hle, _, hreached⟩ := enables_maxLevel_iff hb
  have hmax : b.build.maxLevel = .debug := by
    rw [Sieve.maxLevel, directives_build, directives_calls hb]
    decide +kernel
  rw [hmax] at hle hreached
  refine ⟨b, hb, hmax, (hreached (by decide)).1.mpr ⟨"web", by decide +kernel⟩, fun m => ?_⟩
  exact Bool.eq_false_iff.mpr fun hm => absurd (hle .trace m hm) (by decide)

/-- **A level that is overridden.** The last directive for `app` takes back the level of the first
one, so that no module reaches trace, and `app` no more than info. The greatest level is trace, and
the command that lists the directives says so. -/
theorem not_enables_maxLevel_of_overridden :
    ∃ b, (({} : Builder).calls [.parse "app=trace,app=info"]).run.value = .ok b ∧
      b.build.maxLevel = .trace ∧ (∀ m, b.build.enables .trace m = false) ∧
      (∀ l m, b.build.enables l m = true → l ≤ .info) ∧ b.build.enables .info "app" = true ∧
      (CommandLine.listing b.build true).getLast? = some "  max level: trace" := by
  have hadding : ∀ c ∈ [Call.parse "app=trace,app=info"], c.IsAdding := by decide
  obtain ⟨b, hb⟩ := exists_of_calls_isAdding hadding {}
  have hds : b.directives = [⟨some "app", .trace⟩, ⟨some "app", .info⟩] :=
    (directives_calls hb).trans (by decide +kernel)
  have hmax : b.build.maxLevel = .trace := by
    rw [Sieve.maxLevel, directives_build, hds]
    decide +kernel
  have hgoverns : ∀ m d, Governs (orErrorsOnly b.directives) m d → d.level = .info := by
    rw [hds, orErrorsOnly, if_neg (List.cons_ne_nil _ _)]
    intro m d hd
    have hmem := hd.mem
    have hlast := hd.lastLevel?_eq
    simp only [List.mem_cons, List.not_mem_nil, or_false] at hmem
    rcases hmem with rfl | rfl
    · cases hlast
    · rfl
  have hinfo : ∀ l m, b.build.enables l m = true → l ≤ .info := by
    intro l m hm
    obtain ⟨d, hd, _, hle⟩ := (b.enables_build_iff l m).mp hm
    exact hgoverns m d hd ▸ hle
  refine ⟨b, hb, hmax, fun m => ?_, hinfo, ?_, ?_⟩
  · exact Bool.eq_false_iff.mpr fun hm => absurd (hinfo .trace m hm) (by decide)
  · rw [Sieve.enables, Sieve.directiveFor, directives_build, hds]
    decide +kernel
  · rw [CommandLine.listing, List.getLast?_append, hmax]
    rfl

end Builder

end LogSieve
