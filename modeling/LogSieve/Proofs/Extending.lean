import LogSieve.Proofs.Composing
import LogSieve.Proofs.Writing

/-!
# One directive more

A directive that is written behind a specification is asked about the modules of its prefix, unless
there is a directive with a longer prefix of theirs. About all other modules it has no say, and what
governs them stays.

* `HasLonger`: there is a directive with a longer prefix of the module;
* `governs_append_iff`: what governs stays where the new directive has no say;
* `governs_append_self`: the new directive governs where it has one;
* `Builder.enables_parse_append`: specifications with one directive more.
-/

namespace LogSieve

/-! ## 1. What governs -/

/-- A directive of the list has a longer prefix of the module than this one. -/
def HasLonger (ds : List Directive) (stem m : Text) : Prop :=
  ∃ d ∈ ds, ∃ q, d.module = some q ∧ q <+: m ∧ stem.length < q.length

section Governing

variable {ds : List Directive} {m : Text} {d e : Directive}

/-- Such a directive applies, and is more specific. -/
theorem hasLonger_iff {stem : Text} :
    HasLonger ds stem m ↔ ∃ d ∈ ds, d.AppliesTo m ∧ stem.length < d.specificity := by
  constructor
  · rintro ⟨d, hd, q, hq, hprefix, hlt⟩
    have hstem : d.stem = q := by rw [Directive.stem, hq, Option.getD_some]
    refine ⟨d, hd, .inr ⟨q, hq, hprefix⟩, ?_⟩
    rwa [Directive.specificity, hstem]
  · rintro ⟨d, hd, hn | ⟨q, hq, hprefix⟩, hlt⟩
    · -- no prefix at all is not longer than another one
      have hstem : d.stem = [] := by rw [Directive.stem, hn, Option.getD_none]
      rw [Directive.specificity, hstem] at hlt
      exact absurd hlt (Nat.not_lt_zero _)
    · have hstem : d.stem = q := by rw [Directive.stem, hq, Option.getD_some]
      rw [Directive.specificity, hstem] at hlt
      exact ⟨d, hd, q, hq, hprefix, hlt⟩

instance (ds : List Directive) (stem m : Text) : Decidable (HasLonger ds stem m) :=
  decidable_of_iff _ hasLonger_iff.symm

/-- What governs still does so when a directive is added that has no say. -/
theorem Governs.append (h : Governs ds m d) (he : e.AppliesTo m → HasLonger ds e.stem m) :
    Governs (ds ++ [e]) m d := by
  obtain ⟨hd, earlier, later, hds, hearlier, hlater⟩ := id h
  refine ⟨hd, earlier, later ++ [e], by rw [hds, List.append_assoc, List.cons_append], hearlier, ?_⟩
  intro c hc ha
  rcases List.mem_append.mp hc with hc | hc
  · exact hlater c hc ha
  · rw [List.mem_singleton.mp hc] at ha ⊢
    obtain ⟨longer, hmem, happlies, hlt⟩ := hasLonger_iff.mp (he ha)
    exact Nat.lt_of_lt_of_le hlt (h.specificity_le hmem happlies)

/-- A directive that is added changes nothing where it has no say. -/
theorem governs_append_iff (he : e.AppliesTo m → HasLonger ds e.stem m) :
    Governs (ds ++ [e]) m d ↔ Governs ds m d := by
  constructor
  · intro h
    -- one of the old directives applies, so one of them governs
    have hold : ∃ c ∈ ds, c.AppliesTo m := by
      rcases List.mem_append.mp h.mem with hd | hd
      · exact ⟨d, hd, h.1⟩
      · rw [List.mem_singleton.mp hd] at h
        obtain ⟨longer, hmem, happlies, _⟩ := hasLonger_iff.mp (he h.1)
        exact ⟨longer, hmem, happlies⟩
    obtain ⟨c, hc, ha⟩ := hold
    obtain ⟨g, hg⟩ := exists_governs hc ha
    rw [h.unique (hg.append he)]
    exact hg
  · exact fun h => h.append he

/-- A directive that is added governs where it applies and there is no longer prefix. -/
theorem governs_append_self (ha : e.AppliesTo m) (he : ¬ HasLonger ds e.stem m) :
    Governs (ds ++ [e]) m e := by
  refine ⟨ha, ds, [], rfl, ?_, nofun⟩
  intro c hc happlies
  exact Nat.le_of_not_lt fun hlt => he (hasLonger_iff.mpr ⟨c, hc, happlies, hlt⟩)

end Governing

/-! ## 2. Specifications -/

namespace Spec

theorem directivesOf_text {d : Directive} (h : d.IsWritable) : directivesOf d.text = [d] := by
  have hread : directivesOf (written [d] none) = [d] :=
    directivesOf_written (List.forall_mem_singleton.mpr h) nofun
  rwa [written, Option.map_none, Option.getD_none, List.append_nil] at hread

end Spec

namespace Builder

/-- A builder that has read a specification and one directive more. -/
theorem exists_parse_append [CharacterNames] {s : Text} (hs : '/' ∉ s) {d : Directive}
    (hd : d.IsWritable) (b : Builder) :
    ∃ before after, (b.parse s).run.value = .ok before ∧
      (b.parse (s ++ ',' :: d.text)).run.value = .ok after ∧
      after.directives = before.directives ++ [d] := by
  have hslash : '/' ∉ s ++ ',' :: d.text := by simp [hs, hd.not_mem_text.2]
  refine ⟨b.taking ⟨Spec.directivesOf s, none⟩,
    b.taking ⟨Spec.directivesOf (s ++ ',' :: d.text), none⟩, ?_, ?_, ?_⟩
  · rw [run_parse, Spec.run_parse_of_not_mem _ hs]
    rfl
  · rw [run_parse, Spec.run_parse_of_not_mem _ hslash]
    rfl
  · rw [taking, taking, Spec.directivesOf_append_comma hs (Spec.not_two_le_count hd.not_mem_text.2),
      Spec.directivesOf_text hd, List.append_assoc]

/-- **A directive more is local.** Behind a specification that has a directive and no slash, a
module and a level are written. A module of this prefix that has no longer one among those of the
specification gets exactly this level, even if there is a directive for the same prefix or for every
module. For all other modules, nothing changes. -/
theorem enables_parse_append [CharacterNames] {s p : Text} (hs : '/' ∉ s) (hp : IsPath p)
    (level : Level) (chosen : Option Strategy) :
    ∃ before after,
      (({ strategy := chosen } : Builder).parse s).run.value = .ok before ∧
      (({ strategy := chosen } : Builder).parse (s ++ ',' :: (p ++ '=' :: level.name))).run.value =
        .ok after ∧
      (before.directives ≠ [] → ∀ l m,
        (¬ p <+: m → after.build.enables l m = before.build.enables l m) ∧
        (p <+: m → HasLonger before.directives p m →
          after.build.enables l m = before.build.enables l m) ∧
        (p <+: m → ¬ HasLonger before.directives p m →
          (after.build.enables l m = true ↔ Level.off < l ∧ l ≤ level))) := by
  let e : Directive := ⟨some p, level⟩
  have he : e.IsWritable := fun q hq => Option.some.inj hq ▸ hp
  obtain ⟨before, after, hbefore, hafter, hds⟩ :=
    exists_parse_append hs he ({ strategy := chosen } : Builder)
  refine ⟨before, after, hbefore, hafter, fun hne l m => ?_⟩
  have hold : orErrorsOnly before.directives = before.directives := if_neg hne
  have hnew : orErrorsOnly after.directives = before.directives ++ [e] := by
    rw [hds]
    exact if_neg (List.append_ne_nil_of_left_ne_nil hne _)
  have happlies : e.AppliesTo m ↔ p <+: m := e.appliesTo_iff_stem m
  have hsame : (e.AppliesTo m → HasLonger before.directives p m) →
      after.build.enables l m = before.build.enables l m := by
    intro hyields
    rw [Bool.eq_iff_iff, enables_build_iff, enables_build_iff, hold, hnew]
    exact exists_congr fun d => and_congr_left fun _ => governs_append_iff hyields
  refine ⟨?_, ?_, ?_⟩
  · exact fun hm => hsame fun ha => absurd (happlies.mp ha) hm
  · exact fun _ hlonger => hsame fun _ => hlonger
  · intro hm hlonger
    have hgoverns := governs_append_self (happlies.mpr hm) hlonger
    rw [enables_build_iff, hnew]
    constructor
    · rintro ⟨d, hd, hlevel⟩
      rwa [hd.unique hgoverns] at hlevel
    · exact fun hlevel => ⟨e, hgoverns, hlevel⟩

attribute [local instance] CharacterNames.common

/-- **A prefix that has a level already.** Of the modules that begin with `app`, those below
`app.db` keep their level, and the others get the new one instead of the old one. -/
theorem enables_parse_append_app :
    ∃ before after,
      (({} : Builder).parse "info,app.db=warn,app=error,a=b=c").run.value = .ok before ∧
      (({} : Builder).parse "info,app.db=warn,app=error,a=b=c,app=debug").run.value = .ok after ∧
      before.build.enables .debug "app.http" = false ∧
      after.build.enables .debug "app.http" = true ∧
      after.build.enables .info "app.db.pool" = before.build.enables .info "app.db.pool" ∧
      after.build.enables .info "web" = before.build.enables .info "web" := by
  obtain ⟨before, after, hbefore, hafter, hlocal⟩ := enables_parse_append
    (s := "info,app.db=warn,app=error,a=b=c") (p := "app") (by decide) (by decide) .debug none
  have hds : before.directives =
      [⟨none, .info⟩, ⟨some "app.db", .warning⟩, ⟨some "app", .error⟩] :=
    (directives_parse hbefore).trans (by decide +kernel)
  have hlocal := hlocal (by rw [hds]; exact List.cons_ne_nil _ _)
  have hold : before.build.enables .debug "app.http" = false := by
    rw [Sieve.enables, Sieve.directiveFor, directives_build, hds]
    decide +kernel
  refine ⟨before, after, hbefore, hafter, hold, ?_, ?_, ?_⟩
  · refine ((hlocal .debug "app.http").2.2 (by decide) ?_).mpr (by decide)
    rw [hds]
    decide +kernel
  · refine (hlocal .info "app.db.pool").2.1 (by decide) ?_
    rw [hds]
    decide +kernel
  · exact (hlocal .info "web").1 (by decide)

end Builder

end LogSieve
