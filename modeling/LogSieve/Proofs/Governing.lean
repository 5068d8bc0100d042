import LogSieve.Builder

/-!
# Which directive governs a module

A sieve looks through arranged directives from behind and takes the first one that covers the
module. Said of the directives in the order in which they were added: it is one with the longest
prefix among those that apply, and the last one of these.

* `Directive.AppliesTo`, `Governs`: the rule, without arranging anything;
* `Governs.unique`: it leaves no choice;
* `find_arrange_iff`: looking through the arranged directives follows it;
* `Builder.directiveFor_build_iff`, `Builder.enables_build_iff`: what a sieve that has been built
  does.
-/

namespace LogSieve

/-! ## 1. The rule -/

/-- The directive is for every module, or for a prefix of this one. -/
def Directive.AppliesTo (d : Directive) (m : Text) : Prop :=
  d.module = none ∨ ∃ stem, d.module = some stem ∧ stem <+: m

/-- The directive governs the module among the directives of a list: no other one that applies has a
longer prefix, and none that is further back has one as long. -/
def Governs (ds : List Directive) (m : Text) (d : Directive) : Prop :=
  d.AppliesTo m ∧ ∃ earlier later, ds = earlier ++ d :: later ∧
    (∀ e ∈ earlier, e.AppliesTo m → e.specificity ≤ d.specificity) ∧
    ∀ e ∈ later, e.AppliesTo m → e.specificity < d.specificity

section Rule

variable {ds : List Directive} {m : Text} {d e : Directive}

/-- To apply is to cover. -/
theorem Directive.appliesTo_iff (d : Directive) (m : Text) :
    d.AppliesTo m ↔ d.covers m = true := by
  rw [covers_iff, AppliesTo, stem]
  cases d.module with
  | none => exact iff_of_true (.inl rfl) List.nil_prefix
  | some stem =>
    constructor
    · rintro (h | ⟨_, h, hp⟩)
      · cases h
      · cases h
        exact hp
    · exact fun hp => .inr ⟨stem, rfl, hp⟩

theorem Directive.appliesTo_iff_stem (d : Directive) (m : Text) : d.AppliesTo m ↔ d.stem <+: m := by
  rw [appliesTo_iff, covers_iff]

theorem Governs.mem (h : Governs ds m d) : d ∈ ds := by
  obtain ⟨_, earlier, later, rfl, _, _⟩ := h
  exact List.mem_append_right _ List.mem_cons_self

/-- Nothing that applies is more specific. -/
theorem Governs.specificity_le (h : Governs ds m d) {e : Directive} (he : e ∈ ds)
    (ha : e.AppliesTo m) : e.specificity ≤ d.specificity := by
  obtain ⟨_, earlier, later, rfl, hearlier, hlater⟩ := h
  rcases List.mem_append.mp he with he | he
  · exact hearlier e he ha
  · rcases List.mem_cons.mp he with rfl | he
    · exact Nat.le_refl _
    · exact Nat.le_of_lt (hlater e he ha)

/-- Of two directives that apply, the one behind cannot be both less specific and at least as
specific. -/
theorem Directive.not_appliesTo_of_behind {before mid after : List Directive}
    (hlt : ∀ c ∈ mid ++ e :: after, c.AppliesTo m → c.specificity < d.specificity)
    (hle : ∀ c ∈ before ++ d :: mid, c.AppliesTo m → c.specificity ≤ e.specificity)
    (hd : d.AppliesTo m) : ¬ e.AppliesTo m := by
  intro he
  have h1 := hlt e (List.mem_append_right _ List.mem_cons_self) he
  have h2 := hle d (List.mem_append_right _ List.mem_cons_self) hd
  omega

/-- The rule leaves no choice. -/
theorem Governs.unique (hd : Governs ds m d) (he : Governs ds m e) : d = e := by
  obtain ⟨had, before, after, rfl, hbefore, hafter⟩ := hd
  obtain ⟨hae, before', after', hs, hbefore', hafter'⟩ := he
  rcases List.append_eq_append_iff.mp hs with ⟨mid, rfl, ha⟩ | ⟨mid, rfl, ha⟩
  · cases mid with
    | nil => exact (List.cons.inj ha).1
    | cons c mid =>
      obtain ⟨rfl, rfl⟩ := List.cons.inj ha
      exact absurd hae (Directive.not_appliesTo_of_behind hafter hbefore' had)
  · cases mid with
    | nil => exact (List.cons.inj ha).1.symm
    | cons c mid =>
      obtain ⟨rfl, rfl⟩ := List.cons.inj ha
      exact absurd had (Directive.not_appliesTo_of_behind hafter' hbefore hae)

/-! ## 2. Looking through arranged directives -/

/-- What stands in front of a directive among the arranged ones has no longer prefix, and what
stands behind it no shorter one. -/
theorem specificity_of_arrange_eq {front back : List Directive}
    (h : Directive.arrange ds = front ++ d :: back) :
    (∀ e ∈ front, e.specificity ≤ d.specificity) ∧ ∀ e ∈ back, d.specificity ≤ e.specificity := by
  have hs := Directive.pairwise_arrange ds
  rw [h, List.pairwise_append, List.pairwise_cons] at hs
  obtain ⟨_, ⟨hback, _⟩, hfront⟩ := hs
  exact ⟨fun e he => hfront e he d List.mem_cons_self, hback⟩

/-- The last arranged directive that applies governs. -/
theorem governs_of_arrange_eq {front back : List Directive}
    (h : Directive.arrange ds = front ++ d :: back) (hd : d.AppliesTo m)
    (hback : ∀ e ∈ back, ¬ e.AppliesTo m) : Governs ds m d := by
  have hle : ∀ e ∈ ds, e.AppliesTo m → e.specificity ≤ d.specificity := by
    intro e he ha
    have hmem : e ∈ front ++ d :: back := h ▸ (Directive.perm_arrange ds).mem_iff.mpr he
    rcases List.mem_append.mp hmem with hf | hb
    · exact (specificity_of_arrange_eq h).1 e hf
    · rcases List.mem_cons.mp hb with rfl | hb
      · exact Nat.le_refl _
      · exact absurd ha (hback e hb)
  -- the directives with a prefix as long as that of `d` stand in the same order in both lists
  have hf := Directive.filter_arrange d.specificity ds
  rw [h, List.filter_append, List.filter_cons_of_pos (by simp)] at hf
  obtain ⟨before, rest, rfl, _, hrest⟩ := List.filter_eq_append_iff.mp hf.symm
  obtain ⟨between, after, rfl, _, _, hafter⟩ := List.filter_eq_cons_iff.mp hrest
  refine ⟨hd, before ++ between, after, by simp, ?_, ?_⟩
  · intro e he
    refine hle e ?_
    rcases List.mem_append.mp he with hb | hb
    · exact List.mem_append_left _ hb
    · exact List.mem_append_right _ (List.mem_append_left _ hb)
  · intro e he ha
    have hmem : e ∈ before ++ (between ++ d :: after) :=
      List.mem_append_right _ (List.mem_append_right _ (List.mem_cons_of_mem _ he))
    refine Nat.lt_of_le_of_ne (hle e hmem ha) fun hn => ?_
    have hin : e ∈ back.filter (·.specificity = d.specificity) := by
      rw [← hafter]
      exact List.mem_filter.mpr ⟨he, decide_eq_true hn⟩
    exact hback e (List.mem_filter.mp hin).1 ha

/-- Looking from behind finds the directive that governs. -/
theorem find_arrange_iff :
    (Directive.arrange ds).reverse.find? (·.covers m) = some d ↔ Governs ds m d := by
  have hsome : ∀ e, (Directive.arrange ds).reverse.find? (·.covers m) = some e →
      Governs ds m e := by
    intro e h
    obtain ⟨hc, back, front, hs, hb⟩ := List.find?_eq_some_iff_append.mp h
    have harr : Directive.arrange ds = front.reverse ++ e :: back.reverse := by
      rw [← List.reverse_reverse (Directive.arrange ds), hs]
      simp
    refine governs_of_arrange_eq harr ((e.appliesTo_iff m).mpr hc) ?_
    intro c hc ha
    have hn := hb c (List.mem_reverse.mp hc)
    rw [(c.appliesTo_iff m).mp ha] at hn
    cases hn
  constructor
  · exact hsome d
  · intro h
    cases hf : (Directive.arrange ds).reverse.find? (·.covers m) with
    | some e => rw [h.unique (hsome e hf)]
    | none =>
      have hmem : d ∈ (Directive.arrange ds).reverse :=
        List.mem_reverse.mpr ((Directive.perm_arrange ds).mem_iff.mpr h.mem)
      exact absurd ((d.appliesTo_iff m).mp h.1) (List.find?_eq_none.mp hf d hmem)

/-- A module that a directive applies to is governed. -/
theorem exists_governs (hd : d ∈ ds) (ha : d.AppliesTo m) : ∃ e, Governs ds m e := by
  cases hf : (Directive.arrange ds).reverse.find? (·.covers m) with
  | some e => exact ⟨e, find_arrange_iff.mp hf⟩
  | none =>
    have hmem : d ∈ (Directive.arrange ds).reverse :=
      List.mem_reverse.mpr ((Directive.perm_arrange ds).mem_iff.mpr hd)
    exact absurd ((d.appliesTo_iff m).mp ha) (List.find?_eq_none.mp hf d hmem)

end Rule

instance (d : Directive) (m : Text) : Decidable (d.AppliesTo m) :=
  decidable_of_iff _ (d.appliesTo_iff m).symm

instance (ds : List Directive) (m : Text) (d : Directive) : Decidable (Governs ds m d) :=
  decidable_of_iff _ find_arrange_iff

/-! ## 3. Sieves that have been built -/

namespace Builder

/-- The directives, or the one for errors if there are none. -/
def orErrorsOnly (ds : List Directive) : List Directive := if ds = [] then [errorsOnly] else ds

/-- A sieve that has been built has its directives arranged. -/
theorem directives_build (b : Builder) :
    b.build.directives = Directive.arrange (orErrorsOnly b.directives) := by
  rw [build, orErrorsOnly]
  cases b.directives with
  | nil => rfl
  | cons d rest => rfl

/-- A sieve that has been built has its directives in order. -/
theorem pairwise_build (b : Builder) :
    b.build.directives.Pairwise fun d e => d.specificity ≤ e.specificity := by
  rw [directives_build]
  exact Directive.pairwise_arrange _

theorem mem_build_iff (b : Builder) (d : Directive) :
    d ∈ b.build.directives ↔ d ∈ orErrorsOnly b.directives := by
  rw [directives_build]
  exact (Directive.perm_arrange _).mem_iff

/-- A sieve that has been built has a directive. -/
theorem build_ne_nil (b : Builder) : b.build.directives ≠ [] := by
  have hne : ∃ d, d ∈ orErrorsOnly b.directives := by
    unfold orErrorsOnly
    split
    · exact ⟨errorsOnly, List.mem_cons_self⟩
    · rename_i h
      exact List.exists_mem_of_ne_nil _ h
  obtain ⟨d, hd⟩ := hne
  exact List.ne_nil_of_mem ((b.mem_build_iff d).mpr hd)

theorem directiveFor_build_iff (b : Builder) (m : Text) (d : Directive) :
    b.build.directiveFor m = some d ↔ Governs (orErrorsOnly b.directives) m d := by
  rw [Sieve.directiveFor, directives_build, find_arrange_iff]

theorem directiveFor_build_eq_none_iff (b : Builder) (m : Text) :
    b.build.directiveFor m = none ↔ ∀ d ∈ orErrorsOnly b.directives, ¬ d.AppliesTo m := by
  rw [Sieve.directiveFor_eq_none_iff]
  constructor
  · intro h d hd ha
    have hc := h d ((b.mem_build_iff d).mpr hd)
    rw [(d.appliesTo_iff m).mp ha] at hc
    cases hc
  · intro h d hd
    have hn := h d ((b.mem_build_iff d).mp hd)
    rw [d.appliesTo_iff m] at hn
    exact Bool.eq_false_iff.mpr hn

theorem enables_build_iff (b : Builder) (l : Level) (m : Text) :
    b.build.enables l m = true ↔
      ∃ d, Governs (orErrorsOnly b.directives) m d ∧ Level.off < l ∧ l ≤ d.level := by
  rw [Sieve.enables_iff]
  constructor
  · rintro ⟨d, hd, hl⟩
    exact ⟨d, (b.directiveFor_build_iff m d).mp hd, hl⟩
  · rintro ⟨d, hd, hl⟩
    exact ⟨d, (b.directiveFor_build_iff m d).mpr hd, hl⟩

end Builder

end LogSieve
