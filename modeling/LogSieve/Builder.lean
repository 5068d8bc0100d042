import LogSieve.Sieve

/-!
# Builders

A builder collects directives, by themselves or from specifications, and the filter of the last
specification; the strategy chosen last says how filter texts are read from then on. A builder makes
sieves: it arranges the directives by their prefixes, shorter ones first and equally long ones in
the order in which they were added. Without any directive only errors pass.

* `perm_arrange`, `pairwise_arrange`: arranging loses nothing and sorts;
* `arrange_of_pairwise`: once is enough;
* `filter_arrange`: among directives of one length the order stays;
* `build_eq_build`: making a sieve depends on the directives and the filter only.
-/

namespace LogSieve

/-! ## 1. Arranging directives -/

namespace Directive

/-- Puts a directive in front of the first one that is at least as specific. -/
def insertByLength (d : Directive) : List Directive → List Directive
  | [] => [d]
  | e :: rest =>
    if d.specificity ≤ e.specificity then d :: e :: rest else e :: insertByLength d rest

/-- The directives in the order of their prefixes' lengths. -/
def arrange (ds : List Directive) : List Directive := ds.foldr insertByLength []

theorem perm_insertByLength (d : Directive) (ds : List Directive) :
    (insertByLength d ds).Perm (d :: ds) := by
  induction ds with
  | nil => exact .refl _
  | cons e rest ih =>
    simp only [insertByLength]
    split
    · exact .refl _
    · exact (ih.cons e).trans (.swap d e rest)

/-- Arranging neither loses nor adds a directive. -/
theorem perm_arrange (ds : List Directive) : (arrange ds).Perm ds := by
  induction ds with
  | nil => exact .refl _
  | cons d rest ih => exact (perm_insertByLength d _).trans (ih.cons d)

theorem pairwise_insertByLength {d : Directive} {ds : List Directive}
    (h : ds.Pairwise fun a b => a.specificity ≤ b.specificity) :
    (insertByLength d ds).Pairwise fun a b => a.specificity ≤ b.specificity := by
  induction ds with
  | nil => simp [insertByLength]
  | cons e rest ih =>
    rw [List.pairwise_cons] at h
    simp only [insertByLength]
    split
    · rename_i hle
      refine List.pairwise_cons.2 ⟨?_, List.pairwise_cons.2 h⟩
      intro a ha
      rcases List.mem_cons.1 ha with rfl | ha
      · exact hle
      · exact Nat.le_trans hle (h.1 a ha)
    · rename_i hlt
      refine List.pairwise_cons.2 ⟨?_, ih h.2⟩
      intro a ha
      rcases List.mem_cons.1 ((perm_insertByLength d rest).mem_iff.1 ha) with rfl | ha
      · omega
      · exact h.1 a ha

/-- Arranged directives go from shorter prefixes to longer ones. -/
theorem pairwise_arrange (ds : List Directive) :
    (arrange ds).Pairwise fun a b => a.specificity ≤ b.specificity := by
  induction ds with
  | nil => exact .nil
  | cons d rest ih => exact pairwise_insertByLength ih

/-- What is arranged already stays as it is. -/
theorem arrange_of_pairwise {ds : List Directive}
    (h : ds.Pairwise fun a b => a.specificity ≤ b.specificity) : arrange ds = ds := by
  induction ds with
  | nil => rfl
  | cons d rest ih =>
    obtain ⟨hd, hrest⟩ := List.pairwise_cons.1 h
    rw [arrange, List.foldr_cons, ← arrange, ih hrest]
    cases rest with
    | nil => rfl
    | cons e more => exact if_pos (hd e List.mem_cons_self)

theorem filter_insertByLength (n : Nat) (d : Directive) (ds : List Directive)
    (h : ds.Pairwise fun a b => a.specificity ≤ b.specificity) :
    (insertByLength d ds).filter (·.specificity = n) = (d :: ds).filter (·.specificity = n) := by
  induction ds with
  | nil => rfl
  | cons e rest ih =>
    rw [List.pairwise_cons] at h
    simp only [insertByLength]
    split
    · rfl
    · rename_i hlt
      by_cases he : e.specificity = n
      · have hd : d.specificity ≠ n := by omega
        simp [he, hd, ih h.2]
      · simp [List.filter_cons, he, ih h.2]

/-- Among directives of one length the order stays. -/
theorem filter_arrange (n : Nat) (ds : List Directive) :
    (arrange ds).filter (·.specificity = n) = ds.filter (·.specificity = n) := by
  induction ds with
  | nil => rfl
  | cons d rest ih =>
    rw [arrange, List.foldr_cons, ← arrange, filter_insertByLength n d _ (pairwise_arrange rest)]
    simp [List.filter_cons, ih]

end Directive

/-! ## 2. Builders -/

structure Builder where
  /-- The directives in the order in which they were added. -/
  directives : List Directive := []
  filter : Option Filter := none
  /-- The strategy chosen last, if any. -/
  strategy : Option Strategy := none

namespace Builder

/-- Adds a directive. -/
def add (b : Builder) (module : Option Text) (level : Level) : Builder :=
  { b with directives := b.directives ++ [⟨module, level⟩] }

/-- Adds a directive at the level that a value names. -/
def addNamed (b : Builder) (module : Option Text) (level : Value) : Except Level.Fault Builder :=
  (Level.ofValue level).map (b.add module)

/-- The strategy that filter texts are read under. -/
def currentStrategy (b : Builder) : Strategy := b.strategy.getD .regex

/-- The warning about a name that is no strategy's. -/
def unknownStrategy (b : Builder) (name : Value) : Notice :=
  .warning "unknown filter strategy '\x7bname\x7d', using '\x7bcurrent\x7d'" Spec.filterChannel
    [("name", .value name), ("current", .value (.text b.currentStrategy.name))]

/-- Chooses the strategy of a name; when there is none the choice stays as it is. -/
def choose (b : Builder) (name : Value) : Reported Builder :=
  match Strategy.ofValue? name with
  | some s => pure { b with strategy := some s }
  | none => do
    Reported.report (b.unknownStrategy name)
    return b

/-- Adds the directives of a specification and takes over its filter, or the lack of one. -/
def parse [CharacterNames] (b : Builder) (t : Text) : ExceptT Filter.Fault Reported Builder := do
  let spec ← Spec.parse (.text b.currentStrategy.name) t
  return { b with directives := b.directives ++ spec.directives, filter := spec.filter }

/-- Only errors pass. -/
def errorsOnly : Directive := ⟨none, .error⟩

/-- The sieve of what has been collected so far. -/
def build (b : Builder) : Sieve :=
  { directives := if b.directives.isEmpty then [errorsOnly] else Directive.arrange b.directives
    filter := b.filter }

theorem build_eq_build {b c : Builder} (hd : b.directives = c.directives)
    (hf : b.filter = c.filter) : b.build = c.build := by simp [build, hd, hf]

end Builder

end LogSieve
