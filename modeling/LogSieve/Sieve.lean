import LogSieve.Record
import LogSieve.Spec

/-!
# Sieves

A sieve decides which records pass. Of its directives the last one in the list that covers the
record's module governs it; a sieve that has been built keeps the more specific directives further
back, so this is the most specific one. A record passes when its level is within that of the
governing directive and its text passes the filter, if there is one.

* `directiveFor_eq_none_iff`: a module is governed unless no directive covers it;
* `enables_iff`: what the levels let through;
* `le_maxLevel`, `le_maxLevel_of_enables`: nothing goes beyond the greatest level;
* `exists_level_eq_maxLevel`: and a directive has it.
-/

namespace LogSieve

open Format (MessageFault)

/-- Directives, the more specific ones further back, and a filter. -/
structure Sieve where
  directives : List Directive
  filter : Option Filter := none

namespace Sieve

/-! ## 1. Levels -/

/-- The directive that governs a module. -/
def directiveFor (s : Sieve) (module : Text) : Option Directive :=
  s.directives.reverse.find? (·.covers module)

/-- Records of the module pass at the level. `off` is no level of a record. -/
def enables (s : Sieve) (l : Level) (module : Text) : Bool :=
  match s.directiveFor module with
  | none => false
  | some d => l ≠ .off && l ≤ d.level

/-- The most talkative level of a directive. -/
def maxLevel (s : Sieve) : Level := s.directives.foldl (fun l d => max l d.level) .off

theorem directiveFor_eq_none_iff (s : Sieve) (module : Text) :
    s.directiveFor module = none ↔ ∀ d ∈ s.directives, d.covers module = false := by
  simp [directiveFor, List.find?_eq_none]

theorem enables_iff (s : Sieve) (l : Level) (module : Text) :
    s.enables l module = true ↔
      ∃ d, s.directiveFor module = some d ∧ Level.off < l ∧ l ≤ d.level := by
  unfold enables
  cases s.directiveFor module with
  | none => simp
  | some d => simp [Level.off_lt_iff]

theorem foldl_max_level (ds : List Directive) (l : Level) :
    l ≤ ds.foldl (fun l d => max l d.level) l ∧
      ∀ d ∈ ds, d.level ≤ ds.foldl (fun l d => max l d.level) l := by
  induction ds generalizing l with
  | nil => exact ⟨Nat.le_refl _, by simp⟩
  | cons e rest ih =>
    have hl : l ≤ max l e.level := by cases l <;> cases e.level <;> decide
    have he : e.level ≤ max l e.level := by cases l <;> cases e.level <;> decide
    obtain ⟨h1, h2⟩ := ih (max l e.level)
    refine ⟨Nat.le_trans hl h1, ?_⟩
    simp only [List.mem_cons, forall_eq_or_imp]
    exact ⟨Nat.le_trans he h1, h2⟩

theorem foldl_max_level_mem (ds : List Directive) (l : Level) :
    ds.foldl (fun l d => max l d.level) l = l ∨
      ∃ d ∈ ds, d.level = ds.foldl (fun l d => max l d.level) l := by
  induction ds generalizing l with
  | nil => exact .inl rfl
  | cons e rest ih =>
    have hmax : max l e.level = l ∨ e.level = max l e.level := by
      cases l <;> cases e.level <;> decide
    rw [List.foldl_cons]
    rcases ih (max l e.level) with hfold | ⟨d, hd, hfold⟩
    · rw [hfold]
      exact hmax.imp_right fun he => ⟨e, List.mem_cons_self, he⟩
    · exact .inr ⟨d, List.mem_cons_of_mem _ hd, hfold⟩

/-- No directive goes beyond the greatest level. -/
theorem le_maxLevel {s : Sieve} {d : Directive} (h : d ∈ s.directives) : d.level ≤ s.maxLevel :=
  (foldl_max_level s.directives .off).2 d h

/-- Some directive has the greatest level. -/
theorem exists_level_eq_maxLevel {s : Sieve} (h : s.maxLevel ≠ .off) :
    ∃ d ∈ s.directives, d.level = s.maxLevel :=
  (foldl_max_level_mem s.directives .off).resolve_left h

/-- What a sieve enables is within its greatest level. -/
theorem le_maxLevel_of_enables {s : Sieve} {l : Level} {m : Text} (h : s.enables l m = true) :
    l ≤ s.maxLevel := by
  obtain ⟨d, hd, _, hle⟩ := (s.enables_iff l m).mp h
  have hmem : d ∈ s.directives := List.mem_reverse.mp (List.mem_of_find?_eq_some hd)
  exact Nat.le_trans hle (le_maxLevel hmem)

/-! ## 2. Texts -/

/-- The text of the record passes the filter. Without a filter no text is made. -/
def admits (s : Sieve) (r : Record) : Except MessageFault Bool :=
  match s.filter with
  | none => .ok true
  | some f => r.render.map f.admits

/-- The record passes both by its level and by its text. -/
def passes (s : Sieve) (r : Record) : Except MessageFault Bool :=
  if s.enables r.level r.module then s.admits r else .ok false

/-! ## 3. Written forms -/

/-- The sieve as a specification. -/
def text (s : Sieve) : Text := Spec.text ⟨s.directives, s.filter⟩

/-- The long form of the sieve. -/
def describe (s : Sieve) : Text := "EnvLogger(" ++ Text.quoted s.text ++ ")"

end Sieve

end LogSieve
