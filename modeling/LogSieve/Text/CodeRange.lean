import LogSieve.Text.Basic

/-!
# Classes of code points given by ranges

A property of code points is a table of closed ranges in ascending order. `inRanges` decides
membership by one pass that stops at the first range beyond the code point, so the ASCII part of
a table is answered by its first lines. `inRanges_iff` says that for an ascending table the early
stop loses nothing.
-/

namespace LogSieve.Text

/-- Closed ranges of code points. -/
abbrev CodeRanges := List (Nat × Nat)

/-- The code point lies in one of the ranges; the table must be ascending. -/
def inRanges (n : Nat) : CodeRanges → Bool
  | [] => false
  | (low, high) :: rest => if n < low then false else n ≤ high || inRanges n rest

/-- Each range is in order and lies wholly after the one before. -/
def Ascending : CodeRanges → Prop
  | [] => True
  | (low, high) :: rest => low ≤ high ∧ (∀ r ∈ rest, high < r.1) ∧ Ascending rest

theorem inRanges_iff {n : Nat} {table : CodeRanges} (h : Ascending table) :
    inRanges n table = true ↔ ∃ r ∈ table, r.1 ≤ n ∧ n ≤ r.2 := by
  induction table with
  | nil => simp [inRanges]
  | cons r rest ih =>
    obtain ⟨low, high⟩ := r
    obtain ⟨horder, hafter, hrest⟩ := h
    simp only [inRanges, List.mem_cons, exists_eq_or_imp]
    by_cases hn : n < low
    · simp only [hn, if_true, Bool.false_eq_true, false_iff, not_or]
      refine ⟨by omega, ?_⟩
      rintro ⟨s, hs, h1, _⟩
      have := hafter s hs
      omega
    · simp only [hn, if_false, Bool.or_eq_true, decide_eq_true_eq, ih hrest]
      constructor
      · rintro (h1 | h1)
        · exact Or.inl ⟨by omega, h1⟩
        · exact Or.inr h1
      · rintro (h1 | h1)
        · exact Or.inl h1.2
        · exact Or.inr h1

end LogSieve.Text
