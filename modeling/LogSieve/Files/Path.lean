import LogSieve.Text.Basic

/-!
# Paths

A path is the list of the names on the way from the root. A path is written with slashes and may
hold blank steps, steps to the same place and steps back; `Path.ofText` follows them without asking
whether there is anything there, and a step back from the root stays at the root.
-/

namespace LogSieve

/-- The names on the way from the root. -/
abbrev Path := List Text

namespace Path

/-- A step from a place. -/
def step (p : Path) (name : Text) : Path :=
  if name = [] || name = ['.'] then p
  else if name = ['.', '.'] then p.dropLast
  else p ++ [name]

/-- The place that a written path leads to, from a place if it is relative. -/
def ofText (start : Path) (t : Text) : Path :=
  (t.splitOn '/').foldl step (if t.head? = some '/' then [] else start)

/-- The path in its written form. -/
def text (p : Path) : Text := if p.isEmpty then ['/'] else p.flatMap ('/' :: ·)

/-- The places of a path whose names are given from the last one back. -/
def placesOf : List Text → List Path
  | [] => [[]]
  | name :: rest => (name :: rest).reverse :: placesOf rest

/-- The place, the one that holds it, and so on up to the root. -/
def ancestors (p : Path) : List Path := placesOf p.reverse

/-- A name that stands for itself. -/
def IsName (name : Text) : Prop := name ≠ [] ∧ name ≠ ['.'] ∧ name ≠ ['.', '.'] ∧ '/' ∉ name

theorem step_of_isName {name : Text} (h : IsName name) (p : Path) : step p name = p ++ [name] := by
  simp [step, h.1, h.2.1, h.2.2.1]

theorem foldl_step_of_isName {names : List Text} (h : ∀ n ∈ names, IsName n) (p : Path) :
    names.foldl step p = p ++ names := by
  induction names generalizing p with
  | nil => simp
  | cons n rest ih =>
    simp only [List.mem_cons, forall_eq_or_imp] at h
    simp [step_of_isName h.1, ih h.2]

theorem splitOn_names {names : List Text} (h : ∀ n ∈ names, '/' ∉ n) {first : Text}
    (hf : '/' ∉ first) :
    Text.splitOn '/' (first ++ names.flatMap ('/' :: ·)) = first :: names := by
  induction names generalizing first with
  | nil => simpa using Text.splitOn_of_not_mem hf
  | cons n rest ih =>
    simp only [List.mem_cons, forall_eq_or_imp] at h
    rw [List.flatMap_cons, List.cons_append, Text.splitOn_append_sep, Text.splitOn_of_not_mem hf,
      ih h.2 h.1]
    rfl

end Path

end LogSieve
