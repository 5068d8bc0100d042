/-!
# Tables

A table is a list of keys with values. Putting a value under a key replaces the one there before;
`lookup_put` says that it changes nothing else.
-/

namespace LogSieve.Table

variable {α β : Type} [BEq α] [LawfulBEq α] [DecidableEq α]

/-- Puts a value under a key. -/
def put (key : α) (v : β) (table : List (α × β)) : List (α × β) :=
  (key, v) :: table.filter (·.1 ≠ key)

theorem lookup_filter_ne {key other : α} (h : other ≠ key) (table : List (α × β)) :
    (table.filter (·.1 ≠ key)).lookup other = table.lookup other := by
  induction table with
  | nil => rfl
  | cons e rest ih =>
    obtain ⟨k, v⟩ := e
    by_cases hk : k = key
    · subst hk
      have ho : (other == k) = false := by simpa using h
      simpa [List.lookup_cons, ho] using ih
    · by_cases ho : other = k
      · subst ho
        simp [hk]
      · have ho' : (other == k) = false := by simpa using ho
        simpa [hk, List.lookup_cons, ho'] using ih

theorem lookup_put (key : α) (v : β) (table : List (α × β)) (other : α) :
    (put key v table).lookup other = if other = key then some v else table.lookup other := by
  by_cases h : other = key
  · simp [put, h]
  · have ho : (other == key) = false := by simpa using h
    rw [if_neg h]
    simp only [put, List.lookup_cons, ho, lookup_filter_ne h]

end LogSieve.Table
