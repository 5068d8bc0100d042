import LogSieve.Number.Layout
import LogSieve.Text.Quoted

/-!
# Values

What a log message, its arguments and its context are made of: nothing, truth values, integers,
doubles, texts, lists and mappings from texts. A value has two printed forms: `display` shows a text
as it is, `quoted` shows it in quotes; inside lists and mappings everything is quoted.
-/

namespace LogSieve

inductive Value where
  | none
  | bool (b : Bool)
  | int (z : Int)
  | float (d : Double)
  | text (t : Text)
  | list (items : List Value)
  /-- The entries are in the order in which they were added. -/
  | mapping (entries : List (Text × Value))
  deriving Repr, Inhabited

namespace Value

/-! ## 1. Printed forms -/

mutual

/-- The printed form with texts in quotes. -/
def quoted : Value → Text
  | none => "None"
  | bool b => if b then "True" else "False"
  | int z => showInt z
  | float d => d.text
  | text t => Text.quoted t
  | list items => '[' :: Text.joinWith ", " (quotedItems items) ++ [']']
  | mapping entries => '\x7b' :: Text.joinWith ", " (quotedEntries entries) ++ ['\x7d']

def quotedItems : List Value → List Text
  | [] => []
  | v :: vs => v.quoted :: quotedItems vs

def quotedEntries : List (Text × Value) → List Text
  | [] => []
  | (key, v) :: rest => (Text.quoted key ++ ": " ++ v.quoted) :: quotedEntries rest

end

mutual

/-- The value may be printed: every integer in it is written. -/
def isPrintable : Value → Bool
  | int z => isWritten z
  | list items => arePrintable items
  | mapping entries => entriesArePrintable entries
  | _ => true

def arePrintable : List Value → Bool
  | [] => true
  | v :: vs => v.isPrintable && arePrintable vs

def entriesArePrintable : List (Text × Value) → Bool
  | [] => true
  | (_, v) :: rest => v.isPrintable && entriesArePrintable rest

end

/-- The printed form of the value by itself. -/
def display : Value → Text
  | text t => t
  | v => v.quoted

/-- The quoted form in ASCII. -/
def quotedAscii (v : Value) : Text := Text.escapeNonAscii v.quoted

/-! ## 2. Kinds -/

/-- The value counts as true: it is neither nothing, nor zero, nor empty. -/
def isTrue : Value → Bool
  | none => false
  | bool b => b
  | int z => z != 0
  | float d => d.isNonzero
  | text t => !t.isEmpty
  | list items => !items.isEmpty
  | mapping entries => !entries.isEmpty

/-- The name of the value's kind in messages. -/
def kindName : Value → Text
  | none => "NoneType"
  | bool _ => "bool"
  | int _ => "int"
  | float _ => "float"
  | text _ => "str"
  | list _ => "list"
  | mapping _ => "dict"

/-- Truth values count as the integers 0 and 1. -/
def asInt? : Value → Option Int
  | bool b => some (if b then 1 else 0)
  | int z => some z
  | _ => Option.none

/-! ## 3. Mappings -/

/-- The entries with one more; an entry of the same key keeps its place and gets the new value. -/
def insert (key : Text) (v : Value) : List (Text × Value) → List (Text × Value)
  | [] => [(key, v)]
  | (k, w) :: rest => if k = key then (k, v) :: rest else (k, w) :: insert key v rest

theorem lookup_insert (key : Text) (v : Value) (entries : List (Text × Value)) (k : Text) :
    (insert key v entries).lookup k = if k = key then some v else entries.lookup k := by
  have beq_false {a b : Text} (h : a ≠ b) : (a == b) = false := by simpa using h
  induction entries with
  | nil => by_cases h : k = key <;> simp [insert, List.lookup_cons, h, beq_false]
  | cons e rest ih =>
    obtain ⟨k', w⟩ := e
    by_cases hk : k' = key
    · subst hk
      by_cases h : k = k' <;> simp [insert, List.lookup_cons, h, beq_false]
    · by_cases h : k = k'
      · subst h
        simp [insert, hk]
      · simp [insert, List.lookup_cons, hk, beq_false h, ih]

/-- No key has two entries. -/
def HaveDistinctKeys (entries : List (Text × Value)) : Prop := (entries.map Prod.fst).Nodup

theorem lookup_of_not_mem {key : Text} {entries : List (Text × Value)}
    (h : key ∉ entries.map Prod.fst) : entries.lookup key = Option.none := by
  rw [List.lookup_eq_none_iff]
  intro e he
  exact bne_iff_ne.mpr fun hk => h (hk ▸ List.mem_map_of_mem he)

/-- An entry under a new key goes behind the others. -/
theorem insert_of_not_mem {key : Text} {entries : List (Text × Value)}
    (h : key ∉ entries.map Prod.fst) (v : Value) :
    insert key v entries = entries ++ [(key, v)] := by
  induction entries with
  | nil => rfl
  | cons e rest ih =>
    rw [List.map_cons, List.mem_cons, not_or] at h
    rw [insert, if_neg (Ne.symm h.1), ih h.2, List.cons_append]

end Value

end LogSieve
