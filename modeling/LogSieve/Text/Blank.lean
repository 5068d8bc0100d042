import LogSieve.Text.CodeRange

/-!
# Blank characters and trimming

Blank are the characters of bidirectional type white space, segment or paragraph separator and the
space separators of Unicode 14; among the controls these are U+0009 to U+000D, U+001C to U+001F and
U+0085. `trim` removes them at both ends and nowhere else.

* `trim_trim`: once is enough;
* `trim_surrounded`: further blanks at the ends make no difference.
-/

namespace LogSieve.Text

/-- The blank code points. -/
def blankRanges : CodeRanges :=
  [(0x9, 0xd), (0x1c, 0x20), (0x85, 0x85), (0xa0, 0xa0), (0x1680, 0x1680), (0x2000, 0x200a),
   (0x2028, 0x2029), (0x202f, 0x202f), (0x205f, 0x205f), (0x3000, 0x3000)]

def isBlank (c : Char) : Bool := inRanges c.toNat blankRanges

/-- The text without its leading blanks. -/
def trimStart (t : Text) : Text := t.dropWhile isBlank

/-- The text without its trailing blanks. -/
def trimEnd : Text → Text
  | [] => []
  | c :: rest =>
    match trimEnd rest with
    | [] => if isBlank c then [] else [c]
    | kept => c :: kept

/-- The text without the blanks at both ends. -/
def trim (t : Text) : Text := trimEnd (trimStart t)

/-- Only blanks, or nothing at all. -/
def isAllBlank (t : Text) : Bool := t.all isBlank

theorem trimEnd_eq_nil_iff (t : Text) : trimEnd t = [] ↔ t.all isBlank = true := by
  induction t with
  | nil => simp [trimEnd]
  | cons c rest ih =>
    simp only [trimEnd, List.all_cons, Bool.and_eq_true]
    split
    · rename_i h
      rw [← ih]
      by_cases hc : isBlank c <;> simp [hc, h]
    · rename_i h
      rw [← ih]
      exact iff_of_false (by simp) (fun hk => h hk.2)

theorem trimEnd_trimEnd (t : Text) : trimEnd (trimEnd t) = trimEnd t := by
  induction t with
  | nil => rfl
  | cons c rest ih =>
    simp only [trimEnd]
    split
    · by_cases hc : isBlank c <;> simp [hc, trimEnd]
    · rename_i kept h
      simp only [trimEnd, ih]

theorem dropWhile_trimEnd (t : Text) :
    (trimEnd (t.dropWhile isBlank)).dropWhile isBlank = trimEnd (t.dropWhile isBlank) := by
  cases h : t.dropWhile isBlank with
  | nil => rfl
  | cons c rest =>
    have hc : isBlank c = false := by
      have hne : t.dropWhile isBlank ≠ [] := by simp [h]
      simpa [h] using List.head_dropWhile_not isBlank hne
    simp only [trimEnd]
    split
    · simp [hc]
    · simp [hc]

/-- Trimming twice is trimming once. -/
@[simp] theorem trim_trim (t : Text) : trim (trim t) = trim t := by
  simp only [trim, trimStart, dropWhile_trimEnd, trimEnd_trimEnd]

theorem trimEnd_subset (t : Text) : trimEnd t ⊆ t := by
  induction t with
  | nil => exact List.Subset.refl _
  | cons c rest ih =>
    rw [trimEnd]
    split
    · split
      · exact List.nil_subset _
      · exact List.cons_subset_cons c (List.nil_subset _)
    · exact List.cons_subset_cons c ih

/-- Trimming adds nothing. -/
theorem trim_subset (t : Text) : trim t ⊆ t :=
  List.Subset.trans (trimEnd_subset _) (List.dropWhile_suffix isBlank).subset

/-- Blanks behind a text make no difference. -/
theorem trimEnd_append {after : Text} (h : isAllBlank after = true) (t : Text) :
    trimEnd (t ++ after) = trimEnd t := by
  induction t with
  | nil => exact (trimEnd_eq_nil_iff after).mpr h
  | cons c rest ih => rw [List.cons_append, trimEnd, ih, trimEnd]

theorem trim_append {after : Text} (h : isAllBlank after = true) (t : Text) :
    trim (t ++ after) = trim t := by
  rw [trim, trimStart, List.dropWhile_append]
  split
  · rename_i hall
    have hdrop : after.dropWhile isBlank = [] := by
      rw [← List.append_nil after, List.dropWhile_append_of_pos (List.all_eq_true.mp h)]
      rfl
    rw [hdrop, trim, trimStart, List.isEmpty_iff.mp hall]
  · exact trimEnd_append h _

/-- Blanks around a text make no difference. -/
theorem trim_surrounded {before after : Text} (hbefore : isAllBlank before = true)
    (hafter : isAllBlank after = true) (t : Text) : trim (before ++ (t ++ after)) = trim t := by
  rw [trim, trimStart, List.dropWhile_append_of_pos (List.all_eq_true.mp hbefore)]
  exact trim_append hafter t

end LogSieve.Text
