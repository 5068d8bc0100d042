/-!
# Texts

A text is a list of code points: every length, width and position in this library counts code
points, and every rule about texts is a recursion on that list. This file fixes the type, the
reading of string literals as texts, and the three ways a text is taken apart by a separator:

* `splitOn` cuts at every separator and `joinWith` puts pieces together; pieces without the
  separator are found again (`splitOn_joinWith`);
* `cutAt` cuts at the first separator only (`cutAt_append`); `splitOn_cases` compares the two;
* `occursIn` asks for a contiguous piece (`occursIn_iff`).
-/

namespace LogSieve

/-- A text: a sequence of code points. -/
abbrev Text := List Char

namespace Text

/-- A string literal stands for the text of its code points. -/
instance : Coe String Text := ⟨String.toList⟩

/-- The character of a code point. Half of a pair is no character; the replacement character stands
for it. -/
def charOf (code : Nat) : Char :=
  if 0xd800 ≤ code && code < 0xe000 then '\ufffd' else Char.ofNat code

/-! ## 1. Cutting at every separator -/

/-- The pieces of a text between the separators; a text without one is its own only piece. -/
def splitOn (sep : Char) : Text → List Text
  | [] => [[]]
  | c :: rest =>
    if c = sep then [] :: splitOn sep rest
    else match splitOn sep rest with
      | [] => [[c]]
      | piece :: pieces => (c :: piece) :: pieces

/-- The pieces in order, with a separator text between each two. -/
def joinWith (sep : Text) : List Text → Text
  | [] => []
  | [piece] => piece
  | piece :: pieces => piece ++ sep ++ joinWith sep pieces

theorem joinWith_cons_cons (sep : Char) (piece next : Text) (more : List Text) :
    joinWith [sep] (piece :: next :: more) = piece ++ sep :: joinWith [sep] (next :: more) := by
  rw [joinWith, List.append_assoc, List.singleton_append]
  exact List.cons_ne_nil _ _

theorem splitOn_ne_nil (sep : Char) (t : Text) : splitOn sep t ≠ [] := by
  cases t with
  | nil => simp [splitOn]
  | cons c rest =>
    simp only [splitOn]
    split
    · simp
    · split <;> simp

/-- A text without the separator is one piece. -/
theorem splitOn_of_not_mem {sep : Char} {t : Text} (h : sep ∉ t) : splitOn sep t = [t] := by
  induction t with
  | nil => rfl
  | cons c rest ih =>
    simp only [List.mem_cons, not_or] at h
    simp [splitOn, ih h.2, Ne.symm h.1]

/-- Splitting before and after a separator, independently. -/
theorem splitOn_append_sep (sep : Char) (s t : Text) :
    splitOn sep (s ++ sep :: t) = splitOn sep s ++ splitOn sep t := by
  induction s with
  | nil => simp [splitOn]
  | cons c rest ih =>
    by_cases hc : c = sep
    · simp [splitOn, hc, ih]
    · simp only [List.cons_append, splitOn, hc, if_false, ih]
      cases h : splitOn sep rest with
      | nil => exact absurd h (splitOn_ne_nil sep rest)
      | cons piece pieces => simp

/-- Pieces without the separator are found again when they have been joined. -/
theorem splitOn_joinWith {sep : Char} {pieces : List Text} (hne : pieces ≠ [])
    (h : ∀ piece ∈ pieces, sep ∉ piece) : splitOn sep (joinWith [sep] pieces) = pieces := by
  induction pieces with
  | nil => exact absurd rfl hne
  | cons piece rest ih =>
    obtain ⟨hpiece, hrest⟩ := List.forall_mem_cons.mp h
    cases rest with
    | nil => exact splitOn_of_not_mem hpiece
    | cons next more =>
      rw [joinWith_cons_cons, splitOn_append_sep, splitOn_of_not_mem hpiece,
        ih (List.cons_ne_nil _ _) hrest, List.singleton_append]

/-- Joining adds nothing but the separators. -/
theorem not_mem_joinWith {sep : Text} {pieces : List Text} {c : Char} (hsep : c ∉ sep)
    (h : ∀ piece ∈ pieces, c ∉ piece) : c ∉ joinWith sep pieces := by
  induction pieces with
  | nil => exact List.not_mem_nil
  | cons piece rest ih =>
    obtain ⟨hpiece, hrest⟩ := List.forall_mem_cons.mp h
    cases rest with
    | nil => exact hpiece
    | cons next more =>
      intro hm
      rcases List.mem_append.mp hm with hm | hm
      · rcases List.mem_append.mp hm with hm | hm
        · exact hpiece hm
        · exact hsep hm
      · exact ih hrest hm

/-- A piece has in it what the text has, the separator aside. -/
theorem mem_of_mem_splitOn {sep : Char} {t piece : Text} (h : piece ∈ splitOn sep t) {c : Char}
    (hc : c ∈ piece) : c ≠ sep ∧ c ∈ t := by
  induction t generalizing piece with
  | nil =>
    rw [splitOn, List.mem_singleton] at h
    rw [h] at hc
    cases hc
  | cons first rest ih =>
    rw [splitOn] at h
    split at h
    · rcases List.mem_cons.mp h with rfl | h
      · cases hc
      · exact ⟨(ih h hc).1, List.mem_cons_of_mem _ (ih h hc).2⟩
    · rename_i hne
      cases hs : splitOn sep rest with
      | nil => exact absurd hs (splitOn_ne_nil sep rest)
      | cons start others =>
        rw [hs] at h ih
        rcases List.mem_cons.mp h with rfl | h
        · rcases List.mem_cons.mp hc with rfl | hc
          · exact ⟨hne, List.mem_cons_self⟩
          · have hrest := ih List.mem_cons_self hc
            exact ⟨hrest.1, List.mem_cons_of_mem _ hrest.2⟩
        · have hrest := ih (List.mem_cons_of_mem _ h) hc
          exact ⟨hrest.1, List.mem_cons_of_mem _ hrest.2⟩

theorem not_mem_of_mem_splitOn {sep : Char} {t piece : Text} (h : piece ∈ splitOn sep t) :
    sep ∉ piece := fun hc => (mem_of_mem_splitOn h hc).1 rfl

theorem length_splitOn (sep : Char) (t : Text) : (splitOn sep t).length = t.count sep + 1 := by
  induction t with
  | nil => rfl
  | cons c rest ih =>
    by_cases hc : c = sep
    · simp [splitOn, hc, ih]
    · simp only [splitOn, if_neg hc]
      rw [List.count_cons_of_ne hc, ← ih]
      cases h : splitOn sep rest with
      | nil => exact absurd h (splitOn_ne_nil sep rest)
      | cons piece pieces => rfl

/-! ## 2. Cutting at the first separator -/

/-- The text before the first separator and, when there is one, the text after it. -/
def cutAt (sep : Char) : Text → Text × Option Text
  | [] => ([], none)
  | c :: rest =>
    if c = sep then ([], some rest)
    else let (before, after) := cutAt sep rest
      (c :: before, after)

theorem cutAt_append {sep : Char} {s : Text} (h : sep ∉ s) (t : Text) :
    cutAt sep (s ++ sep :: t) = (s, some t) := by
  induction s with
  | nil => simp [cutAt]
  | cons c rest ih =>
    simp only [List.mem_cons, not_or] at h
    simp [cutAt, ih h.2, Ne.symm h.1]

/-- Text without the separator only adds to what stands in front of the first one. -/
theorem cutAt_append_of_not_mem {sep : Char} {s : Text} (h : sep ∉ s) (t : Text) :
    cutAt sep (s ++ t) = (s ++ (cutAt sep t).1, (cutAt sep t).2) := by
  induction s with
  | nil => rfl
  | cons c rest ih =>
    simp only [List.mem_cons, not_or] at h
    rw [List.cons_append, cutAt, if_neg (Ne.symm h.1), ih h.2]
    rfl

theorem cutAt_of_not_mem {sep : Char} {s : Text} (h : sep ∉ s) : cutAt sep s = (s, none) := by
  induction s with
  | nil => rfl
  | cons c rest ih =>
    simp only [List.mem_cons, not_or] at h
    simp [cutAt, ih h.2, Ne.symm h.1]

/-- A text has no separator, or one with what stands on both sides of it, or several. -/
theorem separator_cases (sep : Char) (t : Text) :
    sep ∉ t ∨
      (∃ before after : Text, sep ∉ before ∧ sep ∉ after ∧ t = before ++ sep :: after) ∨
        2 ≤ t.count sep := by
  by_cases hm : sep ∈ t
  · obtain ⟨before, after, rfl, hb⟩ := List.eq_append_cons_of_mem hm
    by_cases ha : sep ∈ after
    · have hpos := List.count_pos_iff.mpr ha
      rw [List.count_append, List.count_cons_self]
      exact .inr (.inr (by omega))
    · exact .inr (.inl ⟨before, after, hb, ha, rfl⟩)
  · exact .inl hm

/-- With no separator a text is one piece, with one it is two, and with several it is more. -/
theorem splitOn_cases (sep : Char) (t : Text) :
    (¬ 2 ≤ t.count sep ∧ cutAt sep t = (t, none) ∧ splitOn sep t = [t]) ∨
      (∃ before after, ¬ 2 ≤ t.count sep ∧ cutAt sep t = (before, some after) ∧
        splitOn sep t = [before, after]) ∨
      (2 ≤ t.count sep ∧ ∃ a b c rest, splitOn sep t = a :: b :: c :: rest) := by
  by_cases hm : sep ∈ t
  · obtain ⟨before, after, rfl, hb⟩ := List.eq_append_cons_of_mem hm
    have hc : (before ++ sep :: after).count sep = after.count sep + 1 := by
      rw [List.count_append, List.count_cons_self, List.count_eq_zero_of_not_mem hb, Nat.zero_add]
    rw [hc, cutAt_append hb, splitOn_append_sep, splitOn_of_not_mem hb]
    by_cases ha : sep ∈ after
    · have hpos := List.count_pos_iff.mpr ha
      have hl := length_splitOn sep after
      refine .inr (.inr ⟨by omega, ?_⟩)
      rcases hs : splitOn sep after with _ | ⟨b, _ | ⟨c, rest⟩⟩
      · rw [hs, List.length_nil] at hl
        omega
      · rw [hs, List.length_singleton] at hl
        omega
      · exact ⟨before, b, c, rest, rfl⟩
    · have hzero := List.count_eq_zero_of_not_mem ha
      rw [splitOn_of_not_mem ha]
      exact .inr (.inl ⟨before, after, by omega, rfl, rfl⟩)
  · have hzero := List.count_eq_zero_of_not_mem hm
    exact .inl ⟨by omega, cutAt_of_not_mem hm, splitOn_of_not_mem hm⟩

/-- With one separator at most, both sides of it are pieces. -/
theorem cutAt_mem_splitOn {sep : Char} {t : Text} (h : ¬ 2 ≤ t.count sep) :
    (cutAt sep t).1 ∈ splitOn sep t ∧ ∀ after ∈ (cutAt sep t).2, after ∈ splitOn sep t := by
  rcases splitOn_cases sep t with ⟨_, hcut, hs⟩ | ⟨before, after, _, hcut, hs⟩ | ⟨hc, _⟩
  · rw [hcut, hs]
    exact ⟨List.mem_cons_self, nofun⟩
  · rw [hcut, hs]
    refine ⟨List.mem_cons_self, ?_⟩
    intro after' ha
    cases ha
    exact List.mem_cons_of_mem _ List.mem_cons_self
  · exact absurd hc h

/-! ## 3. Pieces of a text -/

/-- The first text occurs in the second as a contiguous piece. -/
def occursIn (piece : Text) : Text → Bool
  | [] => piece.isEmpty
  | c :: rest => piece.isPrefixOf (c :: rest) || occursIn piece rest

theorem occursIn_iff (piece t : Text) :
    occursIn piece t = true ↔ ∃ before after, t = before ++ piece ++ after := by
  induction t with
  | nil =>
    cases piece with
    | nil => simp [occursIn]
    | cons c rest => simp [occursIn]
  | cons c rest ih =>
    simp only [occursIn, Bool.or_eq_true, ih, List.isPrefixOf_iff_prefix]
    constructor
    · rintro (⟨after, h⟩ | ⟨before, after, h⟩)
      · exact ⟨[], after, by simp [h]⟩
      · exact ⟨c :: before, after, by simp [h]⟩
    · rintro ⟨before, after, h⟩
      cases before with
      | nil => exact Or.inl ⟨after, by simp [h]⟩
      | cons b bs =>
        simp only [List.cons_append, List.cons.injEq] at h
        exact Or.inr ⟨bs, after, h.2⟩

/-! ## 4. Padding -/

/-- As many copies of a character as the text falls short of the width. -/
def fillFor (fill : Char) (width : Nat) (t : Text) : Text :=
  List.replicate (width - t.length) fill

/-- The text against the right edge of the width. -/
def padLeft (fill : Char) (width : Nat) (t : Text) : Text := fillFor fill width t ++ t

/-- The text against the left edge of the width. -/
def padRight (fill : Char) (width : Nat) (t : Text) : Text := t ++ fillFor fill width t

end Text

end LogSieve
