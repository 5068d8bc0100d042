import LogSieve.Text.Blank
import LogSieve.Text.CaseTable

/-!
# Lower case

`lowerChar` is the one-character mapping. `lower` is the full mapping of a text: the capital I with
a dot becomes two characters, and a capital sigma becomes the final sigma when a letter with case
stands before it and none after it, characters that case ignores left out (`endsWord`).

`lower_map_toLower` and `trim_map_toLower` say that the case of letters of ASCII makes no
difference.
-/

namespace LogSieve.Text

def lowerChar (c : Char) : Char := Char.ofNat (moveByRuns lowerRuns c.toNat)

def isCaseIgnorable (c : Char) : Bool := inRanges c.toNat ignorableRanges

def isCased (c : Char) : Bool := inRanges c.toNat casedRanges

/-- Reading on from a place, the first character that case does not ignore has case. -/
def reachesCased (t : Text) : Bool :=
  match t.dropWhile isCaseIgnorable with
  | [] => false
  | c :: _ => isCased c

/-- A sigma between these two texts, the first of them read backwards, ends a word. -/
def endsWord (before after : Text) : Bool := reachesCased before && !reachesCased after

/-- The lower case of one character between two texts, the first of them read backwards. -/
def lowerBetween (before : Text) (c : Char) (after : Text) : Text :=
  if c = 'İ' then ['i', '\u0307']
  else if c = 'Σ' then [if endsWord before after then 'ς' else 'σ']
  else [lowerChar c]

def lowerFrom (before : Text) : Text → Text
  | [] => []
  | c :: rest => lowerBetween before c rest ++ lowerFrom (c :: before) rest

/-- The text in lower case. -/
def lower (t : Text) : Text := lowerFrom [] t

/-! ## The case of letters of ASCII -/

/-- What does not tell the capitals of ASCII from the small letters leaves their case out of account
altogether. -/
theorem apply_toLower {α : Type} {f : Char → α}
    (h : ∀ n ∈ List.range 26, f (Char.ofNat (0x41 + n)).toLower = f (Char.ofNat (0x41 + n)))
    (c : Char) : f c.toLower = f c := by
  by_cases hc : 'A'.val ≤ c.val ∧ c.val ≤ 'Z'.val
  · obtain ⟨hlow, hhigh⟩ := hc
    have hlow : 0x41 ≤ c.toNat := UInt32.le_iff_toNat_le.mp hlow
    have hhigh : c.toNat ≤ 0x5a := UInt32.le_iff_toNat_le.mp hhigh
    have hletter := h (c.toNat - 0x41) (List.mem_range.mpr (by omega))
    rwa [Nat.add_sub_cancel' hlow, Char.ofNat_toNat] at hletter
  · have hsame : c.toLower = c := dif_neg hc
    rw [hsame]

theorem isBlank_toLower (c : Char) : isBlank c.toLower = isBlank c := apply_toLower (by decide) c

theorem isCaseIgnorable_toLower (c : Char) : isCaseIgnorable c.toLower = isCaseIgnorable c :=
  apply_toLower (by decide +kernel) c

theorem isCased_toLower (c : Char) : isCased c.toLower = isCased c :=
  apply_toLower (by decide +kernel) c

theorem lowerChar_toLower (c : Char) : lowerChar c.toLower = lowerChar c :=
  apply_toLower (by decide +kernel) c

theorem reachesCased_map_toLower (t : Text) :
    reachesCased (t.map Char.toLower) = reachesCased t := by
  have hignored : isCaseIgnorable ∘ Char.toLower = isCaseIgnorable :=
    funext isCaseIgnorable_toLower
  rw [reachesCased, reachesCased, List.dropWhile_map, hignored]
  cases t.dropWhile isCaseIgnorable with
  | nil => rfl
  | cons c rest => exact isCased_toLower c

theorem lowerBetween_map_toLower (before : Text) (c : Char) (after : Text) :
    lowerBetween (before.map Char.toLower) c.toLower (after.map Char.toLower) =
      lowerBetween before c after := by
  have hdotted : (c.toLower = 'İ') = (c = 'İ') :=
    apply_toLower (f := fun c => c = 'İ') (by decide) c
  have hsigma : (c.toLower = 'Σ') = (c = 'Σ') :=
    apply_toLower (f := fun c => c = 'Σ') (by decide) c
  unfold lowerBetween endsWord
  rw [reachesCased_map_toLower, reachesCased_map_toLower, lowerChar_toLower]
  simp only [hdotted, hsigma]

theorem lowerFrom_map_toLower (before t : Text) :
    lowerFrom (before.map Char.toLower) (t.map Char.toLower) = lowerFrom before t := by
  induction t generalizing before with
  | nil => rfl
  | cons c rest ih =>
    rw [List.map_cons, lowerFrom, lowerBetween_map_toLower, ← List.map_cons, ih, lowerFrom]

/-- Texts that differ in the case of letters of ASCII have one lower case. -/
theorem lower_map_toLower (t : Text) : lower (t.map Char.toLower) = lower t :=
  lowerFrom_map_toLower [] t

theorem trimEnd_map_toLower (t : Text) :
    trimEnd (t.map Char.toLower) = (trimEnd t).map Char.toLower := by
  induction t with
  | nil => rfl
  | cons c rest ih =>
    rw [List.map_cons, trimEnd, trimEnd, ih, isBlank_toLower]
    cases trimEnd rest with
    | nil => exact (apply_ite (List.map Char.toLower) _ [] [c]).symm
    | cons d more => rfl

theorem trim_map_toLower (t : Text) : trim (t.map Char.toLower) = (trim t).map Char.toLower := by
  have hblank : isBlank ∘ Char.toLower = isBlank := funext isBlank_toLower
  rw [trim, trimStart, List.dropWhile_map, hblank, trimEnd_map_toLower]
  rfl

end LogSieve.Text
