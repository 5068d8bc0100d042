import LogSieve.Number.Ascii
import LogSieve.Release

/-!
# The versions of a release

The stamp of a release is made of fields, and its versions are read off it by cutting at the first
separator each time. This finds the fields again unless the branch has a low line in it: then what
stands behind that is taken for the number of the build. It does no harm in one shape of branch
only, where the number of the build follows the low line, and a hyphen that.

* `IsReleaseNumber`, `IsPackageNumber`: the rules for version numbers of packages;
* `Making`: the fields of a release, the stamp they make, and the versions they should have;
* `isPackageNumber_version`, `isReleaseNumber_version_iff`: those follow the rules;
* `markOf_of_not_mem`, `markOf_of_low_line`, `markOf_eq_iff`: what is read off the stamp;
* `versions_of_stamp`: when the versions are right.
-/

namespace LogSieve

/-! ## 1. Version numbers of packages -/

/-- A number without zeros in front of it. -/
inductive IsNumeral : Text → Prop
  | zero : IsNumeral ['0']
  | positive {c : Char} {t : Text} (hc : isAsciiDigit c = true) (hzero : c ≠ '0')
      (ht : ∀ d ∈ t, isAsciiDigit d = true) : IsNumeral (c :: t)

/-- Numbers with points between them. -/
inductive IsNumbers : Text → Prop
  | one {t : Text} (h : IsNumeral t) : IsNumbers t
  | more {t rest : Text} (h : IsNumeral t) (hrest : IsNumbers rest) :
      IsNumbers (t ++ '.' :: rest)

/-- The letters of the stages before the release proper. -/
def stageLetters : List Text := ["a", "b", "rc"]

/-- The letters of a stage with a number, or nothing. -/
inductive IsStageMark : Text → Prop
  | absent : IsStageMark []
  | present {letters t : Text} (hletters : letters ∈ stageLetters) (h : IsNumeral t) :
      IsStageMark (letters ++ t)

/-- A version number of a package, but not of a development release. -/
inductive IsReleaseNumber : Text → Prop
  | written {numbers mark : Text} (hnumbers : IsNumbers numbers) (hmark : IsStageMark mark) :
      IsReleaseNumber (numbers ++ mark)

/-- A version number of a package; that of a development release has the number of it behind. -/
inductive IsPackageNumber : Text → Prop
  | release {t : Text} (h : IsReleaseNumber t) : IsPackageNumber t
  | development {t number : Text} (h : IsReleaseNumber t) (hnumber : IsNumeral number) :
      IsPackageNumber (t ++ (".dev".toList ++ number))

section Characters

variable {c : Char} {t : Text}

theorem IsNumeral.not_mem (h : IsNumeral t) (hc : isAsciiDigit c = false) : c ∉ t := by
  cases h with
  | zero =>
    intro hm
    rw [List.mem_singleton.mp hm] at hc
    cases hc
  | positive hfirst _ hrest =>
    intro hm
    have hdigit : isAsciiDigit c = true := by
      rcases List.mem_cons.mp hm with rfl | hm
      · exact hfirst
      · exact hrest c hm
    rw [hdigit] at hc
    cases hc

theorem IsNumbers.not_mem (h : IsNumbers t) (hc : isAsciiDigit c = false) (hpoint : c ≠ '.') :
    c ∉ t := by
  induction h with
  | one h => exact h.not_mem hc
  | more h _ ih =>
    exact List.not_mem_append (h.not_mem hc) (List.not_mem_cons_of_ne_of_not_mem hpoint ih)

theorem IsReleaseNumber.not_mem (h : IsReleaseNumber t) (hc : isAsciiDigit c = false)
    (hletters : c ∉ ".abrc".toList) : c ∉ t := by
  have hpoint : c ≠ '.' := fun heq => hletters (heq ▸ by decide)
  cases h with
  | written hnumbers hmark =>
    refine List.not_mem_append (hnumbers.not_mem hc hpoint) ?_
    cases hmark with
    | absent => exact List.not_mem_nil
    | present hstage h =>
      have hall : ∀ letters ∈ stageLetters, letters ⊆ ".abrc".toList := by decide
      exact List.not_mem_append (fun hm => hletters (hall _ hstage hm)) (h.not_mem hc)

/-- There is no low line in a version number. -/
theorem IsPackageNumber.low_line_not_mem (h : IsPackageNumber t) : '_' ∉ t := by
  cases h with
  | release h => exact h.not_mem (by decide) (by decide)
  | development h hnumber =>
    exact List.not_mem_append (h.not_mem (by decide) (by decide))
      (List.not_mem_append (by decide) (hnumber.not_mem (by decide)))

end Characters

theorem digitsIn_eq_cons {n : Nat} (h : 0 < n) : ∃ d ds, digitsIn 10 n = d :: ds ∧ 0 < d := by
  fun_induction digitsIn 10 n with
  | case1 n hn ih =>
    obtain ⟨d, ds, hds, hd⟩ := ih (by omega)
    exact ⟨d, ds ++ [n % 10], by rw [hds, List.cons_append], hd⟩
  | case2 n hn => exact ⟨n, [], rfl, h⟩

theorem isAsciiDigit_asciiDigit {d : Nat} (h : d < 10) :
    isAsciiDigit (Text.asciiDigit d) = true ∧ (0 < d → Text.asciiDigit d ≠ '0') := by
  have hall : ∀ e ∈ List.range 10,
      isAsciiDigit (Text.asciiDigit e) = true ∧ (0 < e → Text.asciiDigit e ≠ '0') := by decide
  exact hall d (List.mem_range.mpr h)

/-- A number is written without zeros in front of it. -/
theorem isNumeral_decimal (n : Nat) : IsNumeral (decimal n) := by
  rcases Nat.eq_zero_or_pos n with rfl | hn
  · have hzero : decimal 0 = ['0'] := by decide +kernel
    rw [hzero]
    exact .zero
  · obtain ⟨d, ds, hds, hd⟩ := digitsIn_eq_cons hn
    have hlt := digitsIn_lt (n := n) (by decide : 2 ≤ 10)
    rw [hds] at hlt
    obtain ⟨hfirst, hrest⟩ := List.forall_mem_cons.mp hlt
    rw [decimal, hds, List.map_cons]
    exact .positive (isAsciiDigit_asciiDigit hfirst).1 ((isAsciiDigit_asciiDigit hfirst).2 hd)
      (List.forall_mem_map.mpr fun e he => (isAsciiDigit_asciiDigit (hrest e he)).1)

/-! ## 2. What a release is made of -/

/-- The phases that a release may be in before the release proper. -/
inductive Phase where
  | alpha
  | beta
  | candidate (n : Nat)
  deriving DecidableEq, Repr

def Phase.name : Phase → Text
  | alpha => "alpha"
  | beta => "beta"
  | candidate n => "rc" ++ decimal n

/-- The phase as packages know it. -/
def Phase.mark : Phase → Text
  | alpha => "a0"
  | beta => "b0"
  | candidate n => "rc" ++ decimal n

/-- The fields of a release. -/
structure Making where
  major : Nat
  minor : Nat
  patch : Nat
  phase : Option Phase
  branch : Text
  build : Nat
  date : Text
  hash : Text

namespace Making

variable (m : Making)

def numbers : Text := decimal m.major ++ '.' :: decimal m.minor ++ '.' :: decimal m.patch

/-- The version in front of the stamp. -/
def base : Text := m.numbers ++ (m.phase.map ('-' :: ·.name)).getD []

/-- What the stamp has behind the branch. -/
def origin : Text := decimal m.build ++ '-' :: (m.date ++ '-' :: m.hash)

/-- The release of the fields, with its stamp. -/
def release : Release :=
  { major := m.major, minor := m.minor, patch := m.patch, phase := m.phase.map Phase.name
    stamp := m.base ++ '_' :: (m.branch ++ '_' :: m.origin) }

/-- The version that the package has on the main branch. -/
def mainVersion : Text := m.numbers ++ (m.phase.map Phase.mark).getD []

/-- The mark of a development release, on other branches. -/
def developmentMark : Text := if m.branch = "main" then [] else ".dev" ++ decimal m.build

/-- The version that the package should have. -/
def version : Text := m.mainVersion ++ m.developmentMark

/-- None of the three numbers has too many digits to be written. -/
def AreWritten : Prop :=
  (isWritten m.major && isWritten m.minor && isWritten m.patch) = true

instance : Decidable m.AreWritten := inferInstanceAs (Decidable (_ = true))

/-- The branch is found in the stamp, or what is found in its place makes no difference: the name of
another branch, with the number of the build behind it. -/
def IsLegible : Prop :=
  '_' ∉ m.branch ∨ ∃ name rest : Text, '_' ∉ name ∧ name ≠ "main" ∧
    m.branch = name ++ '_' :: (decimal m.build ++ '-' :: rest)

/-! ## 3. The version that there should be -/

theorem isNumbers_numbers : IsNumbers m.numbers := by
  rw [numbers, List.append_assoc, List.cons_append]
  exact .more (isNumeral_decimal _)
    (.more (isNumeral_decimal _) (.one (isNumeral_decimal _)))

theorem isStageMark_mark (p : Phase) : IsStageMark p.mark := by
  cases p with
  | alpha => exact .present (by decide : "a".toList ∈ stageLetters) .zero
  | beta => exact .present (by decide : "b".toList ∈ stageLetters) .zero
  | candidate n => exact .present (by decide) (isNumeral_decimal n)

theorem isReleaseNumber_mainVersion : IsReleaseNumber m.mainVersion := by
  refine .written m.isNumbers_numbers ?_
  cases m.phase with
  | none => exact .absent
  | some p => exact isStageMark_mark p

theorem isPackageNumber_version : IsPackageNumber m.version := by
  rw [version, developmentMark]
  split
  · rw [List.append_nil]
    exact .release m.isReleaseNumber_mainVersion
  · exact .development m.isReleaseNumber_mainVersion (isNumeral_decimal _)

/-- Only the main branch has the version of a release. -/
theorem isReleaseNumber_version_iff : IsReleaseNumber m.version ↔ m.branch = "main" := by
  rw [version, developmentMark]
  split
  · rename_i hmain
    rw [List.append_nil]
    exact iff_of_true m.isReleaseNumber_mainVersion hmain
  · rename_i hmain
    refine iff_of_false (fun h => ?_) hmain
    exact h.not_mem (c := 'd') (by decide) (by decide)
      (List.mem_append_right _ (List.mem_append_left _ (by decide)))

/-! ## 4. What stands in front of the stamp -/

/-- There are digits only in a number. -/
theorem not_mem_decimal {c : Char} (hc : isAsciiDigit c = false) (n : Nat) : c ∉ decimal n :=
  (isNumeral_decimal n).not_mem hc

theorem low_line_not_mem_name (p : Phase) : '_' ∉ p.name := by
  cases p with
  | alpha => decide
  | beta => decide
  | candidate n => exact List.not_mem_append (by decide) (not_mem_decimal (by decide) n)

/-- The low line behind the base is the first one. -/
theorem low_line_not_mem_base : '_' ∉ m.base := by
  refine List.not_mem_append (m.isNumbers_numbers.not_mem (by decide) (by decide)) ?_
  cases m.phase with
  | none => exact List.not_mem_nil
  | some p => exact List.not_mem_cons_of_ne_of_not_mem (by decide) (low_line_not_mem_name p)

theorem phase?_release : m.release.phase? = m.phase.map Phase.name := by
  show (m.phase.map Phase.name).filter _ = _
  cases m.phase with
  | none => rfl
  | some p => cases p <;> rfl

/-- The suffix of a phase is what packages know it as. -/
theorem phaseSuffix_name (p : Phase) : Release.phaseSuffix p.name = p.mark := by
  cases p with
  | alpha => rfl
  | beta => rfl
  | candidate n => rfl

theorem showInt_natCast (n : Nat) : showInt n = decimal n := by
  rw [showInt, if_neg (by omega), Int.natAbs_natCast]

theorem numbers_release :
    m.release.numbers =
      if m.AreWritten then .ok m.numbers else .error Release.Fault.numberTooLong := by
  rw [numbers, ← showInt_natCast, ← showInt_natCast, ← showInt_natCast]
  rfl

theorem packageBase_release :
    m.release.packageBase =
      if m.AreWritten then .ok m.mainVersion else .error Release.Fault.numberTooLong := by
  rw [Release.packageBase, numbers_release, phase?_release, mainVersion]
  by_cases h : m.AreWritten
  · rw [if_pos h, if_pos h]
    cases m.phase with
    | none => exact congrArg Except.ok (List.append_nil _).symm
    | some p => exact congrArg (fun suffix => Except.ok (_ ++ suffix)) (phaseSuffix_name p)
  · rw [if_neg h, if_neg h]
    rfl

/-! ## 5. What is read off the stamp -/

/-- The mark of a development release that is read off what stands behind the base of a stamp. -/
def markOf (rest : Text) : Text :=
  if (rest.cutAt '_').1 = "main" then []
  else ".dev" ++ Release.buildNumber ((rest.cutAt '_').2.getD [])

theorem packageVersion_release :
    m.release.packageVersion =
      if m.AreWritten then .ok (m.mainVersion ++ markOf (m.branch ++ '_' :: m.origin))
      else .error Release.Fault.numberTooLong := by
  have hcut : m.release.stamp.cutAt '_' = (m.base, some (m.branch ++ '_' :: m.origin)) :=
    Text.cutAt_append m.low_line_not_mem_base _
  rw [Release.packageVersion, packageBase_release, hcut, markOf]
  by_cases h : m.AreWritten
  · rw [if_pos h, if_pos h]
    show (if _ then Except.ok m.mainVersion else Except.ok (m.mainVersion ++ ".dev" ++ _)) = _
    split
    · exact congrArg Except.ok (List.append_nil _).symm
    · exact congrArg Except.ok (List.append_assoc _ _ _)
  · rw [if_neg h, if_neg h]
    rfl

theorem buildNumber_append {number : Text} (h : '-' ∉ number) (rest : Text) :
    Release.buildNumber (number ++ '-' :: rest) = number := by
  rw [Release.buildNumber, Text.cutAt_append h]

/-- A branch without a low line is found, and so is the number of the build. -/
theorem markOf_of_not_mem (h : '_' ∉ m.branch) :
    markOf (m.branch ++ '_' :: m.origin) = m.developmentMark := by
  have hbuild : Release.buildNumber m.origin = decimal m.build :=
    buildNumber_append (not_mem_decimal (by decide) _) _
  rw [markOf, Text.cutAt_append h]
  dsimp only
  rw [Option.getD_some, hbuild, developmentMark]

/-- What stands in front of a low line in a branch is taken for the branch, and what stands behind
it for the start of the number. -/
theorem markOf_of_low_line {name rest : Text} (hname : '_' ∉ name)
    (hbranch : m.branch = name ++ '_' :: rest) :
    markOf (m.branch ++ '_' :: m.origin) =
      if name = "main" then []
      else ".dev".toList ++ Release.buildNumber (rest ++ '_' :: m.origin) := by
  rw [markOf, hbranch, List.append_assoc, List.cons_append, Text.cutAt_append hname]
  rfl

/-- The number is then right when it stands behind the low line already. -/
theorem buildNumber_eq_iff (rest : Text) :
    Release.buildNumber (rest ++ '_' :: m.origin) = decimal m.build ↔
      ∃ more, rest = decimal m.build ++ '-' :: more := by
  have hhyphen : '-' ∉ decimal m.build := not_mem_decimal (by decide) _
  by_cases h : '-' ∈ rest
  · obtain ⟨number, more, rfl, hnumber⟩ := List.eq_append_cons_of_mem h
    rw [List.append_assoc, List.cons_append, buildNumber_append hnumber]
    constructor
    · rintro rfl
      exact ⟨more, rfl⟩
    · rintro ⟨more', heq⟩
      have hcut := congrArg (Text.cutAt '-') heq
      rw [Text.cutAt_append hnumber, Text.cutAt_append hhyphen] at hcut
      exact (Prod.mk.inj hcut).1
  · constructor
    · intro heq
      have hboth : '-' ∉ rest ++ '_' :: decimal m.build := by
        simp [h, hhyphen]
      have hlow : '_' ∉ decimal m.build := not_mem_decimal (by decide) _
      rw [origin, ← List.cons_append, ← List.append_assoc, buildNumber_append hboth] at heq
      rw [← heq] at hlow
      exact absurd (List.mem_append_right _ List.mem_cons_self) hlow
    · rintro ⟨more, rfl⟩
      exact absurd (List.mem_append_right _ List.mem_cons_self) h

/-- What is read off the stamp is what should be there exactly when the branch is legible. -/
theorem markOf_eq_iff : markOf (m.branch ++ '_' :: m.origin) = m.developmentMark ↔ m.IsLegible := by
  by_cases h : '_' ∈ m.branch
  · obtain ⟨name, rest, hbranch, hname⟩ := List.eq_append_cons_of_mem h
    have hmain : m.branch ≠ "main" := fun heq => absurd (heq ▸ h) (by decide)
    rw [m.markOf_of_low_line hname hbranch, developmentMark, if_neg hmain]
    constructor
    · intro heq
      split at heq
      · cases heq
      · rename_i hne
        obtain ⟨more, rfl⟩ := (m.buildNumber_eq_iff rest).mp (List.append_cancel_left heq)
        exact .inr ⟨name, more, hname, hne, hbranch⟩
    · rintro (hno | ⟨name', more, hname', hne, hbranch'⟩)
      · exact absurd h hno
      · have hcut := congrArg (Text.cutAt '_') (hbranch.symm.trans hbranch')
        rw [Text.cutAt_append hname, Text.cutAt_append hname'] at hcut
        obtain ⟨rfl, hrest⟩ := Prod.mk.inj hcut
        cases hrest
        rw [if_neg hne, (m.buildNumber_eq_iff _).mpr ⟨more, rfl⟩]
  · exact iff_of_true (m.markOf_of_not_mem h) (.inl h)

/-! ## 6. Versions -/

/-- **The versions of a stamp.** Whatever the numbers, the phase, the branch, the build, the day and
the commit are: the base version is the numbers and the phase. The version of the package, where the
numbers can be written, is the numbers, the mark of the phase and, unless the branch is the main
one, the number of the build, exactly when the branch is legible: when it has no low line, or has
the number of the build behind the first one, and a hyphen behind that. Where a number has too many
digits, there is no such version. The version that should be there follows the rules for packages,
and it is that of a release just on the main branch. -/
theorem versions_of_stamp (m : Making) :
    m.release.baseVersion = .ok m.base ∧
    (m.release.packageVersion = .ok m.version ↔ m.AreWritten ∧ m.IsLegible) ∧
    (m.release.packageVersion = .error .numberTooLong ↔ ¬ m.AreWritten) ∧
    IsPackageNumber m.version ∧ (IsReleaseNumber m.version ↔ m.branch = "main") := by
  have hbase : m.release.baseVersion = .ok m.base :=
    Release.baseVersion_stamp rfl m.low_line_not_mem_base
  refine ⟨hbase, ?_, ?_, m.isPackageNumber_version, m.isReleaseNumber_version_iff⟩
  · rw [packageVersion_release, version]
    by_cases h : m.AreWritten
    · rw [if_pos h, Except.ok.injEq, List.append_cancel_left_eq, m.markOf_eq_iff, and_iff_right h]
    · rw [if_neg h]
      exact iff_of_false nofun fun hboth => h hboth.1
  · rw [packageVersion_release]
    by_cases h : m.AreWritten
    · rw [if_pos h]
      exact iff_of_false nofun fun hnot => hnot h
    · rw [if_neg h]
      exact iff_of_true rfl h

/-- **A low line in a branch.** The version that is read off the stamp is not the one that should be
there, and does not follow the rules. If the branch is like the main one up to its low line, the
version is that of a release. -/
theorem not_versions_of_low_line :
    let m : Making := { major := 2, minor := 2, patch := 0, phase := some .beta
                        branch := "feature_x", build := 7, date := "20261016", hash := "1f0c2ab" }
    let n : Making := { m with branch := "main_x" }
    m.release.stamp = "2.2.0-beta_feature_x_7-20261016-1f0c2ab".toList ∧
      m.release.packageVersion = .ok "2.2.0b0.devx_7" ∧ m.version = "2.2.0b0.dev7".toList ∧
      ¬ IsPackageNumber "2.2.0b0.devx_7" ∧
      n.release.packageVersion = .ok n.mainVersion ∧ n.branch ≠ "main" := by
  intro m n
  have hm : m.AreWritten := by decide +kernel
  have hn : n.AreWritten := hm
  refine ⟨by decide +kernel, ?_, by decide +kernel, ?_, ?_, by decide⟩
  · rw [packageVersion_release, if_pos hm]
    exact congrArg Except.ok (by decide +kernel)
  · intro h
    exact h.low_line_not_mem (by decide)
  · rw [packageVersion_release, if_pos hn]
    exact congrArg Except.ok (by decide +kernel)

end Making

end LogSieve
