import LogSieve.Console

/-!
# Setting up is all or nothing

A console gets a new voice when all of its channel settings can be read, and is left as it was when
one of them cannot, wherever that one stands among the others.

* `IsDigits`, `IsInteger`: how an integer may be written;
* `scanDigits_append`, `scanDigits_eq_some`, `readInt_eq_ok_iff`: just that is read;
* `Sets`, `parse_eq_ok_iff`: what a channel setting says;
* `lookup_overrideAll`: of several settings of a channel the last one counts, by induction;
* `overrideAll_cases`, `ofChannels_cases`: the first text that is no setting is what fails;
* `Settles`, `threshold_iff`: the thresholds of all channels;
* `Console.setUp_all_or_nothing`: and what becomes of the console.
-/

namespace LogSieve

/-! ## 1. Integers -/

/-- Digits of any script, with at most one low line between two of them, and their values. -/
inductive IsDigits : Text → List Nat → Prop
  | one {c : Char} {d : Nat} (h : Text.digitValue? c = some d) : IsDigits [c] [d]
  | more {c : Char} {d : Nat} {t : Text} {ds : List Nat} (h : Text.digitValue? c = some d)
      (rest : IsDigits t ds) : IsDigits (c :: t) (d :: ds)
  | apart {c : Char} {d : Nat} {t : Text} {ds : List Nat} (h : Text.digitValue? c = some d)
      (rest : IsDigits t ds) : IsDigits (c :: '_' :: t) (d :: ds)

/-- The signs that may stand in front of digits, with what they multiply by. -/
def signs : List (Text × Int) := [([], 1), (['+'], 1), (['-'], -1)]

theorem mem_signs_iff (sign : Text) (factor : Int) :
    (sign, factor) ∈ signs ↔
      (sign = [] ∧ factor = 1) ∨ (sign = ['+'] ∧ factor = 1) ∨ (sign = ['-'] ∧ factor = -1) := by
  simp [signs]

/-- The text is an integer: digits, not too many, perhaps with a sign in front and with blanks
around. -/
inductive IsInteger : Text → Int → Prop
  | written {before sign body after : Text} {factor : Int} {ds : List Nat}
      (hbefore : ∀ c ∈ before, isNumberBlank c = true) (hsign : (sign, factor) ∈ signs)
      (hbody : IsDigits body ds) (hlength : ds.length ≤ digitLimit)
      (hafter : ∀ c ∈ after, isNumberBlank c = true) :
      IsInteger (before ++ (sign ++ (body ++ after))) (factor * ofDigits 10 ds)

section Digits

variable {c : Char} {d : Nat} {t : Text}

theorem ne_of_digit (h : Text.digitValue? c = some d) {e : Char} (he : Text.digitValue? e = none) :
    c ≠ e := by
  intro heq
  rw [heq, he] at h
  cases h

/-- No digit is a blank. -/
theorem isBlank_of_digit (h : Text.digitValue? c = some d) : Text.isBlank c = false := by
  have hapart : ∀ z ∈ Text.digitZeros, ∀ r ∈ Text.blankRanges, z + 9 < r.1 ∨ r.2 < z := by decide
  have hascending : Text.Ascending Text.blankRanges := by
    simp [Text.Ascending, Text.blankRanges]
  obtain ⟨z, hz, _⟩ := Option.map_eq_some_iff.mp h
  have hrange := List.find?_some hz
  rw [Bool.and_eq_true, decide_eq_true_eq, decide_eq_true_eq] at hrange
  rw [Bool.eq_false_iff, Text.isBlank, Ne, Text.inRanges_iff hascending]
  intro hr
  obtain ⟨r, hr, hlow, hhigh⟩ := hr
  rcases hapart z (List.mem_of_find?_eq_some hz) r hr with hlt | hlt <;> omega

theorem isNumberBlank_of_digit (h : Text.digitValue? c = some d) : isNumberBlank c = false := by
  rw [isNumberBlank, isBlank_of_digit h, Bool.false_and]

theorem IsDigits.head {body : Text} {ds : List Nat} (h : IsDigits body ds) :
    ∃ c d rest, body = c :: rest ∧ Text.digitValue? c = some d := by
  cases h with
  | one h => exact ⟨_, _, _, rfl, h⟩
  | more h rest => exact ⟨_, _, _, rfl, h⟩
  | apart h rest => exact ⟨_, _, _, rfl, h⟩

/-- Blanks end the digits in front of them. -/
theorem scanDigits_blanks {after : Text} (h : ∀ c ∈ after, isNumberBlank c = true) :
    scanDigits true after = some ([], after) := by
  cases after with
  | nil => rfl
  | cons c rest =>
    have hc := h c List.mem_cons_self
    have hdigit : Text.digitValue? c = none := by
      cases hv : Text.digitValue? c with
      | none => rfl
      | some d =>
        rw [isNumberBlank_of_digit hv] at hc
        cases hc
    have hline : c ≠ '_' := by
      rintro rfl
      exact absurd hc (by decide)
    rw [scanDigits, hdigit]
    simp [hline]

/-- Digits are read to their end. -/
theorem scanDigits_append {body after : Text} {ds : List Nat} (h : IsDigits body ds)
    (hafter : ∀ c ∈ after, isNumberBlank c = true) (afterDigit : Bool) :
    scanDigits afterDigit (body ++ after) = some (ds, after) := by
  induction h generalizing afterDigit with
  | one h =>
    rw [List.singleton_append, scanDigits, h]
    dsimp only
    rw [scanDigits_blanks hafter]
    rfl
  | more h rest ih =>
    rw [List.cons_append, scanDigits, h]
    dsimp only
    rw [ih]
    rfl
  | apart h rest ih =>
    have hline : Text.digitValue? '_' = none := by decide
    rw [List.cons_append, List.cons_append, scanDigits, h]
    dsimp only
    rw [scanDigits, hline]
    dsimp only
    rw [if_neg (by decide), if_pos rfl, ih]
    rfl

/-- What is read as digits is written as digits; behind a digit there may be none, or a low line in
front of them. -/
theorem scanDigits_eq_some {afterDigit : Bool} {ds : List Nat} {tail : Text}
    (h : scanDigits afterDigit t = some (ds, tail)) :
    (afterDigit = true ∧ ds = [] ∧ t = tail) ∨
      ∃ body, IsDigits body ds ∧
        (t = body ++ tail ∨ afterDigit = true ∧ t = '_' :: (body ++ tail)) := by
  induction t generalizing afterDigit ds with
  | nil =>
    cases afterDigit with
    | true =>
      cases h
      exact .inl ⟨rfl, rfl, rfl⟩
    | false => cases h
  | cons c rest ih =>
    rw [scanDigits] at h
    cases hv : Text.digitValue? c with
    | some d =>
      rw [hv] at h
      obtain ⟨⟨ds', tail'⟩, hscan, hpair⟩ := Option.map_eq_some_iff.mp h
      cases hpair
      rcases ih hscan with ⟨_, rfl, rfl⟩ | ⟨body, hbody, rfl | ⟨_, rfl⟩⟩
      · exact .inr ⟨[c], .one hv, .inl rfl⟩
      · exact .inr ⟨c :: body, .more hv hbody, .inl rfl⟩
      · exact .inr ⟨c :: '_' :: body, .apart hv hbody, .inl rfl⟩
    | none =>
      rw [hv] at h
      dsimp only at h
      cases afterDigit with
      | false => cases h
      | true =>
        rw [if_neg (by decide)] at h
        split at h
        · rename_i hline
          subst hline
          rcases ih h with ⟨hno, _, _⟩ | ⟨body, hbody, rfl | ⟨hno, _⟩⟩
          · cases hno
          · exact .inr ⟨body, hbody, .inr ⟨rfl, rfl⟩⟩
          · cases hno
        · cases h
          exact .inl ⟨rfl, rfl, rfl⟩

/-- A sign is taken off, if there is one. -/
theorem exists_sign (t : Text) :
    ∃ sign, t = sign ++ (takeSign t).2 ∧
      (sign, if (takeSign t).1 then (-1 : Int) else 1) ∈ signs := by
  unfold takeSign
  split
  · exact ⟨['-'], rfl, by simp [signs]⟩
  · exact ⟨['+'], rfl, by simp [signs]⟩
  · exact ⟨[], rfl, by simp [signs]⟩

/-- In front of digits a sign is found, and told from a blank. -/
theorem takeSign_append {sign body : Text} {factor : Int} {ds : List Nat}
    (hsign : (sign, factor) ∈ signs) (h : IsDigits body ds) (after : Text) :
    takeSign (sign ++ (body ++ after)) = (decide (factor = -1), body ++ after) ∧
      (sign ++ (body ++ after)).dropWhile isNumberBlank = sign ++ (body ++ after) := by
  obtain ⟨c, d, rest, rfl, hc⟩ := h.head
  have hblank := isNumberBlank_of_digit hc
  have hminus : c ≠ '-' := ne_of_digit hc (by decide)
  have hplus : c ≠ '+' := ne_of_digit hc (by decide)
  rcases (mem_signs_iff _ _).mp hsign with ⟨rfl, rfl⟩ | ⟨rfl, rfl⟩ | ⟨rfl, rfl⟩
  · refine ⟨?_, List.dropWhile_cons_of_neg (by simp [hblank])⟩
    rw [List.nil_append, List.cons_append]
    unfold takeSign
    split
    · rename_i heq
      exact absurd (List.cons.inj heq).1 hminus
    · rename_i heq
      exact absurd (List.cons.inj heq).1 hplus
    · rfl
  · exact ⟨rfl, rfl⟩
  · exact ⟨rfl, rfl⟩

end Digits

/-- What is made of digits, a sign, and what stands behind them. -/
theorem value_of_readDigits {negative : Bool} {ds : List Nat} {tail : Text} {fault : IntegerFault}
    {n : Int} :
    (do
      let v ← readDigits ds
      if tail.all isNumberBlank then .ok (if negative then -(v : Int) else v)
      else .error fault) = Except.ok n ↔
    ds.length ≤ digitLimit ∧ (∀ c ∈ tail, isNumberBlank c = true) ∧
      n = (if negative then -1 else 1) * ofDigits 10 ds := by
  have hfactor : (if negative then -1 else 1) * (ofDigits 10 ds : Int) =
      if negative then -(ofDigits 10 ds : Int) else ofDigits 10 ds := by
    cases negative <;> simp
  rw [hfactor, readDigits, ← List.all_eq_true]
  by_cases hlength : ds.length ≤ digitLimit
  · rw [if_neg (Nat.not_lt.mpr hlength)]
    cases htail : tail.all isNumberBlank with
    | true =>
      constructor
      · intro h
        cases h
        exact ⟨hlength, rfl, rfl⟩
      · intro h
        rw [h.2.2]
        rfl
    | false => exact iff_of_false nofun fun h => nomatch h.2.1
  · rw [if_pos (Nat.lt_of_not_le hlength)]
    exact iff_of_false nofun fun h => hlength h.1

/-- Integers are read, and nothing else is. -/
theorem readInt_eq_ok_iff (t : Text) (n : Int) : readInt t = .ok n ↔ IsInteger t n := by
  constructor
  · intro h
    obtain ⟨sign, hsplit, hsign⟩ := exists_sign (t.dropWhile isNumberBlank)
    unfold readInt at h
    dsimp only at h
    generalize takeSign (t.dropWhile isNumberBlank) = taken at h hsplit hsign
    obtain ⟨negative, rest⟩ := taken
    dsimp only at h hsplit hsign
    split at h
    · rename_i ds tail hscan
      obtain ⟨hno, _⟩ | ⟨body, hbody, rfl | ⟨hno, _⟩⟩ := scanDigits_eq_some hscan
      · cases hno
      · obtain ⟨hlength, hafter, rfl⟩ := value_of_readDigits.mp h
        rw [← List.takeWhile_append_dropWhile (p := isNumberBlank) (l := t), hsplit]
        exact .written (List.all_eq_true.mp List.all_takeWhile) hsign hbody hlength hafter
      · cases hno
    · cases h
  · intro h
    cases h with
    | written hbefore hsign hbody hlength hafter =>
      obtain ⟨htake, hdrop⟩ := takeSign_append hsign hbody _
      unfold readInt
      rw [List.dropWhile_append_of_pos hbefore, hdrop, htake]
      dsimp only
      rw [scanDigits_append hbody hafter]
      refine value_of_readDigits.mpr ⟨hlength, hafter, ?_⟩
      rcases (mem_signs_iff _ _).mp hsign with ⟨_, rfl⟩ | ⟨_, rfl⟩ | ⟨_, rfl⟩ <;> rfl

theorem isDigits_map {ds : List Nat} (hne : ds ≠ []) (h : ∀ d ∈ ds, d < 10) :
    IsDigits (ds.map Text.asciiDigit) ds := by
  induction ds with
  | nil => exact absurd rfl hne
  | cons d rest ih =>
    obtain ⟨hd, hrest⟩ := List.forall_mem_cons.mp h
    cases rest with
    | nil => exact .one (Text.digitValue?_asciiDigit hd)
    | cons e more => exact .more (Text.digitValue?_asciiDigit hd) (ih (List.cons_ne_nil _ _) hrest)

/-- An integer that is written can be read as one. -/
theorem isInteger_showInt {n : Int} (h : isWritten n = true) : IsInteger (showInt n) n := by
  have hdigits : IsDigits (decimal n.natAbs) (digitsIn 10 n.natAbs) :=
    isDigits_map (digitsIn_ne_nil 10 _) (digitsIn_lt (by decide))
  have hsigned : ∀ {sign : Text} {factor : Int}, (sign, factor) ∈ signs →
      IsInteger (sign ++ decimal n.natAbs) (factor * n.natAbs) := by
    intro sign factor hsign
    have hread : IsInteger ([] ++ (sign ++ (decimal n.natAbs ++ [])))
        (factor * ofDigits 10 (digitsIn 10 n.natAbs)) :=
      .written nofun hsign hdigits (of_decide_eq_true h) nofun
    rw [ofDigits_digitsIn, List.nil_append, List.append_nil] at hread
    exact hread
  rw [showInt]
  split
  · have hn : -1 * (n.natAbs : Int) = n := by omega
    have hminus := hsigned (by decide : (['-'], -1) ∈ signs)
    rw [hn] at hminus
    exact hminus
  · have hn : 1 * (n.natAbs : Int) = n := by omega
    have hplain := hsigned (by decide : ([], 1) ∈ signs)
    rw [hn] at hplain
    exact hplain

/-! ## 2. Channel settings -/

/-- The setting gives a channel a level: it has the name of the channel, blanks aside, and behind
the first colon the level, which is 0 when nothing or only blanks stand there. -/
inductive Sets : Text → Text → Int → Prop
  | bare {t : Text} (h : ':' ∉ t) : Sets t t.trim 0
  | blank {name level : Text} (h : ':' ∉ name) (hblank : ∀ c ∈ level, Text.isBlank c = true) :
      Sets (name ++ ':' :: level) name.trim 0
  | leveled {name level : Text} {n : Int} (h : ':' ∉ name) (hlevel : IsInteger level n) :
      Sets (name ++ ':' :: level) name.trim n

/-- The text is a channel setting. -/
def IsSetting (t : Text) : Prop := ∃ name n, Sets t name n

theorem IsInteger.not_isAllBlank {t : Text} {n : Int} (h : IsInteger t n) :
    t.isAllBlank = false := by
  cases h with
  | written _ _ hbody _ _ =>
    obtain ⟨c, d, rest, rfl, hc⟩ := hbody.head
    rw [Text.isAllBlank, Bool.eq_false_iff]
    intro hall
    have hblank := List.all_eq_true.mp hall c (by simp)
    rw [isBlank_of_digit hc] at hblank
    cases hblank

namespace Diagnostics

/-- A channel setting is read when it gives a channel a level, and as just that. -/
theorem parse_eq_ok_iff (t name : Text) (n : Int) :
    ChannelSetting.parse t = .ok ⟨name, n⟩ ↔ Sets t name n := by
  constructor
  · intro h
    by_cases hc : ':' ∈ t
    · obtain ⟨before, level, rfl, hbefore⟩ := List.eq_append_cons_of_mem hc
      rw [ChannelSetting.parse, Text.cutAt_append hbefore] at h
      dsimp only at h
      split at h
      · rename_i hblank
        cases h
        exact .blank hbefore (List.all_eq_true.mp hblank)
      · cases hr : readInt level with
        | ok v =>
          rw [hr] at h
          cases h
          exact .leveled hbefore ((readInt_eq_ok_iff _ _).mp hr)
        | error fault =>
          rw [hr] at h
          cases h
    · rw [ChannelSetting.parse, Text.cutAt_of_not_mem hc] at h
      cases h
      exact .bare hc
  · intro h
    cases h with
    | bare hc => rw [ChannelSetting.parse, Text.cutAt_of_not_mem hc]
    | blank hc hblank =>
      rw [ChannelSetting.parse, Text.cutAt_append hc]
      exact if_pos (List.all_eq_true.mpr hblank)
    | leveled hc hlevel =>
      rw [ChannelSetting.parse, Text.cutAt_append hc]
      dsimp only
      rw [hlevel.not_isAllBlank, (readInt_eq_ok_iff _ _).mpr hlevel]
      rfl

theorem isSetting_iff (t : Text) : IsSetting t ↔ (ChannelSetting.parse t).isOk = true := by
  cases hs : ChannelSetting.parse t with
  | ok s => exact iff_of_true ⟨s.name, s.level, (parse_eq_ok_iff _ _ _).mp hs⟩ rfl
  | error fault =>
    refine iff_of_false (fun h => ?_) nofun
    obtain ⟨name, n, hsets⟩ := h
    rw [(parse_eq_ok_iff t name n).mpr hsets] at hs
    cases hs

instance (t : Text) : Decidable (IsSetting t) := decidable_of_iff _ (isSetting_iff t).symm

/-! ## 3. Lists of settings -/

section Lists

variable {settings out : List (Text × Int)} {ts : List Text}

/-- A setting gives a level to one channel only, and only one level. -/
theorem eq_of_sets {t name : Text} {n : Int} {s : ChannelSetting}
    (hs : ChannelSetting.parse t = .ok s) (h : Sets t name n) : s = ⟨name, n⟩ :=
  Except.ok.inj (hs.symm.trans ((parse_eq_ok_iff t name n).mpr h))

/-- The last setting of a channel counts, and where there is none, what was there before. -/
theorem lookup_overrideAll (h : overrideAll settings ts = .ok out) (channel : Text) :
    (∃ earlier t later n, ts = earlier ++ t :: later ∧ Sets t channel n ∧
        (∀ u ∈ later, ∀ m, ¬ Sets u channel m) ∧ out.lookup channel = some n) ∨
      (∀ t ∈ ts, ∀ n, ¬ Sets t channel n) ∧ out.lookup channel = settings.lookup channel := by
  induction ts generalizing settings with
  | nil =>
    cases h
    exact .inr ⟨nofun, rfl⟩
  | cons t rest ih =>
    rw [overrideAll] at h
    cases hs : ChannelSetting.parse t with
    | error fault =>
      rw [hs] at h
      cases h
    | ok s =>
      rw [hs] at h
      rcases ih h with ⟨earlier, u, later, n, rfl, hu, hlater, hn⟩ | ⟨hrest, hn⟩
      · exact .inl ⟨t :: earlier, u, later, n, rfl, hu, hlater, hn⟩
      · rw [lookup_override] at hn
        split at hn
        · rename_i hname
          have hsets := (parse_eq_ok_iff t s.name s.level).mp hs
          rw [← hname] at hsets
          exact .inl ⟨[], t, rest, s.level, rfl, hsets, hrest, hn⟩
        · rename_i hname
          refine .inr ⟨?_, hn⟩
          refine List.forall_mem_cons.mpr ⟨fun n hsets => ?_, hrest⟩
          rw [eq_of_sets hs hsets] at hname
          exact hname rfl

/-- Settings are read to the end, or up to the first text that is none. -/
theorem overrideAll_cases (settings : List (Text × Int)) (ts : List Text) :
    ((∀ t ∈ ts, IsSetting t) ∧ ∃ out, overrideAll settings ts = .ok out) ∨
      ∃ earlier t later fault, ts = earlier ++ t :: later ∧ (∀ u ∈ earlier, IsSetting u) ∧
        ¬ IsSetting t ∧ ChannelSetting.parse t = .error fault ∧
        overrideAll settings ts = .error fault := by
  induction ts generalizing settings with
  | nil => exact .inl ⟨nofun, settings, rfl⟩
  | cons t rest ih =>
    have ht := isSetting_iff t
    rw [overrideAll]
    cases hs : ChannelSetting.parse t with
    | error fault =>
      rw [hs] at ht
      exact .inr ⟨[], t, rest, fault, rfl, nofun, fun h => Bool.noConfusion (ht.mp h), hs, rfl⟩
    | ok s =>
      rw [hs] at ht
      rcases ih (override s settings) with ⟨hall, out, hout⟩ |
        ⟨earlier, u, later, fault, rfl, hearlier, hu, hfault, hout⟩
      · exact .inl ⟨List.forall_mem_cons.mpr ⟨ht.mpr rfl, hall⟩, out, hout⟩
      · exact .inr ⟨t :: earlier, u, later, fault, rfl,
          List.forall_mem_cons.mpr ⟨ht.mpr rfl, hearlier⟩, hu, hfault, hout⟩

/-- So there are diagnostics with the verbosity, or the fault of the first text that is none. -/
theorem ofChannels_cases (verbosity : Int) (ts : List Text) :
    ((∀ t ∈ ts, IsSetting t) ∧
        ∃ d, ofChannels verbosity ts = .ok d ∧ d.verbosity = verbosity) ∨
      ∃ earlier t later fault, ts = earlier ++ t :: later ∧ (∀ u ∈ earlier, IsSetting u) ∧
        ¬ IsSetting t ∧ ChannelSetting.parse t = .error fault ∧
        ofChannels verbosity ts = .error fault := by
  rw [ofChannels]
  rcases overrideAll_cases [] ts with ⟨hall, out, hout⟩ |
    ⟨earlier, t, later, fault, hts, hearlier, ht, hfault, hout⟩
  · rw [hout]
    exact .inl ⟨hall, ⟨verbosity, out⟩, rfl, rfl⟩
  · rw [hout]
    exact .inr ⟨earlier, t, later, fault, hts, hearlier, ht, hfault, rfl⟩

end Lists

end Diagnostics

/-- The threshold that a verbosity and channel settings give a channel: the level of its last
setting, and the verbosity when it has none. -/
inductive Settles (verbosity : Int) (ts : List Text) (channel : Text) : Int → Prop
  | last {earlier later : List Text} {t : Text} {n : Int} (hts : ts = earlier ++ t :: later)
      (ht : Sets t channel n) (hlater : ∀ u ∈ later, ∀ m, ¬ Sets u channel m) :
      Settles verbosity ts channel n
  | general (h : ∀ t ∈ ts, ∀ n, ¬ Sets t channel n) : Settles verbosity ts channel verbosity

theorem Sets.unique {t name : Text} {n m : Int} (hn : Sets t name n) (hm : Sets t name m) :
    n = m := by
  have h := Diagnostics.eq_of_sets ((Diagnostics.parse_eq_ok_iff t name n).mpr hn) hm
  exact (Diagnostics.ChannelSetting.mk.inj h).2

/-- When the last setting of a channel is found in two ways, it is the same. -/
theorem eq_of_last {channel : Text} {earlier later earlier' later' : List Text} {t t' : Text}
    {n m : Int} (hts : earlier ++ t :: later = earlier' ++ t' :: later') (ht : Sets t channel n)
    (ht' : Sets t' channel m) (hlater : ∀ u ∈ later, ∀ k, ¬ Sets u channel k)
    (hlater' : ∀ u ∈ later', ∀ k, ¬ Sets u channel k) : t = t' := by
  rcases List.append_eq_append_iff.mp hts with ⟨mid, rfl, hmid⟩ | ⟨mid, rfl, hmid⟩
  · cases mid with
    | nil => exact (List.cons.inj hmid).1
    | cons u mid =>
      obtain ⟨rfl, rfl⟩ := List.cons.inj hmid
      exact absurd ht' (hlater t' (List.mem_append_right _ List.mem_cons_self) m)
  · cases mid with
    | nil => exact (List.cons.inj hmid).1.symm
    | cons u mid =>
      obtain ⟨rfl, rfl⟩ := List.cons.inj hmid
      exact absurd ht (hlater' t (List.mem_append_right _ List.mem_cons_self) n)

/-- So there is one threshold. -/
theorem Settles.unique {verbosity n m : Int} {ts : List Text} {channel : Text}
    (hn : Settles verbosity ts channel n) (hm : Settles verbosity ts channel m) : n = m := by
  have hmem : ∀ {earlier later : List Text} {t : Text}, t ∈ earlier ++ t :: later :=
    List.mem_append_right _ List.mem_cons_self
  cases hn with
  | last hts ht hlater =>
    subst hts
    cases hm with
    | last hts' ht' hlater' =>
      rw [eq_of_last hts' ht ht' hlater hlater'] at ht
      exact ht.unique ht'
    | general h => exact absurd ht (h _ hmem n)
  | general h =>
    cases hm with
    | last hts' ht' hlater' =>
      subst hts'
      exact absurd ht' (h _ hmem m)
    | general _ => rfl

/-- The thresholds of diagnostics that have been made of channel settings. -/
theorem Diagnostics.threshold_iff {verbosity : Int} {ts : List Text} {d : Diagnostics}
    (h : ofChannels verbosity ts = .ok d) (channel : Text) (n : Int) :
    d.threshold channel = n ↔ Settles verbosity ts channel n := by
  have hsettles : Settles verbosity ts channel (d.threshold channel) := by
    rw [ofChannels] at h
    cases hout : overrideAll [] ts with
    | error fault =>
      rw [hout] at h
      cases h
    | ok out =>
      rw [hout] at h
      cases h
      show Settles verbosity ts channel ((out.lookup channel).getD verbosity)
      rcases lookup_overrideAll hout channel with ⟨_, t, _, n, hts, ht, hlater, hn⟩ | ⟨hno, hn⟩
      · rw [hn]
        exact .last hts ht hlater
      · rw [hn]
        exact .general hno
  constructor
  · rintro rfl
    exact hsettles
  · exact hsettles.unique

/-! ## 4. Consoles -/

namespace Console

/-- **Setting up is all or nothing.** Whatever voice a console has, whatever it has written, and
whatever the verbosity and the texts for the channels are: when all of these are settings, there is
a new voice, and the threshold of a channel is the level of the last setting with its name, and the
verbosity when there is none. When one of them is no setting, wherever it stands, setting up fails
with the first such one, and the console is what it was, so that it goes on as if it had not been
asked to. A name, a colon and an integer as it is written make a setting of just these. -/
theorem setUp_all_or_nothing (c : Console) (verbosity : Int) (channels : List Text)
    (outlet : Outlet) :
    let setUp : Use := .setUp verbosity channels outlet
    ((∀ t ∈ channels, IsSetting t) → ∃ d : Diagnostics,
      c.use setUp = (.ok (.installed d), { c with voice? := some { diagnostics := d, outlet } }) ∧
      d.verbosity = verbosity ∧
      ∀ channel n, d.threshold channel = n ↔ Settles verbosity channels channel n) ∧
    ((¬ ∀ t ∈ channels, IsSetting t) → ∃ earlier t later fault,
      channels = earlier ++ t :: later ∧ (∀ u ∈ earlier, IsSetting u) ∧ ¬ IsSetting t ∧
      Diagnostics.ChannelSetting.parse t = .error fault ∧
      c.use setUp = (.error (.channel fault), c) ∧
      ∀ uses, c.useAll (setUp :: uses) =
        (.error (.channel fault) :: (c.useAll uses).1, (c.useAll uses).2)) ∧
    ∀ name n, ':' ∉ name → isWritten n = true →
      Diagnostics.ChannelSetting.parse (name ++ ':' :: showInt n) = .ok ⟨name.trim, n⟩ := by
  intro setUp
  refine ⟨fun hall => ?_, fun hbad => ?_, fun name n hname hn => ?_⟩
  · rcases Diagnostics.ofChannels_cases verbosity channels with ⟨_, d, hd, hverbosity⟩ |
      ⟨_, t, _, _, hts, _, ht, _, _⟩
    · refine ⟨d, ?_, hverbosity, Diagnostics.threshold_iff hd⟩
      rw [use_setUp, hd]
    · have hmem : t ∈ channels := hts ▸ List.mem_append_right _ List.mem_cons_self
      exact absurd (hall t hmem) ht
  · rcases Diagnostics.ofChannels_cases verbosity channels with ⟨hall, _⟩ |
      ⟨earlier, t, later, fault, hts, hearlier, ht, hfault, hd⟩
    · exact absurd hall hbad
    · have hrun : c.use setUp = (.error (.channel fault), c) := by
        rw [use_setUp, hd]
      refine ⟨earlier, t, later, fault, hts, hearlier, ht, hfault, hrun, fun uses => ?_⟩
      rw [useAll, hrun]
  · exact (Diagnostics.parse_eq_ok_iff _ _ _).mpr (.leveled hname (isInteger_showInt hn))

/-- **Settings of many forms, and one that is none.** Blanks, a sign, a low line, a digit of another
script, two settings of one channel, and one without a level; then two low lines together, in a
setting behind a good one. -/
theorem setUp_all_or_nothing_mixed :
    let c : Console := { voice? := some { diagnostics := { verbosity := 2 } } }
    let good : List Text := ["parse:2", " config :+1_0 ", "parse", "web: ٣", "config: "]
    let bad : List Text := ["parse:2", "config:1__0", "web:x"]
    let warning : Use := .say (.warning "ready" "parse" [])
    (∃ d, c.use (.setUp (-3) good .errors) =
        (.ok (.installed d), { c with voice? := some { diagnostics := d } }) ∧
      Settles (-3) good "web" (d.threshold "web") ∧ d.threshold "web" = 3 ∧
      d.threshold "parse" = 0 ∧ d.threshold "config" = 0 ∧ d.threshold "error" = -3) ∧
    (∃ fault, c.useAll [.setUp (-3) bad .errors, warning] =
        ([.error (.channel fault), .ok .done],
          { c with written := [(.errors, "warning: ready")] })) ∧
    Diagnostics.ChannelSetting.parse (" a b " ++ ':' :: showInt (-12)) = .ok ⟨"a b", -12⟩ := by
  intro c good bad warning
  obtain ⟨hgood, _, hwritten⟩ := setUp_all_or_nothing c (-3) good .errors
  obtain ⟨_, hbad, _⟩ := setUp_all_or_nothing c (-3) bad .errors
  refine ⟨?_, ?_, hwritten " a b " (-12) (by decide) (by decide +kernel)⟩
  · obtain ⟨d, hrun, _, hthreshold⟩ := hgood (by decide +kernel)
    refine ⟨d, hrun, (hthreshold "web" _).mp rfl, ?_⟩
    have hd : (Diagnostics.ofChannels (-3) good).toOption =
        some ⟨-3, [("parse", 0), ("config", 0), ("web", 3)]⟩ := by decide +kernel
    rw [use_setUp] at hrun
    cases hknown : Diagnostics.ofChannels (-3) good with
    | error fault =>
      rw [hknown] at hd
      cases hd
    | ok known =>
      rw [hknown] at hd hrun
      cases hd
      cases hrun
      decide
  · obtain ⟨_, _, _, fault, _, _, _, _, _, hafter⟩ := hbad (by decide +kernel)
    refine ⟨fault, ?_⟩
    rw [hafter]
    have hwarned : c.useAll [warning] =
        ([.ok .done], { c with written := [(.errors, "warning: ready")] }) := rfl
    rw [hwarned]

end Console

end LogSieve
