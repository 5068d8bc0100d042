import LogSieve.Proofs.Composing
import LogSieve.Proofs.SettingUp

/-!
# What names a level

A level is named by a word or by its rank. Which of the two a text is, if any, is decided by three
tests on characters: for blanks at its ends, for capitals, and for digits. They have to agree with
how integers are read, which is freer in some ways and stricter in another: an integer may have a
sign and low lines, but only so many digits.

* `HasDigits`, `readInt_of_hasDigits`: a text of digits is read as an integer, unless it is too
  long;
* `Level.IsSpelling`, `Level.Names`: the words, and all texts that name a level;
* `Level.ofToken_of_names`, `Level.ofToken_eq_ok_iff_names`: these are read as levels, no others;
* `Level.ofToken_of_isOverlong`, `Level.ofToken_of_not_names`: what is said about the others;
* `Spec.run_parse_word`: what a specification of one word comes to;
* `Level.parse_eq_ok_iff_names`: the texts that name a level, and the words that do not.
-/

namespace LogSieve

/-! ## 1. Digits -/

/-- The text consists of digits, of any scripts, with these values. -/
inductive HasDigits : Text → List Nat → Prop
  | nil : HasDigits [] []
  | cons {c : Char} {d : Nat} {t : Text} {ds : List Nat} (h : Text.digitValue? c = some d)
      (rest : HasDigits t ds) : HasDigits (c :: t) (d :: ds)

namespace HasDigits

variable {t : Text} {ds : List Nat}

theorem all_isDecimalDigit (h : HasDigits t ds) : t.all Text.isDecimalDigit = true := by
  induction h with
  | nil => rfl
  | cons h _ ih => rw [List.all_cons, ih, Text.isDecimalDigit, h, Option.isSome_some, Bool.and_true]

theorem filterMap_eq (h : HasDigits t ds) : t.filterMap Text.digitValue? = ds := by
  induction h with
  | nil => rfl
  | cons h _ ih => rw [List.filterMap_cons_some h, ih]

/-- The digits stand close together, so they are digits as in an integer. -/
theorem isDigits (h : HasDigits t ds) (hne : t ≠ []) : IsDigits t ds := by
  induction h with
  | nil => exact absurd rfl hne
  | cons h rest ih =>
    cases rest with
    | nil => exact .one h
    | cons h' rest => exact .more h (ih (List.cons_ne_nil _ _))

end HasDigits

/-- What passes the test for digits has values. -/
theorem hasDigits_filterMap {t : Text} (h : t.all Text.isDecimalDigit = true) :
    HasDigits t (t.filterMap Text.digitValue?) := by
  induction t with
  | nil => exact .nil
  | cons c rest ih =>
    rw [List.all_cons, Bool.and_eq_true] at h
    obtain ⟨d, hd⟩ := Option.isSome_iff_exists.mp h.1
    rw [List.filterMap_cons_some hd]
    exact .cons hd (ih h.2)

/-- A text of digits is read as an integer to its end; the only thing that can be wrong with it is
their number. -/
theorem readInt_of_hasDigits {t : Text} {ds : List Nat} (h : HasDigits t ds) (hne : t ≠ []) :
    readInt t = (readDigits ds).map Int.ofNat := by
  have hdigits := h.isDigits hne
  obtain ⟨htake, hdrop⟩ := takeSign_append (by decide : ([], 1) ∈ signs) hdigits []
  have hscan : scanDigits false (t ++ []) = some (ds, []) :=
    scanDigits_append hdigits (List.forall_mem_nil _) false
  rw [List.nil_append, List.append_nil] at htake hdrop
  rw [List.append_nil] at hscan
  rw [readInt, hdrop, htake]
  dsimp only
  rw [hscan]
  dsimp only
  cases readDigits ds with
  | ok n => rfl
  | error fault => rfl

/-! ## 2. Words -/

namespace Level

/-- The word names the level. -/
inductive IsSpelling : Text → Level → Prop
  | off : IsSpelling "off" .off
  | error : IsSpelling "error" .error
  | warn : IsSpelling "warn" .warning
  | warning : IsSpelling "warning" .warning
  | info : IsSpelling "info" .info
  | debug : IsSpelling "debug" .debug
  | trace : IsSpelling "trace" .trace

theorem lookup_spellings_iff (token : Text) (l : Level) :
    spellings.lookup token = some l ↔ IsSpelling token l := by
  constructor
  · intro h
    obtain ⟨before, after, heq, _⟩ := List.lookup_eq_some_iff.mp h
    have hmem : (token, l) ∈ spellings := heq ▸ List.mem_append_right _ List.mem_cons_self
    simp only [spellings, List.mem_cons, List.not_mem_nil, or_false, Prod.mk.injEq] at hmem
    rcases hmem with ⟨rfl, rfl⟩ | ⟨rfl, rfl⟩ | ⟨rfl, rfl⟩ | ⟨rfl, rfl⟩ | ⟨rfl, rfl⟩ | ⟨rfl, rfl⟩ |
      ⟨rfl, rfl⟩
    · exact .off
    · exact .error
    · exact .warn
    · exact .warning
    · exact .info
    · exact .debug
    · exact .trace
  · intro h
    cases h <;> rfl

/-- No word is made of digits. -/
theorem IsSpelling.not_hasDigits {token : Text} {l : Level} (h : IsSpelling token l)
    (ds : List Nat) : ¬ HasDigits token ds := by
  intro hd
  have hall := hd.all_isDecimalDigit
  cases h <;> exact absurd hall (by decide)

/-! ## 3. Names -/

/-- The token names the level: it is a word for it, or digits, not too many, that make its rank. -/
inductive Names : Text → Level → Prop
  | word {token : Text} {l : Level} (h : IsSpelling token l) : Names token l
  | rank {token : Text} {l : Level} {ds : List Nat} (hne : token ≠ []) (h : HasDigits token ds)
      (hlength : token.length ≤ digitLimit) (hvalue : ofDigits 10 ds = l.rank) : Names token l

/-- The token consists of digits, but of too many. -/
def IsOverlong (token : Text) : Prop := (∃ ds, HasDigits token ds) ∧ digitLimit < token.length

section Tokens

variable {token : Text} {ds : List Nat}

/-- What is made of digits is read by its value, as far as its length allows. -/
theorem ofToken_of_hasDigits (shown : Text) (h : HasDigits token ds) (hne : token ≠ []) :
    ofToken shown token =
      if digitLimit < token.length then .error (.tooManyDigits token.length)
      else (ofRank? (ofDigits 10 ds)).elim (.error (.unknown shown)) .ok := by
  have hnumeral : isNumeral token = true := by
    rw [isNumeral, h.all_isDecimalDigit, Bool.and_true, Bool.not_eq_true',
      List.isEmpty_eq_false_iff]
    exact hne
  rw [ofToken]
  cases hs : spellings.lookup token with
  | some l => exact absurd h (((lookup_spellings_iff token l).mp hs).not_hasDigits ds)
  | none =>
    dsimp only
    rw [if_pos hnumeral, numeralValue, h.filterMap_eq]

/-- What is neither a word nor made of digits is nothing. -/
theorem ofToken_of_not_hasDigits (shown : Text) (hspelling : ∀ l, ¬ IsSpelling token l)
    (h : token = [] ∨ ∀ ds, ¬ HasDigits token ds) :
    ofToken shown token = .error (.unknown shown) := by
  have hnumeral : isNumeral token = false := by
    rw [Bool.eq_false_iff, isNumeral, Ne, Bool.and_eq_true, Bool.not_eq_true',
      List.isEmpty_eq_false_iff]
    rintro ⟨hne, hall⟩
    rcases h with hnil | hno
    · exact hne hnil
    · exact hno _ (hasDigits_filterMap hall)
  rw [ofToken]
  cases hs : spellings.lookup token with
  | some l => exact absurd ((lookup_spellings_iff token l).mp hs) (hspelling l)
  | none =>
    dsimp only
    rw [hnumeral]
    rfl

/-- Names are read as the levels they name. -/
theorem ofToken_of_names {l : Level} (shown : Text) (h : Names token l) :
    ofToken shown token = .ok l := by
  cases h with
  | word h =>
    rw [ofToken, (lookup_spellings_iff token l).mpr h]
  | rank hne h hlength hvalue =>
    rw [ofToken_of_hasDigits shown h hne, if_neg (Nat.not_lt.mpr hlength), hvalue,
      ofRank?_eq_some_iff.mpr rfl]
    rfl

/-- A text of too many digits fails for them, whatever its value is. -/
theorem ofToken_of_isOverlong (shown : Text) (h : IsOverlong token) :
    ofToken shown token = .error (.tooManyDigits token.length) := by
  obtain ⟨⟨ds, hds⟩, hlength⟩ := h
  have hne : token ≠ [] := List.ne_nil_of_length_pos (Nat.zero_lt_of_lt hlength)
  rw [ofToken_of_hasDigits shown hds hne, if_pos hlength]

/-- All other texts fail for naming no level. -/
theorem ofToken_of_not_names (shown : Text) (h : ∀ l, ¬ Names token l) (hno : ¬ IsOverlong token) :
    ofToken shown token = .error (.unknown shown) := by
  have hspelling : ∀ l, ¬ IsSpelling token l := fun l hl => h l (.word hl)
  by_cases hne : token = []
  · exact ofToken_of_not_hasDigits shown hspelling (.inl hne)
  · by_cases hd : ∃ ds, HasDigits token ds
    · obtain ⟨ds, hds⟩ := hd
      have hlength : ¬ digitLimit < token.length := fun hlt => hno ⟨⟨ds, hds⟩, hlt⟩
      rw [ofToken_of_hasDigits shown hds hne, if_neg hlength]
      cases hr : ofRank? (ofDigits 10 ds) with
      | none => rfl
      | some l =>
        exact absurd (.rank hne hds (Nat.not_lt.mp hlength) (ofRank?_eq_some_iff.mp hr)) (h l)
    · exact ofToken_of_not_hasDigits shown hspelling (.inr fun ds hds => hd ⟨ds, hds⟩)

/-- A token is read as a level just when it names that. -/
theorem ofToken_eq_ok_iff_names (shown : Text) (l : Level) :
    ofToken shown token = .ok l ↔ Names token l := by
  refine ⟨fun h => ?_, ofToken_of_names shown⟩
  by_cases hlong : IsOverlong token
  · rw [ofToken_of_isOverlong shown hlong] at h
    cases h
  · by_cases hnames : ∃ l', Names token l'
    · obtain ⟨l', hl'⟩ := hnames
      rw [ofToken_of_names shown hl'] at h
      cases h
      exact hl'
    · rw [ofToken_of_not_names shown (fun l' hl' => hnames ⟨l', hl'⟩) hlong] at h
      cases h

/-- The two reasons for which a token is no level. -/
theorem ofToken_eq_error_iff (shown : Text) (fault : Fault) :
    ofToken shown token = .error fault ↔
      (IsOverlong token ∧ fault = .tooManyDigits token.length) ∨
        ((∀ l, ¬ Names token l) ∧ ¬ IsOverlong token ∧ fault = .unknown shown) := by
  by_cases hlong : IsOverlong token
  · rw [ofToken_of_isOverlong shown hlong, Except.error.injEq]
    constructor
    · rintro rfl
      exact .inl ⟨hlong, rfl⟩
    · rintro (⟨_, rfl⟩ | ⟨_, hno, _⟩)
      · rfl
      · exact absurd hlong hno
  · by_cases hnames : ∃ l, Names token l
    · obtain ⟨l, hl⟩ := hnames
      rw [ofToken_of_names shown hl]
      refine iff_of_false nofun ?_
      rintro (⟨h, _⟩ | ⟨h, _⟩)
      · exact hlong h
      · exact h l hl
    · have hno : ∀ l, ¬ Names token l := fun l hl => hnames ⟨l, hl⟩
      rw [ofToken_of_not_names shown hno hlong, Except.error.injEq]
      constructor
      · rintro rfl
        exact .inr ⟨hno, hlong, rfl⟩
      · rintro (⟨h, _⟩ | ⟨_, _, rfl⟩)
        · exact absurd h hlong
        · rfl

end Tokens

/-! ## 4. Texts -/

section Texts

variable {s t : Text}

theorem parse_eq_ok_iff (t : Text) (l : Level) : parse t = .ok l ↔ Names t.trim.lower l :=
  ofToken_eq_ok_iff_names _ l

/-- Blanks around a text are no part of the name. -/
theorem parse_surrounded {before after : Text} (hbefore : before.isAllBlank = true)
    (hafter : after.isAllBlank = true) (t : Text) (l : Level) :
    parse (before ++ (t ++ after)) = .ok l ↔ parse t = .ok l := by
  rw [parse_eq_ok_iff, parse_eq_ok_iff, Text.trim_surrounded hbefore hafter]

/-- The texts differ in the case of letters of ASCII at most. -/
def SameButForCase (s t : Text) : Prop := s.map Char.toLower = t.map Char.toLower

instance (s t : Text) : Decidable (SameButForCase s t) :=
  inferInstanceAs (Decidable (s.map Char.toLower = t.map Char.toLower))

theorem lower_trim_of_sameButForCase (h : SameButForCase s t) : s.trim.lower = t.trim.lower := by
  rw [← Text.lower_map_toLower, ← Text.trim_map_toLower, h, Text.trim_map_toLower,
    Text.lower_map_toLower]

theorem parse_of_sameButForCase (h : SameButForCase s t) (l : Level) :
    parse s = .ok l ↔ parse t = .ok l := by
  rw [parse_eq_ok_iff, parse_eq_ok_iff, lower_trim_of_sameButForCase h]

end Texts

end Level

/-! ## 5. Words in specifications -/

namespace Spec

/-- The text is one token of a specification, without a second side. -/
structure IsWord (t : Text) : Prop where
  not_blank : t.isAllBlank = false
  no_comma : ',' ∉ t
  no_equals : '=' ∉ t
  no_slash : '/' ∉ t

instance (t : Text) : Decidable (IsWord t) :=
  decidable_of_iff (t.isAllBlank = false ∧ ',' ∉ t ∧ '=' ∉ t ∧ '/' ∉ t)
    ⟨fun ⟨hb, hc, he, hs⟩ => ⟨hb, hc, he, hs⟩, fun ⟨hb, hc, he, hs⟩ => ⟨hb, hc, he, hs⟩⟩

/-- The directive of a word: that of the level it names, or of the module. -/
def directiveOfWord (t : Text) : Directive :=
  match Level.parse t with
  | .ok l => ⟨none, l⟩
  | .error _ => ⟨some t.trim, .trace⟩

/-- A specification of one word comes to one directive, and only this is said. -/
theorem run_parse_word [CharacterNames] (strategy : Value) {t : Text} (h : IsWord t) :
    (parse strategy t).run =
      ⟨[found (directiveOfWord t)], .ok ⟨[directiveOfWord t], none⟩⟩ := by
  have hmeaning : meaning t = .ok (directiveOfWord t) := by
    rw [meaning_word h.no_equals, directiveOfWord]
    cases Level.parse t with
    | ok l => rfl
    | error fault => rfl
  have htokens : tokensOf t = [t] := by
    rw [tokensOf_of_not_mem h.no_slash, Text.splitOn_of_not_mem h.no_comma,
      List.filter_cons_of_pos (by rw [h.not_blank, Bool.not_false]), List.filter_nil]
  have hnotice : noticeOf t = found (directiveOfWord t) := by
    rw [noticeOf, hmeaning]
  have hdirective : directive? t = some (directiveOfWord t) := by
    rw [directive?, hmeaning]
    rfl
  rw [run_parse_of_not_mem strategy h.no_slash, directiveNotices, directivesOf, htokens,
    if_neg (not_two_le_count h.no_slash), List.map_singleton, hnotice,
    List.filterMap_cons_some hdirective, List.filterMap_nil]

theorem directiveOfWord_eq_iff (t : Text) (l : Level) :
    directiveOfWord t = ⟨none, l⟩ ↔ Level.parse t = .ok l := by
  rw [directiveOfWord]
  cases Level.parse t with
  | ok l' =>
    rw [Directive.mk.injEq, and_iff_right rfl, Except.ok.injEq]
  | error fault => exact iff_of_false (fun h => nomatch h) nofun

theorem directiveOfWord_of_not_level {t : Text} (h : ∀ l, Level.parse t ≠ .ok l) :
    directiveOfWord t = ⟨some t.trim, .trace⟩ := by
  rw [directiveOfWord]
  cases hp : Level.parse t with
  | ok l => exact absurd hp (h l)
  | error fault => rfl

end Spec

namespace Level

/-! ## 6. The language of levels -/

/-- **The names of levels.** Whatever the text is: it is read as a level exactly when, without the
blanks around it and in lower case, it is a word for that level or consists of digits, of any
scripts, at most as many as are turned into a number, whose value is the rank of the level. In every
other case reading it fails: for the number of its digits when it consists of too many, else for
naming no level. Digits are read as an integer to their end, so that nothing else can be wrong with
them. Blanks around the text and the case of letters of ASCII make no difference. A word of a
specification is the directive for all modules at the level that it names, and when it names none,
the directive of the module of that name, in its own case but without the blanks around it, at the
last level. -/
theorem parse_eq_ok_iff_names [CharacterNames] (t : Text) :
    (∀ l, parse t = .ok l ↔ Names t.trim.lower l) ∧
    (∀ fault, parse t = .error fault ↔
      (IsOverlong t.trim.lower ∧ fault = .tooManyDigits t.trim.lower.length) ∨
        ((∀ l, ¬ Names t.trim.lower l) ∧ ¬ IsOverlong t.trim.lower ∧
          fault = .unknown (Text.quoted t))) ∧
    (∀ ds, HasDigits t.trim.lower ds → t.trim.lower ≠ [] →
      readInt t.trim.lower = (readDigits ds).map Int.ofNat) ∧
    (∀ before after : Text, before.isAllBlank = true → after.isAllBlank = true →
      ∀ l, parse (before ++ (t ++ after)) = .ok l ↔ parse t = .ok l) ∧
    (∀ s, SameButForCase s t → ∀ l, parse s = .ok l ↔ parse t = .ok l) ∧
    (Spec.IsWord t → ∀ strategy, ∃ d,
      (Spec.parse strategy t).run = ⟨[Spec.found d], .ok ⟨[d], none⟩⟩ ∧
      (∀ l, d = ⟨none, l⟩ ↔ parse t = .ok l) ∧
      ((∀ l, parse t ≠ .ok l) → d = ⟨some t.trim, .trace⟩)) := by
  refine ⟨parse_eq_ok_iff t, fun fault => ofToken_eq_error_iff _ fault,
    fun ds => readInt_of_hasDigits, ?_, ?_, ?_⟩
  · intro before after hbefore hafter l
    exact parse_surrounded hbefore hafter t l
  · intro s h l
    exact parse_of_sameButForCase h l
  · intro h strategy
    exact ⟨Spec.directiveOfWord t, Spec.run_parse_word strategy h, Spec.directiveOfWord_eq_iff t,
      Spec.directiveOfWord_of_not_level⟩

attribute [local instance] CharacterNames.common

/-- **A word, digits of two scripts, and digits that are none.** The word stands between a wide
blank and a separator; the number has zeros in front; a raised two, a sign and a low line make
modules. -/
theorem parse_eq_ok_iff_names_mixed :
    let three : Text := "\u0660\uff10٣"
    parse "\u2003wArN\x1f" = .ok .warning ∧ parse three = .ok .info ∧
      readInt three = .ok 3 ∧ parse ("  ".toList ++ (three ++ [])) = .ok .info ∧
      parse "TRace" = .ok .trace ∧ parse "²" = .error (.unknown "'²'") ∧
      ∀ t ∈ (["² ", "+3", "1_0", "Web"] : List String),
        (Spec.parse (.text "regex") t).run.value.toOption.map Spec.directives =
          some [⟨some (Text.trim t), .trace⟩] := by
  intro three
  have hdigits : HasDigits three [0, 0, 3] :=
    .cons (by decide) (.cons (by decide) (.cons (by decide) .nil))
  have hnumber : three.trim.lower = three := by decide +kernel
  have hthree : parse three = .ok .info := by
    refine ((parse_eq_ok_iff_names three).1 .info).mpr ?_
    rw [hnumber]
    exact .rank (by decide) hdigits (by decide +kernel) rfl
  refine ⟨?_, hthree, ?_, ?_, ?_, ?_, ?_⟩
  · have hword : (Text.trim "\u2003wArN\x1f").lower = "warn".toList := by decide +kernel
    exact ((parse_eq_ok_iff_names _).1 .warning).mpr (hword ▸ .word .warn)
  · have hread := (parse_eq_ok_iff_names three).2.2.1 [0, 0, 3]
    rw [hnumber] at hread
    exact hread hdigits (by decide)
  · exact ((parse_eq_ok_iff_names three).2.2.2.1 "  " [] (by decide) (by decide) .info).mpr hthree
  · exact ((parse_eq_ok_iff_names "trace").2.2.2.2.1 "TRace" (by decide) .trace).mpr
      (parse_name .trace)
  · have hno : (parse "²").isOk = false := by decide +kernel
    have hnames : ∀ l, ¬ Names (Text.trim "²").lower l := by
      intro l hl
      rw [((parse_eq_ok_iff_names "²").1 l).mpr hl] at hno
      cases hno
    have hshort : ¬ IsOverlong (Text.trim "²").lower := fun h => absurd h.2 (by decide +kernel)
    exact ((parse_eq_ok_iff_names "²").2.1 _).mpr (.inr ⟨hnames, hshort, by decide +kernel⟩)
  · intro t ht
    have hall : ∀ t ∈ (["² ", "+3", "1_0", "Web"] : List String),
        Spec.IsWord t ∧ (parse t).isOk = false := by decide +kernel
    obtain ⟨hword, hno⟩ := hall t ht
    obtain ⟨d, hrun, _, hmodule⟩ := (parse_eq_ok_iff_names t).2.2.2.2.2 hword (.text "regex")
    have hd : d = ⟨some (Text.trim t), .trace⟩ := by
      refine hmodule fun l hl => ?_
      rw [hl] at hno
      cases hno
    rw [hrun, ← hd]
    rfl

end Level

end LogSieve
