import LogSieve.Proofs.Composing

/-!
# Every token is accounted for

Reading is permissive, but it passes over nothing in silence except blanks. As long as there is one
slash at most, each other token in front of it comes back as a directive or is told of in a warning,
in its turn, and never both. The warning quotes what is wrong with the token as it stands in the
text, whatever characters are in it.

* `StandsFor`, `IsIgnored`: what a token stands for, or which piece of it is quoted;
* `exists_standsFor_iff`: it is one or the other;
* `Accounts`: tokens with the directives and the messages that they come to;
* `accounts_tokens`: token by token;
* `accounts_of_parse`: whole specifications.
-/

namespace LogSieve

namespace Spec

/-! ## 1. Tokens -/

/-- The directive that a token stands for. -/
inductive StandsFor : Text → Directive → Prop
  /-- A word that names a level. -/
  | ofLevel {word : Text} {l : Level} (hword : '=' ∉ word) (hlevel : Level.parse word = .ok l) :
    StandsFor word ⟨none, l⟩
  /-- Any other word. -/
  | ofModule {word : Text} (hword : '=' ∉ word) (hlevel : ∀ l, Level.parse word ≠ .ok l) :
    StandsFor word ⟨some word.trim, .trace⟩
  /-- A module, and nothing behind the equals sign. -/
  | ofBlank {module blank : Text} (hmodule : '=' ∉ module) (hsign : '=' ∉ blank)
    (hblank : blank.isAllBlank = true) :
    StandsFor (module ++ '=' :: blank) ⟨some module.trim, .trace⟩
  /-- A module and its level. -/
  | ofAssigned {module level : Text} {l : Level} (hmodule : '=' ∉ module) (hsign : '=' ∉ level)
    (hblank : level.isAllBlank = false) (hlevel : Level.parse level = .ok l) :
    StandsFor (module ++ '=' :: level) ⟨some module.trim, l⟩

/-- The token is left out, and this piece is quoted for it: the token itself if it has several
equals signs, and what stands behind the only one if this is neither blank nor a level. -/
inductive IsIgnored : Text → Text → Prop
  | ofSigns {token : Text} (hsigns : 2 ≤ token.count '=') : IsIgnored token token
  | ofUnknown {module level : Text} (hmodule : '=' ∉ module) (hsign : '=' ∉ level)
    (hblank : level.isAllBlank = false) (hlevel : ∀ l, Level.parse level ≠ .ok l) :
    IsIgnored (module ++ '=' :: level) level.trim

section Tokens

variable {token piece : Text} {d : Directive}

theorem meaning_of_standsFor (h : StandsFor token d) : meaning token = .ok d := by
  cases h with
  | ofLevel hword hlevel => rw [meaning_word hword, hlevel]
  | ofModule hword hlevel =>
    rw [meaning_word hword]
    cases hl : Level.parse token with
    | ok l => exact absurd hl (hlevel l)
    | error fault => rfl
  | ofBlank hmodule hsign hblank => rw [meaning_assigned hmodule hsign, if_pos hblank]
  | ofAssigned hmodule hsign hblank hlevel =>
    rw [meaning_assigned hmodule hsign, hblank, if_neg (by decide),
      (Level.parse_trim_eq_ok_iff _ _).mpr hlevel]

/-- The field that brings the piece into the warning depends on why the token is left out. -/
theorem meaning_of_isIgnored (h : IsIgnored token piece) :
    ∃ field : Text, (field = "token" ∨ field = "spec") ∧
      meaning token = .error (ignored field piece) := by
  cases h with
  | ofSigns hsigns => exact ⟨"token", .inl rfl, meaning_of_two_le_count hsigns⟩
  | ofUnknown hmodule hsign hblank hlevel =>
    refine ⟨"spec", .inr rfl, ?_⟩
    rw [meaning_assigned hmodule hsign, hblank, if_neg (by decide)]
    cases hl : Level.parse _ with
    | ok l => exact absurd ((Level.parse_trim_eq_ok_iff _ _).mp hl) (hlevel l)
    | error fault => rfl

/-- A token stands for a directive or is left out. -/
theorem standsFor_or_isIgnored (token : Text) :
    (∃ d, StandsFor token d) ∨ ∃ piece, IsIgnored token piece := by
  rcases Text.separator_cases '=' token with hword | ⟨module, level, hmodule, hsign, rfl⟩ | hsigns
  · by_cases hlevel : ∃ l, Level.parse token = .ok l
    · obtain ⟨l, hlevel⟩ := hlevel
      exact .inl ⟨_, .ofLevel hword hlevel⟩
    · exact .inl ⟨_, .ofModule hword (not_exists.mp hlevel)⟩
  · by_cases hblank : level.isAllBlank = true
    · exact .inl ⟨_, .ofBlank hmodule hsign hblank⟩
    · have hblank : level.isAllBlank = false := Bool.eq_false_iff.mpr hblank
      by_cases hlevel : ∃ l, Level.parse level = .ok l
      · obtain ⟨l, hlevel⟩ := hlevel
        exact .inl ⟨_, .ofAssigned hmodule hsign hblank hlevel⟩
      · exact .inr ⟨_, .ofUnknown hmodule hsign hblank (not_exists.mp hlevel)⟩
  · exact .inr ⟨_, .ofSigns hsigns⟩

/-- It is never both. -/
theorem exists_standsFor_iff (token : Text) :
    (∃ d, StandsFor token d) ↔ ¬ ∃ piece, IsIgnored token piece := by
  constructor
  · rintro ⟨d, hd⟩ ⟨piece, hp⟩
    obtain ⟨field, _, hm⟩ := meaning_of_isIgnored hp
    rw [meaning_of_standsFor hd] at hm
    cases hm
  · exact (standsFor_or_isIgnored token).resolve_right

end Tokens

/-! ## 2. Lists of tokens -/

/-- The message about a token that is left out. -/
def ignoredMessage (piece : Text) : Message :=
  ⟨parseChannel, "warning: invalid logging spec '" ++ piece ++ "', ignoring it"⟩

/-- The tokens come to these directives and these messages, one after the other. -/
inductive Accounts : List Text → List Directive → List Message → Prop
  | nil : Accounts [] [] []
  | blank {token : Text} {tokens : List Text} {ds : List Directive} {said : List Message}
    (hblank : token.isAllBlank = true) (rest : Accounts tokens ds said) :
    Accounts (token :: tokens) ds said
  | directive {token : Text} {d : Directive} {tokens : List Text} {ds : List Directive}
    {said : List Message} (hblank : token.isAllBlank = false) (htoken : StandsFor token d)
    (rest : Accounts tokens ds said) : Accounts (token :: tokens) (d :: ds) said
  | warning {token piece : Text} {tokens : List Text} {ds : List Directive} {said : List Message}
    (hblank : token.isAllBlank = false) (htoken : IsIgnored token piece)
    (rest : Accounts tokens ds said) :
    Accounts (token :: tokens) ds (ignoredMessage piece :: said)

section Accounting

variable {tokens : List Text} {ds : List Directive} {said : List Message}

/-- Each token that is not blank counts once. -/
theorem Accounts.length_add_length (h : Accounts tokens ds said) :
    ds.length + said.length = (tokens.filter (!·.isAllBlank)).length := by
  induction h with
  | nil => rfl
  | blank hblank rest ih => rw [List.filter_cons_of_neg (by simp [hblank]), ih]
  | directive hblank htoken rest ih =>
    rw [List.filter_cons_of_pos (by simp [hblank]), List.length_cons, List.length_cons]
    omega
  | warning hblank htoken rest ih =>
    rw [List.filter_cons_of_pos (by simp [hblank]), List.length_cons, List.length_cons]
    omega

/-- All of it is said on the channel of specifications. -/
theorem Accounts.channel_eq (h : Accounts tokens ds said) :
    ∀ m ∈ said, m.channel = parseChannel := by
  induction h with
  | nil => exact nofun
  | blank hblank rest ih => exact ih
  | directive hblank htoken rest ih => exact ih
  | warning hblank htoken rest ih => exact List.forall_mem_cons.mpr ⟨rfl, ih⟩

/-- By default it is not told which directives have been read. -/
theorem messages_found_cons (d : Directive) (ns : List Notice) :
    ({} : Diagnostics).messages (found d :: ns) = ({} : Diagnostics).messages ns := rfl

/-- But it is told what has been left out, with the piece as it is. -/
theorem messages_ignored_cons {field : Text} (h : field = "token" ∨ field = "spec") (piece : Text)
    (ns : List Notice) :
    (({} : Diagnostics).messages (ignored field piece :: ns)).1 =
      ignoredMessage piece :: (({} : Diagnostics).messages ns).1 := by
  rcases h with rfl | rfl <;> rfl

/-- The tokens are accounted for by the directives that are read and by what is said of them. -/
theorem accounts_tokens (tokens : List Text) :
    Accounts tokens ((tokens.filter (!·.isAllBlank)).filterMap directive?)
      (({} : Diagnostics).messages ((tokens.filter (!·.isAllBlank)).map noticeOf)).1 := by
  induction tokens with
  | nil => exact .nil
  | cons token rest ih =>
    by_cases hb : token.isAllBlank = true
    · rw [List.filter_cons_of_neg (by simp [hb])]
      exact .blank hb ih
    · have hb : token.isAllBlank = false := Bool.eq_false_iff.mpr hb
      rw [List.filter_cons_of_pos (by simp [hb]), List.map_cons, List.filterMap_cons, directive?,
        noticeOf]
      rcases standsFor_or_isIgnored token with ⟨d, hd⟩ | ⟨piece, hp⟩
      · rw [meaning_of_standsFor hd]
        dsimp only
        rw [messages_found_cons]
        exact .directive hb hd ih
      · obtain ⟨field, hfield, hm⟩ := meaning_of_isIgnored hp
        rw [hm]
        dsimp only
        rw [messages_ignored_cons hfield]
        exact .warning hb hp ih

end Accounting

/-! ## 3. Whole specifications -/

/-- What is said by default on the channel of specifications while one is read. -/
def saidOf [CharacterNames] (strategy : Value) (t : Text) : List Message :=
  (({} : Diagnostics).messages (parse strategy t).run.notices).1.filter (·.channel = parseChannel)

/-- A filter text that makes no filter is told of on another channel. -/
theorem messages_filterProblem? [CharacterNames] (name t : Text) :
    (({} : Diagnostics).messages (filterProblem? name t).toList).1.filter
      (·.channel = parseChannel) = [] := by
  cases hp : filterProblem? name t with
  | none => rfl
  | some n =>
    obtain ⟨fault, rfl⟩ := eq_badFilter_of_filterProblem? hp
    rfl

/-- With one slash at most, what is said is what is said of the tokens. -/
theorem saidOf_eq [CharacterNames] {name t : Text} (ht : ¬ 2 ≤ t.count '/')
    (hu : ¬ Uncountable name t) :
    saidOf (.text name) t = (({} : Diagnostics).messages ((tokensOf t).map noticeOf)).1 := by
  have hnotices : directiveNotices t = (tokensOf t).map noticeOf := if_neg ht
  have htokens : tokensOf t = ((t.cutAt '/').1.splitOn ',').filter (!·.isAllBlank) := if_neg ht
  have hchannel := (accounts_tokens ((t.cutAt '/').1.splitOn ',')).channel_eq
  rw [← htokens] at hchannel
  rw [saidOf, parse_run_of_not_uncountable hu]
  dsimp only
  rw [Diagnostics.messages_append _ (directiveNotices_written t), List.filter_append,
    messages_filterProblem?, List.append_nil, hnotices]
  exact List.filter_eq_self.mpr fun m hm => decide_eq_true (hchannel m hm)

/-- **Every token is accounted for.** Of a specification with one slash at most, whose reading does
not fail, the tokens in front of the slash come to the directives that are read and to what is said
by default on their channel, one after the other: each that is not blank to a directive or to one
warning. Which of the two, depends on the token alone, and it is never both; so the directives and
the warnings are together as many as the tokens that are not blank. -/
theorem accounts_of_parse [CharacterNames] {name t : Text} (ht : t.count '/' ≤ 1) {spec : Spec}
    (h : (parse (.text name) t).run.value = .ok spec) :
    (({} : Diagnostics).messages (parse (.text name) t).run.notices).2 = none ∧
      Accounts ((t.cutAt '/').1.splitOn ',') spec.directives (saidOf (.text name) t) ∧
      (∀ token, (∃ d, StandsFor token d) ↔ ¬ ∃ piece, IsIgnored token piece) ∧
      spec.directives.length + (saidOf (.text name) t).length =
        (((t.cutAt '/').1.splitOn ',').filter (!·.isAllBlank)).length := by
  have hcount : ¬ 2 ≤ t.count '/' := by omega
  have hu : ¬ Uncountable name t := by
    intro hu
    obtain ⟨fault, hr⟩ := parse_run_of_uncountable hu
    rw [hr] at h
    cases h
  have htokens : tokensOf t = ((t.cutAt '/').1.splitOn ',').filter (!·.isAllBlank) := if_neg hcount
  have hall : Accounts ((t.cutAt '/').1.splitOn ',') spec.directives (saidOf (.text name) t) := by
    rw [eq_of_parse_eq_ok h, saidOf_eq hcount hu]
    dsimp only [directivesOf]
    rw [htokens]
    exact accounts_tokens _
  exact ⟨Diagnostics.messages_complete (parse_written name t), hall, exists_standsFor_iff,
    hall.length_add_length⟩

attribute [local instance] CharacterNames.common

/-- **Braces, quotes and percent signs.** Two of six tokens are blank, two are left out, and the
filter text makes no filter. -/
theorem accounts_of_parse_braces :
    let t : Text := " , a=b=\x7bc\x7d ,app= %s\x7b0\x7d' ,web=debug,,  info /("
    ∃ spec, (parse (.text "regex") t).run.value = .ok spec ∧
      spec.directives = [⟨some "web", .debug⟩, ⟨none, .info⟩] ∧
      (saidOf (.text "regex") t).map Message.line =
        ["warning: invalid logging spec ' a=b=\x7bc\x7d ', ignoring it".toList,
          "warning: invalid logging spec '%s\x7b0\x7d'', ignoring it".toList] ∧
      Accounts [" ", " a=b=\x7bc\x7d ", "app= %s\x7b0\x7d' ", "web=debug", "", "  info "]
        spec.directives (saidOf (.text "regex") t) := by
  intro t
  have hread : (parse (.text "regex") t).run.value.toOption.map directives =
      some [⟨some "web", .debug⟩, ⟨none, .info⟩] := by decide +kernel
  cases h : (parse (.text "regex") t).run.value with
  | error fault =>
    rw [h] at hread
    cases hread
  | ok spec =>
    rw [h] at hread
    obtain ⟨_, hall, _, _⟩ := accounts_of_parse (by decide) h
    exact ⟨spec, rfl, Option.some.inj hread, by decide +kernel, hall⟩

end Spec

end LogSieve
