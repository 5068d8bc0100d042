import LogSieve.Diagnostics
import LogSieve.Spec

/-!
# What is read from a specification

A specification is taken apart twice: here by counting and cutting, to say what it holds, and in
`Spec.parse` by splitting. The two agree.

* `tokensOf`, `filterText?`: the tokens and the filter text of a specification. One with several
  slashes has neither;
* `meaning`: the directive that a token stands for, or the warning about what is wrong with it;
* `readDirective_eq`, `readDirectives_eq`: tokens are read as what they stand for, blank ones aside;
* `parse_run`: a whole specification is read as its directives and its filter text;
* `parse_fails_iff_uncountable`: the one case in which reading fails, and what it comes to
  otherwise.
-/

namespace LogSieve

namespace Spec

/-! ## 1. What a specification holds -/

/-- The tokens between commas, without the blank ones. -/
def tokensOf (t : Text) : List Text :=
  if 2 ≤ t.count '/' then [] else ((t.cutAt '/').1.splitOn ',').filter (!·.isAllBlank)

/-- The filter text, behind the only slash. -/
def filterText? (t : Text) : Option Text :=
  if 2 ≤ t.count '/' then none else (t.cutAt '/').2

/-- What a token stands for: a directive, or the warning about what is wrong with it. It has several
equals signs, or something behind the only one that is no level. -/
def meaning (token : Text) : Except Notice Directive :=
  if 2 ≤ token.count '=' then .error (ignored "token" token)
  else match token.cutAt '=' with
    | (word, none) =>
      match Level.parse word with
      | .ok l => .ok ⟨none, l⟩
      | .error _ => .ok ⟨some word.trim, .trace⟩
    | (module, some level) =>
      if level.isAllBlank then .ok ⟨some module.trim, .trace⟩
      else match Level.parse level.trim with
        | .ok l => .ok ⟨some module.trim, l⟩
        | .error _ => .error (ignored "spec" level.trim)

/-- The directive that a token stands for, if nothing is wrong with it. -/
def directive? (token : Text) : Option Directive := (meaning token).toOption

/-- The warning about a token, if something is wrong with it. -/
def problem? (token : Text) : Option Notice :=
  match meaning token with
  | .ok _ => none
  | .error n => some n

/-- What is said about a token: which directive it is, or what is wrong with it. -/
def noticeOf (token : Text) : Notice :=
  match meaning token with
  | .ok d => found d
  | .error n => n

/-- The directives of a specification: one for each token that has no problem. -/
def directivesOf (t : Text) : List Directive := (tokensOf t).filterMap directive?

/-- The problems of the directives of a specification, as the warnings about them. -/
def problemsOf (t : Text) : List Notice :=
  if 2 ≤ t.count '/' then [tooManySlashes t] else (tokensOf t).filterMap problem?

/-! ## 2. Tokens -/

theorem meaning_word {word : Text} (h : '=' ∉ word) :
    meaning word =
      match Level.parse word with
      | .ok l => .ok ⟨none, l⟩
      | .error _ => .ok ⟨some word.trim, .trace⟩ := by
  rw [meaning, List.count_eq_zero_of_not_mem h, if_neg (by decide), Text.cutAt_of_not_mem h]

theorem meaning_assigned {module level : Text} (hm : '=' ∉ module) (hl : '=' ∉ level) :
    meaning (module ++ '=' :: level) =
      if level.isAllBlank then .ok ⟨some module.trim, .trace⟩
      else match Level.parse level.trim with
        | .ok l => .ok ⟨some module.trim, l⟩
        | .error _ => .error (ignored "spec" level.trim) := by
  have hc : (module ++ '=' :: level).count '=' = 1 := by
    rw [List.count_append, List.count_cons_self, List.count_eq_zero_of_not_mem hm,
      List.count_eq_zero_of_not_mem hl]
  rw [meaning, hc, if_neg (by decide), Text.cutAt_append hm]

theorem meaning_of_two_le_count {token : Text} (h : 2 ≤ token.count '=') :
    meaning token = .error (ignored "token" token) := if_pos h

/-- A token is read as what it stands for. -/
theorem readDirective_eq (token : Text) :
    readDirective token =
      match meaning token with
      | .ok d => pure (some d)
      | .error n => ⟨[n], none⟩ := by
  unfold meaning readDirective
  rcases Text.splitOn_cases '=' token with ⟨hc, hcut, hs⟩ | ⟨module, level, hc, hcut, hs⟩ |
    ⟨hc, _, _, _, _, hs⟩
  · rw [if_neg hc, hcut, hs]
    dsimp only
    cases Level.parse token with
    | ok l => rfl
    | error fault => rfl
  · rw [if_neg hc, hcut, hs]
    dsimp only
    by_cases hb : level.isAllBlank = true
    · rw [if_pos hb, if_pos hb]
    · rw [if_neg hb, if_neg hb]
      cases Level.parse level.trim with
      | ok l => rfl
      | error fault => rfl
  · rw [if_pos hc, hs]
    rfl

/-- Tokens are read one by one, and blank ones are passed over. -/
theorem readDirectives_eq (tokens : List Text) :
    readDirectives tokens =
      ⟨(tokens.filter (!·.isAllBlank)).map noticeOf,
        (tokens.filter (!·.isAllBlank)).filterMap directive?⟩ := by
  induction tokens with
  | nil => rfl
  | cons token rest ih =>
    rw [readDirectives, readDirective_eq]
    by_cases hb : token.isAllBlank = true
    · rw [if_pos hb, List.filter_cons_of_neg (by simp [hb]), ih]
    · rw [if_neg hb, List.filter_cons_of_pos (by simp [hb]), List.map_cons, List.filterMap_cons, ih,
        noticeOf, directive?]
      cases meaning token with
      | ok d => exact congrArg (fun more => Reported.mk (found d :: more) _) (List.append_nil _)
      | error n => rfl

/-- A warning, as opposed to the notice about a directive that has been read. -/
def isWarning (n : Notice) : Bool := n.level = Notice.warningLevel

/-- A problem is one of two warnings. -/
theorem eq_ignored_of_meaning {token : Text} {n : Notice} (h : meaning token = .error n) :
    ∃ piece, n = ignored "token" piece ∨ n = ignored "spec" piece := by
  unfold meaning at h
  split at h
  · cases h
    exact ⟨_, .inl rfl⟩
  · split at h
    · split at h
      · cases h
      · cases h
    · split at h
      · cases h
      · split at h
        · cases h
        · cases h
          exact ⟨_, .inr rfl⟩

/-- What is said about a token is a warning if something is wrong with it. -/
theorem guard_noticeOf (token : Text) :
    Option.guard isWarning (noticeOf token) = problem? token := by
  unfold noticeOf problem?
  cases hm : meaning token with
  | ok d => rfl
  | error n =>
    obtain ⟨piece, rfl | rfl⟩ := eq_ignored_of_meaning hm
    · rfl
    · rfl

/-- What is said about a token can be written. -/
theorem noticeOf_written (token : Text) : ∃ line, (noticeOf token).line = .ok line := by
  unfold noticeOf
  cases hm : meaning token with
  | ok d => exact ⟨_, rfl⟩
  | error n =>
    obtain ⟨piece, rfl | rfl⟩ := eq_ignored_of_meaning hm
    · exact ⟨_, rfl⟩
    · exact ⟨_, rfl⟩

/-! ## 3. Whole specifications -/

/-- What a filter text comes to: a filter, the fault that reading stops at, or a warning. -/
theorem readFilter_run [CharacterNames] (strategy : Value) (pattern : Text) :
    (readFilter strategy pattern).run =
      match Filter.buildNamed strategy pattern with
      | .ok f => ⟨[], .ok (some f)⟩
      | .error fault =>
        if isBeyondCounting fault then ⟨[], .error fault⟩ else ⟨[badFilter fault], .ok none⟩ := by
  unfold readFilter
  cases Filter.buildNamed strategy pattern with
  | ok f => rfl
  | error fault =>
    dsimp only
    split
    · rfl
    · rfl

/-- The notices about the directives of a specification. -/
def directiveNotices (t : Text) : List Notice :=
  if 2 ≤ t.count '/' then [tooManySlashes t] else (tokensOf t).map noticeOf

/-- Reading a specification is reading its directives, and then its filter text if it has one. -/
theorem parse_run [CharacterNames] (strategy : Value) (t : Text) :
    (parse strategy t).run =
      match filterText? t with
      | none => ⟨directiveNotices t, .ok ⟨directivesOf t, none⟩⟩
      | some pattern =>
        ⟨directiveNotices t ++ (readFilter strategy pattern).run.notices,
          (readFilter strategy pattern).run.value.map (Spec.mk (directivesOf t))⟩ := by
  unfold directiveNotices directivesOf tokensOf filterText? parse
  rcases Text.splitOn_cases '/' t with ⟨hc, hcut, hs⟩ | ⟨tokens, pattern, hc, hcut, hs⟩ |
    ⟨hc, _, _, _, _, hs⟩
  · rw [if_neg hc, if_neg hc, if_neg hc, hcut, hs]
    dsimp only
    rw [Reported.run_bind, Reported.run_lift, readDirectives_eq]
    exact congrArg (Reported.mk · _) (List.append_nil _)
  · rw [if_neg hc, if_neg hc, if_neg hc, hcut, hs]
    dsimp only
    rw [Reported.run_bind, Reported.run_lift, readDirectives_eq]
    dsimp only
    rw [Reported.run_bind]
    rcases (readFilter strategy pattern).run with ⟨notices, _ | f⟩
    · rfl
    · exact congrArg (fun more => Reported.mk (_ ++ more) _) (List.append_nil _)
  · rw [if_pos hc, if_pos hc, if_pos hc, hs]
    rfl

/-- Directives are given notice of in lines that can be written. -/
theorem directiveNotices_written (t : Text) :
    ∀ n ∈ directiveNotices t, ∃ line, n.line = .ok line := by
  unfold directiveNotices
  split
  · exact List.forall_mem_singleton.mpr ⟨_, rfl⟩
  · exact List.forall_mem_map.mpr fun token _ => noticeOf_written token

/-- Of the notices about directives the warnings are those about problems. -/
theorem directiveNotices_warnings (t : Text) :
    (directiveNotices t).filter isWarning = problemsOf t := by
  unfold directiveNotices problemsOf
  split
  · rfl
  · rw [← List.filterMap_eq_filter, List.filterMap_map]
    exact congrArg (List.filterMap · (tokensOf t)) (funext guard_noticeOf)

/-- Problems with directives are warned about on the channel of specifications. -/
theorem channel_of_mem_problemsOf {t : Text} {n : Notice} (h : n ∈ problemsOf t) :
    n.channel = parseChannel := by
  unfold problemsOf at h
  split at h
  · rw [List.mem_singleton.mp h]
    rfl
  · obtain ⟨token, _, hp⟩ := List.mem_filterMap.mp h
    unfold problem? at hp
    split at hp
    · cases hp
    · rename_i hm
      cases hp
      obtain ⟨piece, rfl | rfl⟩ := eq_ignored_of_meaning hm
      · rfl
      · rfl

/-! ## 4. When reading fails -/

section Filters

variable [CharacterNames]

/-- The filter that the filter text makes under the strategy of a name. -/
def filterOf? (name t : Text) : Option Filter :=
  (filterText? t).bind fun pattern => (Filter.buildNamed (.text name) pattern).toOption

/-- The warning about a filter text that makes none. -/
def filterProblem? (name t : Text) : Option Notice :=
  (filterText? t).bind fun pattern =>
    match Filter.buildNamed (.text name) pattern with
    | .ok _ => none
    | .error fault => some (badFilter fault)

theorem eq_badFilter_of_filterProblem? {name t : Text} {n : Notice}
    (h : filterProblem? name t = some n) : ∃ fault, n = badFilter fault := by
  obtain ⟨pattern, _, hp⟩ := Option.bind_eq_some_iff.mp h
  split at hp
  · cases hp
  · cases hp
    exact ⟨_, rfl⟩

/-- The filter text is to be an expression, and repeats something more often than can be counted. -/
def Uncountable (name t : Text) : Prop :=
  name = Strategy.regex.name ∧
    ∃ pattern, filterText? t = some pattern ∧ Pattern.parse pattern = .error .countTooLarge

/-- Only an expression can be beyond counting. -/
theorem isBeyondCounting_iff {name pattern : Text} {fault : Filter.Fault}
    (h : Filter.buildNamed (.text name) pattern = .error fault) :
    isBeyondCounting fault = true ↔
      name = Strategy.regex.name ∧ Pattern.parse pattern = .error .countTooLarge := by
  unfold Filter.buildNamed at h
  cases hs : Strategy.ofValue? (.text name) with
  | none =>
    rw [hs] at h
    cases h
    constructor
    · intro hb
      cases hb
    · rintro ⟨rfl, _⟩
      cases hs
  | some s =>
    rw [hs] at h
    have hn : name = s.name := Strategy.eq_name_of_ofName? hs
    cases s with
    | substring => cases h
    | regex =>
      dsimp only [Filter.build] at h
      split at h
      · cases h
      · rename_i problem hp
        cases h
        rw [hp]
        constructor
        · intro hb
          refine ⟨hn, ?_⟩
          cases problem with
          | countTooLarge => rfl
          | _ => cases hb
        · rintro ⟨_, he⟩
          cases he
          rfl

/-- Beyond counting, what has been said about the directives is all that is left of reading. -/
theorem parse_run_of_uncountable {name t : Text} (h : Uncountable name t) :
    ∃ fault, (parse (.text name) t).run = ⟨directiveNotices t, .error fault⟩ := by
  obtain ⟨hn, pattern, hf, hp⟩ := h
  cases hb : Filter.buildNamed (.text name) pattern with
  | ok f =>
    rw [hn, Filter.buildNamed_name, Filter.build, hp] at hb
    cases hb
  | error fault =>
    refine ⟨fault, ?_⟩
    have hc : isBeyondCounting fault = true := (isBeyondCounting_iff hb).mpr ⟨hn, hp⟩
    rw [parse_run, hf]
    dsimp only
    rw [readFilter_run, hb]
    dsimp only
    rw [if_pos hc]
    exact congrArg (Reported.mk · _) (List.append_nil _)

/-- In all other cases the directives are kept, and a filter text that makes no filter is warned
about. -/
theorem parse_run_of_not_uncountable {name t : Text} (h : ¬ Uncountable name t) :
    (parse (.text name) t).run =
      ⟨directiveNotices t ++ (filterProblem? name t).toList,
        .ok ⟨directivesOf t, filterOf? name t⟩⟩ := by
  rw [parse_run, filterProblem?, filterOf?]
  cases hf : filterText? t with
  | none => exact congrArg (Reported.mk · _) (List.append_nil _).symm
  | some pattern =>
    rw [Option.bind_some, Option.bind_some]
    dsimp only
    rw [readFilter_run]
    cases hb : Filter.buildNamed (.text name) pattern with
    | ok f => rfl
    | error fault =>
      have hc : ¬ isBeyondCounting fault = true := by
        intro hc
        obtain ⟨hn, hp⟩ := (isBeyondCounting_iff hb).mp hc
        exact h ⟨hn, pattern, hf, hp⟩
      dsimp only
      rw [if_neg hc]
      rfl

/-- What has been read is what the text holds. -/
theorem eq_of_parse_eq_ok {name t : Text} {spec : Spec}
    (h : (parse (.text name) t).run.value = .ok spec) :
    spec = ⟨directivesOf t, filterOf? name t⟩ := by
  by_cases hu : Uncountable name t
  · obtain ⟨fault, hr⟩ := parse_run_of_uncountable hu
    rw [hr] at h
    cases h
  · rw [parse_run_of_not_uncountable hu] at h
    exact (Except.ok.inj h).symm

/-- Whatever is said while reading can be written. -/
theorem parse_written (name t : Text) :
    ∀ n ∈ (parse (.text name) t).run.notices, ∃ line, n.line = .ok line := by
  intro n hn
  by_cases hu : Uncountable name t
  · obtain ⟨fault, hr⟩ := parse_run_of_uncountable hu
    rw [hr] at hn
    exact directiveNotices_written t n hn
  · rw [parse_run_of_not_uncountable hu] at hn
    rcases List.mem_append.mp hn with hd | hf
    · exact directiveNotices_written t n hd
    · obtain ⟨fault, rfl⟩ := eq_badFilter_of_filterProblem? (Option.mem_toList.mp hf)
      exact ⟨_, rfl⟩

/-- **Reading fails on what is beyond counting, and on nothing else.** Whatever the text and the
name of the strategy: otherwise all directives are kept, each problem with one of them is a warning
on the channel of specifications, and a filter text that makes no filter, be it because of its
strategy or because of the text, is one more warning and leaves the specification without a filter.
Showing the notices never fails. -/
theorem parse_fails_iff_uncountable (name t : Text) :
    ((∃ fault, (parse (.text name) t).run.value = .error fault) ↔ Uncountable name t) ∧
      (¬ Uncountable name t →
        (parse (.text name) t).run.value = .ok ⟨directivesOf t, filterOf? name t⟩ ∧
          (parse (.text name) t).run.notices.filter isWarning =
            problemsOf t ++ (filterProblem? name t).toList) ∧
      (∀ n ∈ problemsOf t, n.channel = parseChannel) ∧
      ∀ d : Diagnostics, (d.written (parse (.text name) t).run.notices).2 = none := by
  refine ⟨⟨?_, ?_⟩, ?_, fun n hn => channel_of_mem_problemsOf hn, ?_⟩
  · rintro ⟨fault, hv⟩
    by_cases hu : Uncountable name t
    · exact hu
    · rw [parse_run_of_not_uncountable hu] at hv
      cases hv
  · intro hu
    obtain ⟨fault, hr⟩ := parse_run_of_uncountable hu
    exact ⟨fault, by rw [hr]⟩
  · intro hu
    rw [parse_run_of_not_uncountable hu]
    refine ⟨rfl, ?_⟩
    rw [List.filter_append, directiveNotices_warnings]
    -- the warning about the filter text, if there is one, is a warning
    refine congrArg (problemsOf t ++ ·) (List.filter_eq_self.mpr ?_)
    intro n hn
    obtain ⟨pattern, _, hp⟩ := Option.bind_eq_some_iff.mp (Option.mem_toList.mp hn)
    split at hp
    · cases hp
    · cases hp
      rfl
  · exact fun d => d.written_eq_none (parse_written name t)

end Filters

attribute [local instance] CharacterNames.common

/-- **A count too large.** Nothing is repeated 4294967295 times; a text that asks for it is not read
at all, although its directive is in order. -/
theorem parse_fails_on_repetition :
    ∃ fault, (parse (.text "regex") "info/a{4294967295}").run.value = .error fault := by
  have hok : (parse (.text "regex") "info/a{4294967295}").run.value.isOk = false := by
    decide +kernel
  cases h : (parse (.text "regex") "info/a{4294967295}").run.value with
  | ok spec =>
    rw [h] at hok
    cases hok
  | error fault => exact ⟨fault, rfl⟩

-- a character asked for by its name makes a filter, and can be repeated too often as well
example : (filterOf? "regex" "info/\\N\x7bDIGIT ONE\x7d").isSome = true := by decide +kernel

example : (parse (.text "regex") "info/\\N\x7bDIGIT ONE\x7d\x7b4294967295\x7d").run.value.isOk =
    false := by decide +kernel

end Spec

end LogSieve
