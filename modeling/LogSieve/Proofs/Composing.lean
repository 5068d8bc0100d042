import LogSieve.Proofs.History
import LogSieve.Session

/-!
# Specifications compose

Two specifications can be joined by a comma, as long as the first one has no filter text: what is
blank or malformed next to the comma stays what it is. Reading the whole is reading the parts one
after the other, for the directives that are added, for the filter that is left, and for what those
who listen are told.

* `Spec.tokensOf_append_comma`, `Spec.filterText?_append_comma`: what the whole holds;
* `Spec.directivesOf_joinWith`: the directives of any number of parts;
* `Spec.run_parse_append_comma`: what is read from the whole;
* `Builder.parse_append_comma`: what becomes of a builder, and what is said.
-/

namespace LogSieve

namespace Spec

/-! ## 1. What the whole holds -/

theorem tokensOf_of_not_mem {t : Text} (h : '/' ∉ t) :
    tokensOf t = (t.splitOn ',').filter (!·.isAllBlank) := by
  rw [tokensOf, List.count_eq_zero_of_not_mem h, if_neg (by decide), Text.cutAt_of_not_mem h]

theorem filterText?_of_not_mem {t : Text} (h : '/' ∉ t) : filterText? t = none := by
  rw [filterText?, List.count_eq_zero_of_not_mem h, if_neg (by decide), Text.cutAt_of_not_mem h]

section Joined

variable {s t : Text}

theorem not_two_le_count (h : '/' ∉ t) : ¬ 2 ≤ t.count '/' := by
  rw [List.count_eq_zero_of_not_mem h]
  decide

/-- The whole has the slashes of the second part. -/
theorem count_append_comma (hs : '/' ∉ s) : (s ++ ',' :: t).count '/' = t.count '/' := by
  rw [List.count_append, List.count_eq_zero_of_not_mem hs, List.count_cons_of_ne (by decide),
    Nat.zero_add]

/-- The whole ends with the filter text of the second part. -/
theorem cutAt_append_comma (hs : '/' ∉ s) :
    (s ++ ',' :: t).cutAt '/' = (s ++ ',' :: (t.cutAt '/').1, (t.cutAt '/').2) := by
  rw [Text.cutAt_append_of_not_mem hs, Text.cutAt, if_neg (by decide)]

theorem filterText?_append_comma (hs : '/' ∉ s) : filterText? (s ++ ',' :: t) = filterText? t := by
  unfold filterText?
  rw [count_append_comma hs, cutAt_append_comma hs]

/-- The tokens of the whole are those of its parts. -/
theorem tokensOf_append_comma (hs : '/' ∉ s) (ht : ¬ 2 ≤ t.count '/') :
    tokensOf (s ++ ',' :: t) = tokensOf s ++ tokensOf t := by
  rw [tokensOf_of_not_mem hs, tokensOf, tokensOf, count_append_comma hs, cutAt_append_comma hs,
    if_neg ht, if_neg ht, Text.splitOn_append_sep, List.filter_append]

theorem directivesOf_append_comma (hs : '/' ∉ s) (ht : ¬ 2 ≤ t.count '/') :
    directivesOf (s ++ ',' :: t) = directivesOf s ++ directivesOf t := by
  unfold directivesOf
  rw [tokensOf_append_comma hs ht, List.filterMap_append]

theorem directiveNotices_append_comma (hs : '/' ∉ s) (ht : ¬ 2 ≤ t.count '/') :
    directiveNotices (s ++ ',' :: t) = directiveNotices s ++ directiveNotices t := by
  unfold directiveNotices
  rw [count_append_comma hs, if_neg ht, if_neg ht, if_neg (not_two_le_count hs),
    tokensOf_append_comma hs ht, List.map_append]

end Joined

/-- The directives of texts that are joined by commas are those of the texts. -/
theorem directivesOf_joinWith {ts : List Text} (h : ∀ t ∈ ts, '/' ∉ t) :
    directivesOf (Text.joinWith "," ts) = ts.flatMap directivesOf := by
  induction ts with
  | nil => rfl
  | cons t rest ih =>
    obtain ⟨ht, hrest⟩ := List.forall_mem_cons.mp h
    cases rest with
    | nil => exact (List.append_nil _).symm
    | cons next more =>
      have hslash : '/' ∉ Text.joinWith "," (next :: more) :=
        Text.not_mem_joinWith (by decide) hrest
      have hjoin := Text.joinWith_cons_cons ',' t next more
      calc directivesOf (Text.joinWith "," (t :: next :: more))
          = directivesOf (t ++ ',' :: Text.joinWith "," (next :: more)) := congrArg _ hjoin
        _ = directivesOf t ++ (next :: more).flatMap directivesOf := by
          rw [directivesOf_append_comma ht (not_two_le_count hslash), ih hrest]

/-! ## 2. Reading the whole -/

/-- A specification with further directives in front of its own. -/
def after (ds : List Directive) (spec : Spec) : Spec :=
  { spec with directives := ds ++ spec.directives }

/-- A specification without a slash is read as its directives. -/
theorem run_parse_of_not_mem [CharacterNames] (strategy : Value) {t : Text} (h : '/' ∉ t) :
    (parse strategy t).run = ⟨directiveNotices t, .ok ⟨directivesOf t, none⟩⟩ := by
  rw [parse_run, filterText?_of_not_mem h]

/-- Reading the whole is reading the second part, with the directives of the first one in front. If
that fails, so does this. -/
theorem run_parse_append_comma [CharacterNames] (strategy : Value) {s t : Text} (hs : '/' ∉ s)
    (ht : ¬ 2 ≤ t.count '/') :
    (parse strategy (s ++ ',' :: t)).run =
      ⟨directiveNotices s ++ (parse strategy t).run.notices,
        (parse strategy t).run.value.map (after (directivesOf s))⟩ := by
  rw [parse_run, parse_run, filterText?_append_comma hs, directivesOf_append_comma hs ht,
    directiveNotices_append_comma hs ht]
  cases filterText? t with
  | none => rfl
  | some pattern =>
    dsimp only
    rw [List.append_assoc]
    cases (readFilter strategy pattern).run.value with
    | ok filter => rfl
    | error fault => rfl

end Spec

/-! ## 3. Builders -/

namespace Builder

/-- Reading the second part, after the first one has been read, is reading the whole. -/
theorem run_parse_append_comma [CharacterNames] {s t : Text} (hs : '/' ∉ s) (ht : ¬ 2 ≤ t.count '/')
    (b : Builder) :
    ∃ between, (b.parse s).run = ⟨Spec.directiveNotices s, .ok between⟩ ∧
      (b.parse (s ++ ',' :: t)).run =
        ⟨Spec.directiveNotices s ++ (between.parse t).run.notices,
          (between.parse t).run.value⟩ := by
  refine ⟨{ b with directives := b.directives ++ Spec.directivesOf s, filter := none }, ?_, ?_⟩
  · rw [run_parse, Spec.run_parse_of_not_mem _ hs]
    rfl
  · rw [run_parse, run_parse, Spec.run_parse_append_comma _ hs ht]
    -- the strategy is the same, as reading does not choose another one
    show Reported.mk _ _ =
      Reported.mk (_ ++ (Spec.parse (.text b.currentStrategy.name) t).run.notices)
        ((Spec.parse (.text b.currentStrategy.name) t).run.value.map _)
    cases (Spec.parse (.text b.currentStrategy.name) t).run.value with
    | error fault => rfl
    | ok spec =>
      show Reported.mk _ (Except.ok _) = Reported.mk _ (Except.ok _)
      rw [taking, taking, Spec.after, List.append_assoc]

/-- **Specifications compose.** Whatever has been collected before, and whatever strategy has been
chosen: reading the first part, which has no slash, does not fail; reading the second one after it
then comes to the same builder as reading the whole, or fails in the same way. Whoever listens is
told the same in the same order, and no notice is given on the way that cannot be written. -/
theorem parse_append_comma [CharacterNames] {s t : Text} (hs : '/' ∉ s) (ht : t.count '/' ≤ 1)
    (b : Builder) :
    ∃ between, (b.parse s).run.value = .ok between ∧
      (b.parse (s ++ ',' :: t)).run.value = (between.parse t).run.value ∧
      ∀ d : Diagnostics,
        d.messages (b.parse (s ++ ',' :: t)).run.notices =
          ((d.messages (b.parse s).run.notices).1 ++
            (d.messages (between.parse t).run.notices).1, none) := by
  have hcount : ¬ 2 ≤ t.count '/' := by omega
  obtain ⟨between, hfirst, hwhole⟩ := run_parse_append_comma hs hcount b
  refine ⟨between, by rw [hfirst], by rw [hwhole], ?_⟩
  intro d
  have hsecond : ∀ n ∈ (between.parse t).run.notices, ∃ line, n.line = .ok line := by
    rw [run_parse]
    exact Spec.parse_written _ t
  rw [hwhole, hfirst]
  dsimp only
  rw [d.messages_append (Spec.directiveNotices_written s), Diagnostics.messages_complete hsecond]

attribute [local instance] CharacterNames.common

/-- **Blank and malformed next to the comma.** The first part ends with a token that has two equals
signs and with a blank one, the second part begins with a blank one. Its filter text replaces the
filter that the builder has. -/
theorem parse_append_comma_malformed :
    let b : Builder := { directives := [⟨none, .info⟩], filter := some (.substring "old")
                         strategy := some .substring }
    let s : Text := "web, a=b=c, "
    let t : Text := " ,app = debug,x=\x7by\x7d/a.(c"
    let said (r : Reported (Except Filter.Fault Builder)) : List Text :=
      (({} : Diagnostics).messages r.notices).1.map Message.line
    ∃ between last, (b.parse s).run.value = .ok between ∧ (between.parse t).run.value = .ok last ∧
      last.directives = [⟨none, .info⟩, ⟨some "web", .trace⟩, ⟨some "app", .debug⟩] ∧
      last.filter.map Filter.pattern = some ("a.(c" : Text) ∧
      said (b.parse s).run ++ said (between.parse t).run =
        ["warning: invalid logging spec ' a=b=c', ignoring it".toList,
          "warning: invalid logging spec '\x7by\x7d', ignoring it".toList] := by
  intro b s t said
  have hread : (b.parse (s ++ ',' :: t)).run.value.toOption.map
      (fun last => (last.directives, last.filter.map Filter.pattern)) =
        some ([⟨none, .info⟩, ⟨some "web", .trace⟩, ⟨some "app", .debug⟩], some ("a.(c" : Text)) := by
    decide +kernel
  have hwarnings : said (b.parse (s ++ ',' :: t)).run =
      ["warning: invalid logging spec ' a=b=c', ignoring it".toList,
        "warning: invalid logging spec '\x7by\x7d', ignoring it".toList] := by decide +kernel
  obtain ⟨between, hfirst, hwhole, hsaid⟩ :=
    parse_append_comma (s := s) (t := t) (by decide) (by decide) b
  rw [hwhole] at hread
  cases hlast : (between.parse t).run.value with
  | error fault =>
    rw [hlast] at hread
    cases hread
  | ok last =>
    rw [hlast] at hread
    obtain ⟨hdirectives, hfilter⟩ := Prod.mk.inj (Option.some.inj hread)
    refine ⟨between, last, hfirst, hlast, hdirectives, hfilter, ?_⟩
    rw [← hwarnings]
    dsimp only [said]
    rw [hsaid {}, List.map_append]

end Builder

end LogSieve
