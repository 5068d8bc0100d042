import LogSieve.Proofs.Predicting
import Mathlib.Data.List.Find

/-!
# What a listing explains

A listing shows the directives of a specification in the order in which they are asked. Here it is
read back from what has been printed, and held against the directive that governs a module: the
first line that is labelled with `*` or with a prefix of the module should give its level.

It does, unless a directive is for the module that is called `*`. That one has the label of those
for every module, although it applies to few.

* `readItem?_eq_some_iff`: a line is read as the label and the level it is made of;
* `directiveLines_listing`, `shownDirectives_listing`: the directives are found in the listing;
* `shownLevel?_listing`: what the first line with a fitting label says;
* `Explains`, `check_explains`: when that is the level of the directive that governs;
* `not_explains_star`: two specifications with the same listing and different decisions.
-/

namespace LogSieve

/-- The levels, from the least talkative one on. -/
def Level.all : List Level := [.off, .error, .warning, .info, .debug, .trace]

theorem Level.mem_all (l : Level) : l ∈ all := by cases l <;> decide

namespace CommandLine

/-! ## 1. Lines -/

/-- What a line that shows a level ends with. -/
def levelEnd (l : Level) : Text := ": " ++ l.name

/-- The label and the level that a line shows, if it is set in and ends with a level. -/
def readItem? : Text → Option (Text × Level)
  | ' ' :: ' ' :: item =>
    (Level.all.find? fun l => (levelEnd l).isSuffixOf item).map fun l =>
      (item.take (item.length - (levelEnd l).length), l)
  | _ => none

theorem item_eq (label : Text) (l : Level) :
    Report.item label l.name = ' ' :: ' ' :: (label ++ levelEnd l) := by
  show ("  ".toList ++ label ++ ": ".toList) ++ l.name = _
  rw [List.append_assoc, List.append_assoc]
  rfl

/-- A text ends with one level at most. -/
theorem levelEnd_inj {l l' : Level} (h : levelEnd l <:+ levelEnd l') : l = l' := by
  revert h
  cases l <;> cases l' <;> decide

theorem find_levelEnd (label : Text) (l : Level) :
    Level.all.find? (fun l' => (levelEnd l').isSuffixOf (label ++ levelEnd l)) = some l := by
  have hl : levelEnd l <:+ label ++ levelEnd l := List.suffix_append _ _
  cases h : Level.all.find? fun l' => (levelEnd l').isSuffixOf (label ++ levelEnd l) with
  | none =>
    have hn := List.find?_eq_none.mp h l l.mem_all
    exact absurd (List.isSuffixOf_iff_suffix.mpr hl) hn
  | some l' =>
    have hl' := List.find?_some h
    rw [List.isSuffixOf_iff_suffix] at hl'
    rcases List.suffix_or_suffix_of_suffix hl hl' with hs | hs
    · rw [levelEnd_inj hs]
    · rw [levelEnd_inj hs]

/-- A line is read as the label and the level it is made of, and other lines are not read. The label
may have colons in it and end in the name of a level itself. -/
theorem readItem?_eq_some_iff (line label : Text) (l : Level) :
    readItem? line = some (label, l) ↔ line = Report.item label l.name := by
  rw [item_eq]
  constructor
  · intro h
    unfold readItem? at h
    split at h
    · rename_i item
      obtain ⟨l', hfind, hpair⟩ := Option.map_eq_some_iff.mp h
      obtain ⟨hlabel, rfl⟩ := Prod.mk.inj hpair
      have hend := List.find?_some hfind
      rw [List.isSuffixOf_iff_suffix] at hend
      rw [← hlabel, List.suffix_iff_eq_append.mp hend]
    · cases h
  · rintro rfl
    rw [readItem?, find_levelEnd, Option.map_some, List.length_append, Nat.add_sub_cancel,
      List.take_left]

/-! ## 2. Listings -/

/-- The heading over the directives. -/
def directivesHeading : Text := Report.header "directives (most specific first)"

/-- The lines about directives: those under their heading, as long as they are set in. -/
def directiveLines (out : Text) : List Text :=
  (((out.splitOn '\n').dropWhile (· ≠ directivesHeading)).drop 1).takeWhile
    ("  ".toList.isPrefixOf ·)

/-- The labels and levels of these lines, from top to bottom. -/
def shownDirectives (out : Text) : List (Text × Level) := (directiveLines out).filterMap readItem?

/-- The level that a listing shows for a module: that of the first line that is labelled with `*` or
with a prefix of the module. -/
def shownLevel? (out m : Text) : Option Level :=
  ((shownDirectives out).find? fun (label, _) => label = ['*'] || label.isPrefixOf m).map Prod.snd

/-- The label of a directive. -/
def labelOf (e : Directive) : Text := e.module.getD ['*']

/-- Each directive has a line of its own: no module has a line feed in it. -/
def OnLines (ds : List Directive) : Prop := ∀ e ∈ ds, ∀ p ∈ e.module, '\n' ∉ p

instance (ds : List Directive) : Decidable (OnLines ds) :=
  inferInstanceAs (Decidable (∀ e ∈ ds, ∀ p ∈ e.module, '\n' ∉ p))

section Listings

variable {s : Sieve} {found : Bool}

/-- Lines are found again when they have been printed, whatever is printed behind them. -/
theorem splitOn_linesText_append {lines : List Text} (h : ∀ line ∈ lines, '\n' ∉ line)
    (rest : Text) :
    Text.splitOn '\n' (linesText lines ++ rest) = lines ++ Text.splitOn '\n' rest := by
  induction lines with
  | nil => rfl
  | cons line more ih =>
    obtain ⟨hline, hmore⟩ := List.forall_mem_cons.mp h
    have hcons : linesText (line :: more) ++ rest = line ++ '\n' :: (linesText more ++ rest) := by
      simp [linesText]
    rw [hcons, Text.splitOn_append_sep, Text.splitOn_of_not_mem hline, ih hmore]
    rfl

theorem linesText_append (lines more : List Text) :
    linesText (lines ++ more) = linesText lines ++ linesText more := List.flatMap_append

/-- A directive whose module has no line feed in it stands on one line. -/
theorem not_mem_directiveLine {e : Directive} (h : ∀ p ∈ e.module, '\n' ∉ p) :
    '\n' ∉ directiveLine e := by
  have hlabel : '\n' ∉ labelOf e := by
    unfold labelOf
    cases hm : e.module with
    | none => decide
    | some p => exact h p hm
  have hlevel : '\n' ∉ levelEnd e.level := by cases e.level <;> decide
  show '\n' ∉ Report.item (labelOf e) e.level.name
  rw [item_eq]
  simp [hlabel, hlevel]

/-- What stands in front of the directives. -/
def opening (found : Bool) : List Text :=
  if found then [] else [Report.warn "no spec configured; the default is errors only"]

/-- What stands behind the directives, under the heading that ends them. -/
def closing (s : Sieve) : List Text :=
  filterLines s.filter ++ [Report.header "summary", Report.item "max level" s.maxLevel.name]

theorem listing_eq (s : Sieve) (found : Bool) :
    listing s found = (opening found ++ directivesHeading ::
      (s.directives.reverse.map directiveLine ++ [Report.header "content filter"])) ++
        closing s := by
  rw [listing, ← opening, ← directivesHeading, closing]
  simp only [List.append_assoc, List.cons_append, List.nil_append]

/-- The lines about directives are found in the listing. -/
theorem directiveLines_listing (h : OnLines s.directives) :
    directiveLines (linesText (listing s found)) = s.directives.reverse.map directiveLine := by
  have hopening : ∀ line ∈ opening found, '\n' ∉ line ∧ line ≠ directivesHeading := by
    cases found <;> decide
  have hdirectives : ∀ line ∈ s.directives.reverse.map directiveLine,
      '\n' ∉ line ∧ "  ".toList.isPrefixOf line = true := by
    intro line hline
    obtain ⟨e, he, rfl⟩ := List.mem_map.mp hline
    exact ⟨not_mem_directiveLine (h e (List.mem_reverse.mp he)), rfl⟩
  have hfront : ∀ line ∈ opening found ++ directivesHeading ::
      (s.directives.reverse.map directiveLine ++ [Report.header "content filter"]),
      '\n' ∉ line := by
    simp only [List.forall_mem_append, List.forall_mem_cons]
    exact ⟨fun line hl => (hopening line hl).1, by decide, fun line hl => (hdirectives line hl).1,
      by decide, nofun⟩
  have hskip : ∀ line ∈ opening found, decide (line ≠ directivesHeading) = true :=
    fun line hl => decide_eq_true (hopening line hl).2
  rw [directiveLines, listing_eq, linesText_append, splitOn_linesText_append hfront,
    List.append_assoc, List.dropWhile_append_of_pos hskip, List.cons_append,
    List.dropWhile_cons_of_neg (by simp), List.drop_one, List.tail_cons, List.append_assoc,
    List.takeWhile_append_of_pos fun line hl => (hdirectives line hl).2]
  exact List.append_nil _

/-- What is read of the lines are the directives, in the order in which they are asked. -/
theorem shownDirectives_listing (h : OnLines s.directives) :
    shownDirectives (linesText (listing s found)) =
      s.directives.reverse.map fun e => (labelOf e, e.level) := by
  have hread : readItem? ∘ directiveLine = some ∘ fun e => (labelOf e, e.level) :=
    funext fun e => (readItem?_eq_some_iff _ _ _).mpr rfl
  rw [shownDirectives, directiveLines_listing h, List.filterMap_map, hread, List.filterMap_eq_map]

/-! ## 3. The first line that fits -/

/-- The directive is for every module or for a prefix of this one, or it looks as if it were for
every module because it is for the one that is called `*`. -/
def SeemsToApply (e : Directive) (m : Text) : Prop := e.module = some ['*'] ∨ e.AppliesTo m

instance (e : Directive) (m : Text) : Decidable (SeemsToApply e m) :=
  inferInstanceAs (Decidable (e.module = some ['*'] ∨ e.AppliesTo m))

theorem labelFits_iff (e : Directive) (m : Text) :
    (labelOf e = ['*'] || (labelOf e).isPrefixOf m) = true ↔ SeemsToApply e m := by
  rw [SeemsToApply, Directive.AppliesTo, labelOf, Bool.or_eq_true, decide_eq_true_eq,
    List.isPrefixOf_iff_prefix]
  cases e.module with
  | none => simp
  | some stem => simp

/-- The first line that fits shows the level of the first directive that seems to apply. -/
theorem shownLevel?_listing (h : OnLines s.directives) (m : Text) :
    shownLevel? (linesText (listing s found)) m =
      (s.directives.reverse.find? (SeemsToApply · m)).map Directive.level := by
  have hfits : (fun pair : Text × Level => decide (pair.1 = ['*']) || pair.1.isPrefixOf m) ∘
      (fun e => (labelOf e, e.level)) = fun e => decide (SeemsToApply e m) := by
    funext e
    rw [Bool.eq_iff_iff, decide_eq_true_eq, ← labelFits_iff]
    rfl
  rw [shownLevel?, shownDirectives_listing h, List.find?_map, hfits, Option.map_map]
  rfl

/-- Where no directive only seems to apply, the first one that seems to is the one that governs. -/
theorem find_seemsToApply {m : Text}
    (h : ∀ e ∈ s.directives, e.module = some ['*'] → e.AppliesTo m) :
    s.directives.reverse.find? (SeemsToApply · m) = s.directiveFor m := by
  refine List.find?_congr fun e he => ?_
  rw [Bool.eq_iff_iff, decide_eq_true_eq, ← e.appliesTo_iff]
  exact ⟨fun hs => hs.elim (h e (List.mem_reverse.mp he)) id, .inr⟩

end Listings

/-! ## 4. What is explained -/

/-- What is printed shows for a module the level of the directive that governs it among directives
that have been added, and nothing when none applies to it; so it shows what a sieve does. -/
structure Explains (out : Text) (s : Sieve) (ds : List Directive) (m : Text) : Prop where
  governed : ∀ l, shownLevel? out m = some l ↔ ∃ e, Governs ds m e ∧ e.level = l
  ungoverned : shownLevel? out m = none ↔ ∀ e ∈ ds, ¬ e.AppliesTo m
  enables : ∀ l, s.enables l m = true ↔
    ∃ ceiling, shownLevel? out m = some ceiling ∧ Level.off < l ∧ l ≤ ceiling

theorem explains_of_shownLevel? {out m : Text} {b : Builder}
    (h : shownLevel? out m = (b.build.directiveFor m).map Directive.level) :
    Explains out b.build (Builder.orErrorsOnly b.directives) m := by
  refine ⟨fun l => ?_, ?_, fun l => ?_⟩
  · simp only [h, Option.map_eq_some_iff, b.directiveFor_build_iff]
  · rw [h, Option.map_eq_none_iff, b.directiveFor_build_eq_none_iff]
  · rw [Sieve.enables_iff, h]
    constructor
    · intro hl
      obtain ⟨e, he, hl⟩ := hl
      exact ⟨e.level, by rw [he]; rfl, hl⟩
    · intro hl
      obtain ⟨ceiling, hceiling, hl⟩ := hl
      obtain ⟨e, he, rfl⟩ := Option.map_eq_some_iff.mp hceiling
      exact ⟨e, he, hl⟩

/-- Sieves that are explained by the same lines decide alike. -/
theorem Explains.enables_eq {out out' m : Text} {s s' : Sieve} {ds ds' : List Directive}
    (h : Explains out s ds m) (h' : Explains out' s' ds' m)
    (hlines : directiveLines out = directiveLines out') (l : Level) :
    s.enables l m = s'.enables l m := by
  have hshown : shownLevel? out m = shownLevel? out' m := by
    rw [shownLevel?, shownLevel?, shownDirectives, shownDirectives, hlines]
  rw [Bool.eq_iff_iff, h.enables, h'.enables, hshown]

/-- A directive for the module that is called `*` applies to this module, if there is one. -/
def StarsApply (ds : List Directive) (m : Text) : Prop :=
  ∀ e ∈ ds, e.module = some ['*'] → e.AppliesTo m

section Checks

variable [CharacterNames] {w : World} {d : Diagnostics} {source : Source} {s : Sieve} {found : Bool}

theorem runRequest_check (hs : (sieveOf w false source).run.value = .ok (s, found)) :
    (runRequest w d false (.check source)).outcome = .ok 0 ∧
      (runRequest w d false (.check source)).out =
        if d.showsResults then linesText (listing s found) else [] := by
  refine runCommand_eq (v := { status := 0, lines := listing s found }) ?_
  rw [check, Reported.run_bind, hs]
  rfl

/-- The directives of the sieve are those of the specification. -/
theorem mem_directives_iff (hs : (sieveOf w false source).run.value = .ok (s, found))
    (e : Directive) : e ∈ s.directives ↔ e ∈ directivesFor w source := by
  obtain ⟨b, rfl, hds⟩ := exists_build_of_sieveOf hs
  rw [b.mem_build_iff, hds]

theorem shownLevel?_check (hd : d.showsResults = true)
    (hs : (sieveOf w false source).run.value = .ok (s, found))
    (hlines : OnLines (directivesFor w source)) (m : Text) :
    shownLevel? (runRequest w d false (.check source)).out m =
      (s.directives.reverse.find? (SeemsToApply · m)).map Directive.level := by
  rw [(runRequest_check hs).2, if_pos hd]
  exact shownLevel?_listing (fun e he => hlines e ((mem_directives_iff hs e).mp he)) m

theorem explains_check (hd : d.showsResults = true)
    (hs : (sieveOf w false source).run.value = .ok (s, found))
    (hlines : OnLines (directivesFor w source)) {m : Text}
    (hm : StarsApply (directivesFor w source) m) :
    Explains (runRequest w d false (.check source)).out s (directivesFor w source) m := by
  have hshown := shownLevel?_check hd hs hlines m
  rw [find_seemsToApply fun e he => hm e ((mem_directives_iff hs e).mp he)] at hshown
  obtain ⟨b, rfl, hds⟩ := exists_build_of_sieveOf hs
  rw [← hds]
  exact explains_of_shownLevel? hshown

/-- **A listing explains the decisions.** Whatever the world is and whichever specification is found
in it, as long as its modules have no line feed in them: where results are shown, the command prints
the directives in lines, and the first line whose label is `*` or a prefix of a module shows the
level of the first directive asked that is for every module, for a prefix of this one, or for the
module that is called `*`. Unless a directive is for the module called `*` and does not apply to
this one, that is the level of the directive that governs, and there is no such line exactly when no
directive applies. So two specifications with the same lines decide alike for such modules. -/
theorem check_explains (hd : d.showsResults = true)
    (hs : (sieveOf w false source).run.value = .ok (s, found))
    (hlines : OnLines (directivesFor w source)) :
    let run := runRequest w d false (.check source)
    run.outcome = .ok 0 ∧
    (∀ m, shownLevel? run.out m =
      (s.directives.reverse.find? (SeemsToApply · m)).map Directive.level) ∧
    (∀ m, StarsApply (directivesFor w source) m →
      Explains run.out s (directivesFor w source) m) ∧
    ∀ (w' : World) (d' : Diagnostics) (source' : Source) (s' : Sieve) (found' : Bool),
      d'.showsResults = true → (sieveOf w' false source').run.value = .ok (s', found') →
      OnLines (directivesFor w' source') →
      directiveLines run.out = directiveLines (runRequest w' d' false (.check source')).out →
      ∀ m, StarsApply (directivesFor w source) m → StarsApply (directivesFor w' source') m →
        ∀ l, s.enables l m = s'.enables l m := by
  intro run
  refine ⟨(runRequest_check hs).1, shownLevel?_check hd hs hlines, ?_, ?_⟩
  · intro m hm
    exact explains_check hd hs hlines hm
  · intro w' d' source' s' found' hd' hs' hlines' hsame m hm hm'
    exact (explains_check hd hs hlines hm).enables_eq (explains_check hd' hs' hlines' hm') hsame

/-- The sieve of a command whose test comes out. -/
theorem exists_sieveOf (w : World) (source : Source) (test : Sieve → Bool)
    (h : (match (sieveOf w false source).run.value with
      | .ok (s, found) => found && test s
      | .error _ => false) = true) :
    ∃ s, (sieveOf w false source).run.value = .ok (s, true) ∧ test s = true := by
  split at h
  · rename_i s found hs
    obtain ⟨rfl, htest⟩ := Bool.and_eq_true_iff.mp h
    exact ⟨s, hs, htest⟩
  · cases h

end Checks

attribute [local instance] CharacterNames.common

/-- **Two spellings of one listing.** A module with a colon and the name of a level in it, two
directives for one module, and one for the empty prefix. -/
theorem check_explains_colon :
    let source : Source := { spec := some (.text "info,=off,a: info=debug,app=trace,app=error") }
    let source' : Source := { spec := some (.text "3, = OFF,app,app=1,a: info= debug") }
    let run := fun source => runRequest {} {} false (.check source)
    ∃ s s', (sieveOf {} false source).run.value = .ok (s, true) ∧
      (sieveOf {} false source').run.value = .ok (s', true) ∧
      directiveLines (run source).out =
        ["  a: info: debug".toList, "  app: error".toList, "  app: trace".toList, "  : off".toList,
          "  *: info".toList] ∧
      (run source).outcome = .ok 0 ∧
      shownLevel? (run source).out "app.db" = some .error ∧
      Explains (run source).out s (directivesFor {} source) "app.db" ∧
      (∀ l m, s.enables l m = s'.enables l m) ∧ s.enables .error "app.db" = true := by
  intro source source' run
  obtain ⟨s, hs, henables⟩ := exists_sieveOf {} source (fun s => s.enables .error "app.db")
    (by decide +kernel)
  obtain ⟨s', hs', _⟩ := exists_sieveOf {} source' (fun _ => true) (by decide +kernel)
  have hds : (OnLines (directivesFor {} source) ∧ OnLines (directivesFor {} source')) ∧
      (∀ e ∈ directivesFor {} source, e.module ≠ some ['*']) ∧
      ∀ e ∈ directivesFor {} source', e.module ≠ some ['*'] := by decide +kernel
  have hout : directiveLines (run source).out =
        ["  a: info: debug".toList, "  app: error".toList, "  app: trace".toList, "  : off".toList,
          "  *: info".toList] ∧
      directiveLines (run source).out = directiveLines (run source').out ∧
      shownLevel? (run source).out "app.db" = some .error := by decide +kernel
  obtain ⟨honLines, hno, hno'⟩ := hds
  obtain ⟨hlines, hsame, hshown⟩ := hout
  have hstars : ∀ m, StarsApply (directivesFor {} source) m ∧
      StarsApply (directivesFor {} source') m :=
    fun m => ⟨fun e he h => absurd h (hno e he), fun e he h => absurd h (hno' e he)⟩
  obtain ⟨houtcome, _, hexplains, halike⟩ :=
    check_explains (d := {}) (by decide) hs honLines.1
  refine ⟨s, s', hs, hs', hlines, houtcome, hshown, hexplains _ (hstars _).1, ?_, henables⟩
  intro l m
  exact halike {} {} source' s' true (by decide) hs' honLines.2 hsame m (hstars m).1 (hstars m).2 l

/-- The listing of a directive for every module, and that of one for the module called `*`, are the
same; but only the first one enables other modules. So the listing of the second one does not
explain its decisions. -/
theorem not_explains_star :
    let source : Source := { spec := some (.text "info") }
    let source' : Source := { spec := some (.text "*=info") }
    let run := fun source => runRequest {} {} false (.check source)
    ∃ s s', (sieveOf {} false source).run.value = .ok (s, true) ∧
      (sieveOf {} false source').run.value = .ok (s', true) ∧
      (run source).out = (run source').out ∧
      shownLevel? (run source').out "app" = some .info ∧ s'.directiveFor "app" = none ∧
      s.enables .info "app" = true ∧ s'.enables .info "app" = false ∧
      ¬ Explains (run source').out s' (directivesFor {} source') "app" := by
  intro source source' run
  obtain ⟨s, hs, henables⟩ := exists_sieveOf {} source (fun s => s.enables .info "app")
    (by decide +kernel)
  obtain ⟨s', hs', htest⟩ := exists_sieveOf {} source'
    (fun s => decide (s.directiveFor "app" = none ∧ s.enables .info "app" = false))
    (by decide +kernel)
  obtain ⟨hnone, hdisabled⟩ := of_decide_eq_true htest
  have hout : (run source).out = (run source').out ∧
      shownLevel? (run source').out "app" = some .info := by decide +kernel
  obtain ⟨hsame, hshown⟩ := hout
  refine ⟨s, s', hs, hs', hsame, hshown, hnone, henables, hdisabled, fun h => ?_⟩
  have hon := (h.enables .info).mpr ⟨.info, hshown, by decide, by decide⟩
  exact absurd hon (Bool.eq_false_iff.mp hdisabled)

end CommandLine

end LogSieve
