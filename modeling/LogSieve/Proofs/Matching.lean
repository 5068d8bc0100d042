import LogSieve.Drain
import LogSieve.Proofs.Rebuilding

/-!
# Plain patterns match as texts do

A pattern without operators is read as the sequence of its characters, and such a sequence is looked
for as a plain text is. So it makes no difference under which strategy a plain pattern is read.

* `Pattern.IsLiteral`, `Pattern.literal`: patterns without operators, and what they are read as;
* `Pattern.run_sequence_cons`: one character is read, with whatever stands behind it;
* `Pattern.parse_of_isLiteral`: the whole pattern;
* `Pattern.run_literal`: matching at one place is having the pattern ahead;
* `Pattern.search_literal`: searching is looking for a piece of the text;
* `Builder.strategies_agree_of_isLiteral`: so loggers do the same under both strategies.
-/

namespace LogSieve

namespace Pattern

/-! ## 1. Reading -/

/-- The characters that mean something else than themselves. -/
def operators : List Char :=
  ['.', '^', '$', '*', '+', '?', '{', '}', '[', ']', '\\', '|', '(', ')']

/-- The pattern has no operators in it. -/
def IsLiteral (p : Text) : Prop := ∀ c ∈ p, c ∉ operators

instance (p : Text) : Decidable (IsLiteral p) := List.decidableBAll (· ∉ operators) p

/-- The nodes of characters that stand for themselves. -/
def literalNodes (p : Text) : List Node := p.map fun c => .char c.toNat false

/-- Characters that stand for themselves, one after the other. -/
def literal (p : Text) : Node := .ofList (literalNodes p)

theorem ne_of_not_mem_operators {c d : Char} (hc : c ∉ operators) (hd : d ∈ operators) : c ≠ d :=
  fun h => hc (h ▸ hd)

theorem tokensOf_of_isLiteral {p : Text} (h : IsLiteral p) : tokensOf p = p.map .plain := by
  induction p with
  | nil => rfl
  | cons c rest ih =>
    obtain ⟨hc, hrest⟩ := List.forall_mem_cons.mp h
    have hb : c ≠ '\\' := ne_of_not_mem_operators hc (by decide)
    rw [tokensOf.eq_def]
    simp only [hb, if_false, ih hrest, List.map_cons]

/-- A step that goes on hands its reader to the next one. -/
theorem run_bind_of_ok {α β : Type} {x : Reading α} {a : α} {r r' : Reader}
    (h : x.run r = .ok (a, r')) (f : α → Reading β) : (x >>= f).run r = (f a).run r' := by
  rw [StateT.run_bind, h]
  rfl

theorem run_goOn_plain (p : Text) (r : Reader) :
    (goOn (p.map .plain)).run r = .ok ((), { r with ahead := p.map .plain }) := by
  cases p with
  | nil => rfl
  | cons c rest => rfl

/-- A character that is no operator becomes a node, and reading goes on behind it. -/
theorem run_sequence_cons [CharacterNames] {c : Char} (hc : c ∉ operators) (first : Bool)
    (nodes : List Node)
    (fuel : Nat) {r : Reader} {rest : Text} (hr : r.ahead = (c :: rest).map .plain) :
    (sequence first false nodes (fuel + 1)).run r =
      (sequence first false (.char c.toNat false :: nodes) fuel).run
        { r with ahead := rest.map .plain } := by
  have hnext : next?.run r = .ok (some (.plain c), r) := by
    show Except.ok (r.ahead.head?, r) = _
    rw [hr]
    rfl
  have hadvance : advance.run r = .ok ((), { r with ahead := rest.map .plain }) := by
    show (goOn r.ahead.tail).run r = _
    rw [hr]
    exact run_goOn_plain rest r
  have hends : ¬ (decide (Token.plain c = .plain '|') || decide (Token.plain c = .plain ')')) =
      true := by
    have hbar : c ≠ '|' := ne_of_not_mem_operators hc (by decide)
    have hclose : c ≠ ')' := ne_of_not_mem_operators hc (by decide)
    simp [hbar, hclose]
  rw [sequence.eq_def]
  dsimp only
  rw [run_bind_of_ok hnext]
  dsimp only
  rw [if_neg hends, run_bind_of_ok hadvance, Bool.false_and, Bool.false_and,
    if_neg Bool.false_ne_true, if_neg Bool.false_ne_true]
  -- all cases but the last one are those of operators
  split
  all_goals first | exact absurd (by decide) hc | rfl

/-- A pattern without operators is read to its end. -/
theorem run_sequence_of_isLiteral [CharacterNames] {p : Text} (h : IsLiteral p) (first : Bool)
    (nodes : List Node)
    {fuel : Nat} (hf : p.length < fuel) {r : Reader} (hr : r.ahead = p.map .plain) :
    (sequence first false nodes fuel).run r =
      .ok (.ofList (nodes.reverse ++ literalNodes p), { r with ahead := [] }) := by
  induction p generalizing nodes fuel r with
  | nil =>
    cases fuel with
    | zero => cases hf
    | succ fuel =>
      obtain ⟨_, _, _, _, _, _, _⟩ := r
      cases hr
      rw [sequence.eq_def, literalNodes, List.map_nil, List.append_nil]
      rfl
  | cons c rest ih =>
    obtain ⟨hc, hrest⟩ := List.forall_mem_cons.mp h
    cases fuel with
    | zero => cases hf
    | succ fuel =>
      have hfuel : rest.length < fuel := Nat.lt_of_succ_lt_succ hf
      have hrun := ih hrest (.char c.toNat false :: nodes) hfuel
        (r := { r with ahead := rest.map .plain }) rfl
      rw [run_sequence_cons hc first nodes fuel hr, hrun, List.reverse_cons, List.append_assoc]
      rfl

/-- Nothing is wrong with characters that stand for themselves. -/
theorem check_literal (template : Bool) (p : Text) : (literal p).check template = .ok () := by
  induction p with
  | nil => rfl
  | cons c rest ih => exact ih

/-- A pattern without operators is read as the sequence of its characters. -/
theorem parse_of_isLiteral [CharacterNames] {p : Text} (h : IsLiteral p) :
    parse p = .ok (literal p, {}) := by
  have hget : ∀ r : Reader, (get : Reading Reader).run r = .ok (r, r) := fun r => rfl
  have hfuel : p.length < 3 * (p.map Token.plain).length + 2 := by
    rw [List.length_map]
    omega
  have hbranches : (branches true false [] (3 * (p.map Token.plain).length + 3)).run
      { size := p.length, ahead := p.map .plain } =
        .ok (literal p, { size := p.length, ahead := [] }) := by
    rw [branches.eq_def]
    dsimp only
    rw [run_bind_of_ok (run_sequence_of_isLiteral h _ _ hfuel rfl)]
    rfl
  have hwhole : wholePattern.run { size := p.length, ahead := tokensOf p } =
      .ok (literal p, { size := p.length, ahead := [] }) := by
    rw [tokensOf_of_isLiteral h]
    unfold wholePattern
    rw [run_bind_of_ok (hget _), run_bind_of_ok (run_goOn_plain p _), run_bind_of_ok (hget _),
      run_bind_of_ok hbranches, run_bind_of_ok (hget _)]
    rfl
  rw [parse, hwhole]
  show ((literal p).check _ >>= fun _ => pure (literal p, ({} : Flags))) = _
  rw [check_literal]
  rfl

/-! ## 2. Matching -/

theorem literalTest_self (c d : Char) : literalTest (.ofFlags {}) c.toNat d = (c == d) := by
  rw [Bool.eq_iff_iff, beq_iff_eq, eq_comm (a := c), ← Char.toNat_inj]
  exact literalTest_none c.toNat d

/-- A sequence of characters matches where it stands ahead, and goes on behind itself. -/
theorem run_literal (p : Text) (place : Place) (k : Continuation) :
    (literal p).run {} place k =
      if p.isPrefixOf place.ahead then
        k { place with behind := p.reverse ++ place.behind, ahead := place.ahead.drop p.length }
      else none := by
  induction p generalizing place with
  | nil => rfl
  | cons c rest ih =>
    obtain ⟨behind, ahead, starts, ends⟩ := place
    show ((Place.step? (fun d => literalTest (.ofFlags {}) c.toNat d != false) _).bind
      fun q => (literal rest).run {} q k) = _
    cases ahead with
    | nil => rfl
    | cons d tail =>
      simp only [Place.step?, literalTest_self, Bool.bne_false]
      by_cases h : c = d
      · subst h
        simp [ih]
      · simp [h]

/-- Searching a sequence of characters is looking for it as a piece of the text. All places are
tried, the end of the text among them. -/
theorem isSome_searchFrom_literal (p behind t : Text) :
    ((literal p).searchFrom {} behind t).isSome = Text.occursIn p t := by
  induction t generalizing behind with
  | nil =>
    rw [Node.searchFrom, run_literal]
    cases p with
    | nil => rfl
    | cons c rest => rfl
  | cons c rest ih =>
    rw [Node.searchFrom, run_literal, Text.occursIn, ← ih (c :: behind)]
    by_cases h : p.isPrefixOf (c :: rest) = true
    · simp [h]
    · simp [h]

theorem search_literal (p t : Text) : (literal p).search {} t = Text.occursIn p t :=
  isSome_searchFrom_literal p [] t

end Pattern

/-! ## 3. Filters and loggers -/

theorem Filter.build_of_isLiteral [CharacterNames] {p : Text} (h : Pattern.IsLiteral p) :
    build .regex p = .ok (.regex p (Pattern.literal p) {}) := by
  rw [build, Pattern.parse_of_isLiteral h]

theorem Filter.admits_literal (p : Text) :
    (regex p (Pattern.literal p) {}).admits = (substring p).admits :=
  funext (Pattern.search_literal p)

namespace Sieve

variable {s s' : Sieve} (hd : s.directives = s'.directives)
  (hf : s.filter.map Filter.admits = s'.filter.map Filter.admits)

include hd in
theorem enables_congr : s.enables = s'.enables := by
  funext l m
  rw [enables, enables, directiveFor, directiveFor, hd]

include hd hf

/-- All that counts of a filter is which texts pass. -/
theorem passes_congr (r : Record) : s.passes r = s'.passes r := by
  have hadmits : ∀ s : Sieve, s.admits r =
      match s.filter.map Filter.admits with
      | none => .ok true
      | some passes => r.render.map passes := by
    intro s
    unfold admits
    cases s.filter with
    | none => rfl
    | some f => rfl
  rw [passes, passes, hadmits, hadmits, hf, enables_congr hd]

/-- So a logger takes nothing else from its filter. -/
theorem logger_congr {σ : Type} (drain : Record → Action σ LogFault Value) :
    s.logger drain = s'.logger drain := by
  have hjudge : ∀ s : Sieve, (s.judge σ).filter =
      (s.filter.map Filter.admits).map fun passes t state => (.ok (passes t), state) := by
    intro s
    rw [Option.map_map]
    rfl
  have hfilter : (s.judge σ).filter = (s'.judge σ).filter := by rw [hjudge, hjudge, hf]
  have hsame : s.judge σ = s'.judge σ := congrArg (Judge.mk _) hfilter
  rw [logger, logger, hsame, enables_congr hd]

end Sieve

namespace Builder

/-- A specification whose filter text makes a filter is read. -/
theorem exists_calls_of_build [CharacterNames] {s : Strategy} {p t : Text} {f : Filter}
    (hp : Spec.filterText? t = some p) (hf : Filter.build s p = .ok f) (b : Builder) :
    ∃ read, (b.calls [.choose (.text s.name), .parse t]).run.value = .ok read ∧
      read.directives = b.directives ++ Spec.directivesOf t ∧ read.filter = some f := by
  have hcountable : ¬ Spec.Uncountable s.name t := by
    intro hu
    obtain ⟨hname, p', hp', hfault⟩ := hu
    have hs : s = .regex := by
      cases s with
      | regex => rfl
      | substring => exact absurd hname (by decide)
    rw [hp] at hp'
    rw [hs, Filter.build, Option.some.inj hp', hfault] at hf
    cases hf
  have hfilter : Spec.filterOf? s.name t = some f := by
    rw [Spec.filterOf?, hp, Option.bind_some, Filter.buildNamed_name, hf]
    rfl
  have hspec : (Spec.parse (.text s.name) t).run.value = .ok ⟨Spec.directivesOf t, some f⟩ := by
    rw [Spec.parse_run_of_not_uncountable hcountable, hfilter]
  have hchoose : (b.calls [.choose (.text s.name)]).run.value =
      .ok { b with strategy := some s } := by
    rw [value_calls_singleton_iff, value_call_choose, choose_name]
  have hparse : ({ b with strategy := some s }.calls [.parse t]).run.value =
      .ok { b with directives := b.directives ++ Spec.directivesOf t, filter := some f
                   strategy := some s } := by
    rw [value_calls_singleton_iff, value_call_parse_iff, value_parse_iff]
    exact ⟨_, hspec, rfl⟩
  exact ⟨_, (value_calls_append_iff b [_] [_] _).mpr ⟨_, hchoose, hparse⟩, rfl, rfl⟩

/-- **A plain pattern is the same under both strategies.** It makes an expression, and that lets
through exactly the texts that have the pattern in them, as the plain filter does. So whatever has
been asked of a builder, and whatever specification with such a pattern it then reads: reading does
not fail under either strategy, and of the two loggers that are built then, in front of the same
drain, no record shows which is which. Each hands on what the other one does, and is left in the
same state. -/
theorem strategies_agree_of_isLiteral [CharacterNames] {p : Text} (h : Pattern.IsLiteral p) :
    (∃ f, Filter.build .regex p = .ok f ∧ f.strategy = .regex ∧
      ∀ t, f.admits t = (Filter.substring p).admits t ∧ (f.admits t = true ↔ p <:+: t)) ∧
    ∀ (b : Builder) (t : Text), Spec.filterText? t = some p →
      ∃ read read' : Builder,
        (b.calls [.choose (.text Strategy.regex.name), .parse t]).run.value = .ok read ∧
        (b.calls [.choose (.text Strategy.substring.name), .parse t]).run.value = .ok read' ∧
        read.filter.map Filter.strategy = some .regex ∧
        read'.filter.map Filter.strategy = some .substring ∧
        ∀ r : Record, read.build.passes r = read'.build.passes r ∧
          ∀ (σ : Type) (drain : Record → Action σ LogFault Value) (thread : Nat) (desks : Desks)
            (state : σ), (read.build.logger drain).log thread r (desks, state) =
              (read'.build.logger drain).log thread r (desks, state) := by
  have hregex := Filter.build_of_isLiteral h
  have hadmits := Filter.admits_literal p
  constructor
  · refine ⟨_, hregex, rfl, fun t => ⟨congrFun hadmits t, ?_⟩⟩
    rw [hadmits, Filter.admits_substring_iff]
    constructor
    · intro ht
      obtain ⟨before, after, rfl⟩ := ht
      exact ⟨before, after, rfl⟩
    · intro ht
      obtain ⟨before, after, rfl⟩ := ht
      exact ⟨before, after, rfl⟩
  · intro b t ht
    obtain ⟨read, hread, hds, hf⟩ := exists_calls_of_build ht hregex b
    obtain ⟨read', hread', hds', hf'⟩ := exists_calls_of_build ht (s := .substring) rfl b
    have hsame : read.directives = read'.directives := hds.trans hds'.symm
    have hdirectives : read.build.directives = read'.build.directives := by
      rw [directives_build, directives_build, hsame]
    have hfilters : read.build.filter.map Filter.admits = read'.build.filter.map Filter.admits := by
      show read.filter.map _ = read'.filter.map _
      rw [hf, hf', Option.map_some, Option.map_some, hadmits]
    refine ⟨read, read', hread, hread', by rw [hf]; rfl, by rw [hf']; rfl, fun r => ⟨?_, ?_⟩⟩
    · exact Sieve.passes_congr hdirectives hfilters r
    · intro σ drain thread desks state
      rw [Sieve.logger_congr hdirectives hfilters]

attribute [local instance] CharacterNames.common

/-- **A pattern with a blank, a comma, a hyphen, a line feed and a letter beyond ASCII.** It is
looked for as it stands. -/
theorem strategies_agree_of_isLiteral_umlaut :
    let p : Text := "slow, #1-ü\n"
    ∃ f, Filter.build .regex p = .ok f ∧ f.admits ("a " ++ p ++ "b" : Text) = true ∧
      f.admits "slow, #1-u" = false ∧
      ∃ read read' : Builder,
        (({} : Builder).calls [.choose (.text "regex"),
          .parse ("info,app=debug/" ++ p)]).run.value = .ok read ∧
        (({} : Builder).calls [.choose (.text "substring"),
          .parse ("info,app=debug/" ++ p)]).run.value = .ok read' ∧
        ∀ r, read.build.passes r = read'.build.passes r := by
  intro p
  have hliteral : Pattern.IsLiteral p := by decide
  have htext : Spec.filterText? ("info,app=debug/" ++ p) = some p := by decide
  obtain ⟨⟨f, hf, _, hadmits⟩, hbuilders⟩ := strategies_agree_of_isLiteral hliteral
  obtain ⟨read, read', hread, hread', _, _, hsame⟩ := hbuilders {} _ htext
  refine ⟨f, hf, ?_, ?_, read, read', hread, hread', fun r => (hsame r).1⟩
  · exact (hadmits _).2.mpr ⟨"a ", "b", rfl⟩
  · rw [(hadmits _).1]
    decide +kernel

end Builder

end LogSieve
