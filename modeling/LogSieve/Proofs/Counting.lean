import LogSieve.Proofs.Speaking
import Mathlib.Data.List.TakeWhile

/-!
# Flags that are counted

The flags that make the program say more or less are counted, and it does not matter where they
stand among the other arguments, as long as it is in front of the separator.

* `Token.IsLone`: a flag that takes nothing from the tokens behind it. Reading such tokens leaves
  the others in their order (`readTokens_of_isLone`);
* `lettersOf`, `IsMovable`: the counted flags, and the arguments they may stand among. A flag is of
  one of three shapes (`lettersOf_cases`);
* `exists_classified`: what these arguments are for the grammar of the counted flags, one lemma for
  each kind of them;
* `read_of_isMovable`: what is read;
* `run_of_isMovable`: a run depends on the difference of the counts only, and what it comes to does
  not depend on the counts at all.
-/

namespace LogSieve.CommandLine

/-! ## 1. Flags without arguments -/

namespace Token

/-- The token is a flag that the grammar knows. -/
def isFlag : Token → Bool
  | flag .. => true
  | _ => false

/-- What a flag gives when nothing is behind it. -/
def givenAlone (g : Grammar) : Token → List Given
  | flag _ f name behind =>
    match readFlag g f name behind [] with
    | .ok (given, _) => given
    | .error _ => []
  | _ => []

/-- A token that takes nothing from the ones behind it. -/
def IsLone (g : Grammar) (k : Token) : Prop :=
  match k with
  | flag _ f name behind => ∀ ks, readFlag g f name behind ks = .ok (k.givenAlone g, ks)
  | _ => True

end Token

/-- What is no flag, with the text it has. -/
def extrasOf (ks : List Token) : List Text := (ks.filter fun k => !k.isFlag).map Token.text

theorem extrasOf_append (ks ks' : List Token) :
    extrasOf (ks ++ ks') = extrasOf ks ++ extrasOf ks' := by
  rw [extrasOf, List.filter_append, List.map_append]
  rfl

theorem extrasOf_of_not_isFlag {ks : List Token} (h : ∀ k ∈ ks, k.isFlag = false) :
    extrasOf ks = ks.map Token.text := by
  rw [extrasOf, List.filter_eq_self.mpr fun k hk => by rw [h k hk]; rfl]

theorem givenAlone_of_not_isFlag {g : Grammar} {ks : List Token} (h : ∀ k ∈ ks, k.isFlag = false) :
    ks.flatMap (Token.givenAlone g) = [] := by
  rw [List.flatMap_eq_nil_iff]
  intro k hk
  have hflag := h k hk
  cases k with
  | flag => cases hflag
  | _ => rfl

theorem isFlag_of_not_isFlagLike {k : Token} (h : k.isFlagLike = false) : k.isFlag = false := by
  cases k with
  | flag => cases h
  | _ => rfl

/-- Where there are no places, tokens up to the next one like a flag are left over. -/
theorem readTokens_cons_of_not_isFlagLike {g : Grammar} {k : Token} (hk : k.isFlagLike = false)
    (fuel : Nat) (ks : List Token) :
    readTokens g (fuel + 1) [] (k :: ks) =
      if (k :: ks).any Token.isFlagLike then do
        let r ← readTokens g fuel [] ((k :: ks).dropWhile fun k => !k.isFlagLike)
        return { r with
          extras := ((k :: ks).takeWhile fun k => !k.isFlagLike).map Token.text ++ r.extras }
      else .ok { extras := (k :: ks).map Token.text } := by
  have hfill : (fillPlaces [] (k :: ks)).mapError Stop.misuse = .ok ({}, k :: ks) := rfl
  -- a token that is not like a flag is read by the third equation
  rw [readTokens.eq_3 g [] fuel k ks (fun _ _ _ _ h => by rw [h] at hk; cases hk)
    (fun _ h => by rw [h] at hk; cases hk), hfill]
  simp only [bind, Except.bind]
  cases (k :: ks).any Token.isFlagLike with
  | false => rfl
  | true =>
    rw [if_neg Bool.noConfusion, if_neg (Nat.lt_irrefl _), if_pos rfl]
    rfl

/-- Where there are no places and no flag takes an argument, every flag gives what it gives alone,
and all else is left over in its order. -/
theorem readTokens_of_isLone {g : Grammar} {fuel : Nat} {ks : List Token}
    (h : ∀ k ∈ ks, k.IsLone g) (hfuel : ks.length < fuel) :
    readTokens g fuel [] ks =
      .ok { given := ks.flatMap (Token.givenAlone g), extras := extrasOf ks } := by
  induction fuel generalizing ks with
  | zero => omega
  | succ fuel ih =>
    cases ks with
    | nil => rfl
    | cons k rest =>
      obtain ⟨hk, hrest⟩ := List.forall_mem_cons.mp h
      have hlength : rest.length < fuel := Nat.lt_of_succ_lt_succ hfuel
      by_cases hlike : k.isFlagLike = true
      · cases k with
        | operand t => cases hlike
        | separator => cases hlike
        | flag t f name behind =>
          rw [readTokens, hk rest]
          simp only [bind, Except.bind, ih hrest hlength]
          rfl
        | unknown t =>
          rw [readTokens, ih hrest hlength]
          rfl
      · rw [Bool.not_eq_true] at hlike
        rw [readTokens_cons_of_not_isFlagLike hlike]
        split
        · -- the reading goes on at the next token like a flag, which is in `rest`
          have hsplit := List.takeWhile_append_dropWhile (p := fun k : Token => !k.isFlagLike)
            (l := k :: rest)
          have hbefore : ∀ k' ∈ (k :: rest).takeWhile (fun k => !k.isFlagLike),
              k'.isFlag = false := by
            intro k' hk'
            have hnot := List.mem_takeWhile_imp hk'
            exact isFlag_of_not_isFlagLike (by simpa using hnot)
          rw [List.dropWhile_cons_of_pos (by rw [hlike]; rfl)] at hsplit ⊢
          have hafter := List.dropWhile_sublist (l := rest) fun k : Token => !k.isFlagLike
          rw [ih (fun k' hk' => hrest k' (hafter.subset hk'))
            (Nat.lt_of_le_of_lt hafter.length_le hlength)]
          generalize (k :: rest).takeWhile (fun k => !k.isFlagLike) = before at hsplit hbefore ⊢
          rw [← hsplit, List.flatMap_append, givenAlone_of_not_isFlag hbefore, extrasOf_append,
            extrasOf_of_not_isFlag hbefore]
          rfl
        · rename_i hany
          have hnone : ∀ k' ∈ k :: rest, k'.isFlag = false := by
            intro k' hk'
            refine isFlag_of_not_isFlagLike ?_
            rw [List.any_eq_true] at hany
            exact Bool.eq_false_iff.mpr fun hlike' => hany ⟨k', hk', hlike'⟩
          rw [givenAlone_of_not_isFlag hnone, extrasOf_of_not_isFlag hnone]

/-! ## 2. Arguments -/

/-- The letters of the counted flags. -/
def isCountLetter (c : Char) : Bool := c = 'v' || c = 'Q'

/-- The letters that an argument counts: a counted flag is one of two names, which stand for a
letter each, or letters behind a hyphen. Anything else counts none. -/
def lettersOf (t : Text) : Text :=
  if t = "--verbose".toList then ['v']
  else if t = "--quiet".toList then ['Q']
  else match t with
    | '-' :: c :: more => if (c :: more).all isCountLetter then c :: more else []
    | _ => []

/-- What counts letters is a name, or the letters behind a hyphen. -/
theorem lettersOf_cases (t : Text) :
    (t = "--verbose".toList ∧ lettersOf t = ['v']) ∨
    (t = "--quiet".toList ∧ lettersOf t = ['Q']) ∨
    (∃ c more, t = '-' :: c :: more ∧ (∀ d ∈ c :: more, isCountLetter d = true) ∧
      lettersOf t = c :: more) ∨
    lettersOf t = [] := by
  by_cases hverbose : t = "--verbose".toList
  · exact .inl ⟨hverbose, by rw [hverbose]; rfl⟩
  by_cases hquiet : t = "--quiet".toList
  · exact .inr (.inl ⟨hquiet, by rw [hquiet]; rfl⟩)
  unfold lettersOf
  rw [if_neg hverbose, if_neg hquiet]
  split
  · split
    · rename_i hall
      exact .inr (.inr (.inl ⟨_, _, rfl, List.all_eq_true.mp hall, rfl⟩))
    · exact .inr (.inr (.inr rfl))
  · exact .inr (.inr (.inr rfl))

theorem isCountLetter_of_mem_lettersOf {t : Text} {c : Char} (h : c ∈ lettersOf t) :
    isCountLetter c = true := by
  rcases lettersOf_cases t with ⟨_, hl⟩ | ⟨_, hl⟩ | ⟨_, _, _, hall, hl⟩ | hl <;> rw [hl] at h
  · rw [List.mem_singleton.mp h]
    rfl
  · rw [List.mem_singleton.mp h]
    rfl
  · exact hall c h
  · cases h

/-- The argument is a counted flag. -/
def isCounting (t : Text) : Bool := !(lettersOf t).isEmpty

/-- The names of flags about the settings of a command. -/
def settingNames : List Text := [specFlag.key, strategyFlag.key, variableFlag.key]

/-- Counted flags, and the arguments that they may stand among. -/
inductive IsMovable : Text → Prop where
  | counting {t : Text} (h : isCounting t = true) : IsMovable t
  | word {t : Text} (h : t.head? ≠ some '-') : IsMovable t
  | name {t : Text} (h : t ∈ settingNames) : IsMovable t
  | assigned {t : Text} (h : t ∈ settingNames) (value : Text) : IsMovable (t ++ '=' :: value)

/-- The flag of a letter. -/
def flagOfLetter (c : Char) : Flag := if c = 'v' then verboseFlag else quietFlag

/-- What is noted for a letter. -/
def noteOf (c : Char) : Given := ⟨(flagOfLetter c).key, []⟩

/-- What an argument is for the grammar of the counted flags. -/
structure Classified (t : Text) (k : Token) : Prop where
  classify : classify globals t = .ok k
  isLone : k.IsLone globals
  isFlag : k.isFlag = isCounting t
  given : k.givenAlone globals = (lettersOf t).map noteOf

theorem classified_of_not_isFlag {t : Text} {k : Token} (hc : classify globals t = .ok k)
    (hk : k.isFlag = false) (hl : lettersOf t = []) : Classified t k where
  classify := hc
  isLone := by
    cases k with
    | flag => cases hk
    | _ => trivial
  isFlag := by rw [hk, isCounting, hl]; rfl
  given := by
    rw [hl]
    cases k with
    | flag => cases hk
    | _ => rfl

theorem classified_of_readFlag {t name : Text} {f : Flag} {behind : Option Text}
    (hc : classify globals t = .ok (.flag t f name behind)) (hl : lettersOf t ≠ [])
    (hr : ∀ ks, readFlag globals f name behind ks = .ok ((lettersOf t).map noteOf, ks)) :
    Classified t (.flag t f name behind) := by
  have hgiven : Token.givenAlone globals (.flag t f name behind) = (lettersOf t).map noteOf := by
    rw [Token.givenAlone, hr]
  refine ⟨hc, ?_, ?_, hgiven⟩
  · intro ks
    rw [hr, hgiven]
  · cases h : lettersOf t with
    | nil => exact absurd h hl
    | cons c more =>
      rw [isCounting, h]
      rfl

/-- A name among the settings' is unknown here, and so is what starts with one and a value. -/
theorem classified_settingName {t : Text} (h : t ∈ settingNames) : Classified t (.unknown t) := by
  simp only [settingNames, List.mem_cons, List.not_mem_nil, or_false] at h
  rcases h with rfl | rfl | rfl <;> exact classified_of_not_isFlag rfl rfl rfl

theorem exists_classified_assigned {t : Text} (h : t ∈ settingNames) (value : Text) :
    ∃ k, Classified (t ++ '=' :: value) k := by
  -- no flag has a name that starts so, whatever the value is
  have hstart : lettersOf (t ++ '=' :: value) = [] ∧
      classify globals (t ++ '=' :: value) = classifyLoose globals (t ++ '=' :: value) ∧
      candidates globals (t ++ '=' :: value) = [] := by
    simp only [settingNames, List.mem_cons, List.not_mem_nil, or_false] at h
    rcases h with rfl | rfl | rfl <;> exact ⟨rfl, rfl, rfl⟩
  obtain ⟨hletters, hloose, hnone⟩ := hstart
  unfold classifyLoose at hloose
  rw [hnone] at hloose
  dsimp only at hloose
  split at hloose
  · exact ⟨_, classified_of_not_isFlag hloose rfl hletters⟩
  · exact ⟨_, classified_of_not_isFlag hloose rfl hletters⟩

theorem classified_word {t : Text} (h : t.head? ≠ some '-') : Classified t (.operand t) := by
  cases t with
  | nil => exact classified_of_not_isFlag rfl rfl rfl
  | cons c rest =>
    have hc : c ≠ '-' := fun hc => h (congrArg some hc)
    refine classified_of_not_isFlag ?_ rfl ?_
    · unfold classify
      split
      · rename_i heq
        exact absurd (List.cons.inj heq).1 hc
      · rfl
    · have hne : ∀ name : Text, c :: rest ≠ '-' :: name := fun name he =>
        hc (List.cons.inj he).1
      have hverbose : c :: rest ≠ "--verbose".toList := hne "-verbose".toList
      have hquiet : c :: rest ≠ "--quiet".toList := hne "-quiet".toList
      unfold lettersOf
      rw [if_neg hverbose, if_neg hquiet]
      split
      · rename_i heq
        exact absurd heq (hne _)
      · rfl

/-! ### Letters behind a hyphen -/

theorem eq_or_eq_of_isCountLetter {c : Char} (h : isCountLetter c = true) : c = 'v' ∨ c = 'Q' := by
  simpa [isCountLetter] using h

theorem noteFlag_flagOfLetter (c : Char) : noteFlag (flagOfLetter c) [] = .ok (noteOf c) := by
  unfold noteOf flagOfLetter
  split <;> rfl

theorem arity_flagOfLetter (c : Char) : (flagOfLetter c).arity = .none := by
  unfold flagOfLetter
  split <;> rfl

theorem argumentsAfter_flagOfLetter (c : Char) (ks : List Token) :
    argumentsAfter (flagOfLetter c) ks = .ok ([], ks) := by
  unfold argumentsAfter
  rw [arity_flagOfLetter]

/-- Letters stand for their flags, the last of them by itself. -/
theorem flagsBehind_letters {c : Char} {more : Text} (hne : more ≠ [])
    (h : ∀ d ∈ more, isCountLetter d = true) :
    ∃ flags last, flagsBehind globals (flagOfLetter c) false more =
        .ok (flags, some (flagOfLetter last)) ∧
      flags ++ [(flagOfLetter last, [])] = (c :: more).map fun d => (flagOfLetter d, []) := by
  induction more generalizing c with
  | nil => exact absurd rfl hne
  | cons d rest ih =>
    obtain ⟨hd, hrest⟩ := List.forall_mem_cons.mp h
    have hflag : globals.flag? ['-', d] = some (flagOfLetter d) := by
      rcases eq_or_eq_of_isCountLetter hd with rfl | rfl <;> rfl
    unfold flagsBehind
    rw [arity_flagOfLetter, hflag]
    cases rest with
    | nil => exact ⟨_, d, rfl, rfl⟩
    | cons e others =>
      obtain ⟨flags, last, hbehind, happend⟩ := ih (c := d) (List.cons_ne_nil _ _) hrest
      refine ⟨(flagOfLetter c, []) :: flags, last, ?_, ?_⟩
      · simp only [Bool.false_eq_true, if_false, List.isEmpty_cons, hbehind]
        rfl
      · rw [List.cons_append, happend]
        rfl

theorem mapM_noteFlag_letters (letters : Text) :
    (letters.map fun d => (flagOfLetter d, ([] : List Text))).mapM
      (fun (f, arguments) => noteFlag f arguments) = .ok (letters.map noteOf) := by
  induction letters with
  | nil => rfl
  | cons d rest ih =>
    rw [List.map_cons, List.mapM_cons, ih]
    dsimp only
    rw [noteFlag_flagOfLetter]
    rfl

/-- Letters behind a hyphen take nothing from the tokens behind them. -/
theorem readFlag_letters {c : Char} {more : Text} (hne : more ≠ []) (hc : c ≠ '-')
    (h : ∀ d ∈ more, isCountLetter d = true) (ks : List Token) :
    readFlag globals (flagOfLetter c) ['-', c] (some more) ks =
      .ok ((c :: more).map noteOf, ks) := by
  obtain ⟨flags, last, hbehind, happend⟩ := flagsBehind_letters (c := c) hne h
  have hlong : isLongName ['-', c] = false := by
    unfold isLongName
    split
    · rename_i heq
      exact absurd (List.cons.inj (List.cons.inj heq).2).1 hc
    · rfl
  unfold readFlag
  simp only [hlong, hbehind, Except.mapError, bind, Except.bind, argumentsAfter_flagOfLetter,
    happend, mapM_noteFlag_letters]
  rfl

/-- Several letters behind a hyphen are the flag of the first one, with the others behind it. -/
theorem classify_letters {c d : Char} {more : Text} (hc : isCountLetter c = true)
    (h : ∀ e ∈ d :: more, isCountLetter e = true) :
    classify globals ('-' :: c :: d :: more) =
      .ok (.flag ('-' :: c :: d :: more) (flagOfLetter c) ['-', c] (some (d :: more))) := by
  have hassigned : '=' ∉ '-' :: c :: d :: more := by
    intro hmem
    rcases List.mem_cons.mp hmem with heq | hmem
    · cases heq
    · have hall : ∀ e ∈ c :: d :: more, isCountLetter e = true :=
        List.forall_mem_cons.mpr ⟨hc, h⟩
      exact Bool.noConfusion (hall _ hmem)
  have hfound : globals.flag? ('-' :: c :: d :: more) = none ∧
      candidates globals ('-' :: c :: d :: more) =
        [(flagOfLetter c, ['-', c], some (d :: more))] := by
    rcases eq_or_eq_of_isCountLetter hc with rfl | rfl <;> exact ⟨rfl, rfl⟩
  unfold classify classifyLoose
  dsimp only
  rw [hfound.1, hfound.2, Text.cutAt_of_not_mem hassigned]
  rfl

theorem exists_classified_counting {t : Text} (h : isCounting t = true) :
    ∃ k, Classified t k := by
  have hl : lettersOf t ≠ [] := by
    intro hl
    rw [isCounting, hl] at h
    cases h
  rcases lettersOf_cases t with ⟨rfl, _⟩ | ⟨rfl, _⟩ | ⟨c, more, rfl, hall, hself⟩ | hnone
  · exact ⟨_, classified_of_readFlag rfl hl fun ks => rfl⟩
  · exact ⟨_, classified_of_readFlag rfl hl fun ks => rfl⟩
  · obtain ⟨hc, hmore⟩ := List.forall_mem_cons.mp hall
    cases more with
    | nil =>
      rcases eq_or_eq_of_isCountLetter hc with rfl | rfl
      · exact ⟨_, classified_of_readFlag rfl hl fun ks => rfl⟩
      · exact ⟨_, classified_of_readFlag rfl hl fun ks => rfl⟩
    | cons d others =>
      have hhyphen : c ≠ '-' := by
        rcases eq_or_eq_of_isCountLetter hc with rfl | rfl <;> decide
      refine ⟨_, classified_of_readFlag (classify_letters hc hmore) hl fun ks => ?_⟩
      rw [hself]
      exact readFlag_letters (List.cons_ne_nil _ _) hhyphen hmore ks
  · exact absurd hnone hl

theorem exists_classified {t : Text} (h : IsMovable t) : ∃ k, Classified t k := by
  cases h with
  | counting h => exact exists_classified_counting h
  | word h => exact ⟨_, classified_word h⟩
  | name h => exact ⟨_, classified_settingName h⟩
  | assigned h value => exact exists_classified_assigned h value

/-! ## 3. Reading -/

/-- The arguments that are no counted flags. -/
def othersOf (front : List Text) : List Text := front.filter fun t => !isCounting t

/-- The separator with what is behind it, if there is one. -/
def tailOf : Option (List Text) → List Text
  | none => []
  | some tail => separatorText :: tail

/-- The separator is no argument in front of itself. -/
theorem Classified.ne_separator {t : Text} {k : Token} (h : Classified t k) :
    t ≠ ['-', '-'] := by
  rintro rfl
  have hambiguous : (CommandLine.classify globals ['-', '-']).isOk = false := by decide +kernel
  rw [h.classify] at hambiguous
  cases hambiguous

theorem Classified.extrasOf_cons {t : Text} {k : Token} (h : Classified t k) (ks : List Token) :
    extrasOf (k :: ks) = if isCounting t then extrasOf ks else t :: extrasOf ks := by
  unfold extrasOf
  rw [List.filter_cons, h.isFlag, ← text_of_classify h.classify]
  cases isCounting k.text <;> rfl

/-- The tokens of arguments that may be moved, and of whatever is behind the separator. -/
theorem exists_tokens {front : List Text} (h : ∀ t ∈ front, IsMovable t)
    (tail : Option (List Text)) :
    ∃ ks, tokens globals (front ++ tailOf tail) = .ok ks ∧ (∀ k ∈ ks, k.IsLone globals) ∧
      ks.flatMap (Token.givenAlone globals) = (front.flatMap lettersOf).map noteOf ∧
      extrasOf ks = othersOf front ++ tailOf tail := by
  induction front with
  | nil =>
    cases tail with
    | none => exact ⟨[], rfl, nofun, rfl, rfl⟩
    | some tail =>
      have hoperand : ∀ k ∈ tail.map Token.operand, k.isFlag = false :=
        List.forall_mem_map.mpr fun _ _ => rfl
      refine ⟨.separator :: tail.map .operand, rfl, ?_, ?_, ?_⟩
      · exact List.forall_mem_cons.mpr ⟨trivial, List.forall_mem_map.mpr fun _ _ => trivial⟩
      · exact givenAlone_of_not_isFlag (List.forall_mem_cons.mpr ⟨rfl, hoperand⟩)
      · rw [extrasOf_of_not_isFlag (List.forall_mem_cons.mpr ⟨rfl, hoperand⟩), List.map_cons,
          List.map_map]
        exact congrArg (separatorText :: ·) (List.map_id tail)
  | cons t rest ih =>
    obtain ⟨ht, hrest⟩ := List.forall_mem_cons.mp h
    obtain ⟨k, hk⟩ := exists_classified ht
    obtain ⟨ks, htokens, hlone, hgiven, hextras⟩ := ih hrest
    refine ⟨k :: ks, ?_, List.forall_mem_cons.mpr ⟨hk.isLone, hlone⟩, ?_, ?_⟩
    · rw [List.cons_append, tokens, if_neg hk.ne_separator, hk.classify, htokens]
      rfl
    · rw [List.flatMap_cons, List.flatMap_cons, List.map_append, hk.given, hgiven]
    · rw [hk.extrasOf_cons, hextras, othersOf, othersOf, List.filter_cons]
      cases isCounting t <;> rfl

/-- Letters are counted by what is noted for them. -/
theorem count_noteOf {letters : Text} (h : ∀ c ∈ letters, isCountLetter c = true) (r : Reading)
    (hr : r.given = letters.map noteOf) :
    r.count verboseFlag.key = letters.count 'v' ∧ r.count quietFlag.key = letters.count 'Q' ∧
      r.all showFlag.key = [] := by
  unfold Reading.count Reading.all
  rw [hr]
  clear hr
  induction letters with
  | nil => exact ⟨rfl, rfl, rfl⟩
  | cons c rest ih =>
    obtain ⟨hc, hrest⟩ := List.forall_mem_cons.mp h
    obtain ⟨hverbose, hquiet, hshow⟩ := ih hrest
    rcases eq_or_eq_of_isCountLetter hc with rfl | rfl
    · rw [List.count_cons_self, List.count_cons_of_ne (by decide)]
      exact ⟨congrArg (· + 1) hverbose, hquiet, hshow⟩
    · rw [List.count_cons_self, List.count_cons_of_ne (by decide)]
      exact ⟨hverbose, congrArg (· + 1) hquiet, hshow⟩

/-- The counted flags are taken from wherever they stand. -/
theorem read_of_isMovable {front : List Text} (h : ∀ t ∈ front, IsMovable t)
    (tail : Option (List Text)) :
    Globals.read (front ++ tailOf tail) =
      .ok ({ verbose := (front.flatMap lettersOf).count 'v'
             quiet := (front.flatMap lettersOf).count 'Q'
             channels := none },
        othersOf front ++ tailOf tail) := by
  obtain ⟨ks, htokens, hlone, hgiven, hextras⟩ := exists_tokens h tail
  have htake := readTokens_of_isLone hlone (Nat.lt_succ_self _)
  rw [hgiven, hextras] at htake
  have hread : CommandLine.read globals (front ++ tailOf tail) = .ok
      { given := (front.flatMap lettersOf).map noteOf
        extras := othersOf front ++ tailOf tail } := by
    unfold CommandLine.read
    simp only [htokens, Except.mapError, bind, Except.bind]
    rw [show globals.places = [] from rfl, htake]
    rfl
  have hletters : ∀ c ∈ front.flatMap lettersOf, isCountLetter c = true := by
    intro c hc
    obtain ⟨t, _, ht⟩ := List.mem_flatMap.mp hc
    exact isCountLetter_of_mem_lettersOf ht
  unfold Globals.read
  rw [hread]
  obtain ⟨hverbose, hquiet, hshow⟩ := count_noteOf hletters
    { given := (front.flatMap lettersOf).map noteOf
      extras := othersOf front ++ tailOf tail } rfl
  simp only [bind, Except.bind, hverbose, hquiet, hshow]
  rfl

/-! ## 4. Runs -/

/-- The verbosity that arguments ask for. -/
def verbosityOf (front : List Text) : Int :=
  ((front.flatMap lettersOf).count 'v' : Int) - (front.flatMap lettersOf).count 'Q'

theorem verbosityOf_of_perm {front front' : List Text} (h : front'.Perm front) :
    verbosityOf front' = verbosityOf front := by
  have hletters := h.flatMap_right lettersOf
  unfold verbosityOf
  rw [hletters.count_eq, hletters.count_eq]

/-- A run is the run of the other arguments, under the verbosity that the flags ask for. -/
theorem run_eq_runRest [CharacterNames] (w : World) (d : Diagnostics) (interrupted : Bool)
    {front : List Text} (h : ∀ t ∈ front, IsMovable t) (tail : Option (List Text)) :
    run w d interrupted (front ++ tailOf tail) =
      runRest w { verbosity := verbosityOf front } interrupted (othersOf front ++ tailOf tail) := by
  unfold run
  rw [read_of_isMovable h tail]
  rfl

/-- What a run comes to does not depend on the diagnostics. -/
theorem outcome_runRest [CharacterNames] (w : World) (d e : Diagnostics) (interrupted : Bool)
    (args : List Text) :
    (runRest w d interrupted args).outcome = (runRest w e interrupted args).outcome := by
  have hcommand : ∀ work : Working Verdict,
      (runCommand d work).outcome = (runCommand e work).outcome := by
    intro work
    unfold runCommand
    dsimp only
    split <;> rfl
  have hrequest : ∀ request,
      (runRequest w d interrupted request).outcome =
        (runRequest w e interrupted request).outcome := by
    intro request
    cases request with
    | help text => rfl
    | version => rfl
    | check source => exact hcommand _
    | judge source level module message => exact hcommand _
  unfold runRest
  split
  · exact hrequest _
  · split
    · exact hrequest _
    · rfl

/-- **Counted flags may stand anywhere.** Among words and the flags about settings, in front of the
separator, wherever it is, the counted flags are what is read, each letter once; all other arguments
are left over in their order, and so are the separator and what is behind it. So the run is the same
when these flags are moved, and when others with the same difference take their place; what the run
comes to is the same whatever flags there are. No run comes upon a notice that it cannot write. -/
theorem run_of_isMovable [CharacterNames] (w : World) (d : Diagnostics) (interrupted : Bool)
    {front : List Text} (h : ∀ t ∈ front, IsMovable t) (tail : Option (List Text)) :
    Globals.read (front ++ tailOf tail) =
      .ok ({ verbose := (front.flatMap lettersOf).count 'v'
             quiet := (front.flatMap lettersOf).count 'Q'
             channels := none }, othersOf front ++ tailOf tail) ∧
    (run w d interrupted (front ++ tailOf tail)).unwritten = none ∧
    ∀ front', (∀ t ∈ front', IsMovable t) → othersOf front' = othersOf front →
      (run w d interrupted (front' ++ tailOf tail)).outcome =
        (run w d interrupted (front ++ tailOf tail)).outcome ∧
      (front'.Perm front ∨ verbosityOf front' = verbosityOf front →
        run w d interrupted (front' ++ tailOf tail) =
          run w d interrupted (front ++ tailOf tail)) := by
  refine ⟨read_of_isMovable h tail, run_unwritten .., ?_⟩
  intro front' h' hothers
  rw [run_eq_runRest w d interrupted h' tail, run_eq_runRest w d interrupted h tail, hothers]
  refine ⟨outcome_runRest .., ?_⟩
  intro hsame
  have hverbosity : verbosityOf front' = verbosityOf front := by
    rcases hsame with hperm | heq
    · exact verbosityOf_of_perm hperm
    · exact heq
  rw [hverbosity]

attribute [local instance] CharacterNames.common

/-- **Flags on both sides of a check.** Three times louder and once quieter, the name of the command
in front of the letters and behind them. -/
theorem run_of_isMovable_check :
    let front : List Text := ["-vQv", "check", "--strategy=regex", "--verbose"]
    let front' : List Text := ["check", "-vvv", "--strategy=regex", "--quiet"]
    let tail : Option (List Text) := some ["info,-v"]
    Globals.read (front ++ tailOf tail) =
      .ok ({ verbose := 3, quiet := 1, channels := none },
        ["check", "--strategy=regex", "--", "info,-v"]) ∧
    run {} {} false (front' ++ tailOf tail) = run {} {} false (front ++ tailOf tail) := by
  intro front front' tail
  have hcounting : ∀ t : Text, isCounting t = true → IsMovable t := fun _ => .counting
  have hcheck : IsMovable "check".toList := .word (by decide)
  have hstrategy : IsMovable "--strategy=regex".toList :=
    .assigned (t := strategyFlag.key) (by decide) "regex".toList
  have h : ∀ t ∈ front, IsMovable t := by
    refine List.forall_mem_cons.mpr ⟨hcounting _ rfl, List.forall_mem_cons.mpr ⟨hcheck, ?_⟩⟩
    exact List.forall_mem_cons.mpr ⟨hstrategy, List.forall_mem_singleton.mpr (hcounting _ rfl)⟩
  have h' : ∀ t ∈ front', IsMovable t := by
    refine List.forall_mem_cons.mpr ⟨hcheck, List.forall_mem_cons.mpr ⟨hcounting _ rfl, ?_⟩⟩
    exact List.forall_mem_cons.mpr ⟨hstrategy, List.forall_mem_singleton.mpr (hcounting _ rfl)⟩
  obtain ⟨hread, _, hmoved⟩ := run_of_isMovable {} {} false h tail
  have hothers : othersOf front = ["check".toList, "--strategy=regex".toList] := by decide +kernel
  have hothers' : othersOf front' = othersOf front := by decide +kernel
  have hletters : front.flatMap lettersOf = "vQvv".toList := by decide +kernel
  have hverbosity : verbosityOf front' = verbosityOf front := by decide +kernel
  rw [hothers, hletters] at hread
  exact ⟨hread, (hmoved front' h' hothers').2 (.inr hverbosity)⟩

end LogSieve.CommandLine
