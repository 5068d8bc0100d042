import LogSieve.Proofs.HandingOver
import LogSieve.Proofs.Predicting

/-!
# Messages that have no text

Arguments that do not fit a message are no fault of a record: it is then judged by the message as it
stands. The exception is a number that is of the right kind and only too large, or, for a character,
no code point. Here it is said where that happens, and what becomes of the record.

* `Format.Overflows`: a step fails because of such a number;
* `Format.Exceeds`, `Format.Conversion.Exceeds`: the arguments for which a conversion does;
* `Format.overflows_fill_iff`: a format overflows exactly when such a conversion is reached;
* `Sieve.Answers`, `Sieve.Fails`: what becomes of a record behind a sieve;
* `Sieve.judged_unless_isUnwritable`: which of them it is.
-/

namespace LogSieve

namespace Format

/-! ## 1. Steps that overflow -/

/-- The step fails because a number is too large. -/
def Overflows {α : Type} (step : Except MessageFault α) : Prop :=
  ∃ fault, step = .error fault ∧ fault.isOverflow = true

section Steps

variable {α β : Type}

@[simp] theorem not_overflows_ok (x : α) : ¬ Overflows (.ok x : Except MessageFault α) := by
  rintro ⟨_, h, _⟩
  cases h

@[simp] theorem overflows_error_iff (fault : MessageFault) :
    Overflows (.error fault : Except MessageFault α) ↔ fault.isOverflow = true := by
  constructor
  · rintro ⟨_, h, ho⟩
    cases h
    exact ho
  · exact fun h => ⟨fault, rfl, h⟩

theorem not_overflows_error {fault : MessageFault} (h : fault.isOverflow = false) :
    ¬ Overflows (.error fault : Except MessageFault α) := by
  rw [overflows_error_iff, h]
  exact Bool.false_ne_true

/-- A check that ends in such a fault overflows where it does not hold. -/
theorem overflows_check_iff {p : Prop} [Decidable p] {fault : MessageFault}
    (hf : fault.isOverflow = true) (x : α) :
    Overflows (if p then .error fault else .ok x) ↔ p := by
  split
  · rename_i h
    exact iff_of_true ((overflows_error_iff fault).mpr hf) h
  · rename_i h
    exact iff_of_false (not_overflows_ok x) h

/-- Steps overflow where the first one does, or where it is done and the next one does. -/
theorem overflows_bind_iff (step : Except MessageFault α) (next : α → Except MessageFault β) :
    Overflows (step >>= next) ↔ Overflows step ∨ ∃ x, step = .ok x ∧ Overflows (next x) := by
  cases step with
  | error fault =>
    refine (overflows_error_iff fault).trans ?_
    simp
  | ok x =>
    show Overflows (next x) ↔ _
    simp

end Steps

/-! ## 2. One value -/

/-- The letters of the conversions of integers in base ten. -/
def decimalLetters : List Char := ['d', 'i', 'u']

/-- The letters of the conversions of integers. -/
def integerLetters : List Char := decimalLetters ++ ['o', 'x', 'X']

/-- The letters of the conversions of doubles. -/
def doubleLetters : List Char := ['e', 'E', 'f', 'F', 'g', 'G']

/-- The value is a number for the conversion of a letter, but not one that it can write. -/
inductive Exceeds (v : Value) (letter : Char) (precision : Option Nat) : Prop where
  /-- There is no character of the number. -/
  | character {z : Int} (hl : letter = 'c') (hz : v.asInt? = some z) (h : z < 0 ∨ 0x110000 ≤ z)
  /-- There is no integer part of an infinity. -/
  | infinity {negative : Bool} (hl : letter ∈ decimalLetters)
      (hv : v = .float (.infinity negative))
  /-- The integer is asked for with too many places. -/
  | places {z : Int} {n : Nat} (hl : letter ∈ integerLetters) (hz : integerOf letter v = .ok z)
      (hn : precision = some n) (h : integerPlacesLimit < n)
  /-- No finite double is near the integer. -/
  | double {z : Int} (hl : letter ∈ doubleLetters) (hz : v.asInt? = some z)
      (h : Double.ofInt? z = none)

theorem overflows_characterOf_iff (v : Value) :
    Overflows (characterOf v) ↔ ∃ z, v.asInt? = some z ∧ (z < 0 ∨ 0x110000 ≤ z) := by
  unfold characterOf
  split
  · exact iff_of_false (not_overflows_ok _) (by rintro ⟨_, h, _⟩; cases h)
  · exact iff_of_false (by simp [MessageFault.isOverflow]) (by rintro ⟨_, h, _⟩; cases h)
  · cases hv : v.asInt? with
    | none => exact iff_of_false (by simp [MessageFault.isOverflow]) (by rintro ⟨_, h, _⟩; cases h)
    | some z =>
      dsimp only
      rw [overflows_check_iff rfl, Bool.or_eq_true, decide_eq_true_eq, decide_eq_true_eq]
      refine ⟨fun h => ⟨z, rfl, h⟩, ?_⟩
      rintro ⟨_, hz, h⟩
      cases hz
      exact h

theorem overflows_integerOf_iff (letter : Char) (v : Value) :
    Overflows (integerOf letter v) ↔
      integerBase letter = 10 ∧ ∃ negative, v = .float (.infinity negative) := by
  unfold integerOf
  split
  · rename_i d
    by_cases hb : integerBase letter = 10
    · rw [if_pos hb]
      cases d <;> simp [hb, MessageFault.isOverflow]
    · rw [if_neg hb]
      simp [hb, MessageFault.isOverflow]
  · rename_i hfloat
    refine iff_of_false ?_ fun ⟨_, _, hv⟩ => hfloat _ hv
    split
    · exact not_overflows_ok _
    · split <;> simp [MessageFault.isOverflow]

theorem overflows_doubleOf_iff (v : Value) :
    Overflows (doubleOf v) ↔ ∃ z, v.asInt? = some z ∧ Double.ofInt? z = none := by
  unfold doubleOf
  split
  · exact iff_of_false (not_overflows_ok _) (by rintro ⟨_, h, _⟩; cases h)
  · cases hv : v.asInt? with
    | none => simp [MessageFault.isOverflow]
    | some z => cases hd : Double.ofInt? z <;> simp [hd, MessageFault.isOverflow]

theorem overflows_writeInteger_iff (s : Setting) (letter : Char) (z : Int) :
    Overflows (writeInteger s letter z) ↔ ∃ n, s.precision = some n ∧ integerPlacesLimit < n := by
  have hplaces : integerPlacesLimit < s.precision.getD 0 ↔
      ∃ n, s.precision = some n ∧ integerPlacesLimit < n := by
    cases s.precision <;> simp
  rw [← hplaces]
  unfold writeInteger
  split
  · rename_i h
    exact iff_of_true ((overflows_error_iff _).mpr rfl) h
  · rename_i h
    refine iff_of_false ?_ h
    split <;> simp [MessageFault.isOverflow]

section Letters

variable {letter : Char} (s : Setting) (position : Nat) (v : Value)

theorem setValue_of_mem_integerLetters (h : letter ∈ integerLetters) :
    setValue s letter position v = integerOf letter v >>= writeInteger s letter := by
  simp only [integerLetters, decimalLetters, List.mem_append, List.mem_cons, List.not_mem_nil,
    or_false] at h
  rcases h with (rfl | rfl | rfl) | rfl | rfl | rfl <;> rfl

theorem setValue_of_mem_doubleLetters (h : letter ∈ doubleLetters) :
    setValue s letter position v = do return setDouble s letter (← doubleOf v) := by
  simp only [doubleLetters, List.mem_cons, List.not_mem_nil, or_false] at h
  rcases h with rfl | rfl | rfl | rfl | rfl | rfl <;> rfl

theorem not_overflows_printedAs (form : Value → Text) : ¬ Overflows (printedAs form v) := by
  unfold printedAs
  split <;> simp [MessageFault.isOverflow]

/-- What is written by the other letters is no number. -/
theorem not_overflows_setValue (hi : letter ∉ integerLetters) (hd : letter ∉ doubleLetters)
    (hc : letter ≠ 'c') : ¬ Overflows (setValue s letter position v) := by
  have hprinted : ∀ form, ¬ Overflows (printedAs form v >>= fun t => pure (setText s t)) := by
    intro form h
    rcases (overflows_bind_iff _ _).mp h with h | ⟨t, _, h⟩
    · exact not_overflows_printedAs v form h
    · exact not_overflows_ok _ h
  unfold setValue
  split <;> first
    | exact hprinted _
    | exact absurd (by decide) hi
    | exact absurd (by decide) hd
    | exact absurd rfl hc
    | exact not_overflows_error rfl

theorem integerBase_eq_ten_iff (h : letter ∈ integerLetters) :
    integerBase letter = 10 ↔ letter ∈ decimalLetters := by
  have hall : integerLetters.all (fun letter =>
      decide (integerBase letter = 10 ↔ letter ∈ decimalLetters)) = true := by
    decide
  exact of_decide_eq_true (List.all_eq_true.mp hall letter h)

/-- No letter stands for conversions of two kinds. -/
theorem letters_disjoint : (∀ letter ∈ integerLetters, letter ∉ doubleLetters ∧ letter ≠ 'c') ∧
    ∀ letter ∈ doubleLetters, letter ≠ 'c' := by
  have hinteger : integerLetters.all (fun letter =>
      decide (letter ∉ doubleLetters ∧ letter ≠ 'c')) = true := by
    decide
  have hdouble : doubleLetters.all (fun letter => decide (letter ≠ 'c')) = true := by
    decide
  exact ⟨fun letter h => of_decide_eq_true (List.all_eq_true.mp hinteger letter h),
    fun letter h => of_decide_eq_true (List.all_eq_true.mp hdouble letter h)⟩

/-- A letter overflows at the values that exceed it, and only there. -/
theorem overflows_setValue_iff :
    Overflows (setValue s letter position v) ↔ Exceeds v letter s.precision := by
  obtain ⟨hinteger, hdouble⟩ := letters_disjoint
  by_cases hi : letter ∈ integerLetters
  · obtain ⟨hd, hc⟩ := hinteger letter hi
    rw [setValue_of_mem_integerLetters s position v hi, overflows_bind_iff,
      overflows_integerOf_iff, integerBase_eq_ten_iff hi]
    simp only [overflows_writeInteger_iff]
    constructor
    · rintro (⟨hl, negative, hv⟩ | ⟨z, hz, n, hn, h⟩)
      · exact .infinity hl hv
      · exact .places hi hz hn h
    · rintro (⟨hl, _, _⟩ | ⟨hl, hv⟩ | ⟨_, hz, hn, h⟩ | ⟨hl, _, _⟩)
      · exact absurd hl hc
      · exact .inl ⟨hl, _, hv⟩
      · exact .inr ⟨_, hz, _, hn, h⟩
      · exact absurd hl hd
  · have hdecimal : letter ∉ decimalLetters := fun hl => hi (List.mem_append_left _ hl)
    by_cases hd : letter ∈ doubleLetters
    · have hc := hdouble letter hd
      rw [setValue_of_mem_doubleLetters s position v hd, overflows_bind_iff,
        overflows_doubleOf_iff]
      constructor
      · rintro (⟨z, hz, h⟩ | ⟨_, _, h⟩)
        · exact .double hd hz h
        · exact absurd h (not_overflows_ok _)
      · rintro (⟨hl, _, _⟩ | ⟨hl, _⟩ | ⟨hl, _, _, _⟩ | ⟨_, hz, h⟩)
        · exact absurd hl hc
        · exact absurd hl hdecimal
        · exact absurd hl hi
        · exact .inl ⟨_, hz, h⟩
    · by_cases hc : letter = 'c'
      · subst hc
        show Overflows (characterOf v >>= fun c => _) ↔ _
        rw [overflows_bind_iff, overflows_characterOf_iff]
        constructor
        · rintro (⟨z, hz, h⟩ | ⟨_, _, h⟩)
          · exact .character rfl hz h
          · exact absurd h (not_overflows_ok _)
        · rintro (⟨_, hz, h⟩ | ⟨hl, _⟩ | ⟨hl, _, _, _⟩ | ⟨hl, _, _⟩)
          · exact .inl ⟨_, hz, h⟩
          · exact absurd hl hdecimal
          · exact absurd hl hi
          · exact absurd hl hd
      · refine iff_of_false (not_overflows_setValue s position v hi hd hc) ?_
        rintro (⟨hl, _, _⟩ | ⟨hl, _⟩ | ⟨hl, _, _, _⟩ | ⟨hl, _, _⟩)
        · exact hc hl
        · exact hdecimal hl
        · exact hi hl
        · exact hd hl

end Letters

/-! ## 3. One conversion -/

/-- A star takes an integer that is larger, or smaller, than the limit allows. -/
def StarExceeds (limit : Nat) (amount : Option Amount) (a : Arguments) : Prop :=
  amount = some .star ∧ ∃ z b, starAmount a = .ok (z, b) ∧ (z < -(limit + 1) ∨ (limit : Int) < z)

theorem not_overflows_starAmount (a : Arguments) : ¬ Overflows (starAmount a) := by
  rcases a with ⟨_ | ⟨v, rest⟩, keyed⟩
  · exact not_overflows_error rfl
  · unfold starAmount
    dsimp only [Arguments.take, bind, Except.bind]
    cases v.asInt? with
    | none => exact not_overflows_error rfl
    | some z => exact not_overflows_ok _

/-- An amount taken by a star overflows where it is beyond its limit. -/
theorem overflows_starAmount_bind_iff {α : Type} {limit : Nat} {fault : MessageFault}
    (hf : fault.isOverflow = true) (a : Arguments) (next : Int × Arguments → α) :
    Overflows (starAmount a >>= fun x =>
        if x.1 < -(limit + 1) || (limit : Int) < x.1 then .error fault else .ok (next x)) ↔
      StarExceeds limit (some .star) a := by
  rw [overflows_bind_iff, or_iff_right (not_overflows_starAmount a)]
  simp only [overflows_check_iff hf, Bool.or_eq_true, decide_eq_true_eq]
  constructor
  · rintro ⟨⟨z, b⟩, hz, h⟩
    exact ⟨rfl, z, b, hz, h⟩
  · rintro ⟨_, z, b, hz, h⟩
    exact ⟨(z, b), hz, h⟩

theorem overflows_widthOf_iff (amount : Option Amount) (a : Arguments) :
    Overflows (widthOf amount a) ↔ StarExceeds widthLimit amount a := by
  rcases amount with _ | n | _ | _
  · exact iff_of_false (not_overflows_ok _) (fun h => nomatch h.1)
  · exact iff_of_false (not_overflows_ok _) (fun h => nomatch h.1)
  · exact overflows_starAmount_bind_iff rfl a _
  · exact iff_of_false (not_overflows_error rfl) (fun h => nomatch h.1)

theorem overflows_precisionOf_iff (amount : Option Amount) (a : Arguments) :
    Overflows (precisionOf amount a) ↔ StarExceeds placesLimit amount a := by
  rcases amount with _ | n | _ | _
  · exact iff_of_false (not_overflows_ok _) (fun h => nomatch h.1)
  · exact iff_of_false (not_overflows_ok _) (fun h => nomatch h.1)
  · exact overflows_starAmount_bind_iff rfl a _
  · exact iff_of_false (not_overflows_error rfl) (fun h => nomatch h.1)

/-- The arguments that are left for a conversion once its key has been looked up. -/
def Conversion.lookUp (conv : Conversion) (a : Arguments) : Except MessageFault Arguments :=
  match conv.key with
  | none => .ok a
  | some key => a.choose key

/-- A conversion meets a number that it cannot write, or cannot take for an amount. -/
inductive Conversion.Exceeds (conv : Conversion) (a : Arguments) : Prop where
  | width {b : Arguments} (hkey : conv.lookUp a = .ok b)
      (h : StarExceeds widthLimit conv.width b)
  | precision {b c : Arguments} {width : Int} (hkey : conv.lookUp a = .ok b)
      (hwidth : widthOf conv.width b = .ok (width, c))
      (h : StarExceeds placesLimit conv.precision c)
  | value {b c d e : Arguments} {width : Int} {precision : Option Nat} {letter : Char}
      {position : Nat} {v : Value} (hkey : conv.lookUp a = .ok b)
      (hwidth : widthOf conv.width b = .ok (width, c))
      (hprecision : precisionOf conv.precision c = .ok (precision, d))
      (hletter : conv.letter = some (letter, position)) (hv : d.take = .ok (v, e))
      (h : Format.Exceeds v letter precision)

theorem not_overflows_lookUp (conv : Conversion) (a : Arguments) :
    ¬ Overflows (conv.lookUp a) := by
  unfold Conversion.lookUp
  cases conv.key with
  | none => exact not_overflows_ok a
  | some key =>
    dsimp only [Arguments.choose]
    split
    · exact not_overflows_error rfl
    · exact not_overflows_error rfl
    · split
      · exact not_overflows_ok _
      · exact not_overflows_error rfl
    · exact not_overflows_error rfl

theorem not_overflows_take (a : Arguments) : ¬ Overflows a.take := by
  rcases a with ⟨_ | ⟨v, rest⟩, keyed⟩
  · exact not_overflows_error rfl
  · exact not_overflows_ok _

/-- A conversion overflows at the arguments that exceed it, and only there. -/
theorem overflows_convert_iff (conv : Conversion) (a : Arguments) :
    Overflows (convert conv a) ↔ conv.Exceeds a := by
  -- with the key out of the way the rest is one line of steps, none but three of which overflow
  rw [show convert conv a = conv.lookUp a >>= convert { conv with key := none } from
    convert_eq_bind conv a]
  unfold convert
  simp only [pure_bind, overflows_bind_iff, not_overflows_lookUp, overflows_widthOf_iff,
    overflows_precisionOf_iff, false_or]
  cases hl : conv.letter with
  | none =>
    constructor
    · rintro ⟨b, hkey, h | ⟨⟨width, c⟩, hwidth, h | ⟨_, _, h⟩⟩⟩
      · exact .width hkey h
      · exact .precision hkey hwidth h
      · exact absurd h (not_overflows_error rfl)
    · rintro (⟨hkey, h⟩ | ⟨hkey, hwidth, h⟩ | ⟨_, _, _, hletter, _, _⟩)
      · exact ⟨_, hkey, .inl h⟩
      · exact ⟨_, hkey, .inr ⟨_, hwidth, .inl h⟩⟩
      · cases hl.symm.trans hletter
  | some at_ =>
    obtain ⟨letter, position⟩ := at_
    have hcheck : ∀ (b : Arguments) (t : Text), ¬ Overflows (if b.keyed.isSome && !b.left.isEmpty
        then .error .unusedArguments else .ok (t, b)) := by
      intro b t
      split
      · exact not_overflows_error rfl
      · exact not_overflows_ok _
    simp only [overflows_bind_iff, not_overflows_take, overflows_setValue_iff, false_or]
    constructor
    · rintro ⟨b, hkey, h | ⟨⟨width, c⟩, hwidth, h | ⟨⟨precision, d⟩, hprecision, ⟨v, e⟩, hv,
        h | ⟨t, _, h⟩⟩⟩⟩
      · exact .width hkey h
      · exact .precision hkey hwidth h
      · exact .value hkey hwidth hprecision hl hv h
      · exact absurd h (hcheck e t)
    · rintro (⟨hkey, h⟩ | ⟨hkey, hwidth, h⟩ | ⟨hkey, hwidth, hprecision, hletter, hv, h⟩)
      · exact ⟨_, hkey, .inl h⟩
      · exact ⟨_, hkey, .inr ⟨_, hwidth, .inl h⟩⟩
      · cases hl.symm.trans hletter
        exact ⟨_, hkey, .inr ⟨_, hwidth, .inr ⟨_, hprecision, _, hv, .inl h⟩⟩⟩

/-! ## 4. Whole formats -/

/-- The pieces are filled one after the other, from some arguments to those that are left. -/
inductive Reaches : Arguments → List Piece → Arguments → Prop where
  | here (a : Arguments) : Reaches a [] a
  | plain {a b : Arguments} {c : Char} {pieces : List Piece} (h : Reaches a pieces b) :
      Reaches a (.plain c :: pieces) b
  | conversion {a b c : Arguments} {conv : Conversion} {t : Text} {pieces : List Piece}
      (hconv : convert conv a = .ok (t, b)) (h : Reaches b pieces c) :
      Reaches a (.conversion conv :: pieces) c

/-- Some conversion is reached that meets a number too large for it. -/
def ExceedsIn (a : Arguments) (pieces : List Piece) : Prop :=
  ∃ before conv after b, pieces = before ++ .conversion conv :: after ∧ Reaches a before b ∧
    conv.Exceeds b

theorem overflows_fillPieces_iff (a : Arguments) (pieces : List Piece) :
    Overflows (fillPieces a pieces) ↔ ExceedsIn a pieces := by
  induction pieces generalizing a with
  | nil =>
    refine iff_of_false ?_ ?_
    · rw [fillPieces]
      split
      · exact not_overflows_error rfl
      · exact not_overflows_ok _
    · rintro ⟨before, conv, after, b, h, _⟩
      cases before <;> cases h
  | cons piece rest ih =>
    cases piece with
    | plain c =>
      rw [fillPieces, overflows_bind_iff, ih]
      constructor
      · rintro (⟨before, conv, after, b, rfl, hb, h⟩ | ⟨_, _, h⟩)
        · exact ⟨.plain c :: before, conv, after, b, rfl, hb.plain, h⟩
        · exact absurd h (not_overflows_ok _)
      · rintro ⟨_ | ⟨_, before⟩, conv, after, b, he, hb, h⟩
        · cases he
        · cases he
          cases hb with
          | plain hb => exact .inl ⟨before, conv, after, b, rfl, hb, h⟩
    | conversion conv =>
      rw [fillPieces, overflows_bind_iff, overflows_convert_iff]
      simp only [overflows_bind_iff, ih]
      constructor
      · rintro (h | ⟨⟨t, b⟩, hconv, ⟨before, conv', after, c, rfl, hc, h⟩ | ⟨_, _, h⟩⟩)
        · exact ⟨[], conv, rest, a, rfl, .here a, h⟩
        · exact ⟨.conversion conv :: before, conv', after, c, rfl, .conversion hconv hc, h⟩
        · exact absurd h (not_overflows_ok _)
      · rintro ⟨_ | ⟨_, before⟩, conv', after, b, he, hb, h⟩
        · cases he
          cases hb
          exact .inl h
        · cases he
          cases hb with
          | conversion hconv hb =>
            exact .inr ⟨_, hconv, .inl ⟨before, conv', after, b, rfl, hb, h⟩⟩

/-- A format overflows exactly when a conversion is reached whose arguments exceed it. -/
theorem overflows_fill_iff (format : Text) (args : Args) :
    Overflows (fill format args) ↔ ExceedsIn (.ofArgs args) (piecesOf format) :=
  overflows_fillPieces_iff _ _

end Format

/-! ## 5. Records -/

namespace Record

variable {r : Record}

/-- The message has arguments, and one of them is a number too large for its conversion. -/
def IsUnwritable (r : Record) : Prop :=
  r.args.areGiven = true ∧ Format.ExceedsIn (.ofArgs r.args) (Format.piecesOf r.msg.display)

/-- The message with its arguments filled in, if there are any and they fit, and else as it stands.
-/
def textOrFormat (r : Record) : Text :=
  if r.args.areGiven then
    match Format.fill r.msg.display r.args with
    | .ok t => t
    | .error _ => r.msg.display
  else r.msg.display

theorem render_of_not_isUnwritable (hp : r.msg.isPrintable = true) (h : ¬ r.IsUnwritable) :
    r.render = .ok r.textOrFormat := by
  rw [render_of_isPrintable hp]
  unfold textOrFormat
  by_cases hg : r.args.areGiven = true
  · rw [if_pos hg, if_pos hg]
    have hfits : ¬ Format.Overflows (Format.fill r.msg.display r.args) := fun ho =>
      h ⟨hg, (Format.overflows_fill_iff _ _).mp ho⟩
    cases hf : Format.fill r.msg.display r.args with
    | ok t => rfl
    | error fault =>
      rw [hf, Format.overflows_error_iff] at hfits
      exact if_neg hfits
  · rw [if_neg hg, if_neg hg]

theorem render_of_isUnwritable (hp : r.msg.isPrintable = true) (h : r.IsUnwritable) :
    ∃ fault, fault.isOverflow = true ∧ Format.fill r.msg.display r.args = .error fault ∧
      r.render = .error fault := by
  obtain ⟨fault, hf, ho⟩ := (Format.overflows_fill_iff _ _).mpr h.2
  refine ⟨fault, ho, hf, ?_⟩
  rw [render_of_isPrintable hp, if_pos h.1, hf]
  exact if_pos ho

end Record

/-! ## 6. Sieves -/

namespace Sieve

/-- Asked whether the text of the record passes, the sieve gives this answer, from every desk, and
changes nothing. -/
def Answers (s : Sieve) (r : Record) (answer : Except LogFault Bool) : Prop :=
  ∀ (desk : Desk) (store : Store), store.IsClean →
    (s.admitsAt desk r store).1 = answer ∧ (s.admitsAt desk r store).2.IsClean ∧
      (s.admitsAt desk r store).2.toOutlets = store.toOutlets

/-- Logging the record fails before the drain behind the sieve, whichever it is, is asked. -/
def Fails (s : Sieve) (r : Record) (fault : LogFault) : Prop :=
  ∀ (σ : Type) (drain : Record → Action σ LogFault Value) (thread : Nat) (desks : Desks) (state : σ),
    desks.AreClear → Simulates ((s.logger drain).log thread r (desks, state)) (.error fault, state)

variable {s : Sieve} {r : Record}

theorem answers_admits (s : Sieve) (r : Record) :
    s.Answers r ((s.admits r).mapError .unwritable) := by
  intro desk store hc
  obtain ⟨hclear, hsame⟩ := Judge.simulates_admits (hc desk.logger) (s.judge Store) desk.thread r
    store
  rw [admitsUnbuffered_judge] at hsame
  unfold admitsAt Store.atDesks
  generalize (s.judge Store).admits desk.thread r (store.desksOf desk.logger, store) = done
    at hclear hsame ⊢
  obtain ⟨answer, desks, left⟩ := done
  cases hsame
  exact ⟨rfl, Store.isClean_putDesks hc desk.logger hclear, rfl⟩

theorem fails_of_passes {fault : Format.MessageFault} (h : s.passes r = .error fault) :
    s.Fails r (.unwritable fault) := by
  intro σ drain thread desks state hc
  have hl := (s.logger drain).simulates_log hc thread r state
  rw [logUnbuffered_logger, h] at hl
  exact hl

/-- **A message without its text is judged as it stands, unless a number is too large for it.** With
a filter, and whatever the arguments are: when no conversion is reached that meets a number it
cannot write, the record has a text, which is the message filled with its arguments if they fit and
the bare message if not; the filter judges that text, and logging hands the record on or drops it
and does nothing else. When one is reached, there is no text: asking the filter fails, and so does
logging, before the drain is asked, if the levels let the record pass. -/
theorem judged_unless_isUnwritable (ds : List Directive) (f : Filter) {r : Record} {t : Text}
    (hm : r.msg = .text t) :
    let s : Sieve := ⟨ds, some f⟩
    (¬ r.IsUnwritable →
      r.render = .ok r.textOrFormat ∧ s.Answers r (.ok (f.admits r.textOrFormat)) ∧
      (s.Forwards r ∨ s.Drops r) ∧
      (s.Forwards r ↔ s.enables r.level r.module = true ∧ f.admits r.textOrFormat = true)) ∧
    (r.IsUnwritable →
      ∃ fault, fault.isOverflow = true ∧ Format.fill t r.args = .error fault ∧
        r.render = .error fault ∧ s.Answers r (.error (.unwritable fault)) ∧
        (s.enables r.level r.module = true → s.Fails r (.unwritable fault)) ∧
        (¬ s.enables r.level r.module = true → s.DropsUnread r)) := by
  intro s
  have hadmits : s.admits r = r.render.map f.admits := rfl
  have hp : r.msg.isPrintable = true := by
    rw [hm]
    rfl
  have hanswers := s.answers_admits r
  constructor
  · intro h
    have hrender := Record.render_of_not_isUnwritable hp h
    rw [hrender] at hadmits
    rw [hadmits] at hanswers
    have hpasses : s.passes r =
        .ok (s.enables r.level r.module && f.admits r.textOrFormat) := by
      rw [passes, hadmits]
      cases s.enables r.level r.module <;> rfl
    obtain ⟨hforwards, hdrops⟩ := forwards_or_drops_of_passes hpasses
    refine ⟨hrender, hanswers, ?_, ?_⟩
    · rw [hforwards, hdrops]
      exact (Bool.eq_false_or_eq_true _)
    · rw [hforwards, Bool.and_eq_true]
  · intro h
    obtain ⟨fault, ho, hfill, hrender⟩ := Record.render_of_isUnwritable hp h
    rw [hrender] at hadmits
    rw [hadmits] at hanswers
    refine ⟨fault, ho, ?_, hrender, hanswers, ?_, ?_⟩
    · rw [hm] at hfill
      exact hfill
    · intro he
      refine fails_of_passes ?_
      rw [passes, if_pos he, hadmits]
      rfl
    · intro he
      exact s.dropsUnread_iff.mpr he

/-- A number is asked for and a text is given: the record is judged by `%d rows`, and handed on. -/
theorem judged_unless_isUnwritable_misfit :
    let s : Sieve := ⟨[⟨none, .info⟩], some (.substring "rows")⟩
    let r : Record :=
      { level := .info, module := "m", msg := .text "%d rows", args := .tuple [.text "x"] }
    r.msg = .text "%d rows" ∧ ¬ r.IsUnwritable ∧ r.render = .ok "%d rows" ∧
      s.Answers r (.ok true) ∧ s.Forwards r := by
  intro s r
  have hpieces : Format.piecesOf "%d rows" =
      .conversion { letter := some ('d', 1) } :: (" rows" : Text).map .plain := by
    decide +kernel
  have hfill : Format.fill r.msg.display r.args = .error (.wantsNumber 'd' "str") := by
    show Format.fill "%d rows" (.tuple [.text "x"]) = _
    rw [Format.fill, hpieces]
    rfl
  have hfits : ¬ r.IsUnwritable := by
    rintro ⟨_, h⟩
    obtain ⟨fault, hf, ho⟩ := (Format.overflows_fill_iff _ _).mpr h
    cases hfill.symm.trans hf
    cases ho
  have htext : r.textOrFormat = "%d rows" := by
    rw [Record.textOrFormat, if_pos (show r.args.areGiven = true from rfl), hfill]
    rfl
  have hjudged :=
    (judged_unless_isUnwritable [⟨none, .info⟩] (.substring "rows") (r := r) rfl).1 hfits
  rw [htext] at hjudged
  obtain ⟨hrender, hanswers, _, hforwards⟩ := hjudged
  have hadmits : (Filter.substring "rows").admits "%d rows" = true := by decide
  rw [hadmits] at hanswers
  exact ⟨rfl, hfits, hrender, hanswers, hforwards.mpr ⟨rfl, hadmits⟩⟩

/-- A character is asked for and a number is given that is no code point: the record has no text,
asking the filter fails, and logging neither hands the record on nor drops it. -/
theorem not_judged_of_large_character :
    let s : Sieve := ⟨[⟨none, .info⟩], some (.substring "c")⟩
    let r : Record :=
      { level := .info, module := "m", msg := .text "%c", args := .tuple [.int 1114112] }
    (¬ ∃ t, r.render = .ok t) ∧ (¬ ∃ answer, s.Answers r (.ok answer)) ∧
      ¬ s.Forwards r ∧ ¬ s.Drops r ∧ s.Fails r (.unwritable .characterOutOfRange) := by
  intro s r
  have hpieces : Format.piecesOf "%c" = [.conversion { letter := some ('c', 1) }] := by
    decide +kernel
  have hfill : Format.fill r.msg.display r.args = .error .characterOutOfRange := by
    show Format.fill "%c" (.tuple [.int 1114112]) = _
    rw [Format.fill, hpieces]
    rfl
  have hrender : r.render = .error .characterOutOfRange := by
    rw [Record.render_of_isPrintable rfl, if_pos (show r.args.areGiven = true from rfl), hfill]
    rfl
  have hpasses : s.passes r = .error .characterOutOfRange := by
    rw [passes, if_pos (show s.enables r.level r.module = true from rfl)]
    show r.render.map _ = _
    rw [hrender]
    rfl
  have hfails : s.Fails r (.unwritable .characterOutOfRange) := fails_of_passes hpasses
  -- a drain that never fails shows that the failure is the sieve's own
  have hlog := (hfails Unit (fun _ u => (.ok .none, u)) 0 {} () Desks.areClear_new).same
  refine ⟨?_, ?_, ?_, ?_, hfails⟩
  · rintro ⟨t, ht⟩
    cases hrender.symm.trans ht
  · rintro ⟨answer, ha⟩
    have hasked := (s.answers_admits r ⟨0, 0⟩ {} (Store.isClean_new {})).1
    rw [show s.admits r = r.render.map _ from rfl, hrender] at hasked
    cases hasked.symm.trans (ha ⟨0, 0⟩ {} (Store.isClean_new {})).1
  · intro hf
    cases hlog.symm.trans (hf Unit (fun _ u => (.ok .none, u)) 0 {} () Desks.areClear_new).same
  · intro hd
    cases hlog.symm.trans (hd Unit (fun _ u => (.ok .none, u)) 0 {} () Desks.areClear_new).same

end Sieve

end LogSieve
