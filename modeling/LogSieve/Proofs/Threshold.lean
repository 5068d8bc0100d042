import LogSieve.Proofs.Forwarding

/-!
# The least number of a gate

A logger of the host can be set to the least number of a gate, so that entries with smaller numbers
are not made in the first place. Where the most talkative directive stands above trace, nothing is
lost by it: such a level admits exactly the numbers from its own on. Trace has a number too, 5, but
admits those below it as well; these the gate hands on and the logger suppresses.

* `Level.number_le_iff`: a number within a level against the number of the level;
* `Gate.HandsOn`: the target gets an entry, or fails on it;
* `Gate.enables_of_handsOn`: only what the levels enable is handed on;
* `Gate.lowestNumber_le_iff`: what is handed on against the least number.
-/

namespace LogSieve

/-- A number within a level is at least the level's own, unless it is below that of trace. -/
theorem Level.number_le_iff {l : Level} {n : Int} (h : ofNumber n ≤ l) : l.number ≤ n ↔ 5 ≤ n := by
  have hoff : l ≠ off := by
    rintro rfl
    exact ofNumber_ne_off n (rank_inj (Nat.le_zero.mp h))
  by_cases ht : l = trace
  · rw [ht]
    exact Iff.rfl
  · have hn : l.number ≤ n := (ofNumber_le_iff hoff ht n).mp h
    have h5 : 5 ≤ l.number := by cases l <;> decide
    exact iff_of_true hn (Int.le_trans h5 hn)

namespace Gate

variable {g : Gate} {thread : Nat} {e : Entry} {store : Store} {m : Text} {n : Int}

/-- The gate hands the entry on: the target has then seen it besides what it had seen before, or
fails on it. -/
def HandsOn (g : Gate) (thread : Nat) (e : Entry) (store : Store) : Prop :=
  (∃ t, store.targets[g.target]? = some t ∧
    (g.handle thread e store).2.targets[g.target]? = some { t with seen := t.seen ++ [e] }) ∨
  ∃ failure, (g.handle thread e store).1 = some (.log (.failed failure))

/-- When the targets stay as they are and none has failed, nothing has been handed on. -/
theorem not_handsOn_of_eq (ho : (g.handle thread e store).2.targets = store.targets)
    (hf : ∀ failure, (g.handle thread e store).1 ≠ some (.log (.failed failure))) :
    ¬ g.HandsOn thread e store := by
  rintro (⟨t, ht, hseen⟩ | ⟨failure, h⟩)
  · rw [ho, ht] at hseen
    have hlen := congrArg (fun t : Target => t.seen.length) (Option.some.inj hseen)
    dsimp only at hlen
    rw [List.length_append, List.length_singleton] at hlen
    omega
  · exact hf failure h

/-- An entry whose record the levels do not enable is dropped, whatever is on the desks. -/
theorem handle_of_not_enables (hm : e.name = .text m) (hn : e.number.asInt? = some n)
    (h : ¬ g.sieve.enables (Level.ofNumber n) m = true) :
    (g.handle thread e store).1 = none ∧
      (g.handle thread e store).2.toOutlets = store.toOutlets := by
  have hlog : g.drain.log thread (.ofEntryAt (Level.ofNumber n) m e) store =
      (.ok .none, store.putDesks g.logger (store.desksOf g.logger)) := by
    rw [drain, Drain.log, Store.atDesks, Logger.log]
    exact congrArg (fun done : Except LogFault Value × Desks × Store =>
      (done.1, done.2.2.putDesks g.logger done.2.1)) (if_neg h)
  unfold handle
  rw [Record.ofEntry_eq hm hn]
  dsimp only
  rw [hlog]
  exact ⟨rfl, rfl⟩

/-- Only entries whose name is a text, and at a level that is enabled for it, are handed on. -/
theorem enables_of_handsOn (hn : e.number.asInt? = some n)
    (h : g.HandsOn thread e store) :
    ∃ m, e.name = .text m ∧ g.sieve.enables (Level.ofNumber n) m = true := by
  by_cases hm : ∃ m, e.name = .text m
  · obtain ⟨m, hm⟩ := hm
    refine ⟨m, hm, Classical.byContradiction fun hoff => ?_⟩
    obtain ⟨hreport, hout⟩ := handle_of_not_enables hm hn hoff
    refine not_handsOn_of_eq (congrArg Outlets.targets hout) ?_ h
    intro failure hf
    rw [hreport] at hf
    cases hf
  · -- where the name is no text there is no record
    have hr : ∃ fault, Record.ofEntry e = .error (.unnamed fault) := by
      rw [Record.ofEntry, levelOfNumber_eq hn]
      cases hv : e.name with
      | text m => exact absurd ⟨m, hv⟩ hm
      | _ => exact ⟨_, rfl⟩
    obtain ⟨fault, hr⟩ := hr
    have hh : g.handle thread e store = (some (.entry (.unnamed fault)), store) := by
      rw [handle, hr]
    refine absurd h (not_handsOn_of_eq ?_ ?_)
    · rw [hh]
    · intro failure hf
      rw [hh] at hf
      cases hf

/-- **What a logger suppresses that is set to the least number of a gate.** Of the entries that the
gate hands on to its target, whatever its specification and whether or not the target fails, these
are exactly the ones with a number below 5. -/
theorem lowestNumber_le_iff (hn : e.number.asInt? = some n)
    (h : g.HandsOn thread e store) : g.lowestNumber ≤ n ↔ 5 ≤ n := by
  obtain ⟨m, _, henables⟩ := enables_of_handsOn hn h
  exact Level.number_le_iff (Sieve.le_maxLevel_of_enables henables)

/-- **A number of its own.** Between the numbers of two levels an entry counts as the lower one; it
is above the least number of the gate. -/
theorem lowestNumber_le_of_debug :
    let g : Gate := ⟨0, ⟨[⟨none, .warning⟩, ⟨some "app", .debug⟩], none⟩, 0⟩
    let e : Entry := ⟨.text "app.db", .int 15, .text "Level 15", .text "ready", .tuple [], []⟩
    g.HandsOn 0 e { targets := [{}] } ∧ g.lowestNumber = 10 ∧ g.lowestNumber ≤ 15 := by
  intro g e
  have h : g.HandsOn 0 e { targets := [{}] } := .inl ⟨{}, rfl, rfl⟩
  exact ⟨h, rfl, (lowestNumber_le_iff rfl h).mpr (by decide)⟩

attribute [local instance] CharacterNames.common

/-- **Below trace.** A gate that lets everything through hands on an entry with the number 1, and
its least number is 5. -/
theorem not_lowestNumber_le_of_trace :
    let g : Gate := ⟨0, ⟨[⟨none, .trace⟩], none⟩, 0⟩
    let e : Entry := ⟨.text "app", .int 1, .text "Level 1", .text "ready", .tuple [], []⟩
    (Builder.sieveOfGate {} (some "trace") none none).run.value = .ok g.sieve ∧
      g.HandsOn 0 e { targets := [{}] } ∧ ¬ g.lowestNumber ≤ 1 := by
  intro g e
  exact ⟨rfl, .inl ⟨{}, rfl, rfl⟩, by decide⟩

end Gate

end LogSieve
