import LogSieve.Proofs.Forwarding
import LogSieve.Proofs.HandingOver

/-!
# Records come back from the entries made for them

A record that came from no entry has one made for it when a target takes it, and of every entry a
record can be made. Going there and back loses nothing, as long as each part of the record has a
place in the entry:

* the level, unless it is `off`: no number of the host's log stands for that;
* the arguments, unless the host keeps something else in their stead (`Format.Args.IsKept`);
* the context, unless a name in it is the host's own. The names in it are distinct, so each entry of
  it is one attribute, in the same order (`Record.entry_of_isKept`).

`Record.ofEntry_of_isKept` puts the two ways together.
-/

namespace LogSieve

open Format (Args)

/-! ## 1. Arguments that are kept -/

/-- A tuple other than one of a single mapping with something in it, or a mapping of two entries or
more. -/
def Format.Args.IsKept (args : Args) : Prop :=
  (∃ items, args = .tuple items ∧ ¬ args.IsWrapped) ∨
    ∃ entries, args = .single (.mapping entries) ∧ 2 ≤ entries.length

namespace Format.Args.IsKept

variable {args : Args}

theorem not_isWrapped (h : args.IsKept) : ¬ args.IsWrapped := by
  rcases h with ⟨items, _, hw⟩ | ⟨entries, he, _⟩
  · exact hw
  · intro hw
    obtain ⟨pair, rest, hw⟩ := hw
    cases he.symm.trans hw

theorem not_isBarePair (h : args.IsKept) : ¬ args.IsBarePair := by
  intro hb
  obtain ⟨pair, hb⟩ := hb
  rcases h with ⟨items, hi, _⟩ | ⟨entries, he, hl⟩
  · cases hi.symm.trans hb
  · cases he.symm.trans hb
    have hone : [pair].length = 1 := rfl
    omega

/-- An entry has the same arguments. -/
theorem argsOf?_eq (h : args.IsKept) : Entry.argsOf? args = some args := by
  have hsome := mt (Entry.argsOf?_eq_none_iff args).mp h.not_isBarePair
  obtain ⟨kept, hkept⟩ := Option.ne_none_iff_exists'.mp hsome
  rcases Entry.eq_of_argsOf?_eq_some hkept with ⟨_, rfl⟩ | ⟨pair, rest, hw, _⟩
  · exact hkept
  · exact absurd ⟨pair, rest, hw⟩ h.not_isWrapped

/-- Only arguments that stand for none are written as none. -/
theorem eq_of_given (h : args.IsKept) : (if args.areGiven then args else .tuple []) = args := by
  rcases h with ⟨items, rfl, _⟩ | ⟨entries, rfl, hl⟩
  · cases items with
    | nil => rfl
    | cons v rest => rfl
  · cases entries with
    | nil => cases hl
    | cons e rest => rfl

end Format.Args.IsKept

/-! ## 2. There and back -/

namespace Record

variable {r : Record}

/-- The text is made of the message and the arguments, and of nothing else. -/
theorem render_eq_of_message {r r' : Record} (hm : r'.msg = r.msg) (ha : r'.args = r.args) :
    r'.render = r.render := by
  unfold render
  rw [hm, ha]

/-- The entry made for a record, before its context is set. -/
def newEntry (r : Record) (kept : Args) : Entry :=
  { name := .text r.module, number := .int r.level.number
    label := .text (Entry.labelOf r.level.number), msg := r.msg, args := kept }

theorem entryOf?_of_argsOf? (ho : r.origin = none) {kept : Args}
    (ha : Entry.argsOf? r.args = some kept) :
    r.entryOf? = some ((r.newEntry kept).update r.context) := by
  simp only [entryOf?, ho, Entry.make?, ha, Option.map_some]
  rfl

theorem entryOf?_of_isBarePair (ho : r.origin = none) (hb : r.args.IsBarePair) :
    r.entryOf? = none := by
  have ha : Entry.argsOf? r.args = none := (Entry.argsOf?_eq_none_iff _).mpr hb
  simp only [entryOf?, ho, Entry.make?, ha, Option.map_none]

/-- The entry made for a record has all of the record in it. -/
theorem entry_of_isKept (ho : r.origin = none) (hd : Value.HaveDistinctKeys r.context)
    (hn : ∀ p ∈ r.context, p.1 ∉ Entry.hostNames) (ha : r.args.IsKept) :
    ∃ e, r.entryOf? = some e ∧ e.name = .text r.module ∧ e.number = .int r.level.number ∧
      e.msg = r.msg ∧ e.args = r.args ∧ e.context = r.context := by
  rw [entryOf?_of_argsOf? ho ha.argsOf?_eq,
    Entry.update_of_fresh hd hn _ fun _ _ => List.not_mem_nil]
  exact ⟨_, rfl, rfl, rfl, rfl, rfl, rfl⟩

/-- **A record comes back from the entry that is made for it.** Let a record have come from no
entry, with a level other than `off`, a context under names of its own, and arguments that the host
keeps. Whichever target it is handed to, the target is given one and the same entry, and the record
of that entry is the record again: the level, the module, the message, the arguments and the context
are the same, and so is what comes of making its text. -/
theorem ofEntry_of_isKept (ho : r.origin = none) (hl : r.level ≠ .off)
    (hd : Value.HaveDistinctKeys r.context) (hn : ∀ p ∈ r.context, p.1 ∉ Entry.hostNames)
    (ha : r.args.IsKept) :
    ∃ e, (∀ (thread slot : Nat) (store : Store),
        (Drain.host slot).log thread r store = store.atOutlets (Outlets.deliver slot e)) ∧
      ∃ r', ofEntry e = .ok r' ∧ r'.level = r.level ∧ r'.module = r.module ∧ r'.msg = r.msg ∧
        r'.args = r.args ∧ r'.context = r.context ∧ r'.origin = some e ∧
        r'.render = r.render := by
  obtain ⟨e, he, hname, hnumber, hmsg, hargs, hcontext⟩ := entry_of_isKept ho hd hn ha
  have hback : ofEntry e = .ok (ofEntryAt (Level.ofNumber r.level.number) r.module e) :=
    ofEntry_eq hname (by rw [hnumber]; rfl)
  have hkept : (if e.args.areGiven then e.args else .tuple []) = r.args := by
    rw [hargs]
    exact ha.eq_of_given
  refine ⟨e, ?_, _, hback, Level.ofNumber_number hl, rfl, hmsg, hkept, hcontext, rfl,
    render_eq_of_message hmsg hkept⟩
  intro thread slot store
  have hover : r.handOver slot = Outlets.deliver slot e := by
    funext o
    rw [handOver, he]
  show store.atOutlets (r.handOver slot) = _
  rw [hover]

/-- A mapping of two entries, and a context whose names are close to the host's. -/
theorem ofEntry_of_isKept_named :
    let context : List (Text × Value) := [("Name", .text "pool"), ("msgs", .int 2), ("", .none)]
    let r : Record :=
      { level := .debug, module := "app.db", msg := .text "%(query)s took %(ms)d"
        args := .single (.mapping [("query", .text "select"), ("ms", .int 12)]), context }
    ∃ e, (∀ (thread slot : Nat) (store : Store),
        (Drain.host slot).log thread r store = store.atOutlets (Outlets.deliver slot e)) ∧
      ∃ r', ofEntry e = .ok r' ∧ r'.level = .debug ∧ r'.args = r.args ∧ r'.context = context := by
  intro context r
  have hd : Value.HaveDistinctKeys r.context := by
    show (r.context.map Prod.fst).Nodup
    decide
  have hn : ∀ p ∈ r.context, p.1 ∉ Entry.hostNames := by decide
  obtain ⟨e, hgiven, r', hr, hlevel, _, _, hargs, hcontext, _⟩ :=
    ofEntry_of_isKept (r := r) rfl (by decide) hd hn (.inr ⟨_, rfl, by decide⟩)
  exact ⟨e, hgiven, r', hr, hlevel, hargs, hcontext⟩

end Record

end LogSieve
