import LogSieve.Proofs.Unbuffered

/-!
# The text that is judged and the text that is shown

A record that came from no entry of the host's log has one made for it when it is handed to a
target. The filter judges the text of the record, the target shows the text of the entry, and the
host does not keep all arguments as they are. Here the two texts are compared:

* `Format.ByPlace`: steps that do not look at the value that answers to keys. A conversion without a
  key is made of such steps (`ByPlace.convert`);
* `Format.takesByPlace`: a tuple of one mapping fills such formats, with the text that the mapping
  fills them with by itself, and no other ones (`fill_tuple_of_fill_single`,
  `takesByPlace_of_fill_tuple`);
* `Record.render_iff_of_message`: when the text of an entry is that of its record;
* `Sieve.Gives`, `Sieve.KeepsBack`: what becomes of a record behind a sieve;
* `Sieve.HandsOver`, `Sieve.Refuses`: what becomes of one that came from no entry;
* `Sieve.handsOver_of_passes`: which of them it is, and when the texts are the same.
-/

namespace LogSieve

namespace Format

/-! ## 1. Taking arguments by place -/

/-- The arguments without the value that answers to keys. -/
def Arguments.unkeyed (a : Arguments) : Arguments := { a with keyed := none }

/-- Where a value answers to keys, no argument is left. -/
def Arguments.IsUsedUp (a : Arguments) : Prop := a.keyed.isSome = true → a.left = []

/-- A step takes arguments by place. When it succeeds, the value that answers to keys is still
there, and the step does the same where there is none; `ends` holds of what it leaves. -/
def ByPlace {α : Type} (step : Arguments → Except MessageFault (α × Arguments))
    (ends : Arguments → Prop := fun _ => True) : Prop :=
  ∀ ⦃a x b⦄, step a = .ok (x, b) →
    b.keyed = a.keyed ∧ step a.unkeyed = .ok (x, b.unkeyed) ∧ ends b

theorem exists_of_bind_eq_ok {ε α β : Type} {x : Except ε α} {f : α → Except ε β} {b : β}
    (h : x >>= f = .ok b) : ∃ a, x = .ok a ∧ f a = .ok b := by
  cases x with
  | error e => cases h
  | ok a => exact ⟨a, rfl, h⟩

namespace ByPlace

variable {α β : Type} {ends ends' : Arguments → Prop}

theorem pure (x : α) : ByPlace fun a => Pure.pure (x, a) := by
  intro a y b h
  cases h
  exact ⟨rfl, rfl, trivial⟩

theorem fault (f : MessageFault) : ByPlace (α := α) (fun _ => .error f) ends := by
  intro a y b h
  cases h

theorem ite {f g : Arguments → Except MessageFault (α × Arguments)} (p : Prop) [Decidable p]
    (hf : ByPlace f ends) (hg : ByPlace g ends) :
    ByPlace (fun a => if p then f a else g a) ends := by
  by_cases hp : p
  · simpa only [if_pos hp] using hf
  · simpa only [if_neg hp] using hg

theorem bind {f : Arguments → Except MessageFault (α × Arguments)}
    {next : α × Arguments → Except MessageFault (β × Arguments)} (hf : ByPlace f ends)
    (hnext : ∀ x, ByPlace (fun a => next (x, a)) ends') :
    ByPlace (fun a => f a >>= next) ends' := by
  intro a y c h
  obtain ⟨⟨x, b⟩, hfa, hn⟩ := exists_of_bind_eq_ok h
  obtain ⟨hb, hfu, -⟩ := hf hfa
  obtain ⟨hc, hnu, he⟩ := hnext x hn
  refine ⟨hc.trans hb, ?_, he⟩
  simp only [hfu]
  exact hnu

theorem take : ByPlace Arguments.take := by
  rintro ⟨_ | ⟨v, rest⟩, keyed⟩ x b h
  · cases h
  · cases h
    exact ⟨rfl, rfl, trivial⟩

theorem starAmount : ByPlace Format.starAmount := by
  refine take.bind fun v => ?_
  dsimp only
  cases v.asInt? with
  | none => exact fault _
  | some z => exact pure z

theorem widthOf (amount : Option Amount) : ByPlace (Format.widthOf amount) := by
  rcases amount with _ | n | _ | _
  · exact pure _
  · exact pure _
  · exact starAmount.bind fun z => ite _ (fault _) (pure _)
  · exact fault _

theorem precisionOf (amount : Option Amount) : ByPlace (Format.precisionOf amount) := by
  rcases amount with _ | n | _ | _
  · exact pure _
  · exact pure _
  · exact starAmount.bind fun z => ite _ (fault _) (pure _)
  · exact fault _

/-- The check at the end of a conversion looks at the value of keys, but only to fail. -/
theorem check (t : Text) :
    ByPlace (fun a => if a.keyed.isSome && !a.left.isEmpty then .error .unusedArguments
      else .ok (t, a)) Arguments.IsUsedUp := by
  intro a y b h
  dsimp only at h
  split at h
  · cases h
  · rename_i hc
    cases h
    exact ⟨rfl, rfl, fun hk => by simpa [hk] using hc⟩

/-- A conversion without a key. -/
theorem convert {conv : Conversion} (h : conv.key = none) :
    ByPlace (Format.convert conv) Arguments.IsUsedUp := by
  unfold Format.convert
  simp only [h, pure_bind]
  refine (widthOf conv.width).bind fun w => ?_
  dsimp +instances only
  refine (precisionOf conv.precision).bind fun p => ?_
  dsimp only
  rcases conv.letter with _ | ⟨letter, position⟩
  · exact fault _
  · dsimp only
    refine take.bind fun v => ?_
    dsimp only
    cases setValue _ letter position v with
    | error e => exact fault e
    | ok t => exact check t

end ByPlace

/-! ## 2. Keys -/

/-- A key that has been found keeps the value that answers to keys. -/
theorem keyed_of_choose {a b : Arguments} {key : Key} (h : a.choose key = .ok b) :
    a.keyed.isSome = true ∧ b.keyed = a.keyed := by
  rcases hk : a.keyed with _ | v
  · simp [Arguments.choose, hk] at h
  · refine ⟨rfl, ?_⟩
    cases key with
    | unclosed => simp [Arguments.choose, hk] at h
    | named name =>
      cases v with
      | mapping entries =>
        cases hl : entries.lookup name with
        | none => simp [Arguments.choose, hk, hl] at h
        | some w =>
          simp only [Arguments.choose, hk, hl, Except.ok.injEq] at h
          rw [← h]
      | _ => simp [Arguments.choose, hk] at h

/-- A conversion with a key is one without, on the arguments that the key leaves. -/
theorem convert_eq_bind (conv : Conversion) (a : Arguments) :
    convert conv a =
      (match conv.key with
        | none => pure a
        | some key => a.choose key) >>= convert { conv with key := none } := by
  unfold convert
  cases conv.key <;> rfl

/-- What is left of the arguments when a conversion succeeds. A key has been asked for only where a
value answers to it. -/
theorem keyed_of_convert {conv : Conversion} {a b : Arguments} {t : Text}
    (h : convert conv a = .ok (t, b)) :
    b.keyed = a.keyed ∧ b.IsUsedUp ∧ (a.keyed = none → conv.key = none) := by
  rw [convert_eq_bind] at h
  obtain ⟨a', hkey, hrest⟩ := exists_of_bind_eq_ok h
  obtain ⟨hb, -, he⟩ := ByPlace.convert rfl hrest
  rcases hk : conv.key with _ | key <;> rw [hk] at hkey
  · cases hkey
    exact ⟨hb, he, fun _ => rfl⟩
  · obtain ⟨hs, ha'⟩ := keyed_of_choose hkey
    exact ⟨hb.trans ha', he, fun hn => by rw [hn] at hs; cases hs⟩

/-! ## 3. Whole formats -/

/-- The conversions among the pieces of a format. -/
def conversionsIn (pieces : List Piece) : List Conversion :=
  pieces.filterMap fun
    | .plain _ => none
    | .conversion conv => some conv

/-- The format takes its arguments by place: it has conversions, and none of them names a key. -/
def takesByPlace (format : Text) : Bool :=
  !(conversionsIn (piecesOf format)).isEmpty &&
    (conversionsIn (piecesOf format)).all (·.key.isNone)

theorem takesByPlace_iff (format : Text) :
    takesByPlace format = true ↔ conversionsIn (piecesOf format) ≠ [] ∧
      ∀ conv ∈ conversionsIn (piecesOf format), conv.key = none := by
  simp [takesByPlace]

theorem fillPieces_plain_ok {a : Arguments} {c : Char} {rest : List Piece} {t : Text}
    (h : fillPieces a (.plain c :: rest) = .ok t) :
    ∃ t', fillPieces a rest = .ok t' ∧ c :: t' = t := by
  obtain ⟨t', ht', h⟩ := exists_of_bind_eq_ok h
  exact ⟨t', ht', Except.ok.inj h⟩

theorem fillPieces_conversion_ok {a : Arguments} {conv : Conversion} {rest : List Piece} {t : Text}
    (h : fillPieces a (.conversion conv :: rest) = .ok t) :
    ∃ shown b t', convert conv a = .ok (shown, b) ∧ fillPieces b rest = .ok t' ∧
      shown ++ t' = t := by
  obtain ⟨⟨shown, b⟩, hconv, h⟩ := exists_of_bind_eq_ok h
  obtain ⟨t', ht', h⟩ := exists_of_bind_eq_ok h
  exact ⟨shown, b, t', hconv, ht', Except.ok.inj h⟩

/-- A format that has been filled without a value for keys names no key, and has conversions for the
arguments there were. -/
theorem conversionsIn_of_fillPieces {a : Arguments} {pieces : List Piece} {t : Text}
    (h : fillPieces a pieces = .ok t) (hk : a.keyed = none) :
    (∀ conv ∈ conversionsIn pieces, conv.key = none) ∧
      (a.left ≠ [] → conversionsIn pieces ≠ []) := by
  induction pieces generalizing a t with
  | nil =>
    refine ⟨fun _ hconv => (nomatch hconv), fun hl => ?_⟩
    simp [fillPieces, Arguments.leavesOver, hk, hl] at h
  | cons piece rest ih =>
    cases piece with
    | plain c =>
      obtain ⟨t', ht', -⟩ := fillPieces_plain_ok h
      exact ih ht' hk
    | conversion conv =>
      obtain ⟨shown, b, t', hconv, ht', -⟩ := fillPieces_conversion_ok h
      obtain ⟨hb, -, hkey⟩ := keyed_of_convert hconv
      refine ⟨?_, fun _ => List.cons_ne_nil _ _⟩
      intro conv' hmem
      rcases List.mem_cons.mp hmem with rfl | hmem
      · exact hkey hk
      · exact (ih ht' (hb.trans hk)).1 conv' hmem

/-- A format that names no key is filled in the same way when no value answers to keys, provided
that its first conversion, or none at all, has the arguments to itself. -/
theorem fillPieces_unkeyed {a : Arguments} {pieces : List Piece} {t : Text}
    (h : fillPieces a pieces = .ok t) (hk : a.keyed.isSome = true)
    (hkeys : ∀ conv ∈ conversionsIn pieces, conv.key = none)
    (hl : a.left = [] ∨ conversionsIn pieces ≠ []) : fillPieces a.unkeyed pieces = .ok t := by
  induction pieces generalizing a t with
  | nil =>
    rcases hl with hl | hl
    · simpa [fillPieces, Arguments.leavesOver, Arguments.unkeyed, hl] using h
    · exact absurd rfl hl
  | cons piece rest ih =>
    cases piece with
    | plain c =>
      obtain ⟨t', ht', rfl⟩ := fillPieces_plain_ok h
      rw [fillPieces, ih ht' hk hkeys hl]
      rfl
    | conversion conv =>
      obtain ⟨shown, b, t', hconv, ht', rfl⟩ := fillPieces_conversion_ok h
      obtain ⟨hb, hsame, hused⟩ := ByPlace.convert (hkeys conv List.mem_cons_self) hconv
      -- after the first conversion nothing is left, with or without a value for keys
      rw [← hb] at hk
      have hrest := ih ht' hk (fun conv' hmem => hkeys conv' (List.mem_cons_of_mem _ hmem))
        (.inl (hused hk))
      rw [fillPieces, hsame]
      show (do return shown ++ (← fillPieces b.unkeyed rest)) = _
      rw [hrest]
      rfl

variable {format : Text} {v : Value} {t : Text}

/-- A value as the one member of a tuple fills a format that takes its arguments by place with what
it fills it with by itself. -/
theorem fill_tuple_of_fill_single (h : fill format (.single v) = .ok t)
    (hp : takesByPlace format = true) : fill format (.tuple [v]) = .ok t := by
  obtain ⟨hne, hkeys⟩ := (takesByPlace_iff format).mp hp
  by_cases hv : Arguments.answersKeys v = true
  · rw [fill, Arguments.ofArgs, if_pos hv] at h
    exact fillPieces_unkeyed h rfl hkeys (.inr hne)
  · rw [fill, Arguments.ofArgs, if_neg hv] at h
    exact h

/-- Only a format that takes its arguments by place is filled by a tuple of one value. -/
theorem takesByPlace_of_fill_tuple (h : fill format (.tuple [v]) = .ok t) :
    takesByPlace format = true := by
  obtain ⟨hkeys, hne⟩ := conversionsIn_of_fillPieces h rfl
  exact (takesByPlace_iff format).mpr ⟨hne (List.cons_ne_nil _ _), hkeys⟩

end Format

open Format (Args takesByPlace)

/-! ## 4. The entry of a new record -/

/-- A mapping of one entry that is no member of a tuple. The host makes no entry of it. -/
def Format.Args.IsBarePair (args : Args) : Prop := ∃ pair, args = .single (.mapping [pair])

/-- A tuple of one mapping with something in it. The host keeps the mapping by itself. -/
def Format.Args.IsWrapped (args : Args) : Prop :=
  ∃ pair rest, args = .tuple [.mapping (pair :: rest)]

namespace Entry

theorem argsOf?_eq_none_iff (args : Args) : argsOf? args = none ↔ args.IsBarePair := by
  unfold argsOf? Args.IsBarePair
  split <;> simp_all

/-- The arguments that an entry keeps are those it is made of, unless they are unwrapped. -/
theorem eq_of_argsOf?_eq_some {args kept : Args} (h : argsOf? args = some kept) :
    (¬ args.IsWrapped ∧ kept = args) ∨
      ∃ pair rest, args = .tuple [.mapping (pair :: rest)] ∧
        kept = .single (.mapping (pair :: rest)) := by
  unfold argsOf? at h
  split at h
  · exact .inr ⟨_, _, rfl, (Option.some.inj h).symm⟩
  · cases h
  · rename_i hw _
    exact .inl ⟨fun ⟨pair, rest, he⟩ => hw pair rest he, (Option.some.inj h).symm⟩

/-- Attributes under names of their own are all context. -/
theorem update_of_not_mem {attributes : List (Text × Value)}
    (h : ∀ p ∈ attributes, p.1 ∉ hostNames) (e : Entry) :
    ∃ context, e.update attributes = { e with context } := by
  induction attributes generalizing e with
  | nil => exact ⟨e.context, rfl⟩
  | cons p rest ih =>
    obtain ⟨context, hrest⟩ := ih (fun q hq => h q (List.mem_cons_of_mem _ hq)) (e.set p.1 p.2)
    refine ⟨context, ?_⟩
    rw [update, List.foldl_cons]
    show (e.set p.1 p.2).update rest = _
    rw [hrest, set_of_not_mem (h p List.mem_cons_self)]

end Entry

namespace Record

variable {r : Record}

/-- A record that came from no entry has one made for it, unless its arguments are a bare pair. -/
theorem entry_of_new (ho : r.origin = none) (hc : ∀ p ∈ r.context, p.1 ∉ Entry.hostNames) :
    (r.args.IsBarePair → r.entryOf? = none) ∧
      (¬ r.args.IsBarePair → ∃ e, r.entryOf? = some e ∧ e.name = .text r.module ∧
        e.number = .int r.level.number ∧ e.msg = r.msg ∧ Entry.argsOf? r.args = some e.args) := by
  simp only [entryOf?, ho, Entry.make?]
  refine ⟨fun h => ?_, fun h => ?_⟩
  · rw [(Entry.argsOf?_eq_none_iff _).mpr h]
    rfl
  · obtain ⟨kept, hkept⟩ := Option.ne_none_iff_exists'.mp (mt (Entry.argsOf?_eq_none_iff _).mp h)
    rw [hkept]
    obtain ⟨context, hu⟩ := Entry.update_of_not_mem hc
      ⟨.text r.module, .int r.level.number, .text (Entry.labelOf r.level.number), r.msg, kept, []⟩
    exact ⟨_, congrArg some hu, rfl, rfl, rfl, rfl⟩

theorem render_of_fill {t : Text} (hp : r.msg.isPrintable = true) (hg : r.args.areGiven = true)
    (h : Format.fill r.msg.display r.args = .ok t) : r.render = .ok t := by
  rw [render_of_isPrintable hp, if_pos hg, h]

/-- An entry that has a message has one that can be written by itself. -/
theorem isPrintable_of_message {e : Entry} {t : Text} (h : e.message = .ok t) :
    e.msg.isPrintable = true := by
  cases hp : e.msg.isPrintable with
  | true => rfl
  | false =>
    rw [Entry.message_of_not_isPrintable hp] at h
    cases h

/-- The text of an entry is the text of the record it was made for, unless the arguments have been
unwrapped and the format tells the two forms apart. -/
theorem render_iff_of_message {e : Entry} (hm : e.msg = r.msg)
    (ha : Entry.argsOf? r.args = some e.args)
    (hfits : ∀ fault, Format.fill r.msg.display r.args = .error fault → fault.isOverflow = false)
    {t : Text} (h : e.message = .ok t) :
    r.render = .ok t ↔
      (r.args.IsWrapped → takesByPlace r.msg.display = true ∨ t = r.msg.display) := by
  have hpe : e.msg.isPrintable = true := isPrintable_of_message h
  have hpr : r.msg.isPrintable = true := hm ▸ hpe
  rw [Entry.message_of_isPrintable hpe, hm] at h
  rcases Entry.eq_of_argsOf?_eq_some ha with ⟨hw, hkept⟩ | ⟨pair, rest, hwrapped, hkept⟩
  · refine iff_of_true ?_ fun hw' => absurd hw' hw
    rw [hkept] at h
    by_cases hg : r.args.areGiven = true
    · rw [if_pos hg] at h
      exact render_of_fill hpr hg h
    · rw [if_neg hg] at h
      rw [render_of_isPrintable hpr, if_neg hg, h]
  · have hfill : Format.fill r.msg.display (.single (.mapping (pair :: rest))) = .ok t := by
      simpa [hkept, Args.areGiven, Value.isTrue] using h
    have hg : r.args.areGiven = true := by rw [hwrapped]; rfl
    by_cases hp : takesByPlace r.msg.display = true
    · have htuple := Format.fill_tuple_of_fill_single hfill hp
      exact iff_of_true (render_of_fill hpr hg (hwrapped ▸ htuple)) fun _ => .inl hp
    · rcases hf : Format.fill r.msg.display r.args with fault | t'
      · simp only [render_of_isPrintable hpr, if_pos hg, hf, hfits fault hf, Bool.false_eq_true,
          if_false, Except.ok.injEq]
        refine ⟨fun he _ => .inr he.symm, fun hw => ?_⟩
        exact ((hw ⟨pair, rest, hwrapped⟩).resolve_left hp).symm
      · rw [hwrapped] at hf
        exact absurd (Format.takesByPlace_of_fill_tuple hf) hp

end Record

/-! ## 5. A sieve in front of a target -/

namespace Sieve

variable {s : Sieve} {r : Record}

/-- What comes of a record that is logged to the sieve in front of a target. -/
def atHost (s : Sieve) (r : Record) (thread id slot : Nat) (store : Store) :
    Except LogFault Value × Outlets :=
  let done := Drain.log thread r store (.logger id s (.host slot))
  (done.1, done.2.toOutlets)

/-- The target behind the sieve is given the entry, and what comes of that is what comes of logging
the record. -/
def Gives (s : Sieve) (r : Record) (e : Entry) : Prop :=
  ∀ (thread id slot : Nat) (store : Store), store.IsClean →
    s.atHost r thread id slot store = Outlets.deliver slot e store.toOutlets

/-- The target behind the sieve is given nothing, and logging the record ends in this way. -/
def KeepsBack (s : Sieve) (r : Record) (ending : Except LogFault Value) : Prop :=
  ∀ (thread id slot : Nat) (store : Store), store.IsClean →
    s.atHost r thread id slot store = (ending, store.toOutlets)

/-- The target behind the sieve is given one entry for the record, under its module and with the
number of its level. -/
structure HandsOver (s : Sieve) (r : Record) (e : Entry) : Prop where
  name : e.name = .text r.module
  number : e.number = .int r.level.number
  gives : s.Gives r e

/-- Logging the record fails before the target behind the sieve is given anything. -/
def Refuses (s : Sieve) (r : Record) : Prop := s.KeepsBack r (.error .noFirstArgument)

/-- What comes of a record in front of a target. -/
theorem atHost_eq (s : Sieve) (r : Record) (thread id slot : Nat) {store : Store}
    (hc : store.IsClean) :
    s.atHost r thread id slot store =
      match s.passes r with
      | .error fault => (.error (.unwritable fault), store.toOutlets)
      | .ok false => (.ok .none, store.toOutlets)
      | .ok true => r.handOver slot store.toOutlets :=
  ((Drain.logger id s (.host slot)).log_unbuffered thread r hc).2.trans
    (s.logUnbuffered_logger _ r store.toOutlets)

/-- A record that passes is given to the target as its entry. -/
theorem gives_of_passes (hp : s.passes r = .ok true) {e : Entry} (he : r.entryOf? = some e) :
    s.Gives r e := by
  intro thread id slot store hc
  rw [atHost_eq s r thread id slot hc, hp]
  dsimp only
  rw [Record.handOver, he]

/-- How the logging of a record ends when the target is given nothing. -/
def endingOf (s : Sieve) (r : Record) : Except LogFault Value :=
  match s.passes r with
  | .error fault => .error (.unwritable fault)
  | .ok false => .ok .none
  | .ok true => .error .noFirstArgument

/-- A record that does not pass, or has no entry, is kept back. -/
theorem keepsBack_endingOf (h : s.passes r = .ok true → r.entryOf? = none) :
    s.KeepsBack r (s.endingOf r) := by
  intro thread id slot store hc
  rw [atHost_eq s r thread id slot hc]
  unfold endingOf
  rcases hp : s.passes r with fault | ⟨_ | _⟩
  · rfl
  · rfl
  · show r.handOver slot store.toOutlets = _
    rw [Record.handOver, h hp]

/-- What is refused is not handed over. -/
theorem Refuses.not_handsOver (h : s.Refuses r) (e : Entry) : ¬ s.HandsOver r e := by
  intro he
  have hboth := (h 0 0 0 {} (Store.isClean_new {})).symm.trans
    (he.gives 0 0 0 {} (Store.isClean_new {}))
  cases congrArg Prod.fst hboth

/-- No entry is made of a bare pair, whatever the format asks for. -/
theorem refuses_of_isBarePair (ho : r.origin = none)
    (hc : ∀ p ∈ r.context, p.1 ∉ Entry.hostNames) (hp : s.passes r = .ok true)
    (hb : r.args.IsBarePair) : s.Refuses r := by
  have hending : s.endingOf r = .error .noFirstArgument := by
    rw [endingOf, hp]
  show s.KeepsBack r (.error .noFirstArgument)
  rw [← hending]
  exact keepsBack_endingOf fun _ => (r.entry_of_new ho hc).1 hb

/-- **A target is shown the text that was judged, except for mappings that the host takes out of
their tuple.** Let a record pass that came from no entry, with a context under names of its own and
no number too large to be written. The target behind the sieve is given one entry, and the text it
shows, if it shows one, is the text of the record, with two exceptions. A mapping of one entry that
is no member of a tuple is refused: logging fails, and the target is given nothing. A mapping that
is the one member of a tuple is kept by itself: then the texts are the same if the format takes its
arguments by place, or is shown as it is written, and only then. -/
theorem handsOver_of_passes (ho : r.origin = none)
    (hc : ∀ p ∈ r.context, p.1 ∉ Entry.hostNames)
    (hfits : ∀ fault, Format.fill r.msg.display r.args = .error fault → fault.isOverflow = false)
    (hp : s.passes r = .ok true) :
    (r.args.IsBarePair → s.Refuses r) ∧
      (¬ r.args.IsBarePair → ∃ e, s.HandsOver r e ∧ ∀ t, e.message = .ok t →
        (r.render = .ok t ↔
          (r.args.IsWrapped → takesByPlace r.msg.display = true ∨ t = r.msg.display))) := by
  refine ⟨refuses_of_isBarePair ho hc hp, fun hb => ?_⟩
  obtain ⟨e, he, hname, hnumber, hmsg, hargs⟩ := (r.entry_of_new ho hc).2 hb
  exact ⟨e, ⟨hname, hnumber, gives_of_passes hp he⟩,
    fun t ht => Record.render_iff_of_message hmsg hargs hfits ht⟩

/-- A record whose message asks for the key `k`. -/
def askingForKey (args : Args) : Record :=
  { level := .info, module := "m", msg := .text "%(k)s", args }

theorem piecesOf_askingForKey : Format.piecesOf "%(k)s" =
    [.conversion { key := some (.named "k"), letter := some ('s', 4) }] := by
  decide +kernel

/-- A mapping of `k` to `v` in a tuple: the two texts are the same only if the target shows the
format, which is the text of the record. -/
theorem handsOver_of_passes_wrapped :
    ∃ e, Sieve.HandsOver ⟨[⟨none, .info⟩], none⟩
        (askingForKey (.tuple [.mapping [("k", .text "v")]])) e ∧
      ∀ t, e.message = .ok t →
        ((askingForKey (.tuple [.mapping [("k", .text "v")]])).render = .ok t ↔ t = "%(k)s") := by
  have hfill : Format.fill "%(k)s" (.tuple [.mapping [("k", .text "v")]]) =
      .error .keyNotMapped := by
    rw [Format.fill, piecesOf_askingForKey]
    rfl
  have hplace : takesByPlace "%(k)s" = false := by
    rw [takesByPlace, piecesOf_askingForKey]
    rfl
  obtain ⟨e, he, htext⟩ := (handsOver_of_passes (s := ⟨[⟨none, .info⟩], none⟩)
    (r := askingForKey (.tuple [.mapping [("k", .text "v")]])) rfl
    (fun _ hp => absurd hp List.not_mem_nil) (fun fault hf => by cases hfill.symm.trans hf; rfl)
    rfl).2 (by rintro ⟨_, hb⟩; cases hb)
  refine ⟨e, he, fun t ht => (htext t ht).trans ?_⟩
  show (_ → takesByPlace "%(k)s" = true ∨ t = "%(k)s") ↔ _
  simp only [hplace, Bool.false_eq_true, false_or]
  exact ⟨fun h => h ⟨_, _, rfl⟩, fun h _ => h⟩

/-- A mapping of `k` to `v` by itself: the record passes and has the text `v`, and there is no
entry that the target is given. -/
theorem not_handsOver_of_bare_pair :
    Sieve.passes ⟨[⟨none, .info⟩], none⟩ (askingForKey (.single (.mapping [("k", .text "v")]))) =
        .ok true ∧
      (askingForKey (.single (.mapping [("k", .text "v")]))).render = .ok "v" ∧
      ∀ e, ¬ Sieve.HandsOver ⟨[⟨none, .info⟩], none⟩
        (askingForKey (.single (.mapping [("k", .text "v")]))) e := by
  have hfill : Format.fill "%(k)s" (.single (.mapping [("k", .text "v")])) = .ok "v" := by
    rw [Format.fill, piecesOf_askingForKey]
    rfl
  have hrefuses : Sieve.Refuses ⟨[⟨none, .info⟩], none⟩
      (askingForKey (.single (.mapping [("k", .text "v")]))) :=
    refuses_of_isBarePair rfl (fun _ hp => absurd hp List.not_mem_nil) rfl ⟨_, rfl⟩
  exact ⟨rfl, Record.render_of_fill rfl rfl hfill, hrefuses.not_handsOver⟩

end Sieve

end LogSieve
