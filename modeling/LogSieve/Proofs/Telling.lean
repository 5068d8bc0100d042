import LogSieve.Proofs.Returning

/-!
# What targets are told of a record

Whether a record is handed over has nothing to do with its context: the sieve looks at the level,
the module and the text. What the target is told has: the context is set on the entry that is made
for the record, and an attribute under one of the host's own names takes the place of what the
record has there. So two records that differ only in their contexts are handed over both or neither,
and are told alike if their contexts agree under five names.

* `Entry.told`: what a target is told, and `Entry.tellingNames`: the names that reach it;
* `Entry.told_update`: what is told once attributes have been set, each with the last word on what
  it names, so that nothing else counts (`toldWith_congr`);
* `Sieve.told_of_context`: two records side by side.
-/

namespace LogSieve

open Format (Args)

/-! ## 1. What is told -/

/-- What a target is told of an entry: its name, its number, and what comes of asking for its
text. -/
structure Told where
  name : Value
  number : Value
  text : Except Entry.TextFault Text

namespace Entry

def told (e : Entry) : Told := ⟨e.name, e.number, e.shownText⟩

/-- The names under which an attribute reaches what is told. -/
def tellingNames : List Text := ["name", "levelno", "msg", "args", textName]

/-- What is told of an entry when attributes take the place of its parts. -/
def toldWith (e : Entry) (attributes : List (Text × Value)) : Told where
  name := (attributes.lookup "name".toList).getD e.name
  number := (attributes.lookup "levelno".toList).getD e.number
  text :=
    match attributes.lookup textName with
    | some v => .error (.hidden v.kindName)
    | none =>
      let msg := (attributes.lookup "msg".toList).getD e.msg
      let args := ((attributes.lookup "args".toList).map .single).getD e.args
      (message { e with msg, args }).mapError .unmade

/-- The message is made of two parts of the entry. -/
theorem message_eq_of_parts {e e' : Entry} (hm : e'.msg = e.msg) (ha : e'.args = e.args) :
    e'.message = e.message := by
  unfold message
  rw [hm, ha]

/-- What is told once attributes have been set. -/
theorem told_update {attributes : List (Text × Value)} (hd : Value.HaveDistinctKeys attributes)
    {e : Entry} (hc : e.context = []) : (e.update attributes).told = e.toldWith attributes := by
  have hname := part_update name_set hd e
  have hnumber := part_update number_set hd e
  have hmsg := part_update msg_set hd e
  have hargs := part_update args_set hd e
  have htext : textName ∉ hostNames := by decide
  have hhidden := @part_update _ (fun e => e.context.lookup textName) textName some
    (lookup_set htext) attributes hd e
  simp only [Option.map_id'] at hname hnumber hmsg
  have hmessage := message_eq_of_parts (e := { e with
    msg := (attributes.lookup "msg".toList).getD e.msg
    args := ((attributes.lookup "args".toList).map .single).getD e.args }) hmsg hargs
  unfold told toldWith shownText
  rw [hname, hnumber, hhidden, hmessage, hc]
  cases attributes.lookup textName with
  | some v => rfl
  | none => rfl

/-- Attributes under other names tell nothing. -/
theorem toldWith_congr {attributes attributes' : List (Text × Value)}
    (h : ∀ name ∈ tellingNames, attributes.lookup name = attributes'.lookup name) (e : Entry) :
    e.toldWith attributes = e.toldWith attributes' := by
  have hname := h "name" (by decide)
  have hnumber := h "levelno" (by decide)
  have hmsg := h "msg" (by decide)
  have hargs := h "args" (by decide)
  have htext := h textName (by decide)
  unfold toldWith
  rw [hname, hnumber, hmsg, hargs, htext]

end Entry

/-! ## 2. Two records in front of a target -/

/-- The record with another context. -/
def Record.withContext (r : Record) (context : List (Text × Value)) : Record := { r with context }

namespace Sieve

variable {s : Sieve} {r r' : Record}

/-- **What a target is told depends on the context only under five names.** Let a record have come
from no entry, and let another one differ from it in nothing but the context; in each context a name
has one value. The sieve lets both pass or neither. The target is given both or neither; in the
latter case the logging of both ends in the same way. When it is given both, it is told of each what
the record has for its name, its number, its message and its arguments, with the attributes of the
context in their place. So it is told the same of both if the contexts agree under the telling
names. -/
theorem told_of_context (ho : r.origin = none) {context : List (Text × Value)}
    (hd : Value.HaveDistinctKeys r.context) (hd' : Value.HaveDistinctKeys context) :
    s.passes (r.withContext context) = s.passes r ∧
    (¬ (s.passes r = .ok true ∧ ¬ r.args.IsBarePair) →
      ∃ ending, s.KeepsBack r ending ∧ s.KeepsBack (r.withContext context) ending) ∧
    (s.passes r = .ok true ∧ ¬ r.args.IsBarePair →
      ∃ e e' kept, s.Gives r e ∧ s.Gives (r.withContext context) e' ∧
        Entry.argsOf? r.args = some kept ∧
        e.told = (r.newEntry kept).toldWith r.context ∧
        e'.told = (r.newEntry kept).toldWith context ∧
        ((∀ name ∈ Entry.tellingNames, r.context.lookup name = context.lookup name) →
          e.told = e'.told)) := by
  have hpasses : s.passes (r.withContext context) = s.passes r := rfl
  refine ⟨hpasses, ?_, ?_⟩
  · intro hback
    have hbare : s.passes r = .ok true → r.args.IsBarePair := fun hp =>
      Classical.byContradiction fun hb => hback ⟨hp, hb⟩
    have hnone : s.passes r = .ok true → r.entryOf? = none := fun hp =>
      Record.entryOf?_of_isBarePair ho (hbare hp)
    have hnone' : s.passes (r.withContext context) = .ok true →
        Record.entryOf? (r.withContext context) = none := fun hp =>
      Record.entryOf?_of_isBarePair ho (hbare hp)
    have hending : s.endingOf (r.withContext context) = s.endingOf r := rfl
    exact ⟨s.endingOf r, keepsBack_endingOf hnone, hending ▸ keepsBack_endingOf hnone'⟩
  · intro hgiven
    obtain ⟨hp, hb⟩ := hgiven
    have hsome := mt (Entry.argsOf?_eq_none_iff r.args).mp hb
    obtain ⟨kept, hkept⟩ := Option.ne_none_iff_exists'.mp hsome
    have he := gives_of_passes hp (Record.entryOf?_of_argsOf? ho hkept)
    have he' := gives_of_passes (hpasses.trans hp)
      (Record.entryOf?_of_argsOf? (r := r.withContext context) ho hkept)
    have htold := Entry.told_update hd (e := r.newEntry kept) rfl
    have htold' := Entry.told_update hd' (e := r.newEntry kept) rfl
    refine ⟨_, _, kept, he, he', hkept, htold, htold', ?_⟩
    intro hagree
    exact htold.trans ((Entry.toldWith_congr hagree _).trans htold'.symm)

/-- A record with arguments and a filter in front of the target: the contexts are different, and the
target is told the same. -/
theorem told_of_context_slow :
    let r : Record :=
      { level := .info, module := "app.db", msg := .text "slow %s", args := .tuple [.text "query"]
        context := [("user", .text "ann")] }
    let context : List (Text × Value) := [("pathname", .none), ("Name", .int 7)]
    let s : Sieve := ⟨[⟨some "app", .info⟩], some (.substring "slow q")⟩
    ∃ e e', s.Gives r e ∧ s.Gives (r.withContext context) e' ∧ e.told = e'.told := by
  intro r context s
  have hd : Value.HaveDistinctKeys r.context := by
    show (r.context.map Prod.fst).Nodup
    decide
  have hd' : Value.HaveDistinctKeys context := by
    show (context.map Prod.fst).Nodup
    decide
  have hpieces : Format.piecesOf "slow %s" = [.plain 's', .plain 'l', .plain 'o', .plain 'w',
      .plain ' ', .conversion { letter := some ('s', 6) }] := by decide +kernel
  have hrender : r.render = .ok "slow query" := by
    refine Record.render_of_fill rfl rfl ?_
    show Format.fill "slow %s" r.args = _
    rw [Format.fill, hpieces]
    rfl
  have hp : s.passes r = .ok true := by
    show r.render.map (Filter.admits (.substring "slow q")) = _
    rw [hrender]
    rfl
  have hb : ¬ r.args.IsBarePair := by
    intro hb
    obtain ⟨pair, hb⟩ := hb
    cases hb
  obtain ⟨e, e', kept, he, he', _, _, _, hsame⟩ :=
    (told_of_context (s := s) (r := r) rfl hd hd').2.2 ⟨hp, hb⟩
  refine ⟨e, e', he, he', hsame ?_⟩
  intro name hname
  simp only [Entry.tellingNames, List.mem_cons, List.not_mem_nil, or_false] at hname
  rcases hname with rfl | rfl | rfl | rfl | rfl <;> rfl

/-- A context with a name, a number and a message of its own: the target is told these, and not what
the sieve has judged. -/
theorem told_otherwise_of_context :
    let r : Record := { level := .info, module := "app", msg := .text "ready" }
    let context : List (Text × Value) :=
      [("name", .text "web"), ("levelno", .int 10), ("msg", .text "other")]
    let s : Sieve := ⟨[⟨none, .info⟩], some (.substring "ready")⟩
    ∃ e e', s.Gives r e ∧ s.Gives (r.withContext context) e' ∧ e.name ≠ e'.name ∧
      e.number ≠ e'.number ∧ e.shownText = .ok "ready" ∧ e'.shownText = .ok "other" := by
  intro r context s
  have hp : s.passes r = .ok true := rfl
  have hp' : s.passes (r.withContext context) = .ok true := rfl
  refine ⟨_, _, gives_of_passes hp rfl, gives_of_passes hp' rfl, ?_, ?_, rfl, rfl⟩
  · intro he
    cases he
  · intro he
    cases he

end Sieve

end LogSieve
