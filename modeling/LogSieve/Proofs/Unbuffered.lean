import LogSieve.Gate

/-!
# The buffers of loggers cannot be observed

A logger lays out every text in the buffer of the thread that calls it (`Logger.log`). Here stands
the same logger without buffers, and the two are shown to be one:

* `Judge.admitsUnbuffered`, `Logger.logUnbuffered`: the definitions without buffers. A record that
  the levels drop is answered with nothing, neither rendered nor handed on; without a filter a
  record is handed on as it is; with one it is rendered, its text judged, and handed on if the text
  passes;
* `Simulates`: the relation between an outcome with desks and one without. It holds of one call as
  soon as the buffers are empty before it (`Judge.simulates_admits`, `Logger.simulates_log`), and
  leaves them empty, so it holds of every call of a run;
* `serveAll_unbuffered`: calls from any threads in any order, failing ones among them;
* `Drain.log_unbuffered`: the same for drains with loggers at any depth.
-/

namespace LogSieve

/-! ## 1. Loggers without buffers -/

section Definitions

variable {σ ε : Type}

/-- The text of the record passes the filter, if there is one. -/
def Judge.admitsUnbuffered (j : Judge σ ε) (r : Record) : Action σ ε Bool := fun s =>
  match j.filter with
  | none => (.ok true, s)
  | some filter =>
    match j.render r s with
    | (.error fault, s) => (.error fault, s)
    | (.ok t, s) => filter t s

/-- What a logger does with a record. -/
def Logger.logUnbuffered (l : Logger σ ε) (r : Record) : Action σ ε Value := fun s =>
  if l.enables r.level r.module then
    match l.admitsUnbuffered r s with
    | (.error fault, s) => (.error fault, s)
    | (.ok false, s) => (.ok .none, s)
    | (.ok true, s) => l.drain r s
  else (.ok .none, s)

end Definitions

/-! ## 2. One call -/

section Call

variable {σ ε α : Type}

/-- An outcome with desks shows nothing that the outcome without them does not: the answer and the
state are the same, and all buffers are empty. -/
structure Simulates (done : Except ε α × Desks × σ) (plain : Except ε α × σ) : Prop where
  areClear : done.2.1.AreClear
  same : (done.1, done.2.2) = plain

theorem Judge.simulates_admits {desks : Desks} (h : desks.AreClear) (j : Judge σ ε) (thread : Nat)
    (r : Record) (s : σ) :
    Simulates (j.admits thread r (desks, s)) (j.admitsUnbuffered r s) := by
  unfold admits admitsUnbuffered
  cases j.filter with
  | none => exact ⟨h, rfl⟩
  | some filter =>
    rcases hr : j.render r s with ⟨fault | t, s'⟩
    · simp only [layOut, hr]
      exact ⟨h.clear thread, rfl⟩
    · -- the buffer was empty, so the text is all that stands in it
      have hw : (desks.bufferOf thread).write t = ⟨t, t.length⟩ := by
        rw [h thread, Buffer.write_empty]
      simp only [layOut, hr, hw, Desks.bufferOf_put_self]
      exact ⟨h.clear_put thread _, rfl⟩

theorem Logger.simulates_log {desks : Desks} (h : desks.AreClear) (l : Logger σ ε) (thread : Nat)
    (r : Record) (s : σ) :
    Simulates (l.log thread r (desks, s)) (l.logUnbuffered r s) := by
  simp only [log, logUnbuffered]
  by_cases he : l.enables r.level r.module = true
  · rw [if_pos he, if_pos he]
    obtain ⟨hc, hs⟩ := l.toJudge.simulates_admits h thread r s
    rw [← hs]
    rcases ha : l.admits thread r (desks, s) with ⟨fault | ⟨_ | _⟩, desks', s'⟩ <;> rw [ha] at hc
    · exact ⟨hc, rfl⟩
    · exact ⟨hc, rfl⟩
    · exact ⟨hc, rfl⟩
  · rw [if_neg he, if_neg he]
    exact ⟨h, rfl⟩

end Call

/-! ## 3. Runs -/

section Run

variable {σ ε : Type}

/-- What a logger is asked for. -/
inductive Request where
  /-- To log a record. -/
  | log (r : Record)
  /-- To say whether the text of a record passes the filter. -/
  | admits (r : Record)

/-- One call from a thread. -/
def Logger.serve (l : Logger σ ε) (thread : Nat) : Request → Action (Desks × σ) ε Value
  | .log r => l.log thread r
  | .admits r => fun state =>
    let (answer, state) := l.admits thread r state
    (answer.map .bool, state)

/-- Calls one after the other, each from its thread, with the outcome of each. -/
def Logger.serveAll (l : Logger σ ε) :
    List (Nat × Request) → Desks × σ → List (Except ε Value × Desks × σ)
  | [], _ => []
  | (thread, q) :: rest, state =>
    l.serve thread q state :: serveAll l rest (l.serve thread q state).2

/-- One call without buffers. -/
def Logger.serveUnbuffered (l : Logger σ ε) : Request → Action σ ε Value
  | .log r => l.logUnbuffered r
  | .admits r => fun s =>
    let (answer, s) := l.admitsUnbuffered r s
    (answer.map .bool, s)

/-- Calls one after the other without buffers, with the outcome of each. -/
def Logger.serveAllUnbuffered (l : Logger σ ε) : List Request → σ → List (Except ε Value × σ)
  | [], _ => []
  | q :: rest, s => l.serveUnbuffered q s :: serveAllUnbuffered l rest (l.serveUnbuffered q s).2

theorem Logger.simulates_serve {desks : Desks} (h : desks.AreClear) (l : Logger σ ε) (thread : Nat)
    (q : Request) (s : σ) :
    Simulates (l.serve thread q (desks, s)) (l.serveUnbuffered q s) := by
  cases q with
  | log r => exact l.simulates_log h thread r s
  | admits r =>
    obtain ⟨hc, hs⟩ := l.toJudge.simulates_admits h thread r s
    refine ⟨hc, ?_⟩
    simp only [serve, serveUnbuffered, ← hs]

/-- Calls on empty buffers: what one call leaves is what the next one needs. -/
theorem Logger.serveAll_of_areClear (l : Logger σ ε) (calls : List (Nat × Request)) {desks : Desks}
    (h : desks.AreClear) (s : σ) :
    (∀ done ∈ l.serveAll calls (desks, s), done.2.1.AreClear) ∧
      (l.serveAll calls (desks, s)).map (fun done => (done.1, done.2.2)) =
        l.serveAllUnbuffered (calls.map (·.2)) s := by
  induction calls generalizing desks s with
  | nil => exact ⟨fun _ hd => absurd hd List.not_mem_nil, rfl⟩
  | cons call rest ih =>
    obtain ⟨thread, q⟩ := call
    obtain ⟨hc, hs⟩ := l.simulates_serve h thread q s
    have hs2 : (l.serve thread q (desks, s)).2.2 = (l.serveUnbuffered q s).2 :=
      congrArg Prod.snd hs
    obtain ⟨hrest, hmap⟩ := ih hc (l.serve thread q (desks, s)).2.2
    refine ⟨?_, ?_⟩
    · intro done hd
      rcases List.mem_cons.mp hd with rfl | hd
      · exact hc
      · exact hrest done hd
    · rw [serveAll, List.map_cons, hs, List.map_cons, serveAllUnbuffered, ← hs2]
      exact congrArg _ hmap

/-- **The buffers of a logger cannot be observed.** Whatever it is asked for, from whichever threads
and in whichever order, and whatever fails on the way: after each call the buffer of every thread is
empty with its position at the start, and the answers, the failures and what has become of the state
are those of the logger without buffers. -/
theorem serveAll_unbuffered (l : Logger σ ε) (calls : List (Nat × Request)) (s : σ) :
    (∀ done ∈ l.serveAll calls ({}, s), ∀ thread, done.2.1.bufferOf thread = ⟨[], 0⟩) ∧
      (l.serveAll calls ({}, s)).map (fun done => (done.1, done.2.2)) =
        l.serveAllUnbuffered (calls.map (·.2)) s :=
  l.serveAll_of_areClear calls Desks.areClear_new s

end Run

/-! ## 4. Drains -/

/-- What a drain does with a record and with the outlets, when no logger in it has buffers. -/
def Drain.logUnbuffered (r : Record) : Drain → Action Outlets LogFault Value
  | discard => fun o => (.ok .none, o)
  | recording slot answer => fun o => (.ok answer, o.keep slot r)
  | failing failure => fun o => (.error (.failed failure), o)
  | host slot => r.handOver slot
  | logger _ sieve inner => (sieve.logger fun r => inner.logUnbuffered r).logUnbuffered r

/-- A sieve judges the text of a record, and changes nothing. -/
theorem Sieve.admitsUnbuffered_judge {σ : Type} (sieve : Sieve) (r : Record) (s : σ) :
    (sieve.judge σ).admitsUnbuffered r s = ((sieve.admits r).mapError .unwritable, s) := by
  unfold Judge.admitsUnbuffered judge admits
  cases sieve.filter with
  | none => rfl
  | some f =>
    cases hr : r.render with
    | error fault => simp only [Option.map_some, hr]; rfl
    | ok t => simp only [Option.map_some, hr]; rfl

/-- A sieve in front of anything hands on the records that pass, and nothing else. -/
theorem Sieve.logUnbuffered_logger {σ : Type} (sieve : Sieve)
    (drain : Record → Action σ LogFault Value) (r : Record) (s : σ) :
    (sieve.logger drain).logUnbuffered r s =
      match sieve.passes r with
      | .error fault => (.error (.unwritable fault), s)
      | .ok false => (.ok .none, s)
      | .ok true => drain r s := by
  have ha : (sieve.logger drain).admitsUnbuffered r s = _ := sieve.admitsUnbuffered_judge r s
  unfold Logger.logUnbuffered passes
  rw [ha]
  by_cases he : sieve.enables r.level r.module = true
  · rw [if_pos he, if_pos (show (sieve.logger drain).enables r.level r.module = true from he)]
    rcases sieve.admits r with fault | ⟨_ | _⟩ <;> rfl
  · rw [if_neg he, if_neg (show ¬ (sieve.logger drain).enables r.level r.module = true from he)]

theorem Store.desksOf_putDesks (s : Store) (logger other : Nat) (d : Desks) :
    (s.putDesks logger d).desksOf other = if other = logger then d else s.desksOf other := by
  rw [desksOf, putDesks, Table.lookup_put]
  split
  · rfl
  · rfl

/-- As long as nothing has been logged, all buffers are new. -/
theorem Store.isClean_new (o : Outlets) : IsClean { toOutlets := o } := fun _ => Desks.areClear_new

theorem Store.isClean_putDesks {s : Store} (h : s.IsClean) (logger : Nat) {d : Desks}
    (hd : d.AreClear) : (s.putDesks logger d).IsClean := by
  intro other
  rw [desksOf_putDesks]
  split
  · exact hd
  · exact h other

/-- **Drains do not show the buffers of the loggers in them.** Among empty buffers a drain answers,
and changes the outlets, as if there were none, and it leaves all of them empty. -/
theorem Drain.log_unbuffered (d : Drain) (thread : Nat) (r : Record) {store : Store}
    (h : store.IsClean) :
    (d.log thread r store).2.IsClean ∧
      ((d.log thread r store).1, (d.log thread r store).2.toOutlets) =
        d.logUnbuffered r store.toOutlets := by
  induction d generalizing r store with
  | discard => exact ⟨h, rfl⟩
  | recording slot answer => exact ⟨h, rfl⟩
  | failing failure => exact ⟨h, rfl⟩
  | host slot => exact ⟨h, rfl⟩
  | logger id sieve inner ih =>
    obtain ⟨hc, hs⟩ := Logger.simulates_log (h id)
      (sieve.logger fun r store => inner.log thread r store) thread r store
    rw [Sieve.logUnbuffered_logger] at hs
    have hl : (logger id sieve inner).logUnbuffered r store.toOutlets = _ :=
      Sieve.logUnbuffered_logger sieve (fun r => inner.logUnbuffered r) r store.toOutlets
    rw [hl]
    -- what the logger leaves, before its desks are put back
    simp only [log, Store.atDesks]
    generalize (sieve.logger fun r store => inner.log thread r store).log thread r
      (store.desksOf id, store) = done at hc hs ⊢
    obtain ⟨answer, desks, left⟩ := done
    rcases hp : sieve.passes r with fault | ⟨_ | _⟩ <;> rw [hp] at hs <;> dsimp only at hs ⊢
    · cases hs
      exact ⟨Store.isClean_putDesks h id hc, rfl⟩
    · cases hs
      exact ⟨Store.isClean_putDesks h id hc, rfl⟩
    · obtain ⟨hi, ho⟩ := ih r h
      rw [← hs] at hi ho
      exact ⟨Store.isClean_putDesks hi id hc, ho⟩

end LogSieve
