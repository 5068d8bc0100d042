import LogSieve.Proofs.Unbuffered

/-!
# Loggers on top of each other

A logger may be what another one hands its records to, and so on down to something that is no
logger, the ground. Each logger of such a stack asks its own sieve and has its own desks. Of the
ground nothing is known: it has a state, and answers or fails as it likes.

* `Sieve.screenAll`: sieves in front of an action, without desks. A record with a text comes to the
  action if all of them let it through (`Sieve.screenAll_of_letThrough`), and else nothing happens
  (`Sieve.screenAll_of_not_letThrough`);
* `Stack.log`: what a stack does with a record;
* `Stack.areClear_after`: whatever a stack is used for, its buffers are empty afterwards;
* `Stack.outcome_eq`: with empty buffers a stack does what its sieves do without desks;
* `Stack.outcome_after`: so a record gets to the ground if all sieves let it through, in whichever
  order they stand;
* `Drain.log_stacked`: drains below loggers, which may share their desks.
-/

namespace LogSieve

/-! ## 1. Sieves without desks -/

namespace Sieve

variable {σ : Type} {s : Sieve} {sieves : List Sieve} {r : Record} {t : Text}

/-- The levels let the record pass, and so does the filter, if there is one, with its text. -/
def LetsThrough (s : Sieve) (r : Record) (t : Text) : Prop :=
  s.enables r.level r.module = true ∧ ∀ f ∈ s.filter, f.admits t = true

theorem passes_of_letsThrough (hr : r.render = .ok t) (h : s.LetsThrough r t) :
    s.passes r = .ok true := by
  obtain ⟨he, hf⟩ := h
  rw [passes, if_pos he, admits]
  cases hs : s.filter with
  | none => rfl
  | some f =>
    show r.render.map f.admits = _
    rw [hr]
    exact congrArg _ (hf f hs)

/-- A record with a text that is not let through is dropped, and no failure. -/
theorem passes_of_not_letsThrough (hr : r.render = .ok t) (h : ¬ s.LetsThrough r t) :
    s.passes r = .ok false := by
  rw [passes]
  by_cases he : s.enables r.level r.module = true
  · rw [if_pos he, admits]
    cases hs : s.filter with
    | none => exact absurd ⟨he, fun f hf => by cases hs.symm.trans hf⟩ h
    | some f =>
      have hf : ¬ f.admits t = true := by
        intro hf
        refine h ⟨he, ?_⟩
        intro g hg
        cases hs.symm.trans hg
        exact hf
      show r.render.map f.admits = _
      rw [hr]
      exact congrArg _ (Bool.eq_false_iff.mpr hf)
  · rw [if_neg he]

/-- A sieve in front of what is done with a record. -/
def screen (s : Sieve) (r : Record) (act : Action σ LogFault Value) : Action σ LogFault Value :=
  fun state =>
    match s.passes r with
    | .error fault => (.error (.unwritable fault), state)
    | .ok false => (.ok .none, state)
    | .ok true => act state

/-- Sieves one after the other. -/
def screenAll (sieves : List Sieve) (r : Record) (act : Action σ LogFault Value) :
    Action σ LogFault Value :=
  sieves.foldr (fun s inner => s.screen r inner) act

theorem screenAll_of_letThrough (hr : r.render = .ok t) (act : Action σ LogFault Value)
    (h : ∀ s ∈ sieves, s.LetsThrough r t) : screenAll sieves r act = act := by
  induction sieves with
  | nil => rfl
  | cons sieve rest ih =>
    obtain ⟨hs, hrest⟩ := List.forall_mem_cons.mp h
    funext state
    show sieve.screen r (screenAll rest r act) state = _
    rw [screen, passes_of_letsThrough hr hs, ih hrest]

theorem screenAll_of_not_letThrough (hr : r.render = .ok t) (act : Action σ LogFault Value)
    (h : ¬ ∀ s ∈ sieves, s.LetsThrough r t) (state : σ) :
    screenAll sieves r act state = (.ok .none, state) := by
  induction sieves with
  | nil => exact absurd (fun s hs => absurd hs List.not_mem_nil) h
  | cons sieve rest ih =>
    show sieve.screen r (screenAll rest r act) state = _
    by_cases hs : sieve.LetsThrough r t
    · -- the sieve that drops the record is further down
      have hrest : ¬ ∀ s ∈ rest, s.LetsThrough r t :=
        fun hrest => h (List.forall_mem_cons.mpr ⟨hs, hrest⟩)
      rw [screen, passes_of_letsThrough hr hs]
      exact ih hrest
    · rw [screen, passes_of_not_letsThrough hr hs]

/-- A logger with empty buffers goes by its sieve, and leaves them empty. -/
theorem log_logger (s : Sieve) (drain : Record → Action σ LogFault Value) (thread : Nat)
    (r : Record) {desks : Desks} (h : desks.AreClear) (state : σ) :
    let done := (s.logger drain).log thread r (desks, state)
    done.2.1.AreClear ∧ (done.1, done.2.2) = s.screen r (drain r) state := by
  obtain ⟨hclear, hsame⟩ := (s.logger drain).simulates_log h thread r state
  exact ⟨hclear, hsame.trans (s.logUnbuffered_logger drain r state)⟩

end Sieve

/-! ## 2. Stacks -/

/-- The desks of each logger of a stack, the outermost first, and the state of the ground. -/
def Stack (σ : Type) : List Sieve → Type
  | [] => σ
  | _ :: rest => Desks × Stack σ rest

namespace Stack

variable {σ : Type} {sieves : List Sieve}

/-- A stack that has not been used. -/
def new (s : σ) : (sieves : List Sieve) → Stack σ sieves
  | [] => s
  | _ :: rest => (({} : Desks), new s rest)

/-- The state of the ground. -/
def ground : {sieves : List Sieve} → Stack σ sieves → σ
  | [], s => s
  | _ :: _, (_, rest) => ground rest

/-- Changes the state of the ground. -/
def onGround (change : σ → σ) : {sieves : List Sieve} → Stack σ sieves → Stack σ sieves
  | [], s => change s
  | _ :: _, (desks, rest) => (desks, onGround change rest)

/-- All buffers of all loggers of the stack are empty. -/
def AreClear : {sieves : List Sieve} → Stack σ sieves → Prop
  | [], _ => True
  | _ :: _, (desks, rest) => desks.AreClear ∧ AreClear rest

/-- What a stack does with a record from a thread: each logger hands what passes its sieve to the
one below, and the last one to the ground. -/
def log (base : Nat → Record → Action σ LogFault Value) (thread : Nat) :
    (sieves : List Sieve) → Record → Action (Stack σ sieves) LogFault Value
  | [], r => base thread r
  | s :: rest, r => (s.logger (log base thread rest)).log thread r

/-- What the caller gets, and the state that the ground is left in. -/
def outcome (base : Nat → Record → Action σ LogFault Value) (thread : Nat) (r : Record)
    (stack : Stack σ sieves) : Except LogFault Value × σ :=
  let (answer, left) := log base thread sieves r stack
  (answer, left.ground)

/-- What may happen to a stack. -/
inductive Use (σ : Type) where
  /-- A record is logged. -/
  | log (thread : Nat) (r : Record)
  /-- Something changes the state of the ground. -/
  | below (change : σ → σ)

/-- What a use leaves. -/
def use (base : Nat → Record → Action σ LogFault Value) (stack : Stack σ sieves) :
    Use σ → Stack σ sieves
  | .log thread r => (log base thread sieves r stack).2
  | .below change => stack.onGround change

/-- What uses leave, one after the other. -/
def after (base : Nat → Record → Action σ LogFault Value) (uses : List (Use σ))
    (stack : Stack σ sieves) : Stack σ sieves :=
  uses.foldl (use base) stack

/-! ## 3. Empty buffers -/

section Buffers

variable (base : Nat → Record → Action σ LogFault Value)

theorem areClear_new (s : σ) (sieves : List Sieve) : (new s sieves).AreClear := by
  induction sieves with
  | nil => exact trivial
  | cons sieve rest ih => exact ⟨Desks.areClear_new, ih⟩

theorem areClear_onGround (change : σ → σ) {stack : Stack σ sieves} (h : stack.AreClear) :
    (stack.onGround change).AreClear := by
  induction sieves with
  | nil => exact trivial
  | cons sieve rest ih => exact ⟨h.1, ih h.2⟩

theorem areClear_log (thread : Nat) (r : Record) {stack : Stack σ sieves} (h : stack.AreClear) :
    (log base thread sieves r stack).2.AreClear := by
  induction sieves with
  | nil => exact trivial
  | cons sieve rest ih =>
    obtain ⟨desks, below⟩ := stack
    obtain ⟨hdesks, hbelow⟩ := h
    obtain ⟨hclear, hsame⟩ := sieve.log_logger (log base thread rest) thread r hdesks below
    refine ⟨hclear, ?_⟩
    show AreClear ((sieve.logger (log base thread rest)).log thread r (desks, below)).2.2
    rw [congrArg Prod.snd hsame, Sieve.screen]
    -- the loggers below have been asked, or nothing has been done to them
    rcases sieve.passes r with fault | ⟨_ | _⟩
    · exact hbelow
    · exact hbelow
    · exact ih hbelow

/-- **The buffers of a stack are empty between uses**, whatever these are and whatever fails in
them. -/
theorem areClear_after (uses : List (Use σ)) {stack : Stack σ sieves} (h : stack.AreClear) :
    (after base uses stack).AreClear := by
  induction uses generalizing stack with
  | nil => exact h
  | cons u rest ih =>
    refine ih ?_
    cases u with
    | log thread r => exact areClear_log base thread r h
    | below change => exact areClear_onGround change h

end Buffers

/-! ## 4. Records with a text -/

section Outcomes

variable (base : Nat → Record → Action σ LogFault Value)

/-- With empty buffers a stack does what its sieves do without desks. -/
theorem outcome_eq (thread : Nat) (r : Record) {stack : Stack σ sieves} (h : stack.AreClear) :
    outcome base thread r stack = Sieve.screenAll sieves r (base thread r) stack.ground := by
  induction sieves with
  | nil => rfl
  | cons sieve rest ih =>
    obtain ⟨desks, below⟩ := stack
    obtain ⟨hdesks, hbelow⟩ := h
    obtain ⟨_, hsame⟩ := sieve.log_logger (log base thread rest) thread r hdesks below
    have houtcome : @outcome σ (sieve :: rest) base thread r (desks, below) =
        ((sieve.screen r (log base thread rest r) below).1,
          ((sieve.screen r (log base thread rest r) below).2).ground) :=
      congrArg (fun done => (done.1, ground done.2)) hsame
    rw [houtcome]
    show _ = sieve.screen r (Sieve.screenAll rest r (base thread r)) (ground below)
    unfold Sieve.screen
    rcases sieve.passes r with fault | ⟨_ | _⟩
    · rfl
    · rfl
    · exact ih hbelow

/-- **Loggers stack.** Take any stack of loggers on any ground, used in any way before, and a record
whose text can be made. If all sieves let the record through by level and by text, the record itself
is given to the ground, once: the answer or the failure is the ground's, and the ground is left as
that one call leaves it. If not, the answer is nothing, and the ground is left as it was. So another
stack of the same sieves in another order, also used in any way before, does the same with the
record when its ground is in the same state. -/
theorem outcome_after (sieves : List Sieve) (s : σ) (uses : List (Use σ)) (thread : Nat)
    {r : Record} {t : Text} (hr : r.render = .ok t) :
    let stack := after base uses (new s sieves)
    ((∀ sieve ∈ sieves, sieve.LetsThrough r t) →
        outcome base thread r stack = base thread r stack.ground) ∧
      (¬ (∀ sieve ∈ sieves, sieve.LetsThrough r t) →
        outcome base thread r stack = (.ok .none, stack.ground)) ∧
      ∀ (sieves' : List Sieve) (s' : σ) (uses' : List (Use σ)),
        let stack' := after base uses' (new s' sieves')
        sieves'.Perm sieves → stack'.ground = stack.ground →
          outcome base thread r stack' = outcome base thread r stack := by
  intro stack
  have hstack := outcome_eq base thread r (areClear_after base uses (areClear_new s sieves))
  refine ⟨?_, ?_, ?_⟩
  · intro hall
    rw [hstack, Sieve.screenAll_of_letThrough hr _ hall]
  · intro hnot
    rw [hstack, Sieve.screenAll_of_not_letThrough hr _ hnot]
  · intro sieves' s' uses' stack' hperm hground
    have hstack' := outcome_eq base thread r (areClear_after base uses' (areClear_new s' sieves'))
    -- whether all sieves let the record through does not depend on their order
    have hall : (∀ sieve ∈ sieves', sieve.LetsThrough r t) ↔
        ∀ sieve ∈ sieves, sieve.LetsThrough r t :=
      ⟨fun h sieve hs => h sieve (hperm.mem_iff.mpr hs),
        fun h sieve hs => h sieve (hperm.mem_iff.mp hs)⟩
    rw [hstack', hstack]
    by_cases h : ∀ sieve ∈ sieves, sieve.LetsThrough r t
    · rw [Sieve.screenAll_of_letThrough hr _ (hall.mpr h), Sieve.screenAll_of_letThrough hr _ h]
      exact congrArg _ hground
    · rw [Sieve.screenAll_of_not_letThrough hr _ (mt hall.mp h),
        Sieve.screenAll_of_not_letThrough hr _ h]
      exact congrArg _ hground

/-- A ground that keeps every record it takes and then fails. The stack has failed before; in the
other order it has not been used. -/
theorem outcome_after_slow :
    let strict : Sieve := ⟨[⟨none, .info⟩], some (.substring "slow")⟩
    let app : Sieve := ⟨[⟨some "app", .debug⟩], none⟩
    let full : LogFault := .failed ⟨.state, "full"⟩
    let keeping : Nat → Record → Action (List Record) LogFault Value := fun _ r kept =>
      (.error full, r :: kept)
    let r : Record := { level := .info, module := "app.db", msg := .text "slow query" }
    let dull : Record := { level := .info, module := "app.db", msg := .text "quick query" }
    let stack := after keeping [.log 1 r, .below List.tail] (new [] [strict, app])
    outcome keeping 2 r stack = (.error full, [r]) ∧
      outcome keeping 2 r (new [] [app, strict]) = (.error full, [r]) ∧
      outcome keeping 2 dull stack = (.ok .none, []) := by
  intro strict app full keeping r dull stack
  have hr : r.render = .ok "slow query" := Record.render_of_no_args rfl rfl
  have hdull : dull.render = .ok "quick query" := Record.render_of_no_args rfl rfl
  have hground : stack.ground = [] := rfl
  have hall : ∀ sieve ∈ [strict, app], sieve.LetsThrough r "slow query" := by
    intro sieve hs
    simp only [List.mem_cons, List.not_mem_nil, or_false] at hs
    rcases hs with rfl | rfl
    · refine ⟨rfl, ?_⟩
      intro f hf
      cases hf
      rfl
    · exact ⟨rfl, fun f hf => nomatch hf⟩
  have hnot : ¬ ∀ sieve ∈ [strict, app], sieve.LetsThrough dull "quick query" := by
    intro h
    have hstrict := (h strict List.mem_cons_self).2 (.substring "slow") rfl
    have hcase : Filter.admits (.substring "slow") "quick query" = false := rfl
    cases hcase.symm.trans hstrict
  obtain ⟨hdelivered, _, hreordered⟩ :=
    outcome_after keeping [strict, app] [] [.log 1 r, .below List.tail] 2 hr
  obtain ⟨_, hdropped, _⟩ :=
    outcome_after keeping [strict, app] [] [.log 1 r, .below List.tail] 2 hdull
  have hslow : outcome keeping 2 r stack = (.error full, [r]) := hdelivered hall
  refine ⟨hslow, ?_, hdropped hnot⟩
  exact (hreordered [app, strict] [] [] (List.Perm.swap strict app []) hground.symm).trans hslow

end Outcomes

end Stack

/-! ## 5. Drains -/

namespace Drain

/-- A drain below loggers, the outermost first. -/
def stacked (links : List (Nat × Sieve)) (d : Drain) : Drain :=
  links.foldr (fun link inner => .logger link.1 link.2 inner) d

theorem logUnbuffered_stacked (links : List (Nat × Sieve)) (d : Drain) (r : Record) :
    (stacked links d).logUnbuffered r =
      Sieve.screenAll (links.map Prod.snd) r (d.logUnbuffered r) := by
  induction links with
  | nil => rfl
  | cons link rest ih =>
    funext o
    have hlink : (stacked (link :: rest) d).logUnbuffered r o =
        link.2.screen r ((stacked rest d).logUnbuffered r) o :=
      link.2.logUnbuffered_logger (fun r => (stacked rest d).logUnbuffered r) r o
    rw [hlink, ih]
    rfl

/-- Loggers in front of a drain do what their sieves do, even where loggers have desks in common. -/
theorem log_stacked (links : List (Nat × Sieve)) (d : Drain) (thread : Nat) (r : Record)
    {store : Store} (h : store.IsClean) :
    (((stacked links d).log thread r store).1, ((stacked links d).log thread r store).2.toOutlets) =
      Sieve.screenAll (links.map Prod.snd) r (d.logUnbuffered r) store.toOutlets := by
  have hdone := ((stacked links d).log_unbuffered thread r h).2
  rw [hdone, logUnbuffered_stacked]

end Drain

end LogSieve
